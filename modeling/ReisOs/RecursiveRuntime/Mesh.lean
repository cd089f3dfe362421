import ReisOs.Core.Ancestry
import ReisOs.Core.Runs
import ReisOs.RecursiveRuntime.ProductionEffects

/-!
# The synaptic mesh

`SynapticMesh.route`: a signal is checked against the actors, joins the causal graph, is put
to the journal and is then kept by the mesh.  A mesh that is built over a journal takes the
signals from its rows.
-/

namespace ReisOs.RecursiveRuntime

open ReisOs.Core DurableJournal

structure SynapticSignal where
  signalId : String
  senderActorId : String
  senderOcsId : String
  recipientActorId : String
  recipientOcsId : String
  kind : String
  payloadRef : String
  traceId : String
  authorityRef : String
  missionBinding : String
  fencingEpoch : ℤ
  causalParentSignalId : Option String
  deriving DecidableEq, Repr

/-- `_fingerprint`: all of a signal but its id. -/
def SynapticSignal.fingerprint (signal : SynapticSignal) : SynapticSignal :=
  { signal with signalId := "" }

/-! ## The causal graph -/

structure CausalNode where
  signalId : String
  traceId : String
  parent : Option String
  deriving DecidableEq, Repr

def SynapticSignal.node (signal : SynapticSignal) : CausalNode :=
  ⟨signal.signalId, signal.traceId, signal.causalParentSignalId⟩

/-- The nodes, the latest first, each after its parent and in the same trace. -/
def Causal : List CausalNode → Prop :=
  Grown CausalNode.signalId CausalNode.parent fun child parent =>
    parent.traceId = child.traceId

structure CausalDAG where
  nodes : List CausalNode
  causal : Causal nodes

/-- The walk from a parent to the root; the parent of a node is among the older ones. -/
def walkParents (signalId : String) : List CausalNode → Option String → Option Fault
  | _, none => none
  | [], some cursor =>
    if cursor = signalId then some (.runtimeError "CAUSAL_CYCLE") else some (.keyError cursor)
  | node :: older, some cursor =>
    if cursor = signalId then some (.runtimeError "CAUSAL_CYCLE")
    else if node.signalId = cursor then walkParents signalId older node.parent
    else walkParents signalId older (some cursor)

namespace CausalDAG

def empty : CausalDAG := ⟨[], trivial⟩

def find (dag : CausalDAG) (signalId : String) : Option CausalNode :=
  dag.nodes.find? (·.signalId = signalId)

/-- What `add` raises of a new node. -/
def refusal (dag : CausalDAG) (signal : SynapticSignal) : Option Fault :=
  match signal.causalParentSignalId with
  | none => none
  | some parent =>
    match dag.find parent with
    | none => some (.runtimeError "CAUSAL_PARENT_UNKNOWN")
    | some node =>
      if node.traceId ≠ signal.traceId then
        some (.runtimeError "CAUSAL_CROSS_TRACE_FORBIDDEN")
      else walkParents signal.signalId dag.nodes (some parent)

theorem causal_insert {dag : CausalDAG} {signal : SynapticSignal}
    (hnew : dag.find signal.signalId = none) (haccepted : dag.refusal signal = none) :
    Causal (signal.node :: dag.nodes) := by
  refine ⟨?_, ?_, dag.causal⟩
  · intro other hother hsame
    exact List.find?_eq_none.mp hnew other hother (decide_eq_true hsame)
  · intro above habove
    rw [refusal, show signal.causalParentSignalId = some above from habove] at haccepted
    dsimp only at haccepted
    cases hfind : dag.find above with
    | none =>
      rw [hfind] at haccepted
      cases haccepted
    | some node =>
      rw [hfind] at haccepted
      dsimp only at haccepted
      split at haccepted
      · cases haccepted
      · next htrace =>
          have hid : node.signalId = above := by simpa using List.find?_some hfind
          exact ⟨node, List.mem_of_find?_eq_some hfind, hid, not_not.mp htrace⟩

def add (dag : CausalDAG) (signal : SynapticSignal) : Except Fault CausalDAG :=
  match hfind : dag.find signal.signalId with
  | some existing =>
    if existing ≠ signal.node then .error (.runtimeError "CAUSAL_DAG_NODE_CONFLICT")
    else .ok dag
  | none =>
    match hrefusal : dag.refusal signal with
    | some fault => .error fault
    | none => .ok ⟨signal.node :: dag.nodes, causal_insert hfind hrefusal⟩

end CausalDAG

/-! ## The rows of signals -/

/-- `_payload`. -/
def SynapticSignal.payload (signal : SynapticSignal) : List (String × String) :=
  [("sender_actor_id", signal.senderActorId), ("sender_ocs_id", signal.senderOcsId),
    ("recipient_actor_id", signal.recipientActorId),
    ("recipient_ocs_id", signal.recipientOcsId), ("kind", signal.kind),
    ("payload_ref", signal.payloadRef), ("authority_ref", signal.authorityRef),
    ("mission_binding", signal.missionBinding),
    ("causal_parent_signal_id", signal.causalParentSignalId.getD "")]

def SynapticSignal.record (signal : SynapticSignal) : JournalRecord where
  journalId := "mesh:" ++ signal.signalId
  kind := "MESH_SIGNAL"
  actorId := signal.senderActorId
  traceId := signal.traceId
  generation := 0
  fencingEpoch := signal.fencingEpoch
  status := "COMMITTED"
  payload := signal.payload

/-- `text.removeprefix(start)`. -/
def removePrefix (start text : String) : String :=
  if start.toList.isPrefixOf text.toList then
    String.ofList (text.toList.drop start.toList.length)
  else text

/-- A member of the payload that `replay` needs. -/
def JournalRecord.required (record : JournalRecord) (key : String) : Except Fault String :=
  match record.field key with
  | some value => .ok value
  | none => .error (.keyError key)

/-- `p.get("causal_parent_signal_id") or None`. -/
def JournalRecord.causalParent (record : JournalRecord) : Option String :=
  match record.field "causal_parent_signal_id" with
  | some value => if value = "" then none else some value
  | none => none

/-- The signal of a row. -/
def JournalRecord.signal (record : JournalRecord) : Except Fault SynapticSignal := do
  let senderActorId ← record.required "sender_actor_id"
  let senderOcsId ← record.required "sender_ocs_id"
  let recipientActorId ← record.required "recipient_actor_id"
  let recipientOcsId ← record.required "recipient_ocs_id"
  let kind ← record.required "kind"
  let payloadRef ← record.required "payload_ref"
  let authorityRef ← record.required "authority_ref"
  let missionBinding ← record.required "mission_binding"
  pure
    { signalId := removePrefix "mesh:" record.journalId
      senderActorId := senderActorId
      senderOcsId := senderOcsId
      recipientActorId := recipientActorId
      recipientOcsId := recipientOcsId
      kind := kind
      payloadRef := payloadRef
      traceId := record.traceId
      authorityRef := authorityRef
      missionBinding := missionBinding
      fencingEpoch := record.fencingEpoch
      causalParentSignalId := record.causalParent }

/-! ## The mesh -/

/-- What a mesh has in memory; the signals in the order of the dictionary. -/
structure SynapticMesh where
  signals : List SynapticSignal
  causalDag : CausalDAG

namespace SynapticMesh

def empty : SynapticMesh := ⟨[], CausalDAG.empty⟩

def find (mesh : SynapticMesh) (signalId : String) : Option SynapticSignal :=
  mesh.signals.find? (·.signalId = signalId)

/-- `_signals[signal.signal_id] = signal`. -/
def keep (mesh : SynapticMesh) (signal : SynapticSignal) (dag : CausalDAG) : SynapticMesh where
  signals :=
    if mesh.signals.any (·.signalId = signal.signalId) then
      mesh.signals.map fun other => if other.signalId = signal.signalId then signal else other
    else mesh.signals ++ [signal]
  causalDag := dag

/-- The body of the loop of `replay`. -/
def restore (mesh : SynapticMesh) (row : JournalRecord) : Except Fault SynapticMesh :=
  if row.kind ≠ "MESH_SIGNAL" then .ok mesh
  else
    match row.signal with
    | .error fault => .error fault
    | .ok signal =>
      match mesh.find signal.signalId with
      | some existing =>
        if existing.fingerprint ≠ signal.fingerprint then
          .error (.runtimeError "SIGNAL_ID_CONFLICT")
        else (mesh.causalDag.add signal).map (mesh.keep signal)
      | none => (mesh.causalDag.add signal).map (mesh.keep signal)

/-- `replay`, and so `SynapticMesh(..., journal)` from the empty mesh. -/
def replay (mesh : SynapticMesh) : List JournalRecord → Except Fault SynapticMesh
  | [] => .ok mesh
  | row :: rows =>
    match mesh.restore row with
    | .error fault => .error fault
    | .ok restored => restored.replay rows

end SynapticMesh

/-! ## Routing -/

def allowedKinds : List String :=
  ["STATE", "EVIDENCE", "REQUEST", "ESCALATION", "REPAIR_PROPOSAL"]

section Route

variable (states : StateRepository) (enforcer : OCSRuntimeEnforcer)

/-- The checks of `route` before the causal graph. -/
def checkSignal (signal : SynapticSignal) : Except Fault Unit := do
  refuse [(signal.kind ∉ allowedKinds, "MESH_KIND_FORBIDDEN")]
  let sender ← states.get signal.senderActorId
  let recipient ← states.get signal.recipientActorId
  states.validateCurrent sender.actorId sender.generation sender.fencingEpoch
  states.validateCurrent recipient.actorId recipient.generation recipient.fencingEpoch
  let _ ← enforcer.bindingForActor sender
  let _ ← enforcer.bindingForActor recipient
  refuse
    [(sender.identityId ≠ signal.senderOcsId || recipient.identityId ≠ signal.recipientOcsId,
        "MESH_IDENTITY_MISMATCH"),
      (sender.authority.authorityRef ≠ signal.authorityRef, "MESH_AUTHORITY_MISMATCH"),
      (sender.missionBinding ≠ signal.missionBinding ||
        recipient.missionBinding ≠ signal.missionBinding, "MESH_MISSION_MISMATCH"),
      (sender.fencingEpoch ≠ signal.fencingEpoch, "MESH_FENCING_MISMATCH"),
      (signal.traceId ≠ sender.traceId, "MESH_TRACE_MISMATCH"),
      (recipient.traceId ≠ sender.traceId, "MESH_CROSS_TRACE_FORBIDDEN_V1")]

/-- How a put to the journal goes: as the repository does it, or with a failure of the file
before or after the row has been written. -/
inductive PutFate where
  | completes
  | fails (fault : Fault)
  | breaks (fault : Fault)

def journalSignal (journal : List JournalRecord) (signal : SynapticSignal) :
    PutFate → List JournalRecord × Except Fault Unit
  | .completes =>
    let answer := putRecord journal signal.record
    (answer.1, answer.2.mapError JournalError.fault)
  | .fails fault => (journal, .error fault)
  | .breaks fault => ((putRecord journal signal.record).1, .error fault)

/-- A mesh and its journal. -/
structure MeshWorld where
  mesh : SynapticMesh
  journal : List JournalRecord

def route (world : MeshWorld) (fate : PutFate) (signal : SynapticSignal) :
    MeshWorld × Except Fault SynapticSignal :=
  match world.mesh.find signal.signalId with
  | some existing =>
    if existing.fingerprint ≠ signal.fingerprint then
      (world, .error (.runtimeError "SIGNAL_ID_CONFLICT"))
    else (world, .ok existing)
  | none =>
    match checkSignal states enforcer signal with
    | .error fault => (world, .error fault)
    | .ok () =>
      match world.mesh.causalDag.add signal with
      | .error fault => (world, .error fault)
      | .ok dag =>
        let put := journalSignal world.journal signal fate
        match put.2 with
        | .error fault =>
          ({ mesh := { world.mesh with causalDag := dag }, journal := put.1 },
            .error fault)
        | .ok () =>
          ({ mesh := world.mesh.keep signal dag, journal := put.1 }, .ok signal)

end Route

end ReisOs.RecursiveRuntime
