import ReisOs.RecursiveRuntime.Mesh

/-!
# Meshes after a restart

A signal joins the causal graph before it is put to the journal, so that a failed put leaves
a node without a signal, and a row may be written whose put fails.  The runs are singled out
in which a mesh that is built over the journal has the signals of the one before.
-/

namespace ReisOs.RecursiveRuntime

open ReisOs.Core DurableJournal SynapticMesh SynapticSignal

/-! ## Calls -/

/-- A signal is routed, or a mesh is built anew over the journal. -/
inductive MeshInput where
  | route (states : StateRepository) (enforcer : OCSRuntimeEnforcer) (fate : PutFate)
      (signal : SynapticSignal)
  | restart

/-- A run of a mesh; `accepted` records the signals that `route` has returned, each where it
was returned first. -/
structure MeshRun where
  world : MeshWorld
  accepted : List SynapticSignal

def MeshRun.start : MeshRun := ⟨⟨empty, []⟩, []⟩

def meshStep (now : MeshRun) : MeshInput → MeshRun
  | .route states enforcer fate signal =>
    let answer := route states enforcer now.world fate signal
    match answer.2 with
    | .error _ => { now with world := answer.1 }
    | .ok returned =>
      { world := answer.1
        accepted :=
          if returned ∈ now.accepted then now.accepted else now.accepted ++ [returned] }
  | .restart =>
    match empty.replay now.world.journal with
    | .error _ => now
    | .ok mesh => { now with world := { now.world with mesh := mesh } }

/-! ## The properties -/

/-- The edges of the causal graph. -/
def CausalDAG.Edge (dag : CausalDAG) : String → String → Prop :=
  DescendsFrom CausalNode.signalId CausalNode.parent dag.nodes

/-- What the claim of a durable mesh is. -/
structure Durable (now : MeshRun) : Prop where
  held : now.world.mesh.signals = now.accepted
  restarted : ∃ mesh, empty.replay now.world.journal = .ok mesh ∧
    mesh.signals = now.accepted ∧
    ∀ signal ∈ now.accepted, ∀ states enforcer fate,
      route states enforcer ⟨mesh, now.world.journal⟩ fate signal =
        (⟨mesh, now.world.journal⟩, .ok signal)
  ordered : ∀ before signal after parent, now.accepted = before ++ signal :: after →
    signal.causalParentSignalId = some parent →
    ∃ accepted ∈ before, accepted.signalId = parent ∧ accepted.traceId = signal.traceId
  joined : ∀ signal ∈ now.accepted, signal.node ∈ now.world.mesh.causalDag.nodes
  known : ∀ node ∈ now.world.mesh.causalDag.nodes, ∀ parent, node.parent = some parent →
    ∃ accepted ∈ now.accepted, accepted.signalId = parent ∧ accepted.traceId = node.traceId
  acyclic : ∀ signalId,
    ¬ Relation.TransGen now.world.mesh.causalDag.Edge signalId signalId

/-- A signal that gets as far as the journal has no parent or an accepted one, its put does
not fail once the row is written, and a parent whose row is written has a name. -/
def Reliable (now : MeshRun) : MeshInput → Prop
  | .restart => True
  | .route states enforcer fate signal =>
    now.world.mesh.find signal.signalId = none →
    checkSignal states enforcer signal = .ok () →
    (now.world.mesh.causalDag.add signal).isOk →
      (∀ parent, signal.causalParentSignalId = some parent →
        ∃ accepted ∈ now.accepted, accepted.signalId = parent) ∧
      match fate with
      | .completes => signal.causalParentSignalId ≠ some ""
      | .fails _ => True
      | .breaks _ => False

/-! ## Rows of signals -/

theorem removePrefix_append (start text : String) : removePrefix start (start ++ text) = text := by
  rw [removePrefix, String.toList_append, if_pos (by simp), List.drop_left]
  exact String.ofList_toList

theorem signal_record {signal : SynapticSignal}
    (hparent : signal.causalParentSignalId ≠ some "") :
    signal.record.signal = .ok signal := by
  have hnamed : signal.record.causalParent = signal.causalParentSignalId := by
    cases hvalue : signal.causalParentSignalId with
    | none => simp [JournalRecord.causalParent, JournalRecord.field, record,
        payload, hvalue]
    | some parent =>
      have hne : parent ≠ "" := fun hempty => hparent (hempty ▸ hvalue)
      simp [JournalRecord.causalParent, JournalRecord.field, record,
        payload, hvalue, hne]
  have hid : removePrefix "mesh:" signal.record.journalId = signal.signalId :=
    removePrefix_append "mesh:" signal.signalId
  simp only [JournalRecord.signal, hnamed, hid]
  simp [JournalRecord.required, JournalRecord.field, record,
    payload]
  rfl

/-! ## The causal graph -/

section Graph

variable {dag : CausalDAG} {signal : SynapticSignal}

theorem node_unique {nodes : List CausalNode} (h : Causal nodes) {node other : CausalNode}
    (hnode : node ∈ nodes) (hother : other ∈ nodes) (hsame : node.signalId = other.signalId) :
    node = other :=
  List.inj_on_of_nodup_map h.keys_nodup hnode hother hsame

/-- The walk from a parent meets neither the new node nor an unknown one. -/
theorem walk_eq_none {signalId : String} {nodes : List CausalNode} (h : Causal nodes)
    (hnew : ∀ node ∈ nodes, node.signalId ≠ signalId) {start : Option String}
    (hstart : ∀ cursor, start = some cursor → ∃ node ∈ nodes, node.signalId = cursor) :
    walkParents signalId nodes start = none := by
  induction nodes generalizing start with
  | nil =>
    cases start with
    | none => rfl
    | some cursor =>
      rcases hstart cursor rfl with ⟨node, hnode, _⟩
      cases hnode
  | cons latest older ih =>
    have holder : ∀ node ∈ older, node.signalId ≠ signalId :=
      fun node hnode => hnew node (List.mem_cons_of_mem _ hnode)
    cases start with
    | none => rfl
    | some cursor =>
      rcases hstart cursor rfl with ⟨node, hnode, hid⟩
      have hcursor : cursor ≠ signalId := hid ▸ hnew node hnode
      rw [walkParents, if_neg hcursor]
      split
      · apply ih h.2.2 holder
        intro above habove
        rcases h.2.1 above habove with ⟨other, hother, hkey, _⟩
        exact ⟨other, hother, hkey⟩
      · next hlatest =>
          apply ih h.2.2 holder
          intro other hother
          cases hother
          rcases List.mem_cons.mp hnode with rfl | hnode
          · exact absurd hid hlatest
          · exact ⟨node, hnode, hid⟩

theorem find_eq_some {signalId : String} {node : CausalNode} (hnode : node ∈ dag.nodes)
    (hid : node.signalId = signalId) : dag.find signalId = some node := by
  cases hfind : dag.find signalId with
  | none => exact absurd (decide_eq_true hid) (List.find?_eq_none.mp hfind node hnode)
  | some found =>
    have hfound : found.signalId = signalId := by simpa using List.find?_some hfind
    rw [node_unique dag.causal (List.mem_of_find?_eq_some hfind) hnode
      (hfound.trans hid.symm)]

/-- A new node below one of the same trace is added. -/
theorem add_of_causal (h : Causal (signal.node :: dag.nodes)) :
    ∃ grown, dag.add signal = .ok grown ∧ grown.nodes = signal.node :: dag.nodes := by
  have hnew : dag.find signal.signalId = none := by
    rw [CausalDAG.find, List.find?_eq_none]
    intro node hnode hid
    exact h.1 node hnode (of_decide_eq_true hid)
  have haccepted : dag.refusal signal = none := by
    rw [CausalDAG.refusal]
    cases hparent : signal.causalParentSignalId with
    | none => rfl
    | some parent =>
      rcases h.2.1 parent hparent with ⟨other, hother, hkey, htrace⟩
      have hwalk : walkParents signal.signalId dag.nodes (some parent) = none := by
        apply walk_eq_none dag.causal h.1
        intro cursor hcursor
        cases hcursor
        exact ⟨other, hother, hkey⟩
      have hsame : other.traceId = signal.traceId := htrace
      dsimp only
      rw [find_eq_some hother hkey]
      dsimp only
      rw [if_neg (not_not.mpr hsame), hwalk]
  refine ⟨⟨signal.node :: dag.nodes, h⟩, ?_, rfl⟩
  unfold CausalDAG.add
  split
  · next hfound =>
      rw [hnew] at hfound
      cases hfound
  · split
    · next hrefused =>
        rw [haccepted] at hrefused
        cases hrefused
    · rfl

theorem nodes_of_add {grown : CausalDAG} (h : dag.add signal = .ok grown) :
    signal.node ∈ grown.nodes ∧
      (grown.nodes = dag.nodes ∨ grown.nodes = signal.node :: dag.nodes) := by
  unfold CausalDAG.add at h
  split at h
  · next existing hfound =>
      split at h
      · cases h
      · next hsame =>
          cases h
          rw [← not_not.mp hsame]
          exact ⟨List.mem_of_find?_eq_some hfound, Or.inl rfl⟩
  · split at h
    · cases h
    · cases h
      exact ⟨List.mem_cons_self, Or.inr rfl⟩

end Graph

/-! ## Replay -/

/-- The nodes of some signals, the latest first. -/
def nodesOf (signals : List SynapticSignal) : List CausalNode :=
  (signals.map node).reverse

theorem nodesOf_append (before after : List SynapticSignal) :
    nodesOf (before ++ after) = nodesOf after ++ nodesOf before := by
  rw [nodesOf, List.map_append, List.reverse_append]
  rfl

theorem mem_nodesOf {signals : List SynapticSignal} {node : CausalNode} :
    node ∈ nodesOf signals ↔ ∃ signal ∈ signals, signal.node = node := by
  rw [nodesOf, List.mem_reverse, List.mem_map]

section Replay

variable {mesh : SynapticMesh} {signal : SynapticSignal}

theorem find_eq_none (hnew : ∀ other ∈ mesh.signals, other.signalId ≠ signal.signalId) :
    mesh.find signal.signalId = none := by
  rw [find, List.find?_eq_none]
  intro other hother hsame
  exact hnew other hother (of_decide_eq_true hsame)

theorem keep_of_new (hnew : ∀ other ∈ mesh.signals, other.signalId ≠ signal.signalId)
    (dag : CausalDAG) : mesh.keep signal dag = ⟨mesh.signals ++ [signal], dag⟩ := by
  rw [keep, if_neg]
  intro hany
  rw [List.any_eq_true] at hany
  rcases hany with ⟨other, hother, hsame⟩
  exact hnew other hother (of_decide_eq_true hsame)

/-- The rows of signals in their causal order are replayed to the signals. -/
theorem replay_records {rest : List SynapticSignal}
    (hnodes : mesh.causalDag.nodes = nodesOf mesh.signals)
    (hcausal : Causal (nodesOf (mesh.signals ++ rest)))
    (hnamed : ∀ signal ∈ rest, signal.causalParentSignalId ≠ some "") :
    ∃ restored, mesh.replay (rest.map record) = .ok restored ∧
      restored.signals = mesh.signals ++ rest ∧
      restored.causalDag.nodes = nodesOf restored.signals := by
  induction rest generalizing mesh with
  | nil => exact ⟨mesh, rfl, (List.append_nil _).symm, hnodes⟩
  | cons signal rest ih =>
    rw [List.append_cons] at hcausal
    have hsignal : Causal (signal.node :: nodesOf mesh.signals) := by
      rw [nodesOf_append, nodesOf_append] at hcausal
      exact Grown.of_append hcausal
    have hnew : ∀ other ∈ mesh.signals, other.signalId ≠ signal.signalId :=
      fun other hother => hsignal.1 other.node (mem_nodesOf.mpr ⟨other, hother, rfl⟩)
    rw [← hnodes] at hsignal
    rcases add_of_causal hsignal with ⟨grown, hadd, hgrown⟩
    have hkind : signal.record.kind = "MESH_SIGNAL" := rfl
    have hrestore : mesh.restore signal.record =
        .ok ⟨mesh.signals ++ [signal], grown⟩ := by
      rw [restore, if_neg (not_not.mpr hkind),
        signal_record (hnamed signal List.mem_cons_self)]
      dsimp only
      rw [find_eq_none hnew, hadd, ← keep_of_new hnew]
      rfl
    have hgrownNodes : grown.nodes = nodesOf (mesh.signals ++ [signal]) := by
      rw [hgrown, hnodes, nodesOf_append]
      rfl
    rcases @ih ⟨mesh.signals ++ [signal], grown⟩ hgrownNodes hcausal
        (fun other hother => hnamed other (List.mem_cons_of_mem _ hother)) with
      ⟨restored, hreplay, hsignals, hrestored⟩
    refine ⟨restored, ?_, ?_, hrestored⟩
    · rw [List.map_cons, replay, hrestore]
      exact hreplay
    · rw [hsignals, List.append_assoc]
      rfl

end Replay

/-! ## Steps -/

/-- The journal has the rows of the accepted signals, and the causal graph their nodes and
perhaps nodes below them. -/
structure Restartable (now : MeshRun) : Prop where
  held : now.world.mesh.signals = now.accepted
  rows : now.world.journal = now.accepted.map record
  named : ∀ signal ∈ now.accepted, signal.causalParentSignalId ≠ some ""
  causal : Causal (nodesOf now.accepted)
  joined : ∀ signal ∈ now.accepted, signal.node ∈ now.world.mesh.causalDag.nodes
  known : ∀ node ∈ now.world.mesh.causalDag.nodes, ∀ parent, node.parent = some parent →
    ∃ accepted ∈ now.accepted, accepted.signalId = parent ∧ accepted.traceId = node.traceId

theorem start_restartable : Restartable MeshRun.start where
  held := rfl
  rows := rfl
  named := fun _ h => by cases h
  causal := trivial
  joined := fun _ h => by cases h
  known := fun _ h => by cases h

section Steps

variable {now : MeshRun}

theorem Restartable.replayed (h : Restartable now) :
    ∃ mesh, empty.replay now.world.journal = .ok mesh ∧
      mesh.signals = now.accepted ∧ mesh.causalDag.nodes = nodesOf now.accepted := by
  have hempty : empty.causalDag.nodes = nodesOf empty.signals := rfl
  rcases replay_records hempty (h.causal : Causal (nodesOf ([] ++ now.accepted))) h.named with
    ⟨mesh, hreplay, hsignals, hnodes⟩
  refine ⟨mesh, ?_, hsignals, ?_⟩
  · rw [h.rows]
    exact hreplay
  · rw [hnodes, hsignals]
    rfl

theorem parent_before {accepted before after : List SynapticSignal} {signal : SynapticSignal}
    {parent : String} (hcausal : Causal (nodesOf accepted))
    (hsplit : accepted = before ++ signal :: after)
    (hparent : signal.causalParentSignalId = some parent) :
    ∃ other ∈ before, other.signalId = parent ∧ other.traceId = signal.traceId := by
  rw [hsplit, List.append_cons, nodesOf_append, nodesOf_append] at hcausal
  have hsignal := (Grown.of_append hcausal).2.1 parent hparent
  rcases hsignal with ⟨node, hnode, hkey, htrace⟩
  rcases mem_nodesOf.mp hnode with ⟨other, hother, rfl⟩
  exact ⟨other, hother, hkey, htrace⟩

theorem find_of_accepted {mesh : SynapticMesh} {signal : SynapticSignal}
    (hcausal : Causal (nodesOf mesh.signals)) (hmem : signal ∈ mesh.signals) :
    mesh.find signal.signalId = some signal := by
  have hids : (mesh.signals.map (·.signalId)).Nodup := by
    have hkeys := hcausal.keys_nodup
    rw [nodesOf, List.map_reverse, List.nodup_reverse, List.map_map] at hkeys
    exact hkeys
  cases hfind : mesh.find signal.signalId with
  | none => exact absurd (decide_eq_true rfl) (List.find?_eq_none.mp hfind signal hmem)
  | some found =>
    have hfound : found.signalId = signal.signalId := by simpa using List.find?_some hfind
    rw [List.inj_on_of_nodup_map hids (List.mem_of_find?_eq_some hfind) hmem hfound]

theorem route_of_accepted {world : MeshWorld} {signal : SynapticSignal}
    (hfind : world.mesh.find signal.signalId = some signal) (states : StateRepository)
    (enforcer : OCSRuntimeEnforcer) (fate : PutFate) :
    route states enforcer world fate signal = (world, .ok signal) := by
  rw [route, hfind]
  dsimp only
  rw [if_neg (not_not.mpr rfl)]

theorem Restartable.durable (h : Restartable now) : Durable now where
  held := h.held
  restarted := by
    rcases h.replayed with ⟨mesh, hreplay, hsignals, _⟩
    refine ⟨mesh, hreplay, hsignals, ?_⟩
    intro signal hsignal states enforcer fate
    apply route_of_accepted
    apply find_of_accepted
    · rw [hsignals]
      exact h.causal
    · rw [hsignals]
      exact hsignal
  ordered := fun _ _ _ _ => parent_before h.causal
  joined := h.joined
  known := h.known
  acyclic := now.world.mesh.causalDag.causal.acyclic

theorem Restartable.sameTrace (h : Restartable now) {signal : SynapticSignal}
    {grown : CausalDAG} (hadd : now.world.mesh.causalDag.add signal = .ok grown)
    {parent : String} (hparent : signal.causalParentSignalId = some parent)
    {accepted : SynapticSignal} (haccepted : accepted ∈ now.accepted)
    (hid : accepted.signalId = parent) : accepted.traceId = signal.traceId := by
  have hnodes := nodes_of_add hadd
  have hmem : accepted.node ∈ grown.nodes := by
    rcases hnodes.2 with heq | heq
    · rw [heq]
      exact h.joined accepted haccepted
    · rw [heq]
      exact List.mem_cons_of_mem _ (h.joined accepted haccepted)
  rcases grown.causal.parent_mem hnodes.1 hparent with ⟨other, hother, hkey, htrace⟩
  have hsame : other = accepted.node := node_unique grown.causal hother hmem (hkey.trans hid.symm)
  rw [hsame] at htrace
  exact htrace

/-- The graph after a signal with an accepted parent has joined it. -/
theorem Restartable.withNode (h : Restartable now) {signal : SynapticSignal}
    {grown : CausalDAG} (hadd : now.world.mesh.causalDag.add signal = .ok grown)
    (hparent : ∀ parent, signal.causalParentSignalId = some parent →
      ∃ accepted ∈ now.accepted, accepted.signalId = parent) :
    Restartable
      { now with world := { now.world with
          mesh := { now.world.mesh with causalDag := grown } } } where
  held := h.held
  rows := h.rows
  named := h.named
  causal := h.causal
  joined := by
    intro other hother
    have hmem := h.joined other hother
    rcases (nodes_of_add hadd).2 with heq | heq
    · change other.node ∈ grown.nodes
      rw [heq]
      exact hmem
    · change other.node ∈ grown.nodes
      rw [heq]
      exact List.mem_cons_of_mem _ hmem
  known := by
    intro node hnode parent hnodeParent
    change node ∈ grown.nodes at hnode
    have hold : node ∈ now.world.mesh.causalDag.nodes ∨ node = signal.node := by
      rcases (nodes_of_add hadd).2 with heq | heq
      · rw [heq] at hnode
        exact Or.inl hnode
      · rw [heq] at hnode
        exact (List.mem_cons.mp hnode).symm
    rcases hold with hnode | rfl
    · exact h.known node hnode parent hnodeParent
    · rcases hparent parent hnodeParent with ⟨accepted, haccepted, hid⟩
      exact ⟨accepted, haccepted, hid, h.sameTrace hadd hnodeParent haccepted hid⟩

/-- A signal that has joined the graph and whose row has been written is accepted. -/
theorem Restartable.accept (h : Restartable now) {signal : SynapticSignal}
    (hnew : ∀ other ∈ now.accepted, other.signalId ≠ signal.signalId)
    (hnamed : signal.causalParentSignalId ≠ some "")
    (hjoined : signal.node ∈ now.world.mesh.causalDag.nodes) :
    Restartable
      { world :=
          { mesh := ⟨now.accepted ++ [signal], now.world.mesh.causalDag⟩
            journal := now.world.journal ++ [signal.record] }
        accepted := now.accepted ++ [signal] } where
  held := rfl
  rows := by
    change now.world.journal ++ [signal.record] =
      (now.accepted ++ [signal]).map record
    rw [List.map_append, h.rows]
    rfl
  named := by
    intro other hother
    rcases List.mem_append.mp hother with hother | hother
    · exact h.named other hother
    · rw [List.mem_singleton.mp hother]
      exact hnamed
  causal := by
    change Causal (nodesOf (now.accepted ++ [signal]))
    rw [nodesOf_append]
    refine ⟨?_, ?_, h.causal⟩
    · intro node hnode
      rcases mem_nodesOf.mp hnode with ⟨other, hother, rfl⟩
      exact hnew other hother
    · intro parent hparent
      rcases h.known signal.node hjoined parent hparent with ⟨other, hother, hid, htrace⟩
      exact ⟨other.node, mem_nodesOf.mpr ⟨other, hother, rfl⟩, hid, htrace⟩
  joined := by
    intro other hother
    rcases List.mem_append.mp hother with hother | hother
    · exact h.joined other hother
    · rw [List.mem_singleton.mp hother]
      exact hjoined
  known := by
    intro node hnode parent hparent
    rcases h.known node hnode parent hparent with ⟨other, hother, hfields⟩
    exact ⟨other, List.mem_append_left _ hother, hfields⟩

theorem route_new_cases {states : StateRepository} {enforcer : OCSRuntimeEnforcer}
    {world : MeshWorld} {signal : SynapticSignal} (fate : PutFate)
    (hfind : world.mesh.find signal.signalId = none) :
    (∃ fault, route states enforcer world fate signal = (world, .error fault)) ∨
      ∃ grown, checkSignal states enforcer signal = .ok () ∧
        world.mesh.causalDag.add signal = .ok grown ∧
        route states enforcer world fate signal =
          match (journalSignal world.journal signal fate).2 with
          | .error fault =>
            ({ mesh := { world.mesh with causalDag := grown }
               journal := (journalSignal world.journal signal fate).1 }, .error fault)
          | .ok () =>
            ({ mesh := world.mesh.keep signal grown
               journal := (journalSignal world.journal signal fate).1 }, .ok signal) := by
  rw [route, hfind]
  dsimp only
  cases hadmit : checkSignal states enforcer signal with
  | error fault => exact Or.inl ⟨fault, rfl⟩
  | ok _ =>
    cases hadd : world.mesh.causalDag.add signal with
    | error fault => exact Or.inl ⟨fault, rfl⟩
    | ok grown => exact Or.inr ⟨grown, rfl, rfl, rfl⟩

theorem Restartable.route (h : Restartable now) {states : StateRepository}
    {enforcer : OCSRuntimeEnforcer} {fate : PutFate} {signal : SynapticSignal}
    (hinput : Reliable now (.route states enforcer fate signal)) :
    Restartable (meshStep now (.route states enforcer fate signal)) := by
  rw [meshStep]
  cases hfind : now.world.mesh.find signal.signalId with
  | some existing =>
    have hmem : existing ∈ now.accepted := by
      rw [← h.held]
      exact List.mem_of_find?_eq_some hfind
    by_cases hsame : existing.fingerprint ≠ signal.fingerprint
    · have hroute : ReisOs.RecursiveRuntime.route states enforcer now.world fate signal =
          (now.world, .error (.runtimeError "SIGNAL_ID_CONFLICT")) := by
        rw [ReisOs.RecursiveRuntime.route, hfind]
        exact if_pos hsame
      rw [hroute]
      exact h
    · have hroute : ReisOs.RecursiveRuntime.route states enforcer now.world fate signal =
          (now.world, .ok existing) := by
        rw [ReisOs.RecursiveRuntime.route, hfind]
        exact if_neg hsame
      rw [hroute]
      dsimp only
      rw [if_pos hmem]
      exact h
  | none =>
    have hnew : ∀ other ∈ now.accepted, other.signalId ≠ signal.signalId := by
      intro other hother hid
      rw [← h.held] at hother
      exact List.find?_eq_none.mp hfind other hother (decide_eq_true hid)
    rcases route_new_cases fate hfind with ⟨fault, hroute⟩ | ⟨grown, hadmit, hadd, hroute⟩
    · rw [hroute]
      exact h
    · have hreliable := hinput hfind hadmit (by rw [hadd]; rfl)
      have hjoined := h.withNode hadd hreliable.1
      rw [hroute]
      cases fate with
      | breaks fault => exact hreliable.2.elim
      | fails fault => exact hjoined
      | completes =>
        have hput : putRecord now.world.journal signal.record =
            (now.world.journal ++ [signal.record], .ok ()) := by
          rcases putRecord_cases now.world.journal signal.record with
            ⟨_, hput⟩ | ⟨other, hother, hid, _⟩
          · exact hput
          · rw [h.rows, List.mem_map] at hother
            rcases hother with ⟨accepted, haccepted, rfl⟩
            have hsame : accepted.signalId = signal.signalId := by
              have hparts := congrArg (removePrefix "mesh:") hid
              change removePrefix "mesh:" ("mesh:" ++ accepted.signalId) =
                removePrefix "mesh:" ("mesh:" ++ signal.signalId) at hparts
              rwa [removePrefix_append, removePrefix_append] at hparts
            exact absurd hsame (hnew accepted haccepted)
        have hnotMem : signal ∉ now.accepted := fun hmem => hnew signal hmem rfl
        have hkeep : now.world.mesh.keep signal grown =
            ⟨now.accepted ++ [signal], grown⟩ := by
          rw [keep_of_new (by rw [h.held]; exact hnew), h.held]
        rw [journalSignal, hput]
        dsimp only [Except.mapError]
        rw [if_neg hnotMem, hkeep]
        exact hjoined.accept hnew hreliable.2 (nodes_of_add hadd).1

theorem Restartable.restart (h : Restartable now) : Restartable (meshStep now .restart) := by
  rcases h.replayed with ⟨mesh, hreplay, hsignals, hnodes⟩
  rw [meshStep, hreplay]
  exact
    { held := hsignals
      rows := h.rows
      named := h.named
      causal := h.causal
      joined := by
        intro signal hsignal
        change signal.node ∈ mesh.causalDag.nodes
        rw [hnodes]
        exact mem_nodesOf.mpr ⟨signal, hsignal, rfl⟩
      known := by
        intro node hnode parent hparent
        change node ∈ mesh.causalDag.nodes at hnode
        rw [hnodes] at hnode
        rcases h.causal.parent_mem hnode hparent with ⟨other, hother, hkey, htrace⟩
        rcases mem_nodesOf.mp hother with ⟨accepted, haccepted, rfl⟩
        exact ⟨accepted, haccepted, hkey, htrace⟩ }

theorem Restartable.step (h : Restartable now) {input : MeshInput}
    (hinput : Reliable now input) : Restartable (meshStep now input) := by
  cases input with
  | route states enforcer fate signal => exact h.route hinput
  | restart => exact h.restart

end Steps

/-- A run of reliable calls and restarts leaves a mesh that survives a restart. -/
theorem mesh_survives_restart (inputs : List MeshInput)
    (h : Admissible meshStep Reliable MeshRun.start inputs) :
    Durable (run meshStep MeshRun.start inputs) :=
  (run_invariant_of_admissible Restartable (fun _ _ hnow hinput => hnow.step hinput)
    start_restartable h).durable

/-! ## A parent and its child -/

def meshActor (actorId identityId : String) : ActorState :=
  { actorId := actorId, identityId := identityId, sessionBinding := "S1"
    missionBinding := "M1", stateNamespace := "ns:" ++ actorId
    authority := ⟨"AUTH:1", {"read"}⟩, capability := ⟨"CAP:1", {"analyze"}, {"tool:a"}⟩
    budgetRef := "B1", providerId := "provider-canonical", traceId := "T1"
    spanId := "span:" ++ actorId, generation := 1, fencingEpoch := 1, depth := 0
    lifecycle := .active, cancellationPolicyRef := none, parentActorId := none, children := [] }

def meshStates : StateRepository where
  actors := fun actorId =>
    if actorId = "a" then some (meshActor "a" "NOESIS")
    else if actorId = "b" then some (meshActor "b" "SOFIA")
    else none
  activeByIdentity := fun identityId =>
    if identityId = "NOESIS" then some "a"
    else if identityId = "SOFIA" then some "b"
    else none
  namespaces := {"ns:a", "ns:b"}

def meshSignal (signalId : String) (parent : Option String) : SynapticSignal :=
  ⟨signalId, "a", "NOESIS", "b", "SOFIA", "STATE", "state:1", "T1", "AUTH:1", "M1", 1, parent⟩

/-- The signal is routed from the one actor to the other. -/
def routed (fate : PutFate) (signalId : String) (parent : Option String) : MeshInput :=
  .route meshStates ⟨id⟩ fate (meshSignal signalId parent)

theorem mesh_survives_restart_family :
    Durable (run meshStep MeshRun.start
      [routed .completes "sig:root" none, routed .completes "sig:child" (some "sig:root"),
        .restart]) := by
  apply mesh_survives_restart
  refine ⟨fun _ _ _ => ⟨?_, ?_⟩, fun _ _ _ => ⟨?_, ?_⟩, trivial, trivial⟩
  · intro parent hparent
    cases hparent
  · rintro ⟨⟩
  · intro parent hparent
    cases hparent
    have haccepted : (meshStep MeshRun.start (routed .completes "sig:root" none)).accepted =
        [meshSignal "sig:root" none] := by decide +kernel
    exact ⟨meshSignal "sig:root" none, by rw [haccepted]; exact List.mem_cons_self, rfl⟩
  · decide

/-- The put of a parent fails, and its child is accepted. -/
def orphanedInputs : List MeshInput :=
  [routed (.fails (.runtimeError "OSError")) "sig:root" none,
    routed .completes "sig:child" (some "sig:root")]

/-- The put of a signal fails after its row has been written. -/
def brokenInputs : List MeshInput := [routed (.breaks (.runtimeError "OSError")) "sig:root" none]

/-- A signal without a name has a child. -/
def namelessInputs : List MeshInput :=
  [routed .completes "" none, routed .completes "sig:child" (some "")]

theorem mesh_changed_by_restart :
    ¬ Durable (run meshStep MeshRun.start orphanedInputs) ∧
      ¬ Durable (run meshStep MeshRun.start brokenInputs) ∧
      ¬ Durable (run meshStep MeshRun.start namelessInputs) := by
  refine ⟨?_, ?_, ?_⟩
  · intro h
    have haccepted : (run meshStep MeshRun.start orphanedInputs).accepted =
        [meshSignal "sig:child" (some "sig:root")] := by decide +kernel
    rcases h.ordered [] (meshSignal "sig:child" (some "sig:root")) [] "sig:root" haccepted rfl
      with ⟨_, hmem, _⟩
    cases hmem
  · intro h
    rcases h.restarted with ⟨mesh, hreplay, hsignals, _⟩
    have hfound : (empty.replay
        (run meshStep MeshRun.start brokenInputs).world.journal).map (·.signals) =
          .ok [meshSignal "sig:root" none] := by decide +kernel
    have haccepted : (run meshStep MeshRun.start brokenInputs).accepted = [] := by
      decide +kernel
    rw [hreplay] at hfound
    have hheld : mesh.signals = [meshSignal "sig:root" none] := Except.ok.inj hfound
    rw [hsignals, haccepted] at hheld
    cases hheld
  · intro h
    rcases h.restarted with ⟨mesh, hreplay, hsignals, _⟩
    have hfound : (empty.replay
        (run meshStep MeshRun.start namelessInputs).world.journal).map (·.signals) =
          .ok [meshSignal "" none, meshSignal "sig:child" none] := by decide +kernel
    have haccepted : (run meshStep MeshRun.start namelessInputs).accepted =
        [meshSignal "" none, meshSignal "sig:child" (some "")] := by decide +kernel
    rw [hreplay] at hfound
    have hheld : mesh.signals = [meshSignal "" none, meshSignal "sig:child" none] :=
      Except.ok.inj hfound
    rw [hsignals, haccepted] at hheld
    exact absurd hheld (by decide)

end ReisOs.RecursiveRuntime
