import Mathlib.Data.List.Infix
import ReisOs.Core.Dict
import ReisOs.Core.Json
import ReisOs.Core.Runs
import ReisOs.Core.Journals

/-!
# The command guard

`CommandSecurityGuard.evaluate` judges a request by itself first, and then by what the
guard has stored for its idempotency key.
-/

namespace ReisOs.Command

open ReisOs.Core

inductive MembershipRole where
  | owner | admin | member | viewer
  deriving DecidableEq, Repr

def MembershipRole.value : MembershipRole → String
  | owner => "owner"
  | admin => "admin"
  | member => "member"
  | viewer => "viewer"

inductive SecurityDecision where
  | allow | deny
  deriving DecidableEq, Repr

def SecurityDecision.value : SecurityDecision → String
  | allow => "allow"
  | deny => "deny"

structure SecurityRequest (N : Type) where
  requestId : String
  organizationId : String
  expectedOrganizationId : String
  role : MembershipRole
  ocsId : String
  namespaceId : String
  idempotencyKey : String
  payload : List (String × Json N)
  founderSensitive : Bool

structure SecurityAudit (N : Type) where
  requestId : String
  organizationId : String
  role : String
  ocsId : String
  namespaceId : String
  idempotencyKeyHash : String
  founderSensitive : Bool
  decision : String
  reason : Option String
  payload : Json N

structure SecurityReadback (N : Type) where
  requestId : String
  decision : SecurityDecision
  reason : String
  mutationCount : ℕ
  idempotentReplay : Bool
  audit : SecurityAudit N

/-- What is used of Python's library: `str.casefold`, `json.dumps` with sorted keys, and
the hexadecimal SHA-256 digest of a text. -/
structure SecurityLibrary (N : Type) where
  casefold : String → String
  dumps : Json N → String
  sha256 : String → String

/-- The identifiers of `PROFILES` with their slugs. -/
def profileSlugs : List (String × String) :=
  [("NÓESIS", "noesis"), ("DÉDALA", "dedala"), ("SÝNESIS", "synesis"), ("ÍRIS", "iris"),
    ("LYRA", "lyra"), ("SOFIA", "sofia"), ("MÊTIS", "metis"), ("ÁGORA", "agora"),
    ("AURI", "auri"), ("SYNERGEIA", "synergeia"), ("TÊMIS", "temis")]

/-- `allowed_namespaces` of a profile. -/
def allowedNamespaces (slug : String) : List String :=
  ["state://" ++ slug ++ "/r2-v0.1.0", "memory://" ++ slug ++ "/r2-v0.1.0"]

variable {N : Type}

/-! ## Redaction -/

/-- `_SECRET_MARKERS`. -/
def secretMarkers : List String :=
  ["authorization", "password", "secret", "token", "api_key", "apikey"]

def isSecret (library : SecurityLibrary N) (key : String) : Bool :=
  secretMarkers.any fun marker => marker.toList <:+: (library.casefold key).toList

mutual

def redact (library : SecurityLibrary N) : Json N → Json N
  | .null => .null
  | .bool value => .bool value
  | .number value => .number value
  | .string value => .string value
  | .array items => .array (redactItems library items)
  | .object fields => .object (redactFields library fields)

def redactItems (library : SecurityLibrary N) : List (Json N) → List (Json N)
  | [] => []
  | item :: items => redact library item :: redactItems library items

def redactFields (library : SecurityLibrary N) :
    List (String × Json N) → List (String × Json N)
  | [] => []
  | (key, item) :: fields =>
    (key, if isSecret library key then .string "[REDACTED]" else redact library item) ::
      redactFields library fields

end

/-! ## Judging a request -/

namespace SecurityRequest

/-- The names of required fields without a value, in alphabetical order. -/
def missing (request : SecurityRequest N) : List String :=
  ([("expected_organization_id", request.expectedOrganizationId),
    ("idempotency_key", request.idempotencyKey), ("namespace", request.namespaceId),
    ("ocs_id", request.ocsId), ("organization_id", request.organizationId),
    ("request_id", request.requestId)].filter fun field => field.2 = "").map Prod.fst

/-- Why a request is denied whatever the guard has stored. -/
def refusal (request : SecurityRequest N) : Option String :=
  if request.missing ≠ [] then
    some ("command_security_request_incomplete:" ++ ",".intercalate request.missing)
  else if request.organizationId ≠ request.expectedOrganizationId then
    some "command_security_organization_mismatch"
  else if request.role ≠ .owner ∧ request.role ≠ .admin then
    some "command_security_role_forbidden"
  else if request.founderSensitive ∧ request.role ≠ .owner then
    some "command_security_founder_role_required"
  else
    match profileSlugs.lookup request.ocsId with
    | none => some "command_security_unknown_ocs"
    | some slug =>
      if request.namespaceId ∉ allowedNamespaces slug then
        some "command_security_namespace_mismatch"
      else none

/-- `_audit`. -/
def audit (library : SecurityLibrary N) (request : SecurityRequest N)
    (decision : SecurityDecision) (reason : Option String) : SecurityAudit N where
  requestId := request.requestId
  organizationId := request.organizationId
  role := request.role.value
  ocsId := request.ocsId
  namespaceId := request.namespaceId
  idempotencyKeyHash := library.sha256 request.idempotencyKey
  founderSensitive := request.founderSensitive
  decision := decision.value
  reason
  payload := redact library (.object request.payload)

/-- `_allow`. -/
def allow (library : SecurityLibrary N) (request : SecurityRequest N)
    (idempotentReplay : Bool) : SecurityReadback N where
  requestId := request.requestId
  decision := .allow
  reason :=
    if idempotentReplay then "command_security_idempotent_replay"
    else "command_security_validated"
  mutationCount := 0
  idempotentReplay
  audit := request.audit library .allow none

/-- `_deny`. -/
def deny (library : SecurityLibrary N) (request : SecurityRequest N) (reason : String) :
    SecurityReadback N where
  requestId := request.requestId
  decision := .deny
  reason
  mutationCount := 0
  idempotentReplay := false
  audit := request.audit library .deny (some reason)

/-- `_fingerprint`. -/
def fingerprint (library : SecurityLibrary N) (request : SecurityRequest N) : String :=
  library.sha256 (library.dumps (.object
    [("organization_id", .string request.organizationId),
      ("role", .string request.role.value), ("ocs_id", .string request.ocsId),
      ("namespace", .string request.namespaceId), ("payload", .object request.payload),
      ("founder_sensitive", .bool request.founderSensitive)]))

end SecurityRequest

/-- `_replay_fingerprints`. -/
abbrev Guard := Dict String String

/-- `evaluate`. -/
def Guard.evaluate (library : SecurityLibrary N) (guard : Guard)
    (request : SecurityRequest N) : Guard × SecurityReadback N :=
  match request.refusal with
  | some reason => (guard, request.deny library reason)
  | none =>
    match guard.lookup request.idempotencyKey with
    | some previous =>
      if previous ≠ request.fingerprint library then
        (guard, request.deny library "command_security_idempotency_conflict")
      else (guard, request.allow library true)
    | none =>
      (guard.insert request.idempotencyKey (request.fingerprint library),
        request.allow library false)

/-- The guard after a sequence of requests. -/
def Guard.after (library : SecurityLibrary N) (requests : List (SecurityRequest N)) : Guard :=
  run (fun guard request => (guard.evaluate library request).1) ∅ requests

end ReisOs.Command

/-!
## Organizations at one guard

The guard keeps one fingerprint for an idempotency key, that of the first request with
the key that is admitted, of whatever organization.
-/

namespace ReisOs.Command

open ReisOs.Core

variable {N : Type}

/-- Nothing but a stored fingerprint can keep the request from being allowed. -/
def SecurityRequest.admitted (request : SecurityRequest N) : Bool := request.refusal.isNone

def SecurityRequest.isOf (organizationId : String) (request : SecurityRequest N) : Bool :=
  request.organizationId = organizationId

/-- An admitted request with the key. -/
def SecurityRequest.uses (idempotencyKey : String) (request : SecurityRequest N) : Bool :=
  request.admitted && request.idempotencyKey = idempotencyKey

/-- The answers to the requests of an organization, in their order. -/
def decisions (library : SecurityLibrary N) (organizationId : String) :
    Guard → List (SecurityRequest N) → List (SecurityReadback N)
  | _, [] => []
  | guard, request :: requests =>
    let evaluated := guard.evaluate library request
    if request.isOf organizationId then
      evaluated.2 :: decisions library organizationId evaluated.1 requests
    else decisions library organizationId evaluated.1 requests

/-- The organization is answered as if no other one had asked. -/
def Isolated (library : SecurityLibrary N) (organizationId : String)
    (requests : List (SecurityRequest N)) : Prop :=
  decisions library organizationId ∅ requests =
    decisions library organizationId ∅ (requests.filter (·.isOf organizationId))

namespace Guard

theorem after_concat (library : SecurityLibrary N) (requests : List (SecurityRequest N))
    (request : SecurityRequest N) :
    after library (requests ++ [request]) =
      ((after library requests).evaluate library request).1 := by
  rw [after, run_append]
  rfl

theorem lookup_evaluate (library : SecurityLibrary N) (guard : Guard)
    (request : SecurityRequest N) (key : String) :
    (guard.evaluate library request).1.lookup key =
      (guard.lookup key).or
        (if request.uses key then some (request.fingerprint library) else none) := by
  rw [evaluate, SecurityRequest.uses, SecurityRequest.admitted]
  cases hrefusal : request.refusal with
  | some reason => simp
  | none =>
    by_cases hkey : request.idempotencyKey = key
    · subst hkey
      cases hstored : guard.lookup request.idempotencyKey with
      | none => simp
      | some previous =>
        by_cases hsame : previous = request.fingerprint library
        · simp [hsame, hsame ▸ hstored]
        · simp [hsame, hstored]
    · cases hstored : guard.lookup request.idempotencyKey with
      | none => simp [hkey, Ne.symm hkey]
      | some previous =>
        by_cases hsame : previous = request.fingerprint library
        · simp [hsame, hkey]
        · simp [hsame, hkey]

theorem lookup_after (library : SecurityLibrary N) (requests : List (SecurityRequest N))
    (key : String) :
    (after library requests).lookup key =
      (requests.find? (·.uses key)).map (·.fingerprint library) := by
  induction requests using List.reverseRecOn with
  | nil => rfl
  | append_singleton requests request ih =>
    rw [after_concat, lookup_evaluate, ih, List.find?_append]
    cases requests.find? (·.uses key) with
    | some first => rfl
    | none =>
      by_cases huses : request.uses key = true
      · simp [huses]
      · simp [huses]

end Guard

theorem decisions_concat (library : SecurityLibrary N) (organizationId : String)
    (guard : Guard) (requests : List (SecurityRequest N)) (request : SecurityRequest N) :
    decisions library organizationId guard (requests ++ [request]) =
      decisions library organizationId guard requests ++
        if request.isOf organizationId then
          [((run (fun guard request => (guard.evaluate library request).1) guard
            requests).evaluate library request).2]
        else [] := by
  induction requests generalizing guard with
  | nil => simp [decisions]
  | cons first requests ih =>
    rw [List.cons_append, decisions, decisions, ih, run_cons]
    by_cases hfirst : first.isOf organizationId = true
    · rw [if_pos hfirst, if_pos hfirst, List.cons_append]
    · rw [if_neg hfirst, if_neg hfirst]

/-- Two guards give a request the same answer just if its key is stored the same way in
both, where one of them may have stored nothing. -/
theorem evaluate_eq_iff (library : SecurityLibrary N) (guard alone : Guard)
    (request : SecurityRequest N)
    (hsame : ∀ stored, alone.lookup request.idempotencyKey = some stored →
      guard.lookup request.idempotencyKey = some stored) :
    (guard.evaluate library request).2 = (alone.evaluate library request).2 ↔
      (request.admitted → guard.lookup request.idempotencyKey ≠ none →
        alone.lookup request.idempotencyKey ≠ none) := by
  rw [Guard.evaluate, Guard.evaluate, SecurityRequest.admitted]
  cases hrefusal : request.refusal with
  | some reason => simp
  | none =>
    cases halone : alone.lookup request.idempotencyKey with
    | some stored =>
      by_cases hfingerprint : stored = request.fingerprint library
      · simp [hsame stored halone, hfingerprint]
      · simp [hsame stored halone, hfingerprint]
    | none =>
      cases hguard : guard.lookup request.idempotencyKey with
      | none => simp
      | some stored =>
        by_cases hfingerprint : stored = request.fingerprint library
        · simp [hfingerprint, SecurityRequest.allow]
        · simp [hfingerprint, SecurityRequest.allow, SecurityRequest.deny]

theorem lookup_after_filter {library : SecurityLibrary N} {organizationId : String}
    {requests : List (SecurityRequest N)} {key stored : String}
    (h : UsedFirst (SecurityRequest.uses key) (SecurityRequest.isOf organizationId) requests)
    (hstored : (Guard.after library
      (requests.filter (·.isOf organizationId))).lookup key = some stored) :
    (Guard.after library requests).lookup key = some stored := by
  rw [Guard.lookup_after] at hstored ⊢
  have hmine : ∃ request ∈ requests,
      request.uses key ∧ request.isOf organizationId := by
    cases hfound : (requests.filter (·.isOf organizationId)).find? (·.uses key) with
    | none =>
      rw [hfound] at hstored
      cases hstored
    | some request =>
      have hmem := List.mem_filter.mp (List.mem_of_find?_eq_some hfound)
      exact ⟨request, hmem.1, List.find?_some hfound, hmem.2⟩
  have hfilter := h.find?_filter hmine
  rw [← hfilter]
  exact hstored

theorem lookup_after_ne_none_iff (library : SecurityLibrary N)
    (requests : List (SecurityRequest N)) (key : String) :
    (Guard.after library requests).lookup key ≠ none ↔
      ∃ request ∈ requests, request.uses key := by
  rw [Guard.lookup_after, ne_eq, Option.map_eq_none_iff, List.find?_eq_none]
  simp

/-- The organization's decisions do not depend on the requests of others if and only if
no key that it uses has been used by another organization before its own first use. -/
theorem isolated_iff (library : SecurityLibrary N) (organizationId : String)
    (requests : List (SecurityRequest N)) :
    Isolated library organizationId requests ↔
      ∀ key, UsedFirst (SecurityRequest.uses key) (SecurityRequest.isOf organizationId)
        requests := by
  induction requests using List.reverseRecOn with
  | nil => exact iff_of_true rfl fun _ => usedFirst_nil _ _
  | append_singleton requests request ih =>
    simp only [usedFirst_concat_iff]
    rw [forall_and, ← ih, Isolated, List.filter_append, decisions_concat]
    by_cases hmine : request.isOf organizationId = true
    · have hself : [request].filter (·.isOf organizationId) = [request] := by
        simp [hmine]
      rw [hself, decisions_concat, if_pos hmine, if_pos hmine, List.append_singleton_inj,
        ← Isolated]
      apply and_congr_right
      intro hisolated
      have hfirst := ih.mp hisolated
      have hlast := evaluate_eq_iff library (Guard.after library requests)
        (Guard.after library (requests.filter (·.isOf organizationId))) request
        fun stored hstored => lookup_after_filter (hfirst _) hstored
      rw [lookup_after_ne_none_iff, lookup_after_ne_none_iff] at hlast
      have hmembers (key : String) :
          (∃ first ∈ requests.filter (·.isOf organizationId), first.uses key) ↔
            ∃ first ∈ requests, first.uses key ∧ first.isOf organizationId := by
        simp only [List.mem_filter, and_assoc]
        exact exists_congr fun first => and_congr_right fun _ => And.comm
      rw [hmembers] at hlast
      refine Iff.trans hlast ⟨?_, ?_⟩
      · intro h key _ huses hused
        rw [SecurityRequest.uses, Bool.and_eq_true, decide_eq_true_eq] at huses
        rw [← huses.2] at hused ⊢
        exact h huses.1 hused
      · intro h hadmitted hused
        apply h request.idempotencyKey hmine _ hused
        simp [SecurityRequest.uses, hadmitted]
    · have hother : [request].filter (·.isOf organizationId) = [] := by
        simp [hmine]
      rw [hother, List.append_nil, if_neg hmine, List.append_nil, ← Isolated]
      exact (and_iff_left fun key hrequest => absurd hrequest hmine).symm

/-! ## A shared key -/

/-- A request of the organization, with a key that others can use as well. -/
def keyedRequest (organizationId : String) : SecurityRequest ℕ where
  requestId := "r"
  organizationId
  expectedOrganizationId := organizationId
  role := .owner
  ocsId := "SOFIA"
  namespaceId := "state://sofia/r2-v0.1.0"
  idempotencyKey := "k"
  payload := []
  founderSensitive := false

/-- A key that another organization has used before denies or replays the request. -/
theorem shared_key_not_isolated :
    ¬∃ library : SecurityLibrary ℕ,
      Isolated library "a" [keyedRequest "b", keyedRequest "a"] := by
  rintro ⟨library, h⟩
  have hother : (keyedRequest "b").isOf "a" = false := by decide
  have hmine : (keyedRequest "a").isOf "a" = true := by decide
  have huses : (keyedRequest "b").uses "k" = true := by decide +kernel
  have hadmitted : (keyedRequest "a").admitted = true := by decide +kernel
  simp only [Isolated, decisions, List.filter_cons, List.filter_nil, hother, hmine, reduceIte,
    Bool.false_eq_true, List.cons.injEq, and_true] at h
  have hstored : (Guard.evaluate library ∅ (keyedRequest "b")).1.lookup "k" ≠ none := by
    rw [Guard.lookup_evaluate, if_pos huses]
    simp
  have halone := (evaluate_eq_iff library _ ∅ (keyedRequest "a") fun _ hnone => by
    cases hnone).mp h hadmitted hstored
  exact halone rfl

end ReisOs.Command
