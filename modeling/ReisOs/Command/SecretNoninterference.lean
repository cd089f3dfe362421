import ReisOs.Command.GuardIsolation
import ReisOs.Core.SortedKeys

/-!
# Secrets and readbacks

The readbacks show payloads with the values under secret keys taken out, and the guard
compares fingerprints of whole payloads.  Two runs that differ in secrets only are answered
alike as long as they repeat their secrets alike.
-/

namespace ReisOs.Command

open ReisOs.Core
open ReisOs.Core.PyValue (sortKeys keyOrder)

variable {N : Type}

/-! ## Documents up to secrets -/

mutual

/-- The documents differ in values under secret keys only. -/
def Alike (library : SecurityLibrary N) : Json N → Json N → Prop
  | .array items, .array others => AlikeItems library items others
  | .object fields, .object others => AlikeFields library fields others
  | .null, other => other = .null
  | .bool value, other => other = .bool value
  | .number value, other => other = .number value
  | .string value, other => other = .string value
  | _, _ => False

def AlikeItems (library : SecurityLibrary N) : List (Json N) → List (Json N) → Prop
  | [], others => others = []
  | item :: items, other :: others => Alike library item other ∧ AlikeItems library items others
  | _ :: _, [] => False

def AlikeFields (library : SecurityLibrary N) :
    List (String × Json N) → List (String × Json N) → Prop
  | [], others => others = []
  | (key, item) :: fields, other :: others =>
    other.1 = key ∧ (isSecret library key = true ∨ Alike library item other.2) ∧
      AlikeFields library fields others
  | _ :: _, [] => False

end

section Documents

variable {library : SecurityLibrary N}

theorem redactItems_eq {items : List (Json N)}
    (hitems : ∀ item ∈ items, ∀ other, Alike library item other →
      redact library item = redact library other) {others : List (Json N)}
    (h : AlikeItems library items others) :
    redactItems library items = redactItems library others := by
  induction items generalizing others with
  | nil =>
    rw [AlikeItems] at h
    rw [h]
  | cons item items ih =>
    cases others with
    | nil =>
      rw [AlikeItems] at h
      exact h.elim
    | cons other others =>
      rw [AlikeItems] at h
      rw [List.forall_mem_cons] at hitems
      rw [redactItems, redactItems, hitems.1 other h.1, ih hitems.2 h.2]

theorem redactFields_eq {fields : List (String × Json N)}
    (hfields : ∀ field ∈ fields, ∀ other, Alike library field.2 other →
      redact library field.2 = redact library other) {others : List (String × Json N)}
    (h : AlikeFields library fields others) :
    redactFields library fields = redactFields library others := by
  induction fields generalizing others with
  | nil =>
    rw [AlikeFields] at h
    rw [h]
  | cons field fields ih =>
    obtain ⟨key, item⟩ := field
    cases others with
    | nil =>
      rw [AlikeFields] at h
      exact h.elim
    | cons other others =>
      obtain ⟨otherKey, other⟩ := other
      rw [AlikeFields] at h
      obtain ⟨hkey, hitem, hrest⟩ := h
      simp only at hkey
      rw [List.forall_mem_cons] at hfields
      rw [redactFields, redactFields, hkey, ih hfields.2 hrest]
      cases hsecret : isSecret library key with
      | true => rfl
      | false =>
        rw [hsecret] at hitem
        have halike := hitem.resolve_left Bool.false_ne_true
        rw [hfields.1 other halike]

/-- Redaction takes out everything in which alike documents differ. -/
theorem Alike.redact_eq {left right : Json N} (h : Alike library left right) :
    redact library left = redact library right := by
  induction left using Json.induction generalizing right with
  | null =>
    simp only [Alike] at h
    rw [h]
  | bool value =>
    simp only [Alike] at h
    rw [h]
  | number value =>
    simp only [Alike] at h
    rw [h]
  | string value =>
    simp only [Alike] at h
    rw [h]
  | array items ih =>
    cases right with
    | array others =>
      simp only [Alike] at h
      rw [redact, redact, redactItems_eq (fun item hitem other => ih item hitem) h]
    | _ =>
      simp only [Alike] at h
  | object fields ih =>
    cases right with
    | object others =>
      simp only [Alike] at h
      rw [redact, redact, redactFields_eq (fun field hfield other => ih field hfield) h]
    | _ =>
      simp only [Alike] at h

theorem alikeItems_redact {items : List (Json N)}
    (h : ∀ item ∈ items, Alike library item (redact library item)) :
    AlikeItems library items (redactItems library items) := by
  induction items with
  | nil => rw [redactItems, AlikeItems]
  | cons item items ih =>
    rw [List.forall_mem_cons] at h
    rw [redactItems, AlikeItems]
    exact ⟨h.1, ih h.2⟩

theorem alikeFields_redact {fields : List (String × Json N)}
    (h : ∀ field ∈ fields, Alike library field.2 (redact library field.2)) :
    AlikeFields library fields (redactFields library fields) := by
  induction fields with
  | nil => rw [redactFields, AlikeFields]
  | cons field fields ih =>
    obtain ⟨key, item⟩ := field
    rw [List.forall_mem_cons] at h
    rw [redactFields, AlikeFields]
    refine ⟨rfl, ?_, ih h.2⟩
    cases hsecret : isSecret library key with
    | true => exact Or.inl rfl
    | false => exact Or.inr h.1

theorem alike_redact (json : Json N) : Alike library json (redact library json) := by
  induction json using Json.induction with
  | null => simp only [redact, Alike]
  | bool value => simp only [redact, Alike]
  | number value => simp only [redact, Alike]
  | string value => simp only [redact, Alike]
  | array items ih =>
    simp only [redact, Alike]
    exact alikeItems_redact ih
  | object fields ih =>
    simp only [redact, Alike]
    exact alikeFields_redact ih

end Documents

/-! ## The secrets of a document -/

mutual

/-- The values under secret keys, in the order in which they are listed. -/
def secretValues (library : SecurityLibrary N) : Json N → List (Json N)
  | .null => []
  | .bool _ => []
  | .number _ => []
  | .string _ => []
  | .array items => secretItems library items
  | .object fields => secretFields library fields

def secretItems (library : SecurityLibrary N) : List (Json N) → List (Json N)
  | [] => []
  | item :: items => secretValues library item ++ secretItems library items

def secretFields (library : SecurityLibrary N) : List (String × Json N) → List (Json N)
  | [] => []
  | (key, item) :: fields =>
    (if isSecret library key then [item] else secretValues library item) ++
      secretFields library fields

end

section Secrets

variable {library : SecurityLibrary N}

theorem length_secretItems {items : List (Json N)}
    (h : ∀ item ∈ items, (secretValues library (redact library item)).length =
      (secretValues library item).length) :
    (secretItems library (redactItems library items)).length =
      (secretItems library items).length := by
  induction items with
  | nil => rfl
  | cons item items ih =>
    rw [List.forall_mem_cons] at h
    rw [redactItems, secretItems, secretItems, List.length_append, List.length_append, h.1,
      ih h.2]

theorem length_secretFields {fields : List (String × Json N)}
    (h : ∀ field ∈ fields, (secretValues library (redact library field.2)).length =
      (secretValues library field.2).length) :
    (secretFields library (redactFields library fields)).length =
      (secretFields library fields).length := by
  induction fields with
  | nil => rfl
  | cons field fields ih =>
    obtain ⟨key, item⟩ := field
    rw [List.forall_mem_cons] at h
    rw [redactFields, secretFields, secretFields, List.length_append, List.length_append,
      ih h.2]
    cases isSecret library key with
    | true => rfl
    | false => exact congrArg (· + _) h.1

theorem length_secretValues (json : Json N) :
    (secretValues library (redact library json)).length =
      (secretValues library json).length := by
  induction json using Json.induction with
  | null => rfl
  | bool value => rfl
  | number value => rfl
  | string value => rfl
  | array items ih =>
    rw [redact, secretValues, secretValues]
    exact length_secretItems ih
  | object fields ih =>
    rw [redact, secretValues, secretValues]
    exact length_secretFields ih

theorem length_eq_of_redact {left right : Json N}
    (h : redact library left = redact library right) :
    (secretValues library left).length = (secretValues library right).length := by
  rw [← length_secretValues left, h, length_secretValues right]

theorem items_eq {items : List (Json N)}
    (hitems : ∀ item ∈ items, ∀ other, redact library item = redact library other →
      secretValues library item = secretValues library other → item = other)
    {others : List (Json N)} (hredact : redactItems library items = redactItems library others)
    (hsecrets : secretItems library items = secretItems library others) : items = others := by
  induction items generalizing others with
  | nil =>
    cases others with
    | nil => rfl
    | cons other others =>
      rw [redactItems, redactItems] at hredact
      cases hredact
  | cons item items ih =>
    cases others with
    | nil =>
      rw [redactItems, redactItems] at hredact
      cases hredact
    | cons other others =>
      rw [redactItems, redactItems, List.cons.injEq] at hredact
      rw [secretItems, secretItems] at hsecrets
      obtain ⟨hfirst, hrest⟩ :=
        List.append_inj hsecrets (length_eq_of_redact hredact.1)
      rw [List.forall_mem_cons] at hitems
      rw [hitems.1 other hredact.1 hfirst, ih hitems.2 hredact.2 hrest]

theorem fields_eq {fields : List (String × Json N)}
    (hfields : ∀ field ∈ fields, ∀ other, redact library field.2 = redact library other →
      secretValues library field.2 = secretValues library other → field.2 = other)
    {others : List (String × Json N)}
    (hredact : redactFields library fields = redactFields library others)
    (hsecrets : secretFields library fields = secretFields library others) :
    fields = others := by
  induction fields generalizing others with
  | nil =>
    cases others with
    | nil => rfl
    | cons other others =>
      rw [redactFields, redactFields] at hredact
      cases hredact
  | cons field fields ih =>
    obtain ⟨key, item⟩ := field
    cases others with
    | nil =>
      rw [redactFields, redactFields] at hredact
      cases hredact
    | cons other others =>
      obtain ⟨otherKey, other⟩ := other
      rw [redactFields, redactFields, List.cons.injEq, Prod.mk.injEq] at hredact
      obtain ⟨⟨hkey, hitem⟩, hrest⟩ := hredact
      rw [secretFields, secretFields, ← hkey] at hsecrets
      rw [← hkey] at hitem
      rw [List.forall_mem_cons] at hfields
      cases hsecret : isSecret library key with
      | true =>
        rw [hsecret] at hsecrets
        obtain ⟨hfirst, hlast⟩ := List.append_inj hsecrets rfl
        rw [← hkey, List.singleton_inj.mp hfirst, ih hfields.2 hrest hlast]
      | false =>
        rw [hsecret] at hsecrets hitem
        have hlength : (secretValues library item).length =
            (secretValues library other).length := length_eq_of_redact hitem
        obtain ⟨hfirst, hlast⟩ := List.append_inj hsecrets hlength
        have hsame : item = other := hfields.1 other hitem hfirst
        rw [← hkey, hsame, ih hfields.2 hrest hlast]

/-- What is shown of a document and its secrets together determine it. -/
theorem eq_of_redact {left right : Json N} (hredact : redact library left = redact library right)
    (hsecrets : secretValues library left = secretValues library right) : left = right := by
  induction left using Json.induction generalizing right with
  | null =>
    cases right <;> simp only [redact] at hredact <;> cases hredact
    rfl
  | bool value =>
    cases right <;> simp only [redact] at hredact <;> cases hredact
    rfl
  | number value =>
    cases right <;> simp only [redact] at hredact <;> cases hredact
    rfl
  | string value =>
    cases right <;> simp only [redact] at hredact <;> cases hredact
    rfl
  | array items ih =>
    cases right with
    | array others =>
      rw [redact, redact, Json.array.injEq] at hredact
      rw [secretValues, secretValues] at hsecrets
      rw [items_eq (fun item hitem other => ih item hitem) hredact hsecrets]
    | _ =>
      simp only [redact] at hredact
      cases hredact
  | object fields ih =>
    cases right with
    | object others =>
      rw [redact, redact, Json.object.injEq] at hredact
      rw [secretValues, secretValues] at hsecrets
      rw [fields_eq (fun field hfield other => ih field hfield) hredact hsecrets]
    | _ =>
      simp only [redact] at hredact
      cases hredact

end Secrets

/-! ## Redaction and the order of keys -/

section Sorting

variable {library : SecurityLibrary N}

/-- What redaction makes of a member. -/
def redactField (library : SecurityLibrary N) (field : String × Json N) : String × Json N :=
  (field.1, if isSecret library field.1 then .string "[REDACTED]" else redact library field.2)

theorem redactFields_eq_map (fields : List (String × Json N)) :
    redactFields library fields = fields.map (redactField library) := by
  induction fields with
  | nil => rfl
  | cons field fields ih => rw [redactFields, ih, List.map_cons, redactField]

theorem redactFields_sortKeys (fields : List (String × Json N)) :
    redactFields library (sortKeys fields) = sortKeys (redactFields library fields) := by
  rw [redactFields_eq_map, redactFields_eq_map]
  exact List.map_insertionSort _ _ _ _ fun _ _ _ _ => Iff.rfl

theorem redactItems_canonical {items : List (Json N)}
    (h : ∀ item ∈ items, redact library (canonical item) = canonical (redact library item)) :
    redactItems library (canonicalItems items) =
      canonicalItems (redactItems library items) := by
  induction items with
  | nil => rfl
  | cons item items ih =>
    rw [List.forall_mem_cons] at h
    rw [canonicalItems, redactItems, redactItems, canonicalItems, h.1, ih h.2]

theorem redactFields_canonical {fields : List (String × Json N)}
    (h : ∀ field ∈ fields,
      redact library (canonical field.2) = canonical (redact library field.2)) :
    redactFields library (canonicalFields fields) =
      canonicalFields (redactFields library fields) := by
  induction fields with
  | nil => rfl
  | cons field fields ih =>
    obtain ⟨key, item⟩ := field
    rw [List.forall_mem_cons] at h
    rw [canonicalFields, redactFields, redactFields, canonicalFields, ih h.2]
    cases isSecret library key with
    | true => rfl
    | false =>
      have hitem : redact library (canonical item) = canonical (redact library item) := h.1
      simp only [Bool.false_eq_true, if_false, hitem]

theorem redact_canonical (json : Json N) :
    redact library (canonical json) = canonical (redact library json) := by
  induction json using Json.induction with
  | null => rfl
  | bool value => rfl
  | number value => rfl
  | string value => rfl
  | array items ih =>
    rw [canonical, redact, redact, canonical, redactItems_canonical ih]
  | object fields ih =>
    rw [canonical, redact, redact, canonical, redactFields_sortKeys,
      redactFields_canonical ih]

end Sorting

/-! ## Requests up to secrets -/

namespace SecurityRequest

/-- The requests differ in nothing but secret values of their payloads. -/
structure SameButSecrets (library : SecurityLibrary N) (request other : SecurityRequest N) :
    Prop where
  fields : other = { request with payload := other.payload }
  payload : Alike library (.object request.payload) (.object other.payload)

/-- The secret values of the payload, in the order of the keys. -/
def secrets (library : SecurityLibrary N) (request : SecurityRequest N) : List (Json N) :=
  secretValues library (canonical (.object request.payload))

/-- What the fingerprint is made of. -/
def material (request : SecurityRequest N) : Json N :=
  .object
    [("organization_id", .string request.organizationId),
      ("role", .string request.role.value), ("ocs_id", .string request.ocsId),
      ("namespace", .string request.namespaceId), ("payload", .object request.payload),
      ("founder_sensitive", .bool request.founderSensitive)]

theorem fingerprint_eq (library : SecurityLibrary N) (request : SecurityRequest N) :
    request.fingerprint library = library.sha256 (library.dumps request.material) := rfl

theorem canonical_material (request : SecurityRequest N) :
    canonical request.material = .object
      [("founder_sensitive", .bool request.founderSensitive),
        ("namespace", .string request.namespaceId), ("ocs_id", .string request.ocsId),
        ("organization_id", .string request.organizationId),
        ("payload", canonical (.object request.payload)),
        ("role", .string request.role.value)] := by
  simp [material, canonical, canonicalFields, sortKeys, keyOrder]

/-- The requests agree in everything that is shown and fingerprinted. -/
structure SamePublic (library : SecurityLibrary N) (request other : SecurityRequest N) :
    Prop where
  organizationId : request.organizationId = other.organizationId
  role : request.role.value = other.role.value
  ocsId : request.ocsId = other.ocsId
  namespaceId : request.namespaceId = other.namespaceId
  founderSensitive : request.founderSensitive = other.founderSensitive
  payload : canonical (redact library (.object request.payload)) =
    canonical (redact library (.object other.payload))

theorem canonical_material_eq_iff (library : SecurityLibrary N)
    (request other : SecurityRequest N) :
    canonical request.material = canonical other.material ↔
      SamePublic library request other ∧ request.secrets library = other.secrets library := by
  rw [canonical_material, canonical_material]
  constructor
  · intro h
    simp only [Json.object.injEq, List.cons.injEq, Prod.mk.injEq, Json.bool.injEq,
      Json.string.injEq, true_and, and_true] at h
    obtain ⟨hfounder, hnamespace, hocs, horganization, hpayload, hrole⟩ := h
    refine ⟨⟨horganization, hrole, hocs, hnamespace, hfounder, ?_⟩, ?_⟩
    · rw [← redact_canonical, ← redact_canonical, hpayload]
    · rw [secrets, secrets, hpayload]
  · intro ⟨hpublic, hsecrets⟩
    have hredact : redact library (canonical (.object request.payload)) =
        redact library (canonical (.object other.payload)) := by
      rw [redact_canonical, redact_canonical]
      exact hpublic.payload
    rw [hpublic.organizationId, hpublic.role, hpublic.ocsId, hpublic.namespaceId,
      hpublic.founderSensitive, eq_of_redact hredact hsecrets]

section TwoRequests

variable {library : SecurityLibrary N} {request other : SecurityRequest N}

theorem SameButSecrets.redact_eq (h : SameButSecrets library request other) :
    redact library (.object request.payload) = redact library (.object other.payload) :=
  h.payload.redact_eq

theorem SameButSecrets.idempotencyKey_eq (h : SameButSecrets library request other) :
    other.idempotencyKey = request.idempotencyKey := by
  rw [h.fields]

theorem SameButSecrets.refusal_eq (h : SameButSecrets library request other) :
    other.refusal = request.refusal := by
  rw [h.fields]
  rfl

theorem SameButSecrets.uses_eq (h : SameButSecrets library request other) (key : String) :
    other.uses key = request.uses key := by
  rw [uses, uses, admitted, admitted, h.refusal_eq, h.idempotencyKey_eq]

theorem SameButSecrets.audit_eq (h : SameButSecrets library request other)
    (decision : SecurityDecision) (reason : Option String) :
    other.audit library decision reason = request.audit library decision reason := by
  rw [audit, audit, ← h.redact_eq, h.fields]

theorem SameButSecrets.deny_eq (h : SameButSecrets library request other) (reason : String) :
    other.deny library reason = request.deny library reason := by
  rw [deny, deny, h.audit_eq, h.fields]

theorem SameButSecrets.allow_eq (h : SameButSecrets library request other) (replay : Bool) :
    other.allow library replay = request.allow library replay := by
  rw [allow, allow, h.audit_eq, h.fields]

theorem SameButSecrets.samePublic_iff {first second : SecurityRequest N}
    (h : SameButSecrets library request other) (hfirst : SameButSecrets library first second) :
    SamePublic library first request ↔ SamePublic library second other := by
  have hrequest := h.redact_eq
  have hredact := hfirst.redact_eq
  constructor
  · intro hpublic
    refine ⟨?_, ?_, ?_, ?_, ?_, ?_⟩
    · rw [h.fields, hfirst.fields]
      exact hpublic.organizationId
    · rw [h.fields, hfirst.fields]
      exact hpublic.role
    · rw [h.fields, hfirst.fields]
      exact hpublic.ocsId
    · rw [h.fields, hfirst.fields]
      exact hpublic.namespaceId
    · rw [h.fields, hfirst.fields]
      exact hpublic.founderSensitive
    · rw [← hrequest, ← hredact]
      exact hpublic.payload
  · intro hpublic
    obtain ⟨horganization, hrole, hocs, hnamespace, hfounder, hpayload⟩ := hpublic
    rw [h.fields, hfirst.fields] at horganization hrole hocs hnamespace hfounder
    rw [← hrequest, ← hredact] at hpayload
    exact ⟨horganization, hrole, hocs, hnamespace, hfounder, hpayload⟩

end TwoRequests

end SecurityRequest

/-! ## Runs -/

/-- The readbacks of a sequence of requests. -/
def readbacks (library : SecurityLibrary N) :
    Guard → List (SecurityRequest N) → List (SecurityReadback N)
  | _, [] => []
  | guard, request :: requests =>
    let evaluated := guard.evaluate library request
    evaluated.2 :: readbacks library evaluated.1 requests

/-- What the library promises: documents are written with sorted keys, so that nothing else
is lost, and no two of the texts that are hashed have one digest. -/
structure Faithful (library : SecurityLibrary N) (requests : List (SecurityRequest N)) :
    Prop where
  dumps : ∀ left right : Json N,
    library.dumps left = library.dumps right ↔ canonical left = canonical right
  sha256 : ∀ request ∈ requests, ∀ other ∈ requests,
    library.sha256 (library.dumps request.material) =
      library.sha256 (library.dumps other.material) →
    library.dumps request.material = library.dumps other.material

/-- Two runs repeat their secrets alike: requests with one idempotency key have the same
secrets in one run just if they have in the other. -/
def RepeatAlike (library : SecurityLibrary N)
    (pairs : List (SecurityRequest N × SecurityRequest N)) : Prop :=
  ∀ first ∈ pairs, ∀ pair ∈ pairs, first.1.idempotencyKey = pair.1.idempotencyKey →
    (first.1.secrets library = pair.1.secrets library ↔
      first.2.secrets library = pair.2.secrets library)

section Runs

variable {library : SecurityLibrary N}

theorem Faithful.fingerprint_eq_iff {requests : List (SecurityRequest N)}
    (h : Faithful library requests) {request other : SecurityRequest N}
    (hrequest : request ∈ requests) (hother : other ∈ requests) :
    request.fingerprint library = other.fingerprint library ↔
      SecurityRequest.SamePublic library request other ∧
        request.secrets library = other.secrets library := by
  rw [← SecurityRequest.canonical_material_eq_iff, ← h.dumps]
  constructor
  · exact h.sha256 request hrequest other hother
  · intro hdumps
    rw [SecurityRequest.fingerprint_eq, SecurityRequest.fingerprint_eq, hdumps]

/-- Guards that have stored corresponding fingerprints give corresponding requests the same
answer. -/
theorem evaluate_eq {request other : SecurityRequest N} {guard alone : Guard}
    (h : SecurityRequest.SameButSecrets library request other)
    (hnone : guard.lookup request.idempotencyKey = none ↔
      alone.lookup request.idempotencyKey = none)
    (hsome : ∀ stored kept, guard.lookup request.idempotencyKey = some stored →
      alone.lookup request.idempotencyKey = some kept →
      (stored = request.fingerprint library ↔ kept = other.fingerprint library)) :
    (guard.evaluate library request).2 = (alone.evaluate library other).2 := by
  rw [Guard.evaluate, Guard.evaluate, h.refusal_eq, h.idempotencyKey_eq]
  cases request.refusal with
  | some reason => exact (h.deny_eq reason).symm
  | none =>
    cases hguard : guard.lookup request.idempotencyKey with
    | none =>
      rw [hnone.mp hguard]
      exact (h.allow_eq false).symm
    | some stored =>
      cases halone : alone.lookup request.idempotencyKey with
      | none =>
        rw [hnone.mpr halone] at hguard
        cases hguard
      | some kept =>
        have hsame := hsome stored kept hguard halone
        by_cases hstored : stored = request.fingerprint library
        · simp only [hstored, hsame.mp hstored, ne_eq, not_true_eq_false, if_false]
          exact (h.allow_eq true).symm
        · simp only [ne_eq, hstored, mt hsame.mpr hstored, not_false_eq_true, if_true]
          exact (h.deny_eq _).symm

variable {pairs : List (SecurityRequest N × SecurityRequest N)}

theorem find?_uses
    (h : ∀ pair ∈ pairs, SecurityRequest.SameButSecrets library pair.1 pair.2)
    (key : String) :
    (pairs.find? fun pair => pair.2.uses key) = pairs.find? fun pair => pair.1.uses key := by
  induction pairs with
  | nil => rfl
  | cons pair pairs ih =>
    rw [List.forall_mem_cons] at h
    rw [List.find?_cons, List.find?_cons, h.1.uses_eq key, ih h.2]

theorem lookup_pairs
    (h : ∀ pair ∈ pairs, SecurityRequest.SameButSecrets library pair.1 pair.2)
    (key : String) :
    (Guard.after library (pairs.map Prod.fst)).lookup key =
        (pairs.find? fun pair => pair.1.uses key).map (·.1.fingerprint library) ∧
      (Guard.after library (pairs.map Prod.snd)).lookup key =
        (pairs.find? fun pair => pair.1.uses key).map (·.2.fingerprint library) := by
  constructor
  · rw [Guard.lookup_after, List.find?_map, Option.map_map]
    rfl
  · rw [Guard.lookup_after, List.find?_map, Option.map_map, ← find?_uses h]
    rfl

theorem evaluate_after_eq
    {pair : SecurityRequest N × SecurityRequest N}
    {requests : List (SecurityRequest N)}
    (hfaithful : Faithful library requests)
    (hmem : ∀ first ∈ pairs ++ [pair], first.1 ∈ requests ∧ first.2 ∈ requests)
    (h : ∀ first ∈ pairs ++ [pair],
      SecurityRequest.SameButSecrets library first.1 first.2)
    (hrepeat : RepeatAlike library (pairs ++ [pair])) :
    ((Guard.after library (pairs.map Prod.fst)).evaluate library pair.1).2 =
      ((Guard.after library (pairs.map Prod.snd)).evaluate library pair.2).2 := by
  have hlast : pair ∈ pairs ++ [pair] := List.mem_append_right _ (List.mem_singleton_self pair)
  have hseen : ∀ first ∈ pairs,
      SecurityRequest.SameButSecrets library first.1 first.2 := fun first hfirst =>
    h first (List.mem_append_left _ hfirst)
  obtain ⟨hguard, halone⟩ := lookup_pairs hseen pair.1.idempotencyKey
  apply evaluate_eq (h pair hlast)
  · rw [hguard, halone, Option.map_eq_none_iff, Option.map_eq_none_iff]
  · intro stored kept hstored hkept
    rw [hguard] at hstored
    rw [halone] at hkept
    cases hfind : pairs.find? fun first => first.1.uses pair.1.idempotencyKey with
    | none =>
      rw [hfind] at hstored
      cases hstored
    | some first =>
      rw [hfind] at hstored hkept
      cases hstored
      cases hkept
      have hfirst : first ∈ pairs ++ [pair] :=
        List.mem_append_left _ (List.mem_of_find?_eq_some hfind)
      have huses : first.1.uses pair.1.idempotencyKey = true := by
        simpa using List.find?_some hfind
      rw [SecurityRequest.uses, Bool.and_eq_true, decide_eq_true_eq] at huses
      rw [hfaithful.fingerprint_eq_iff (hmem first hfirst).1 (hmem pair hlast).1,
        hfaithful.fingerprint_eq_iff (hmem first hfirst).2 (hmem pair hlast).2,
        (h pair hlast).samePublic_iff (h first hfirst),
        hrepeat first hfirst pair hlast huses.2]

theorem readbacks_concat (guard : Guard) (requests : List (SecurityRequest N))
    (request : SecurityRequest N) :
    readbacks library guard (requests ++ [request]) =
      readbacks library guard requests ++
        [((run (fun guard request => (guard.evaluate library request).1) guard
          requests).evaluate library request).2] := by
  induction requests generalizing guard with
  | nil => rfl
  | cons first requests ih =>
    rw [List.cons_append, readbacks, readbacks, ih, run_cons, List.cons_append]

end Runs

/-! ## A password that is repeated -/

/-- A library that writes compact texts and keeps them as their own digests. -/
def plainLibrary : SecurityLibrary ℤ where
  casefold text := String.ofList (text.toList.map Char.toLower)
  dumps json := String.ofList (JsonText.write JsonText.integerFormat .compact (canonical json))
  sha256 text := text

def passwordRequest (password : String) : SecurityRequest ℤ where
  requestId := "r"
  organizationId := "org"
  expectedOrganizationId := "org"
  role := .owner
  ocsId := "SOFIA"
  namespaceId := "state://sofia/r2-v0.1.0"
  idempotencyKey := "k"
  payload := [("login", .object [("user", .string "u"), ("PassWord", .string password)])]
  founderSensitive := false

theorem faithful_plainLibrary (requests : List (SecurityRequest ℤ)) :
    Faithful plainLibrary requests := by
  apply Faithful.mk
  · intro left right
    constructor
    · intro h
      exact JsonText.write_injective _ _ (String.ofList_injective h)
    · intro h
      simp only [plainLibrary, h]
  · exact fun _ _ _ _ h => h

theorem alike_passwordRequest (password other : String) :
    SecurityRequest.SameButSecrets plainLibrary (passwordRequest password)
      (passwordRequest other) := by
  have hsecret : isSecret plainLibrary "PassWord" = true := by decide
  refine ⟨rfl, ?_⟩
  simp only [passwordRequest, Alike, AlikeFields, hsecret]
  simp

def passwordPairs : List (SecurityRequest ℤ × SecurityRequest ℤ) :=
  [(passwordRequest "a", passwordRequest "b"), (passwordRequest "a", passwordRequest "b")]

theorem mem_passwordPairs {pair : SecurityRequest ℤ × SecurityRequest ℤ}
    (h : pair ∈ passwordPairs) : pair = (passwordRequest "a", passwordRequest "b") := by
  simpa [passwordPairs] using h

end ReisOs.Command
