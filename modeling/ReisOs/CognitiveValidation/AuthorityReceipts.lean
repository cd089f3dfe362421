import ReisOs.CognitiveValidation.ActionReceipts
import ReisOs.Core.Dict

/-!
# Authority receipts

An authority receipt is good for as long as the grant that it names.  The registry keeps
every grant that it has registered, so a revocation is final.
-/

namespace ReisOs.CognitiveValidation.AuthorityReceipts

open ReisOs.Core ActionReceipts

structure AuthorityGrant where
  (authorityId missionId ocsId capabilityId adapterVersion operationClass : String)
  policyVersion : String
  authorityRequirements : List String
  (validFrom validUntil : ℚ)
  revoked : Bool

/-- `validate`. -/
def AuthorityGrant.failure (grant : AuthorityGrant) : Option String :=
  firstFailure <|
    ([("authority_id", grant.authorityId), ("mission_id", grant.missionId),
      ("ocs_id", grant.ocsId), ("capability_id", grant.capabilityId),
      ("adapter_version", grant.adapterVersion), ("operation_class", grant.operationClass),
      ("policy_version", grant.policyVersion)].map fun field =>
        (isBlankText field.2, "authority_" ++ field.1 ++ "_required")) ++
    [(decide (grant.operationClass ∉
          ["CLASS_0", "CLASS_1", "CLASS_2", "CLASS_3", "CLASS_4"]),
        "authority_operation_class_invalid"),
      (decide (grant.authorityRequirements = []) ||
          grant.authorityRequirements.any isBlankText, "authority_requirements_required"),
      (decide (grant.validUntil ≤ grant.validFrom), "authority_invalid_lifetime")]

/-- The `unsigned_payload` of an authority receipt. -/
structure AuthorityPayload where
  (receiptId authorityId actionReceiptId missionId ocsId capabilityId : String)
  (adapterVersion operationClass policyVersion actionDigest : String)
  (issuedAt expiresAt : ℚ)
  (nonce status : String)

structure AuthorityReceipt extends AuthorityPayload where
  (integrityHash signature : String)

/-- `InstitutionalAuthorityRegistry`. -/
abbrev Registry := Dict String AuthorityGrant

namespace Registry

def register (registry : Registry) (grant : AuthorityGrant) : Except String Registry :=
  match grant.failure with
  | some text => .error text
  | none =>
    if (registry.lookup grant.authorityId).isSome then
      .error "authority_duplicate_registration"
    else .ok (registry.insert grant.authorityId grant)

def revoke (registry : Registry) (authorityId : String) : Except String Registry :=
  match registry.lookup authorityId with
  | none => .error "authority_not_registered"
  | some grant => .ok (registry.insert authorityId { grant with revoked := true })

def resolve (registry : Registry) (authorityId : String) : Except String AuthorityGrant :=
  match registry.lookup authorityId with
  | none => .error "authority_not_registered"
  | some grant =>
    match grant.failure with
    | some text => .error text
    | none => .ok grant

/-- `verify_authority_receipt`, with `_digest` and the HMAC under the secret. -/
def verifyAuthorityReceipt (registry : Registry) (digest : AuthorityPayload → String)
    (hmac : String → String) (receipt : AuthorityReceipt) (action : ActionCognitiveReceipt)
    (now : ℚ) : Bool :=
  receipt.status = "AUTHORIZED" && receipt.actionReceiptId = action.receiptId &&
    now < receipt.expiresAt &&
      match registry.resolve receipt.authorityId with
      | .error _ => false
      | .ok grant =>
        !(grant.revoked || now < grant.validFrom || grant.validUntil ≤ now) &&
          receipt.integrityHash = digest receipt.toAuthorityPayload &&
            receipt.signature = hmac (digest receipt.toAuthorityPayload)

inductive Operation where
  | register (grant : AuthorityGrant)
  | revoke (authorityId : String)

/-- The registry after an operation; one that raises changes nothing. -/
def apply (registry : Registry) : Operation → Registry
  | .register grant => (registry.register grant).toOption.getD registry
  | .revoke authorityId => (registry.revoke authorityId).toOption.getD registry

def Revoked (registry : Registry) (authorityId : String) : Prop :=
  ∃ grant, registry.lookup authorityId = some grant ∧ grant.revoked = true

theorem Revoked.apply {registry : Registry} {authorityId : String}
    (h : registry.Revoked authorityId) (operation : Operation) :
    (registry.apply operation).Revoked authorityId := by
  obtain ⟨grant, hlookup, hrevoked⟩ := h
  cases operation with
  | register other =>
    rw [Registry.apply]
    cases hnext : registry.register other with
    | error text => exact ⟨grant, hlookup, hrevoked⟩
    | ok next =>
      rw [register] at hnext
      split at hnext
      · cases hnext
      · split_ifs at hnext with hknown
        cases hnext
        refine ⟨grant, (Dict.lookup_insert_eq ..).trans ?_, hrevoked⟩
        rw [if_neg, hlookup]
        rintro rfl
        simp [hlookup] at hknown
  | revoke other =>
    rw [Registry.apply, revoke]
    cases hother : registry.lookup other with
    | none => exact ⟨grant, hlookup, hrevoked⟩
    | some found =>
      by_cases hsame : authorityId = other
      · exact ⟨_, (Dict.lookup_insert_eq ..).trans (if_pos hsame), rfl⟩
      · exact ⟨grant, (Dict.lookup_insert_eq ..).trans ((if_neg hsame).trans hlookup), hrevoked⟩

/-- A revocation is final: unless the authority was unknown to it, no receipt that names the
authority verifies at any time, whatever is registered and revoked later. -/
theorem revoked_forever (before later : List Operation) (digest : AuthorityPayload → String)
    (hmac : String → String) (receipt : AuthorityReceipt) (action : ActionCognitiveReceipt)
    (now : ℚ) :
    (run apply ∅ before).lookup receipt.authorityId = none ∨
      verifyAuthorityReceipt
        (run apply ∅ (before ++ .revoke receipt.authorityId :: later)) digest hmac receipt
        action now = false := by
  cases hlookup : (run apply ∅ before).lookup receipt.authorityId with
  | none => exact .inl rfl
  | some grant =>
    have hrevoked : Revoked (run apply ∅ (before ++ .revoke receipt.authorityId :: later))
        receipt.authorityId := by
      rw [run_append, run_cons]
      apply run_invariant (Revoked · receipt.authorityId) fun _ next h => h.apply next
      exact ⟨{ grant with revoked := true }, by simp [apply, revoke, hlookup, Except.toOption],
        rfl⟩
    obtain ⟨found, hfound, hflag⟩ := hrevoked
    right
    simp only [verifyAuthorityReceipt, resolve, hfound]
    cases found.failure <;> simp [hflag]

end Registry

end ReisOs.CognitiveValidation.AuthorityReceipts
