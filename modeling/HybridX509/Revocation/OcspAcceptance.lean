import HybridX509.Lib.Registry
import HybridX509.Revocation.Ocsp

/-! # Acceptance by an OCSP response

Each check of `ocsp.rs` restated over the parsed response, and the conjunction that
a passing revocation check amounts to. The search for a delegated responder walks
certificates that the responder supplies; it ends in acceptance only if exactly one
of them can be the responder.
-/

namespace HybridX509.Revocation.Ocsp

open Lib X509

/-! ## Freshness -/

/-- Freshness over unbounded integers. -/
structure Fresh (basic : BasicOcspResponse) (single : SingleResponse) (validationTimestamp : Int64)
    (maxAge clockSkew : UInt64) : Prop where
  nonneg : 0 ≤ validationTimestamp.toInt
  producedAt : basic.tbsResponseData.producedAt.toNat ≤
    validationTimestamp.toInt + clockSkew.toNat
  thisUpdate : single.thisUpdate.toNat ≤ validationTimestamp.toInt + clockSkew.toNat
  age : validationTimestamp.toInt - single.thisUpdate.toNat ≤ maxAge.toNat
  nextUpdate : ∀ next, single.nextUpdate = some next →
    validationTimestamp.toInt ≤ next.toNat + clockSkew.toNat

theorem isFresh_iff {basic : BasicOcspResponse} {single : SingleResponse}
    {validationTimestamp : Int64} {maxAge clockSkew : UInt64} :
    isFresh basic single validationTimestamp maxAge clockSkew = true ↔
      Fresh basic single validationTimestamp maxAge clockSkew := by
  unfold isFresh
  cases converted : u64TryFrom validationTimestamp with
  | none =>
      have negative := u64TryFrom_eq_none_iff.mp converted
      simp only [Bool.false_eq_true, false_iff]
      intro fresh
      have nonneg := fresh.nonneg
      omega
  | some validation =>
      have value := toInt_of_u64TryFrom converted
      have bounds : (decide (saturatingAdd validation clockSkew < basic.tbsResponseData.producedAt)
          || decide (saturatingAdd validation clockSkew < single.thisUpdate)
          || decide (maxAge < saturatingSub validation single.thisUpdate)) = false ↔
            basic.tbsResponseData.producedAt.toNat ≤ validation.toNat + clockSkew.toNat ∧
            single.thisUpdate.toNat ≤ validation.toNat + clockSkew.toNat ∧
            validation.toNat ≤ maxAge.toNat + single.thisUpdate.toNat := by
        simp only [Bool.or_eq_false_iff, decide_eq_false_iff_not, UInt64.not_lt,
          le_saturatingAdd_iff, saturatingSub_le_iff, and_assoc]
      simp only
      split
      · next stale =>
          simp only [Bool.false_eq_true, false_iff]
          intro fresh
          have produced := fresh.producedAt
          have thisUpdate := fresh.thisUpdate
          have age := fresh.age
          exact absurd (bounds.mpr ⟨by omega, by omega, by omega⟩) (by simp [stale])
      · next current =>
          obtain ⟨produced, thisUpdate, age⟩ := bounds.mp (Bool.not_eq_true _ ▸ current)
          simp only [Option.all_eq_true, decide_eq_true_eq, le_saturatingAdd_iff]
          constructor
          · intro next
            refine ⟨by omega, by omega, by omega, by omega, fun update found => ?_⟩
            have bound := next update found
            omega
          · intro fresh update found
            have bound := fresh.nextUpdate update found
            omega

/-- A longer age or a wider skew accepts no less. -/
theorem Fresh.mono {basic : BasicOcspResponse} {single : SingleResponse}
    {validationTimestamp : Int64} {maxAge clockSkew maxAge' clockSkew' : UInt64}
    (fresh : Fresh basic single validationTimestamp maxAge clockSkew) (age : maxAge ≤ maxAge')
    (skew : clockSkew ≤ clockSkew') :
    Fresh basic single validationTimestamp maxAge' clockSkew' := by
  rw [UInt64.le_iff_toNat_le] at age skew
  obtain ⟨nonneg, producedAt, thisUpdate, withinAge, nextUpdate⟩ := fresh
  refine ⟨nonneg, by omega, by omega, by omega, fun next found => ?_⟩
  have bound := nextUpdate next found
  omega

/-- `is_fresh` decides freshness over unbounded integers, whatever saturates on the
    way, and is monotone in both limits of the policy. -/
theorem isFresh_exact (basic : BasicOcspResponse) (single : SingleResponse)
    (validationTimestamp : Int64) (maxAge clockSkew : UInt64) :
    (isFresh basic single validationTimestamp maxAge clockSkew = true ↔
      0 ≤ validationTimestamp.toInt ∧
      basic.tbsResponseData.producedAt.toNat ≤ validationTimestamp.toInt + clockSkew.toNat ∧
      single.thisUpdate.toNat ≤ validationTimestamp.toInt + clockSkew.toNat ∧
      validationTimestamp.toInt - single.thisUpdate.toNat ≤ maxAge.toNat ∧
      (single.nextUpdate = none ∨ ∃ next, single.nextUpdate = some next ∧
        validationTimestamp.toInt ≤ next.toNat + clockSkew.toNat)) ∧
    ∀ maxAge' clockSkew', maxAge ≤ maxAge' → clockSkew ≤ clockSkew' →
      isFresh basic single validationTimestamp maxAge clockSkew = true →
      isFresh basic single validationTimestamp maxAge' clockSkew' = true := by
  refine ⟨?_, ?_⟩
  · rw [isFresh_iff]
    constructor
    · intro ⟨nonneg, producedAt, thisUpdate, age, nextUpdate⟩
      refine ⟨nonneg, producedAt, thisUpdate, age, ?_⟩
      cases found : single.nextUpdate with
      | none => exact .inl rfl
      | some next => exact .inr ⟨next, rfl, nextUpdate next found⟩
    · intro ⟨nonneg, producedAt, thisUpdate, age, nextUpdate⟩
      refine ⟨nonneg, producedAt, thisUpdate, age, fun next found => ?_⟩
      rcases nextUpdate with absent | ⟨other, present, bound⟩
      · simp [absent] at found
      · obtain rfl : other = next := Option.some.inj (present.symm.trans found)
        exact bound
  · intro maxAge' clockSkew' age skew fresh
    exact isFresh_iff.mpr ((isFresh_iff.mp fresh).mono age skew)

/-! ## Extensions and nonce -/

/-- Extensions with pairwise different identifiers, none of them critical. -/
def Plain (extensions : List OcspExtension) : Prop :=
  (extensions.map (·.extnId)).Nodup ∧ ∀ extension ∈ extensions, extension.critical = false

theorem extensionRefused_eq_false_iff {seen : List String} {extensions : List OcspExtension} :
    extensionRefused seen extensions = false ↔
      Plain extensions ∧ ∀ extension ∈ extensions, extension.extnId ∉ seen := by
  induction extensions generalizing seen with
  | nil => simp [extensionRefused, Plain]
  | cons head rest ih =>
      simp only [extensionRefused, Bool.or_eq_false_iff, decide_eq_false_iff_not, ih, Plain,
        List.map_cons, List.nodup_cons, List.mem_map, List.mem_cons, forall_eq_or_imp, not_or,
        not_exists, not_and]
      constructor
      · intro ⟨⟨unseen, plain⟩, ⟨distinct, plains⟩, others⟩
        exact ⟨⟨⟨fun extension member => (others extension member).1, distinct⟩, plain, plains⟩,
          unseen, fun extension member => (others extension member).2⟩
      · intro ⟨⟨⟨different, distinct⟩, plain, plains⟩, unseen, others⟩
        exact ⟨⟨unseen, plain⟩, ⟨distinct, plains⟩, fun extension member =>
          ⟨different extension member, others extension member⟩⟩

/-- The extensions of the response and of every single response are plain. -/
def ExtensionsPlain (basic : BasicOcspResponse) : Prop :=
  Plain (basic.tbsResponseData.responseExtensions.getD []) ∧
    ∀ single ∈ basic.tbsResponseData.responses, Plain (single.singleExtensions.getD [])

theorem ocspExtensionsValid_iff {basic : BasicOcspResponse} :
    ocspExtensionsValid basic = true ↔ ExtensionsPlain basic := by
  have unseen {extensions : List OcspExtension} :
      extensionRefused [] extensions = false ↔ Plain extensions := by
    simp [extensionRefused_eq_false_iff]
  simp only [ocspExtensionsValid, ExtensionsPlain, ← unseen]
  split <;> simp_all

/-- The one nonce of the response is the expected one. -/
def NonceMatches (lib : Library) (basic : BasicOcspResponse) (expected : List UInt8) : Prop :=
  ∃ extension, OnlyAt (·.extnId = OCSP_NONCE_OID)
      (basic.tbsResponseData.responseExtensions.getD []) extension ∧
    lib.nonceFromDer extension.extnValue = some expected

theorem state_eq_pass_iff {value : Bool} : state value = .pass ↔ value = true := by
  cases value <;> simp [state]

theorem checkNonce_eq_pass_iff {lib : Library} {basic : BasicOcspResponse}
    {expected : List UInt8} :
    checkNonce lib basic (some expected) = .pass ↔ NonceMatches lib basic expected := by
  have single {extension : OcspExtension} := @filter_eq_singleton_iff _
    (fun extension : OcspExtension => extension.extnId == OCSP_NONCE_OID)
    (basic.tbsResponseData.responseExtensions.getD []) extension
  simp only [beq_iff_eq] at single
  simp only [checkNonce, NonceMatches, ← single]
  split
  · next extension found =>
      simp only [found, List.cons.injEq, and_true]
      cases decoded : lib.nonceFromDer extension.extnValue with
      | none => simp [decoded]
      | some nonce => simp [decoded, state_eq_pass_iff]
  · next others =>
      simp only [reduceCtorEq, false_iff]
      intro ⟨extension, found, _⟩
      exact others extension found

/-! ## Responder -/

/-- The certificate is the one the response names as its responder. -/
def RespondedBy (lib : Library) (basic : BasicOcspResponse) (certificate : X509Certificate) :
    Prop :=
  match basic.tbsResponseData.responderId with
  | .byName toDer => toDer = some certificate.subject.asRaw
  | .byKey keyHash => lib.sha1 certificate.publicKey.subjectPublicKey.data = keyHash

/-- The signature of the response verifies under the key of the certificate. -/
def SignedBy (lib : Library) (basic : BasicOcspResponse) (signer : X509Certificate) : Prop :=
  ∃ algorithmDer algorithm signature signedData,
    basic.signatureAlgorithmToDer = some algorithmDer ∧
    lib.algorithmIdentifierFromDer algorithmDer = some ([], algorithm) ∧
    basic.signature.asBytes = some signature ∧
    basic.tbsResponseData.toDer = some signedData ∧
    lib.verifySignature signer.publicKey algorithm (.new signature) signedData = .ok ()

/-- The certificate names the issuer and is signed by it, with one algorithm. -/
structure IssuedBy (lib : Library) (certificate issuer : X509Certificate) : Prop where
  name : certificate.issuer = issuer.subject
  algorithm : certificate.signatureAlgorithm = certificate.tbsSignature
  signature : certificate.verifySignature lib issuer.publicKey = .ok ()

/-- A certificate that may answer for the issuer at the given time. -/
structure Delegated (lib : Library) (responder issuer : X509Certificate)
    (validationTimestamp : Int64) (policy : OcspPolicy) : Prop where
  issued : IssuedBy lib responder issuer
  represented : lib.asn1TimeRepresents validationTimestamp = true
  notBefore : responder.validity.notBefore ≤ validationTimestamp
  notAfter : validationTimestamp ≤ responder.validity.notAfter
  ocspSigning : ∃ usage, responder.extendedKeyUsage = .ok (some usage) ∧ usage.ocspSigning = true
  keyUsage : responder.keyUsage = .ok none ∨
    ∃ usage, responder.keyUsage = .ok (some usage) ∧ usage.digitalSignature = true
  unrevoked : (∃ extension ∈ responder.extensions,
      extension.critical = false ∧ extension.oid = OCSP_NOCHECK_OID) ∨
    ∃ check, policy.delegatedResponderRevocation = some check ∧ check.state = .pass

theorem responderMatchesCertificate_iff {lib : Library} {basic : BasicOcspResponse}
    {certificate : X509Certificate} :
    responderMatchesCertificate lib basic certificate = true ↔
      RespondedBy lib basic certificate := by
  unfold responderMatchesCertificate RespondedBy
  cases basic.tbsResponseData.responderId with
  | byName toDer => cases toDer <;> simp
  | byKey keyHash => simp

theorem cryptoState_eq_pass_iff {outcome : Except X509Error Unit} :
    cryptoState outcome = .pass ↔ outcome = .ok () := by
  cases outcome with
  | ok => simp [cryptoState]
  | error error => cases error <;> simp [cryptoState]

theorem issuerState_eq_pass_iff {lib : Library} {certificate issuer : X509Certificate} :
    issuerState lib certificate issuer = .pass ↔ IssuedBy lib certificate issuer := by
  unfold issuerState
  split
  · next differs =>
      simp only [reduceCtorEq, false_iff]
      intro issued
      rcases differs with name | algorithm
      · exact name issued.name
      · exact algorithm issued.algorithm
  · next same =>
      rw [not_or, not_not, not_not] at same
      rw [cryptoState_eq_pass_iff]
      exact ⟨fun signature => ⟨same.1, same.2, signature⟩, fun issued => issued.signature⟩

theorem basicSignatureState_pass_iff {lib : Library} {basic : BasicOcspResponse}
    {signer : X509Certificate} :
    basicSignatureState lib basic signer = .ok .pass ↔ SignedBy lib basic signer := by
  simp only [basicSignatureState, bind_ok_iff, orFail_ok_iff, parseComplete_ok_iff, pure_ok_iff,
    cryptoState_eq_pass_iff, SignedBy]
  constructor
  · rintro ⟨algorithmDer, encoded, algorithm, parsed, signature, bytes, signedData, data, verified⟩
    exact ⟨algorithmDer, algorithm, signature, signedData, encoded, parsed, bytes, data, verified⟩
  · rintro ⟨algorithmDer, algorithm, signature, signedData, encoded, parsed, bytes, data, verified⟩
    exact ⟨algorithmDer, encoded, algorithm, parsed, signature, bytes, signedData, data, verified⟩

theorem delegatedUsageState_eq_pass_iff {responder : X509Certificate} {policy : OcspPolicy} :
    delegatedUsageState responder policy = .pass ↔
      (∃ usage, responder.extendedKeyUsage = .ok (some usage) ∧ usage.ocspSigning = true) ∧
      (responder.keyUsage = .ok none ∨
        ∃ usage, responder.keyUsage = .ok (some usage) ∧ usage.digitalSignature = true) ∧
      ((∃ extension ∈ responder.extensions,
          extension.critical = false ∧ extension.oid = OCSP_NOCHECK_OID) ∨
        ∃ check, policy.delegatedResponderRevocation = some check ∧ check.state = .pass) := by
  have unrevoked : (responderHasOcspNocheck responder
      || policy.delegatedResponderRevocation.any (·.state == .pass)) = true ↔
        (∃ extension ∈ responder.extensions,
          extension.critical = false ∧ extension.oid = OCSP_NOCHECK_OID) ∨
        ∃ check, policy.delegatedResponderRevocation = some check ∧ check.state = .pass := by
    simp [responderHasOcspNocheck, Option.any_eq_true]
  rw [← unrevoked]
  simp only [delegatedUsageState]
  generalize (responderHasOcspNocheck responder
    || policy.delegatedResponderRevocation.any (·.state == .pass)) = accepted
  cases responder.extendedKeyUsage with
  | error => simp
  | ok extended =>
      cases extended with
      | none => simp
      | some extended =>
          cases responder.keyUsage with
          | error => simp
          | ok usage =>
              cases usage with
              | none =>
                  cases accepted <;> cases signing : extended.ocspSigning <;> simp [signing]
              | some usage =>
                  cases accepted <;> cases signing : extended.ocspSigning <;>
                    cases digital : usage.digitalSignature <;> simp [signing, digital]

theorem delegatedResponderState_eq_pass_iff {lib : Library} {responder issuer : X509Certificate}
    {validationTimestamp : Int64} {policy : OcspPolicy} :
    delegatedResponderState lib responder issuer validationTimestamp policy = .pass ↔
      Delegated lib responder issuer validationTimestamp policy := by
  have fallThrough {p : Prop} [Decidable p] {other rest : CheckState} (stops : other ≠ .pass) :
      (if p then other else rest) = .pass ↔ ¬ p ∧ rest = .pass := by
    by_cases holds : p <;> simp [holds, stops]
  have signature : (if cryptoState (responder.verifySignature lib issuer.publicKey) ≠ .pass then
        cryptoState (responder.verifySignature lib issuer.publicKey)
      else if lib.asn1TimeRepresents validationTimestamp = false then .fail
      else if responder.validity.isValidAt validationTimestamp = false then .fail
      else delegatedUsageState responder policy) = .pass ↔
        responder.verifySignature lib issuer.publicKey = .ok () ∧
          lib.asn1TimeRepresents validationTimestamp = true ∧
          responder.validity.isValidAt validationTimestamp = true ∧
          delegatedUsageState responder policy = .pass := by
    rw [← cryptoState_eq_pass_iff]
    by_cases verified : cryptoState (responder.verifySignature lib issuer.publicKey) = .pass
    · rw [if_neg (not_not.mpr verified), fallThrough (by decide), fallThrough (by decide),
        Bool.not_eq_false, Bool.not_eq_false]
      exact (and_iff_right verified).symm
    · rw [if_pos verified]
      exact iff_of_false verified fun passes => verified passes.1
  simp only [delegatedResponderState]
  rw [fallThrough (by decide), not_or, not_not, not_not, signature,
    delegatedUsageState_eq_pass_iff]
  simp only [Validity.isValidAt, Bool.and_eq_true, decide_eq_true_eq]
  constructor
  · intro ⟨⟨name, algorithm⟩, verified, represented, ⟨notBefore, notAfter⟩, extended, usage,
      revocation⟩
    exact ⟨⟨name, algorithm, verified⟩, represented, notBefore, notAfter, extended, usage,
      revocation⟩
  · intro delegated
    exact ⟨⟨delegated.issued.name, delegated.issued.algorithm⟩, delegated.issued.signature,
      delegated.represented, ⟨delegated.notBefore, delegated.notAfter⟩, delegated.ocspSigning,
      delegated.keyUsage, delegated.unrevoked⟩

/-! ## The search for a delegated responder -/

/-- An embedded certificate that could be the responder: it is encoded, parses to
    the end and is named by the response. -/
def Candidate (lib : Library) (basic : BasicOcspResponse) (embedded : Option (List UInt8))
    (certificate : X509Certificate) : Prop :=
  ∃ der, embedded = some der ∧ lib.certificateFromDer der = some ([], certificate) ∧
    RespondedBy lib basic certificate

/-- The candidate in an encoding, as the loop finds it. -/
def candidate? (lib : Library) (basic : BasicOcspResponse) (encoded : List UInt8) :
    Option X509Certificate :=
  (lib.certificateFromDer encoded).bind fun (remaining, certificate) =>
    if remaining = [] ∧ responderMatchesCertificate lib basic certificate = true then
      some certificate
    else none

theorem candidate?_eq_some_iff {lib : Library} {basic : BasicOcspResponse}
    {encoded : List UInt8} {certificate : X509Certificate} :
    candidate? lib basic encoded = some certificate ↔
      lib.certificateFromDer encoded = some ([], certificate) ∧
        RespondedBy lib basic certificate := by
  simp only [candidate?, Option.bind_eq_some_iff, Option.ite_none_right_eq_some,
    Option.some.injEq, Prod.exists, responderMatchesCertificate_iff]
  constructor
  · rintro ⟨_, _, parsed, ⟨rfl, responded⟩, rfl⟩
    exact ⟨parsed, responded⟩
  · intro ⟨parsed, responded⟩
    exact ⟨[], certificate, parsed, ⟨rfl, responded⟩, rfl⟩

section Search

variable {lib : Library} {basic : BasicOcspResponse} {issuer : X509Certificate}
  {validationTimestamp : Int64} {policy : OcspPolicy}

/-- One step of the loop, by whether the encoding holds a candidate. -/
theorem searchResponder_cons (found : Option (CheckState × CheckState)) (encoded : List UInt8)
    (rest : List (List UInt8)) :
    searchResponder lib basic issuer validationTimestamp policy found (encoded :: rest) =
      match candidate? lib basic encoded with
      | none => searchResponder lib basic issuer validationTimestamp policy found rest
      | some candidate =>
          if found.isSome then .ok (.fail, .indeterminate)
          else basicSignatureState lib basic candidate >>= fun signature =>
            searchResponder lib basic issuer validationTimestamp policy
              (some (delegatedResponderState lib candidate issuer validationTimestamp policy,
                signature)) rest := by
  rw [searchResponder, candidate?]
  cases parsed : lib.certificateFromDer encoded with
  | none => rfl
  | some value =>
      obtain ⟨remaining, candidate⟩ := value
      by_cases whole : remaining = []
      · cases responded : responderMatchesCertificate lib basic candidate <;>
          simp [whole, responded]
      · simp [whole]

/-- Once a responder was found, another candidate spoils it. -/
theorem searchResponder_found (states : CheckState × CheckState) (encodings : List (List UInt8)) :
    searchResponder lib basic issuer validationTimestamp policy (some states) encodings =
      .ok (if encodings.filterMap (candidate? lib basic) = [] then states
        else (.fail, .indeterminate)) := by
  induction encodings with
  | nil => rfl
  | cons encoded rest ih =>
      rw [searchResponder_cons]
      cases found : candidate? lib basic encoded with
      | none => simp [ih, found]
      | some candidate => simp [found]

/-- The search passes exactly on one candidate that is delegated and signed. -/
theorem searchResponder_pass_iff {encodings : List (List UInt8)} :
    searchResponder lib basic issuer validationTimestamp policy none encodings =
        .ok (.pass, .pass) ↔
      ∃ responder, encodings.filterMap (candidate? lib basic) = [responder] ∧
        Delegated lib responder issuer validationTimestamp policy ∧
        SignedBy lib basic responder := by
  induction encodings with
  | nil => simp [searchResponder]
  | cons encoded rest ih =>
      rw [searchResponder_cons]
      cases found : candidate? lib basic encoded with
      | none => simpa [List.filterMap_cons, found] using ih
      | some candidate =>
          simp only [Option.isSome_none, Bool.false_eq_true, if_false, bind_ok_iff,
            searchResponder_found, Except.ok.injEq, List.filterMap_cons, found, List.cons.injEq]
          constructor
          · intro ⟨signature, signed, states⟩
            split at states
            · next alone =>
                obtain ⟨delegated, rfl⟩ := Prod.mk.inj states
                exact ⟨candidate, ⟨rfl, alone⟩, delegatedResponderState_eq_pass_iff.mp delegated,
                  basicSignatureState_pass_iff.mp signed⟩
            · simp at states
          · rintro ⟨responder, ⟨rfl, alone⟩, delegated, signed⟩
            refine ⟨.pass, basicSignatureState_pass_iff.mpr signed, ?_⟩
            rw [if_pos alone, delegatedResponderState_eq_pass_iff.mpr delegated]

end Search

/-- Who vouches for a response: the issuer, or exactly one embedded certificate. -/
inductive Vouched (lib : Library) (basic : BasicOcspResponse) (issuer : X509Certificate)
    (validationTimestamp : Int64) (policy : OcspPolicy) : Prop where
  | issuer (responded : RespondedBy lib basic issuer) (signed : SignedBy lib basic issuer)
  | delegated {embedded : Option (List UInt8)} {responder : X509Certificate}
      (other : ¬ RespondedBy lib basic issuer)
      (only : OnlyAt (fun encoded => ∃ certificate, Candidate lib basic encoded certificate)
        (basic.certsToDer.getD []) embedded)
      (candidate : Candidate lib basic embedded responder)
      (delegated : Delegated lib responder issuer validationTimestamp policy)
      (signed : SignedBy lib basic responder)

/-- The candidates among the embedded certificates, as the loop meets them. -/
theorem candidates_eq_singleton_iff {lib : Library} {basic : BasicOcspResponse}
    {responder : X509Certificate} :
    ((basic.certsToDer.getD []).filterMap id).filterMap (candidate? lib basic) = [responder] ↔
      ∃ embedded, OnlyAt (fun encoded => ∃ certificate, Candidate lib basic encoded certificate)
        (basic.certsToDer.getD []) embedded ∧ Candidate lib basic embedded responder := by
  have candidate (embedded : Option (List UInt8)) (certificate : X509Certificate) :
      (id embedded).bind (candidate? lib basic) = some certificate ↔
        Candidate lib basic embedded certificate := by
    simp only [id, Option.bind_eq_some_iff, candidate?_eq_some_iff, Candidate]
  rw [List.filterMap_filterMap, filterMap_eq_singleton_iff]
  simp only [candidate]

theorem responderAndSignatureStates_pass_iff {lib : Library} {basic : BasicOcspResponse}
    {issuer : X509Certificate} {validationTimestamp : Int64} {policy : OcspPolicy} :
    responderAndSignatureStates lib basic issuer validationTimestamp policy = .ok (.pass, .pass) ↔
      Vouched lib basic issuer validationTimestamp policy := by
  unfold responderAndSignatureStates
  split
  · next matched =>
      have responded := responderMatchesCertificate_iff.mp matched
      simp only [bind_ok_iff, pure_ok_iff, Prod.mk.injEq, true_and]
      constructor
      · rintro ⟨_, signed, rfl⟩
        exact .issuer responded (basicSignatureState_pass_iff.mp signed)
      · intro vouched
        cases vouched with
        | issuer _ signed => exact ⟨.pass, basicSignatureState_pass_iff.mpr signed, rfl⟩
        | delegated other => exact absurd responded other
  · next unmatched =>
      have other := mt responderMatchesCertificate_iff.mpr unmatched
      rw [searchResponder_pass_iff]
      simp only [candidates_eq_singleton_iff]
      constructor
      · rintro ⟨responder, ⟨embedded, only, candidate⟩, delegated, signed⟩
        exact .delegated other only candidate delegated signed
      · intro vouched
        cases vouched with
        | issuer responded => exact absurd responded other
        | @delegated embedded responder _ only candidate delegated signed =>
            exact ⟨responder, ⟨embedded, only, candidate⟩, delegated, signed⟩

/-! ## Single responses -/

/-- The single response is about the certificate, as the issuer numbered it. -/
def About (lib : Library) (certificate issuer : X509Certificate) (single : SingleResponse) : Prop :=
  digest lib single.certId.hashAlgorithm issuer.subject.asRaw =
      .ok single.certId.issuerNameHash ∧
    digest lib single.certId.hashAlgorithm issuer.publicKey.subjectPublicKey.data =
      .ok single.certId.issuerKeyHash ∧
    unsigned single.certId.serialNumber = unsigned certificate.rawSerial

theorem normalizedSerial_copy : normalizedSerial = X509.normalizedSerial := rfl

/-- Both checkers compare serials as unsigned integers: leading zero bytes do not count, and
    a normalized serial has none. -/
theorem normalizedSerial_compares_unsigned (left right : List UInt8) :
    (X509.normalizedSerial left = X509.normalizedSerial right ↔ unsigned left = unsigned right) ∧
      X509.normalizedSerial (X509.normalizedSerial left) = X509.normalizedSerial left ∧
      (X509.normalizedSerial left).head? ≠ some 0 ∧
      normalizedSerial left = X509.normalizedSerial left := by
  refine ⟨normalizedSerial_eq_iff, ?_, ?_, congrFun normalizedSerial_copy left⟩
  · rw [normalizedSerial_eq_iff, normalizedSerial_eq_stripZeros, unsigned_stripZeros]
  · rw [normalizedSerial_eq_stripZeros]
    exact fun head => head_stripZeros_ne_zero head rfl

theorem certIdMatches_true_iff {lib : Library} {certificate issuer : X509Certificate}
    {single : SingleResponse} :
    certIdMatches lib single certificate issuer = .ok true ↔
      About lib certificate issuer single := by
  simp only [certIdMatches, bind_ok_iff, pure_ok_iff, Bool.and_eq_true, beq_iff_eq, About,
    normalizedSerial_copy, normalizedSerial_eq_iff]
  constructor
  · rintro ⟨_, name, _, key, ⟨rfl, rfl⟩, serial⟩
    exact ⟨name, key, serial⟩
  · rintro ⟨name, key, serial⟩
    exact ⟨_, name, _, key, ⟨rfl, rfl⟩, serial⟩

theorem matchingResponses_ok {lib : Library} {certificate issuer : X509Certificate}
    {responses matching : List SingleResponse}
    (matched : matchingResponses lib certificate issuer responses = .ok matching) :
    matching = responses.filter fun single =>
      decide (certIdMatches lib single certificate issuer = .ok true) := by
  simp only [matchingResponses, bind_ok_iff, pure_ok_iff] at matched
  obtain ⟨compared, walked, rfl⟩ := matched
  induction responses generalizing compared with
  | nil =>
      simp only [List.mapM_nil, pure_ok_iff] at walked
      simp [← walked]
  | cons single rest ih =>
      simp only [List.mapM_cons, bind_ok_iff, pure_ok_iff] at walked
      obtain ⟨_, ⟨answer, first, rfl⟩, others, walked, rfl⟩ := walked
      rw [List.filterMap_cons, ih others walked]
      cases answer <;> simp [first]

/-- At most one single response matches, and which one is decided by its place. -/
theorem head?_matching_iff {lib : Library} {certificate issuer : X509Certificate}
    {responses matching : List SingleResponse}
    (matched : matchingResponses lib certificate issuer responses = .ok matching)
    (few : matching.length ≤ 1) {single : SingleResponse} :
    matching.head? = some single ↔ OnlyAt (About lib certificate issuer) responses single := by
  have only := @filter_eq_singleton_iff _
    (fun single => decide (certIdMatches lib single certificate issuer = .ok true)) responses single
  simp only [decide_eq_true_eq, certIdMatches_true_iff] at only
  rw [matchingResponses_ok matched] at few ⊢
  refine Iff.trans ?_ only
  constructor
  · intro head
    obtain ⟨tail, split⟩ := List.head?_eq_some_iff.mp head
    rw [split] at few ⊢
    simp only [List.length_cons] at few
    rw [List.length_eq_zero_iff.mp (by omega : tail.length = 0)]
  · intro split
    rw [split]
    rfl

/-- The status does not speak against the certificate at the validation time. -/
def InGoodStanding (validationTimestamp : Int64) (single : SingleResponse) : Prop :=
  single.certStatus = .good ∨ ∃ revocationTime, single.certStatus = .revoked revocationTime ∧
    validationTimestamp.toInt < revocationTime.toNat

theorem effectiveStatus_good_iff {validationTimestamp : Int64} {single : SingleResponse} :
    (certificateStatusAt single.certStatus validationTimestamp).2 = .good ↔
      InGoodStanding validationTimestamp single := by
  unfold InGoodStanding
  cases single.certStatus with
  | good => simp [certificateStatusAt]
  | unknown => simp [certificateStatusAt]
  | revoked revocationTime =>
      cases converted : u64TryFrom validationTimestamp with
      | none =>
          have negative := u64TryFrom_eq_none_iff.mp converted
          simp [certificateStatusAt, converted]
          omega
      | some validation =>
          have value := toInt_of_u64TryFrom converted
          by_cases past : revocationTime ≤ validation
          · simp [certificateStatusAt, converted, past]
            rw [UInt64.le_iff_toNat_le] at past
            omega
          · simp [certificateStatusAt, converted, past]
            rw [UInt64.le_iff_toNat_le] at past
            omega

theorem effectiveStatus_cases (validationTimestamp : Int64) (status : CertStatus) :
    (certificateStatusAt status validationTimestamp).2 = .good ∨
      (certificateStatusAt status validationTimestamp).2 = .revoked ∨
      (certificateStatusAt status validationTimestamp).2 = .unknown := by
  cases status with
  | good => simp [certificateStatusAt]
  | unknown => simp [certificateStatusAt]
  | revoked revocationTime =>
      simp only [certificateStatusAt]
      split
      · exact .inr (.inl rfl)
      · exact .inl rfl

/-! ## Acceptance -/

/-- What a response has to show for its revocation check to pass. -/
structure Accepts (lib : Library) (input : OcspInput) (policy : OcspPolicy) : Prop where
  issued : IssuedBy lib input.certificate input.issuer
  vouched : Vouched lib input.basic input.issuer input.validationTimestamp policy
  single : ∃ single,
    OnlyAt (About lib input.certificate input.issuer) input.basic.tbsResponseData.responses single ∧
    Fresh input.basic single input.validationTimestamp policy.maxAge.asSecs
      policy.clockSkew.asSecs ∧
    InGoodStanding input.validationTimestamp single
  extensions : ExtensionsPlain input.basic
  nonce : ∀ expected, input.expectedNonce = some expected → NonceMatches lib input.basic expected

section Acceptance

variable {lib : Library} {input : OcspInput} {policy : OcspPolicy} {result : OcspStatusResult}

theorem ocspStatus_ok_iff :
    ocspStatus lib input policy = .ok result ↔ ∃ responderState signatureState matching,
      responderAndSignatureStates lib input.basic input.issuer input.validationTimestamp policy =
        .ok (responderState, signatureState) ∧
      matchingResponses lib input.certificate input.issuer
        input.basic.tbsResponseData.responses = .ok matching ∧
      matching.length ≤ 1 ∧
      statusResult lib input policy responderState signatureState matching.head? = result := by
  simp only [ocspStatus, bind_ok_iff, exists_unit_iff, failIf_ok_iff, pure_ok_iff, Prod.exists,
    not_lt]
  constructor
  · rintro ⟨responder, signature, states, matching, matched, few, same⟩
    exact ⟨responder, signature, matching, states, matched, few, same⟩
  · rintro ⟨responder, signature, matching, states, matched, few, same⟩
    exact ⟨responder, signature, states, matching, matched, few, same⟩

theorem nonce_iff : (input.expectedNonce.isNone
    || checkNonce lib input.basic input.expectedNonce == .pass) = true ↔
      ∀ expected, input.expectedNonce = some expected → NonceMatches lib input.basic expected := by
  cases nonce : input.expectedNonce with
  | none => simp
  | some expected => simp [checkNonce_eq_pass_iff]

theorem freshness_iff {single : Option SingleResponse} :
    freshness input policy single = true ↔ ∃ response, single = some response ∧
      Fresh input.basic response input.validationTimestamp policy.maxAge.asSecs
        policy.clockSkew.asSecs := by
  simp only [freshness, Option.any_eq_true, isFresh_iff]

theorem prerequisites_iff {responderState signatureState : CheckState}
    {single : Option SingleResponse} :
    prerequisites lib input policy responderState signatureState single = true ↔
      (responderState = .pass ∧ signatureState = .pass) ∧
      IssuedBy lib input.certificate input.issuer ∧
      (∃ response, single = some response ∧ Fresh input.basic response input.validationTimestamp
        policy.maxAge.asSecs policy.clockSkew.asSecs) ∧
      ExtensionsPlain input.basic ∧
      ∀ expected, input.expectedNonce = some expected →
        NonceMatches lib input.basic expected := by
  simp only [prerequisites, Bool.and_eq_true, beq_iff_eq, issuerState_eq_pass_iff, freshness_iff,
    state_eq_pass_iff, ocspExtensionsValid_iff, nonce_iff]
  constructor
  · intro ⟨⟨⟨⟨⟨states, issued⟩, _⟩, fresh⟩, extensions⟩, nonce⟩
    exact ⟨states, issued, fresh, extensions, nonce⟩
  · intro ⟨states, issued, fresh, extensions, nonce⟩
    obtain ⟨response, found, inTime⟩ := fresh
    exact ⟨⟨⟨⟨⟨states, issued⟩, by simp [found]⟩, response, found, inTime⟩, extensions⟩, nonce⟩

/-- Where revocation is required, a pass is prerequisites and good standing. -/
theorem revocationState_eq_pass_iff {mode : RevocationPolicyMode} (required : mode ≠ .notRequired)
    {holds : Bool} {status : OcspCertificateStatus}
    (available : status = .good ∨ status = .revoked ∨ status = .unknown) :
    revocationState mode holds status = .pass ↔ holds = true ∧ status = .good := by
  rcases available with rfl | rfl | rfl <;> cases mode <;> cases holds <;>
    simp_all [revocationState]

theorem certificateStatuses_cases (single : Option SingleResponse) :
    (certificateStatuses input single).2 = .good ∨ (certificateStatuses input single).2 = .revoked ∨
      (certificateStatuses input single).2 = .unknown := by
  cases single with
  | none => exact .inr (.inr rfl)
  | some response => exact effectiveStatus_cases input.validationTimestamp response.certStatus

theorem ocspStatus_pass_iff (required : policy.revocationMode ≠ .notRequired)
    (checked : ocspStatus lib input policy = .ok result) :
    result.revocation.state = .pass ↔ Accepts lib input policy := by
  obtain ⟨responderState, signatureState, matching, states, matched, few, rfl⟩ :=
    ocspStatus_ok_iff.mp checked
  have vouched : (responderState = .pass ∧ signatureState = .pass) ↔
      Vouched lib input.basic input.issuer input.validationTimestamp policy := by
    rw [← responderAndSignatureStates_pass_iff, states, Except.ok.injEq, Prod.mk.injEq]
  simp only [statusResult, observed,
    revocationState_eq_pass_iff required (certificateStatuses_cases matching.head?),
    prerequisites_iff, vouched, head?_matching_iff matched few]
  constructor
  · intro ⟨⟨vouched, issued, ⟨single, only, fresh⟩, extensions, nonce⟩, good⟩
    rw [(head?_matching_iff matched few).mpr only] at good
    exact ⟨issued, vouched, ⟨single, only, fresh, effectiveStatus_good_iff.mp good⟩, extensions,
      nonce⟩
  · intro accepts
    obtain ⟨single, only, fresh, good⟩ := accepts.single
    refine ⟨⟨accepts.vouched, accepts.issued, ⟨single, only, fresh⟩, accepts.extensions,
      accepts.nonce⟩, ?_⟩
    rw [(head?_matching_iff matched few).mpr only]
    exact effectiveStatus_good_iff.mpr good

/-- Where revocation is required, the check of a parsed response passes exactly
    when the response shows everything it has to. -/
theorem ocsp_acceptance_exact
    {certificatePath issuerPath responsePath validationTime : String}
    {expectedNonceBase64 : Option String} {limit : Nat}
    (required : policy.revocationMode = .hardFail ∨ policy.revocationMode = .softFail)
    (read : readOcspInput lib certificatePath issuerPath responsePath validationTime
      expectedNonceBase64 limit = .ok (some input))
    (checked : checkOcspStatus lib certificatePath issuerPath responsePath validationTime
      expectedNonceBase64 policy limit = .ok result) :
    result.revocation.state = .pass ↔ Accepts lib input policy := by
  have required : policy.revocationMode ≠ .notRequired := by
    rcases required with same | same <;> simp [same]
  simp only [checkOcspStatus, read, bind, Except.bind] at checked
  exact ocspStatus_pass_iff required checked

end Acceptance

namespace Fixture

open X509.Fixture

/-- A response of the issuer about the leaf, signed by the issuer. -/
def response (status : CertStatus) : BasicOcspResponse where
  tbsResponseData := {
    responderId := .byName (some caName.asRaw)
    producedAt := 1781910000
    responses := [{
      certId := ⟨"1.3.14.3.2.26", [67, 65], [4, 1], [255]⟩
      certStatus := status
      thisUpdate := 1781910000
      nextUpdate := none
      singleExtensions := none }]
    responseExtensions := none
    toDer := some [7] }
  signatureAlgorithmToDer := some [6]
  signature := sign caKey [7]
  certsToDer := none

def policy (mode : RevocationPolicyMode) : OcspPolicy := ⟨⟨604800, 0⟩, ⟨300, 0⟩, mode, none⟩

/-- The library with a successful response about the given leaf. -/
def responseLibrary (leaf : X509Certificate) (basic : BasicOcspResponse) : Library :=
  library leaf crl ⟨.successful, some ⟨BASIC_OCSP_RESPONSE_OID, [5]⟩⟩ basic

end Fixture

theorem ocsp_acceptance_exact_good :
    Accepts (Fixture.responseLibrary X509.Fixture.leafCertificate (Fixture.response .good))
      ⟨Fixture.response .good, X509.Fixture.leafCertificate, X509.Fixture.caCertificate,
        X509.Fixture.now, none⟩ (Fixture.policy .hardFail) :=
  (@ocsp_acceptance_exact
    (Fixture.responseLibrary X509.Fixture.leafCertificate (Fixture.response .good)) _ _ _
    "leaf.pem" "ca.pem" "response.der" "2026-06-20T00:00:00Z" none 64 (.inl rfl) rfl rfl).mp rfl

end HybridX509.Revocation.Ocsp
