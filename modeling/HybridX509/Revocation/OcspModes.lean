import HybridX509.Oracle.Panics
import HybridX509.Revocation.OcspAcceptance

/-! # OCSP results and the revocation mode

What the revocation check of a result may be under each mode, and what the oracle
then does with an evidence item that carries it. A parsed response goes through
`revocation_state`, which keeps to the mode; an unsuccessful one is answered with
`Indeterminate` under every mode, which only the soft mode allows.
-/

namespace HybridX509.Revocation.Ocsp

open Lib X509 Oracle

/-- Every check that the revocation state rests on passed. -/
structure PrerequisitesPassed (expectedNonceBase64 : Option String) (result : OcspStatusResult) :
    Prop where
  responder : result.responder.state = .pass
  signature : result.signature.state = .pass
  issuer : result.issuer.state = .pass
  certificateId : result.certificateId.state = .pass
  freshness : result.freshness.state = .pass
  extensions : result.extensions.state = .pass
  nonce : expectedNonceBase64 = none ∨ result.nonce.state = .pass

/-- Validation never refuses the revocation of an item that carries the result. -/
def NeverRefused (result : OcspStatusResult) : Prop :=
  ∀ parseFromRfc3339 request, ∀ item ∈ request.evidence,
    item.revocationMethod = .ocsp →
    item.revocation = result.revocation →
    item.appliedRevocationPolicy = result.appliedRevocationPolicy →
    result.appliedRevocationPolicy = request.revocationPolicy →
      validateRequest parseFromRfc3339 request ≠ .error (.err (.revocationPolicyMismatch item.id)) ∧
      validateRequest parseFromRfc3339 request ≠
        .error (.err (.invalidRevocationEvidence item.id))

/-- The result keeps to the mode of its policy. -/
structure RespectsMode (policy : OcspPolicy) (expectedNonceBase64 : Option String)
    (result : OcspStatusResult) : Prop where
  notRequired : policy.revocationMode = .notRequired → result.revocation.state = .notApplicable
  hardFail : policy.revocationMode = .hardFail →
    result.revocation.state = .pass ∨ result.revocation.state = .fail
  softFail : policy.revocationMode = .softFail → result.revocation.state = .fail →
    result.effectiveStatusAtValidationTime = .revoked ∧
      PrerequisitesPassed expectedNonceBase64 result
  neverRefused : NeverRefused result

/-- The responder answered with a successful response. -/
def Answered (lib : Library) (responsePath : String) (limit : Nat) : Prop :=
  ∃ bytes response, readBounded lib responsePath limit = .ok bytes ∧
    lib.ocspResponseFromDer bytes = some response ∧ response.responseStatus = .successful

/-- An abort that is not about the revocation of the item with this identifier. -/
def Spares (id : String) (abort : Abort) : Prop :=
  ∀ error, abort = .err error → error.revocationEvidence ≠ some id

theorem spares_err_iff {id : String} {error : OracleError} :
    Spares id (.err error) ↔ error.revocationEvidence ≠ some id := by
  simp [Spares]

/-- Items with the right mode pass the guards about revocation; any error about
    revocation is then about another item. -/
theorem neverRefused_of_notApplicable {result : OcspStatusResult}
    (notRequired : result.appliedRevocationPolicy.mode = .notRequired →
      result.revocation.state = .notApplicable) : NeverRefused result := by
  intro parseFromRfc3339 request item member method carried applied same
  have raises : Raises (Spares item.id) (validateRequest parseFromRfc3339 request) := by
    have admits (error : OracleError) (other : error.revocationEvidence = none) :
        Spares item.id (.err error) := by
      rw [spares_err_iff, other]
      simp
    refine validateRequest_raises_of admits ?_ parseFromRfc3339
    intro distinct certificatesById pairs operations item' member'
    have about {error : OracleError} (names : error.revocationEvidence = some item'.id)
        (passes : item' ≠ item) : Spares item.id (.err error) := by
      rw [spares_err_iff, names]
      intro named
      exact passes (List.inj_on_of_nodup_map distinct member' member (Option.some.inj named))
    apply validateEvidence_raises admits
    · intro differs
      apply about rfl
      rintro rfl
      exact differs (applied.trans same)
    · intro ⟨_, unstated⟩
      apply about rfl
      rintro rfl
      simp [method] at unstated
    · intro ⟨mode, state⟩
      apply about rfl
      rintro rfl
      rw [carried] at state
      exact state (notRequired (same ▸ mode))
  constructor
  · intro failed
    exact spares_err_iff.mp (raises _ failed) rfl
  · intro failed
    exact spares_err_iff.mp (raises _ failed) rfl

section Modes

variable {lib : Library} {policy : OcspPolicy} {expectedNonceBase64 : Option String}

theorem unavailableResult_respects_iff :
    RespectsMode policy expectedNonceBase64 (unavailableResult policy) ↔
      policy.revocationMode = .softFail := by
  constructor
  · intro respects
    cases mode : policy.revocationMode with
    | hardFail => exact absurd (respects.hardFail mode) (by simp [unavailableResult, observed])
    | softFail => rfl
    | notRequired =>
        exact absurd (respects.notRequired mode) (by simp [unavailableResult, observed])
  · intro soft
    refine ⟨?_, ?_, ?_, neverRefused_of_notApplicable ?_⟩ <;>
      simp [soft, unavailableResult, observed, appliedRevocationPolicy]

theorem statusResult_respects {input : OcspInput} {responderState signatureState : CheckState}
    {single : Option SingleResponse}
    (nonce : input.expectedNonce = none ↔ expectedNonceBase64 = none) :
    RespectsMode policy expectedNonceBase64
      (statusResult lib input policy responderState signatureState single) := by
  refine ⟨?_, ?_, ?_, neverRefused_of_notApplicable ?_⟩
  · intro mode
    simp [statusResult, observed, mode, revocationState]
  · intro mode
    simp only [statusResult, observed, mode, revocationState]
    split
    · exact .inr rfl
    · split
      · exact .inr rfl
      · exact .inl rfl
  · intro mode failed
    simp only [statusResult, observed, mode, revocationState] at failed ⊢
    split at failed
    · cases failed
    · next known =>
        split at failed
        · next revoked =>
            simp only [Bool.or_eq_true, Bool.not_eq_true', not_or, Bool.not_eq_false,
              beq_iff_eq] at known revoked
            have holds := known.1
            simp only [prerequisites, Bool.and_eq_true, Bool.or_eq_true, beq_iff_eq,
              Option.isNone_iff_eq_none, nonce] at holds
            obtain ⟨⟨⟨⟨⟨⟨responder, signature⟩, issuer⟩, found⟩, fresh⟩, extensions⟩, nonce⟩ :=
              holds
            exact ⟨revoked, responder, signature, issuer, state_eq_pass_iff.mpr found,
              state_eq_pass_iff.mpr fresh, extensions, nonce⟩
        · cases failed
  · intro mode
    have mode : policy.revocationMode = .notRequired := mode
    simp [statusResult, observed, mode, revocationState]

theorem expectedNonce_eq_none_iff {nonce : Option (List UInt8)}
    (decoded : decodeExpectedNonce lib expectedNonceBase64 = .ok nonce) :
    nonce = none ↔ expectedNonceBase64 = none := by
  cases expectedNonceBase64 with
  | none =>
      simp only [decodeExpectedNonce, Except.ok.injEq] at decoded
      simp [← decoded]
  | some value =>
      simp only [decodeExpectedNonce, bind_ok_iff, exists_unit_iff, pure_ok_iff] at decoded
      obtain ⟨bytes, _, _, rfl⟩ := decoded
      simp

/-- What reading leaves for the checks, by whether the responder answered. -/
theorem readOcspInput_ok {certificatePath issuerPath responsePath validationTime : String}
    {limit : Nat} {outcome : Option OcspInput}
    (read : readOcspInput lib certificatePath issuerPath responsePath validationTime
      expectedNonceBase64 limit = .ok outcome) :
    (outcome = none ∧ ¬ Answered lib responsePath limit) ∨
      ∃ input, outcome = some input ∧ Answered lib responsePath limit ∧
        (input.expectedNonce = none ↔ expectedNonceBase64 = none) := by
  simp only [readOcspInput, bind_ok_iff] at read
  obtain ⟨bytes, bounded, basic, parsed, rest⟩ := read
  simp only [parseOcspDer, bind_ok_iff, orFail_ok_iff] at parsed
  obtain ⟨response, decoded, parsed⟩ := parsed
  split at parsed
  · next unsuccessful =>
      obtain rfl := pure_ok_iff.mp parsed
      obtain rfl := pure_ok_iff.mp rest
      refine .inl ⟨rfl, ?_⟩
      rintro ⟨bytes', response', bounded', decoded', successful⟩
      obtain rfl : bytes = bytes' := ok_unique bounded bounded'
      obtain rfl : response = response' := Option.some.inj (decoded.symm.trans decoded')
      exact unsuccessful successful
  · next successful =>
      obtain ⟨_, _, _, _, _, _, same⟩ := by
        simpa only [bind_ok_iff, pure_ok_iff] using parsed
      obtain rfl := same
      simp only [bind_ok_iff, pure_ok_iff] at rest
      obtain ⟨_, _, _, _, _, _, _, _, _, _, nonce, decodedNonce, rfl⟩ := rest
      exact .inr ⟨_, rfl, ⟨bytes, response, bounded, decoded, not_not.mp successful⟩,
        expectedNonce_eq_none_iff decodedNonce⟩

/-- A result keeps to its mode exactly when the responder answered or the mode is
    the soft one. -/
theorem ocsp_mode_respected_iff
    {certificatePath issuerPath responsePath validationTime : String} {limit : Nat}
    {result : OcspStatusResult}
    (checked : checkOcspStatus lib certificatePath issuerPath responsePath validationTime
      expectedNonceBase64 policy limit = .ok result) :
    RespectsMode policy expectedNonceBase64 result ↔
      Answered lib responsePath limit ∨ policy.revocationMode = .softFail := by
  simp only [checkOcspStatus, bind_ok_iff] at checked
  obtain ⟨outcome, read, checked⟩ := checked
  rcases readOcspInput_ok read with ⟨rfl, unanswered⟩ | ⟨input, rfl, answered, nonce⟩
  · obtain rfl := pure_ok_iff.mp checked
    rw [unavailableResult_respects_iff]
    exact (or_iff_right unanswered).symm
  · obtain ⟨_, _, _, _, _, _, rfl⟩ := ocspStatus_ok_iff.mp checked
    exact iff_of_true (statusResult_respects nonce) (.inl answered)

end Modes

theorem ocsp_mode_respected_answered :
    ∃ result, checkOcspStatus
        (Fixture.responseLibrary X509.Fixture.leafCertificate (Fixture.response .good))
        "leaf.pem" "ca.pem" "response.der" "2026-06-20T00:00:00Z" none (Fixture.policy .hardFail)
        64 = .ok result ∧
      RespectsMode (Fixture.policy .hardFail) none result := by
  have answered : Answered
      (Fixture.responseLibrary X509.Fixture.leafCertificate (Fixture.response .good))
      "response.der" 64 :=
    ⟨[4], ⟨.successful, some ⟨BASIC_OCSP_RESPONSE_OID, [5]⟩⟩, rfl, rfl, rfl⟩
  exact ⟨_, rfl, (@ocsp_mode_respected_iff _ _ _ "leaf.pem" "ca.pem" "response.der"
    "2026-06-20T00:00:00Z" 64 _ rfl).mpr (.inl answered)⟩

namespace Fixture

open X509.Fixture

/-- The library with a responder that asks to try later. -/
def tryLaterLibrary : Library := library leafCertificate crl tryLater emptyResponse

/-- A request whose classical item carries the answer to an unavailable responder. -/
def unavailableRequest : VerificationRequest :=
  let result := unavailableResult (policy .notRequired)
  { Oracle.Fixture.request .p2RequiredHybrid with
    revocationPolicy := result.appliedRevocationPolicy
    evidence := [{ Oracle.Fixture.evidence "classical" .classical with
      revocation := result.revocation
      revocationMethod := .ocsp
      appliedRevocationPolicy := result.appliedRevocationPolicy }] }

end Fixture

/-- An unavailable responder is indeterminate where the hard mode wants a failure,
    and makes the oracle refuse the request where no revocation is required. -/
theorem unavailable_responder_ignores_mode :
    (∃ result, checkOcspStatus Fixture.tryLaterLibrary "leaf.pem" "ca.pem" "response.der"
        "2026-06-20T00:00:00Z" none (Fixture.policy .hardFail) 64 = .ok result ∧
      result.revocation.state = .indeterminate) ∧
    ∃ result, checkOcspStatus Fixture.tryLaterLibrary "leaf.pem" "ca.pem" "response.der"
        "2026-06-20T00:00:00Z" none (Fixture.policy .notRequired) 64 = .ok result ∧
      result.revocation.state = .indeterminate ∧
      ∃ item ∈ Fixture.unavailableRequest.evidence, item.revocationMethod = .ocsp ∧
        item.revocation = result.revocation ∧
        item.appliedRevocationPolicy = result.appliedRevocationPolicy ∧
        result.appliedRevocationPolicy = Fixture.unavailableRequest.revocationPolicy ∧
        validateRequest Oracle.Fixture.acceptTime Fixture.unavailableRequest =
          .error (.err (.revocationPolicyMismatch item.id)) :=
  ⟨⟨_, rfl, rfl⟩, _, rfl, rfl, _, List.mem_cons_self, rfl, rfl, rfl, rfl, by decide +kernel⟩

end HybridX509.Revocation.Ocsp
