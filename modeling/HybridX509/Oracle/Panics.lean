import HybridX509.Oracle.Outcome

/-! # Panics

Every way `evaluate` fails is an error of its own type. The one slice of the
validators is taken after its bound was checked, and the two `unreachable!` arms
were ruled out with the aggregates.
-/

namespace HybridX509.Oracle

open Lib

/-- The evidence an error about revocation is about. -/
def OracleError.revocationEvidence : OracleError → Option String
  | .revocationPolicyMismatch evidenceId | .invalidRevocationEvidence evidenceId => some evidenceId
  | _ => none

/-! ## What validation raises

An expectation `p` that admits every error of the source except those about
revocation is met by all parts of the validation but the last three guards of an
evidence item.
-/

section Raising

variable {p : Abort → Prop}
  (admits : ∀ error, OracleError.revocationEvidence error = none → p (.err error))

include admits

theorem validateSha256Hex_raises (field : String) (value : Option String) :
    Raises p (validateSha256Hex field value) := by
  cases value with
  | none => exact raises_ok ()
  | some value =>
      simp only [validateSha256Hex]
      split
      · exact raises_ok ()
      · exact raises_error (admits _ rfl)

theorem validateCertificateProperties_raises (certificate : CertificateNode) :
    Raises p (validateCertificateProperties certificate) := by
  have either (valid : Bool) : Raises p (if valid then .ok ()
      else .error (.err (.invalidCertificateProperties certificate.id)) : Except Abort Unit) := by
    cases valid with
    | true => exact raises_ok ()
    | false => exact raises_error (admits _ rfl)
  exact either _

/-- The slice is reached only on a path with a first certificate. -/
theorem validateCertificatePathOrder_raises (request : VerificationRequest) :
    Raises p (validateCertificatePathOrder request) := by
  unfold validateCertificatePathOrder
  refine raises_bind (raises_orFail (admits _ rfl)) fun first found => ?_
  refine raises_bind (raises_failIf fun _ => admits _ rfl) fun _ _ => ?_
  refine raises_bind ?_ fun _ _ => raises_failIf fun _ => admits _ rfl
  have nonempty : 1 ≤ request.certificatePath.length := by
    rw [orFail_ok_iff] at found
    cases path : request.certificatePath with
    | nil => simp [path] at found
    | cons => simp
  unfold sliceFrom
  rw [if_pos nonempty]
  exact raises_ok _

theorem validateTrustAnchor_raises (trustAnchor : TrustAnchor) (spkiField : String) :
    Raises p (validateTrustAnchor trustAnchor spkiField) := by
  cases trustAnchor with
  | certificateDerSha256 derSha256 => exact validateSha256Hex_raises admits _ (some derSha256)
  | nameAndSpkiSha256 name spkiSha256 =>
      exact raises_bind (validateSha256Hex_raises admits _ _) fun _ _ =>
        raises_failIf fun _ => admits _ rfl
  | localIdentifier identifier => exact raises_failIf fun _ => admits _ rfl

theorem validateStackSelectedPath_raises (request : VerificationRequest) :
    Raises p (validateStackSelectedPath request) := by
  unfold validateStackSelectedPath
  refine raises_bind (raises_forM fun _ => validateSha256Hex_raises admits _ _) fun _ _ => ?_
  refine raises_bind (raises_orFail (admits _ rfl)) fun _ _ => ?_
  refine raises_bind (raises_failIf fun _ => admits _ rfl) fun _ _ => ?_
  refine raises_bind (validateTrustAnchor_raises admits _ _) fun _ _ => ?_
  refine raises_bind (validateTrustAnchor_raises admits _ _) fun _ _ => ?_
  exact raises_failIf fun _ => admits _ rfl

theorem registerEvidence_raises (seen : List String × List (String × EvidenceKind))
    (item : Evidence) : Raises p (registerEvidence seen item) := by
  unfold registerEvidence
  refine raises_bind (raises_failIf fun _ => admits _ rfl) fun _ _ => ?_
  exact raises_bind (raises_failIf fun _ => admits _ rfl) fun _ _ => raises_ok _

theorem registerCertificate_raises (state : List (String × CertificateNode) × Nat)
    (certificate : CertificateNode) : Raises p (registerCertificate state certificate) := by
  unfold registerCertificate
  refine raises_bind (validateSha256Hex_raises admits _ _) fun _ _ => ?_
  refine raises_bind (validateSha256Hex_raises admits _ _) fun _ _ => ?_
  refine raises_bind (validateCertificateProperties_raises admits _) fun _ _ => ?_
  refine raises_bind (raises_failIf fun _ => admits _ rfl) fun _ _ => ?_
  exact raises_bind (raises_failIf fun _ => admits _ rfl) fun _ _ => raises_ok _

theorem registerPair_raises (certificatesById : List (String × CertificateNode))
    (pairs : List (String × PairedAuthentication)) (pair : PairedAuthentication) :
    Raises p (registerPair certificatesById pairs pair) := by
  unfold registerPair
  refine raises_bind (validateSha256Hex_raises admits _ _) fun _ _ => ?_
  refine raises_bind (raises_failIf fun _ => admits _ rfl) fun _ _ => ?_
  exact raises_bind (raises_failIf fun _ => admits _ rfl) fun _ _ => raises_ok _

theorem validateAuthenticationOperation_raises (pairs : List (String × PairedAuthentication))
    (operations : List (String × String)) (certificate : CertificateNode) (item : Evidence) :
    Raises p (validateAuthenticationOperation pairs operations certificate item) := by
  unfold validateAuthenticationOperation
  simp only
  split
  · refine raises_bind (raises_orFail (admits _ rfl)) fun _ _ => ?_
    refine raises_bind (raises_orFail (admits _ rfl)) fun _ _ => ?_
    refine raises_bind (raises_failIf fun _ => admits _ rfl) fun _ _ => ?_
    exact raises_bind (raises_failIf fun _ => admits _ rfl) fun _ _ => raises_ok _
  · exact raises_bind (raises_failIf fun _ => admits _ rfl) fun _ _ => raises_ok _

/-- Revocation has to be accounted for where the guards about it fail. -/
theorem validateEvidence_raises {request : VerificationRequest} {item : Evidence}
    (policy : item.appliedRevocationPolicy ≠ request.revocationPolicy →
      p (.err (.revocationPolicyMismatch item.id)))
    (method : item.revocation.state = .pass ∧ item.revocationMethod = .none →
      p (.err (.invalidRevocationEvidence item.id)))
    (notRequired : request.revocationPolicy.mode = .notRequired ∧
      item.revocation.state ≠ .notApplicable → p (.err (.revocationPolicyMismatch item.id)))
    (certificatesById : List (String × CertificateNode))
    (pairs : List (String × PairedAuthentication)) (operations : List (String × String)) :
    Raises p (validateEvidence request certificatesById pairs operations item) := by
  unfold validateEvidence
  refine raises_bind (validateSha256Hex_raises admits _ _) fun _ _ => ?_
  refine raises_bind (validateSha256Hex_raises admits _ _) fun _ _ => ?_
  refine raises_bind (validateSha256Hex_raises admits _ _) fun _ _ => ?_
  refine raises_bind (raises_orFail (admits _ rfl)) fun _ _ => ?_
  refine raises_bind (raises_failIf fun _ => admits _ rfl) fun _ _ => ?_
  refine raises_bind (raises_failIf fun _ => admits _ rfl) fun _ _ => ?_
  refine raises_bind (raises_failIf fun _ => admits _ rfl) fun _ _ => ?_
  refine raises_bind (validateAuthenticationOperation_raises admits _ _ _ _) fun _ _ => ?_
  refine raises_bind (raises_failIf fun _ => admits _ rfl) fun _ _ => ?_
  refine raises_bind (raises_failIf policy) fun _ _ => ?_
  refine raises_bind (raises_failIf method) fun _ _ => ?_
  exact raises_bind (raises_failIf notRequired) fun _ _ => raises_ok _

/-- The items are gone through only after their identifiers were found distinct. -/
theorem validateRequest_raises_of {request : VerificationRequest}
    (items : (request.evidence.map (·.id)).Nodup → ∀ certificatesById pairs operations,
      ∀ item ∈ request.evidence,
        Raises p (validateEvidence request certificatesById pairs operations item))
    (parseFromRfc3339 : String → Bool) :
    Raises p (validateRequest parseFromRfc3339 request) := by
  unfold validateRequest
  refine raises_bind (raises_failIf fun _ => admits _ rfl) fun _ _ => ?_
  refine raises_bind (raises_failIf fun _ => admits _ rfl) fun _ _ => ?_
  refine raises_bind (raises_foldlM (fun seen item _ => registerEvidence_raises admits seen item) _)
    fun seen registered => ?_
  have distinct := (registerEvidence_walk.mp ⟨seen, registered⟩).1
  refine raises_bind (raises_foldlM
    (fun state certificate _ => registerCertificate_raises admits state certificate) _)
    fun _ _ => ?_
  refine raises_bind (raises_failIf fun _ => admits _ rfl) fun _ _ => ?_
  refine raises_bind (validateCertificatePathOrder_raises admits request) fun _ _ => ?_
  refine raises_bind (validateStackSelectedPath_raises admits request) fun _ _ => ?_
  refine raises_bind (raises_foldlM
    (fun pairs pair _ => registerPair_raises admits _ pairs pair) _) fun _ _ => ?_
  refine raises_bind (raises_foldlM (items distinct _ _) _) fun _ _ => ?_
  exact raises_failIf fun _ => admits _ rfl

end Raising

/-! ## No panic -/

/-- An `Err` of the source, as opposed to a panic. -/
def Abort.IsErr (abort : Abort) : Prop := ∃ error, abort = .err error

theorem validateRequest_raises (parseFromRfc3339 : String → Bool) (request : VerificationRequest) :
    Raises Abort.IsErr (validateRequest parseFromRfc3339 request) := by
  have isErr (error : OracleError) : (Abort.err error).IsErr := ⟨error, rfl⟩
  have admits (error : OracleError) (_ : error.revocationEvidence = none) := isErr error
  refine validateRequest_raises_of admits (fun _ certificatesById pairs operations item _ => ?_)
    parseFromRfc3339
  exact validateEvidence_raises admits (fun _ => isErr _) (fun _ => isErr _) (fun _ => isErr _)
    certificatesById pairs operations

/-- `evaluate` returns an error exactly on the malformed requests. -/
theorem evaluate_err_iff {parseFromRfc3339 : String → Bool} {request : VerificationRequest} :
    (∃ error, evaluate parseFromRfc3339 request = .error (.err error)) ↔
      ¬ WellFormed parseFromRfc3339 request := by
  rw [← validateRequest_ok_iff]
  simp only [evaluate_error_iff]
  cases valid : validateRequest parseFromRfc3339 request with
  | ok => simp
  | error abort =>
      obtain ⟨error, rfl⟩ := validateRequest_raises parseFromRfc3339 request abort valid
      simp

/-- No request makes `evaluate` panic. -/
theorem evaluate_never_panics (parseFromRfc3339 : String → Bool) (request : VerificationRequest)
    (message : String) : evaluate parseFromRfc3339 request ≠ .error (.panicked message) := by
  intro panicked
  have failed := evaluate_error_iff.mp panicked
  obtain ⟨error, same⟩ := validateRequest_raises parseFromRfc3339 request _ failed
  cases same

end HybridX509.Oracle
