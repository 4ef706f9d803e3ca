import HybridX509.Model
import HybridX509.Lib.Worst

/-! # Aggregate states

The three-valued answers of `oracle.rs` and the functions that compute them from
a request. Loops that leave the source function early are folds in `Option`:
`none` is the early return, a surviving flag is the mutable `indeterminate`.

`AggregateState` is ordered `Fail < Indeterminate < Pass`. The order is not in the
source; it is what makes the aggregates comparable between two requests.
-/

namespace HybridX509.Oracle

inductive AggregateState where
  | pass
  | fail
  | indeterminate
  deriving Repr, DecidableEq

namespace AggregateState

def rank : AggregateState → Nat
  | .fail => 0
  | .indeterminate => 1
  | .pass => 2

instance : LinearOrder AggregateState :=
  LinearOrder.lift' rank (by intro a b same; cases a <;> cases b <;> simp_all [rank])

instance : BoundedOrder AggregateState where
  top := .pass
  le_top := by intro a; cases a <;> decide
  bot := .fail
  bot_le := by intro a; cases a <;> decide

instance : Nontrivial AggregateState := ⟨.pass, .fail, by decide⟩

theorem top_eq : (⊤ : AggregateState) = .pass := rfl

theorem bot_eq : (⊥ : AggregateState) = .fail := rfl

@[simp] theorem pass_le_iff {a : AggregateState} : .pass ≤ a ↔ a = .pass := top_le_iff

@[simp] theorem fail_le (a : AggregateState) : .fail ≤ a := bot_le

@[simp] theorem inf_eq_fail_iff {a b : AggregateState} :
    a ⊓ b = .fail ↔ a = .fail ∨ b = .fail := min_eq_bot

@[simp] theorem inf_eq_pass_iff {a b : AggregateState} :
    a ⊓ b = .pass ↔ a = .pass ∧ b = .pass := inf_eq_top_iff

end AggregateState

def requiredCheckState (check : CheckResult) (allowNotApplicable : Bool) : AggregateState :=
  match check.confidence with
  | .inferred | .unknown => .indeterminate
  | .observed | .behaviorallyEstablished =>
      match check.state with
      | .pass => .pass
      | .notApplicable => if allowNotApplicable then .pass else .fail
      | .fail => .fail
      | .indeterminate | .notChecked => .indeterminate

def evidenceBindingState (certificate : CertificateNode) (item : Evidence) : AggregateState :=
  if certificate.derSha256.isNone || item.certificateDerSha256.isNone
      || item.evidenceArtifactDerSha256.isNone then .indeterminate
  else if certificate.position == .trustAnchor then .pass
  else if certificate.issuerEdgeSha256.isNone || item.issuerEdgeSha256.isNone then .indeterminate
  else .pass

/-- One `match` on a state inside a loop: a pass goes on, a failure leaves the
    function, anything else raises the `indeterminate` flag. -/
def absorb (indeterminate : Bool) : AggregateState → Option Bool
  | .pass => some indeterminate
  | .fail => none
  | .indeterminate => some true

/-- What the function returns, from inside its loops or after them. -/
def conclude : Option Bool → AggregateState
  | none => .fail
  | some true => .indeterminate
  | some false => .pass

/-- The names for which `evidence_state` lets a check be not applicable. -/
def allowNotApplicable (mode : RevocationPolicyMode) (name : String) : Bool :=
  name == "binding" || (name == "revocation" && mode == .notRequired)

def evidenceStateCheck (mode : RevocationPolicyMode) (indeterminate : Bool)
    (check : String × CheckResult) : Option Bool :=
  absorb indeterminate (requiredCheckState check.2 (allowNotApplicable mode check.1))

def evidenceStateItem (mode : RevocationPolicyMode) (certificate : CertificateNode)
    (indeterminate : Bool) (item : Evidence) : Option Bool := do
  let indeterminate ← absorb indeterminate (evidenceBindingState certificate item)
  item.checks.foldlM (evidenceStateCheck mode) indeterminate

def evidenceStateCertificate (items : List Evidence) (mode : RevocationPolicyMode)
    (indeterminate : Bool) (certificate : CertificateNode) : Option Bool :=
  let certificateItems := items.filter (·.certificateId == certificate.id)
  if certificateItems.isEmpty then none
  else certificateItems.foldlM (evidenceStateItem mode certificate) indeterminate

def evidenceState (requiredCertificates : List CertificateNode) (items : List Evidence)
    (revocationPolicyMode : RevocationPolicyMode) : AggregateState :=
  if requiredCertificates.isEmpty then .pass
  else conclude
    (requiredCertificates.foldlM (evidenceStateCertificate items revocationPolicyMode) false)

/-- The pairing of a Related certificate, found through the operation identifier
    of the first evidence item that names the certificate. -/
def pairedOperation (request : VerificationRequest) (certificate : CertificateNode) :
    Option PairedAuthentication := do
  let evidence ← request.evidence.find? (·.certificateId == certificate.id)
  let operationId ← evidence.authenticationOperationId
  request.pairedAuthentications.find? (·.operationId == operationId)

def designStateCertificate (request : VerificationRequest) (indeterminate : Bool)
    (certificate : CertificateNode) : Option Bool :=
  if certificate.hasHybridCertificateSignatureDesign then some indeterminate
  else if certificate.bindingDesign != .relatedCertificate then none
  else do
    let pair ← pairedOperation request certificate
    absorb indeterminate (requiredCheckState pair.sameAuthenticationOperation false)

def hybridAuthenticationDesignState (certificates : List CertificateNode)
    (request : VerificationRequest) : AggregateState :=
  conclude (certificates.foldlM (designStateCertificate request) false)

def stackValidationTimeState (request : VerificationRequest) : AggregateState :=
  if request.stack.appliedValidationTime != request.validationTime then .indeterminate
  else requiredCheckState request.stack.validationTime false

def authenticationProfileState : ValidationProfile → AggregateState
  | .x509Path | .webPkiServer => .pass
  | .evidenceSignature => .indeterminate

/-- One certificate of the loop in `validated_path_state`; here the early return
    is `Indeterminate`. -/
def validatedPathCertificate (hasEndEntity : Bool) (certificate : CertificateNode) : Option Bool :=
  let unbound := certificate.derSha256.isNone || certificate.issuerEdgeSha256.isNone
  match certificate.position with
  | .endEntity => if unbound then none else some true
  | .intermediate => if unbound then none else some hasEndEntity
  | .trustAnchor => none

def validatedPathState (request : VerificationRequest) : AggregateState :=
  if request.stack.selectedPathSource != .adapterSelected then .indeterminate
  else
    match request.certificatePath.foldlM validatedPathCertificate false with
    | none => .indeterminate
    | some hasEndEntity => if hasEndEntity then .pass else .indeterminate

end HybridX509.Oracle
