import HybridX509.Oracle.Evaluate
import HybridX509.Oracle.WellFormed

/-! # Aggregates as infima

The early-returning loops of the oracle compute the worst of the grades they meet.
On a well-formed request each in-scope certificate has at most one item of each
kind, so the aggregates reduce to grades of single items and single pairings. The
second half reads the grades back as conditions on states and confidences.
-/

namespace HybridX509.Oracle

open Lib

/-! ## Loops -/

theorem conclude_absorb (indeterminate : Bool) (state : AggregateState) :
    conclude (absorb indeterminate state) = conclude (some indeterminate) ⊓ state := by
  cases indeterminate <;> cases state <;> rfl

/-- The grade of a named check, with the allowance of `evidence_state`. -/
def checkGrade (mode : RevocationPolicyMode) (check : String × CheckResult) : AggregateState :=
  requiredCheckState check.2 (allowNotApplicable mode check.1)

def itemGrade (mode : RevocationPolicyMode) (certificate : CertificateNode) (item : Evidence) :
    AggregateState :=
  evidenceBindingState certificate item ⊓ worst (checkGrade mode) item.checks

/-- The grade of one required certificate over the items that name it. -/
def certificateGrade (mode : RevocationPolicyMode) (certificate : CertificateNode)
    (certificateItems : List Evidence) : AggregateState :=
  if certificateItems.isEmpty then .fail else worst (itemGrade mode certificate) certificateItems

theorem evidenceStateItem_lowers (mode : RevocationPolicyMode) (certificate : CertificateNode)
    (indeterminate : Bool) (item : Evidence) :
    conclude (evidenceStateItem mode certificate indeterminate item) =
      conclude (some indeterminate) ⊓ itemGrade mode certificate item := by
  have bound := conclude_absorb indeterminate (evidenceBindingState certificate item)
  unfold evidenceStateItem itemGrade
  rw [← inf_assoc, ← bound]
  cases absorb indeterminate (evidenceBindingState certificate item) with
  | none => simp [conclude, ← AggregateState.bot_eq]
  | some flag =>
      exact foldlM_lowers conclude rfl _ (checkGrade mode)
        (fun flag check => conclude_absorb flag (checkGrade mode check)) flag item.checks

theorem evidenceState_eq_worst (required : List CertificateNode) (items : List Evidence)
    (mode : RevocationPolicyMode) :
    evidenceState required items mode =
      worst (fun certificate =>
        certificateGrade mode certificate (items.filter (·.certificateId == certificate.id)))
        required := by
  have lowers : ∀ flag certificate,
      conclude (evidenceStateCertificate items mode flag certificate) = conclude (some flag) ⊓
        certificateGrade mode certificate (items.filter (·.certificateId == certificate.id)) := by
    intro flag certificate
    simp only [evidenceStateCertificate, certificateGrade]
    split
    · simp [conclude, ← AggregateState.bot_eq]
    · exact foldlM_lowers conclude rfl _ _ (evidenceStateItem_lowers mode certificate) flag _
  cases required with
  | nil => rfl
  | cons head rest =>
      simp only [evidenceState, List.isEmpty_cons, Bool.false_eq_true, if_false]
      rw [foldlM_lowers conclude rfl _ _ lowers false (head :: rest)]
      exact top_inf_eq _

def designGrade (request : VerificationRequest) (certificate : CertificateNode) : AggregateState :=
  if certificate.hasHybridCertificateSignatureDesign then .pass
  else if certificate.bindingDesign != .relatedCertificate then .fail
  else match pairedOperation request certificate with
    | none => .fail
    | some pair => requiredCheckState pair.sameAuthenticationOperation false

theorem hybridAuthenticationDesignState_eq_worst (certificates : List CertificateNode)
    (request : VerificationRequest) :
    hybridAuthenticationDesignState certificates request =
      worst (designGrade request) certificates := by
  have lowers : ∀ flag certificate, conclude (designStateCertificate request flag certificate) =
      conclude (some flag) ⊓ designGrade request certificate := by
    intro flag certificate
    simp only [designStateCertificate, designGrade]
    split
    · simp [← AggregateState.top_eq]
    · split
      · simp [conclude, ← AggregateState.bot_eq]
      · cases pairedOperation request certificate with
        | none => simp [conclude, ← AggregateState.bot_eq]
        | some pair => exact conclude_absorb flag _
  rw [hybridAuthenticationDesignState, foldlM_lowers conclude rfl _ _ lowers false certificates]
  exact top_inf_eq _

/-! ## Reading grades back -/

/-- A check that was observed or behaviorally established. -/
def Strong (check : CheckResult) : Prop :=
  check.confidence = .observed ∨ check.confidence = .behaviorallyEstablished

theorem requiredCheckState_eq_pass_iff {check : CheckResult} {allow : Bool} :
    requiredCheckState check allow = .pass ↔
      Strong check ∧ (check.state = .pass ∨ check.state = .notApplicable ∧ allow = true) := by
  rcases check with ⟨state, confidence⟩
  cases confidence <;> cases state <;> cases allow <;> simp [requiredCheckState, Strong]

theorem requiredCheckState_eq_fail_iff {check : CheckResult} {allow : Bool} :
    requiredCheckState check allow = .fail ↔
      Strong check ∧ (check.state = .fail ∨ check.state = .notApplicable ∧ allow = false) := by
  rcases check with ⟨state, confidence⟩
  cases confidence <;> cases state <;> cases allow <;> simp [requiredCheckState, Strong]

theorem evidenceBindingState_ne_fail (certificate : CertificateNode) (item : Evidence) :
    evidenceBindingState certificate item ≠ .fail := by
  unfold evidenceBindingState
  split
  · simp
  · split
    · simp
    · split <;> simp

theorem itemGrade_eq_fail_iff {mode : RevocationPolicyMode} {certificate : CertificateNode}
    {item : Evidence} :
    itemGrade mode certificate item = .fail ↔ ∃ check ∈ item.checks, checkGrade mode check = .fail := by
  simp only [itemGrade, AggregateState.inf_eq_fail_iff, evidenceBindingState_ne_fail, false_or]
  exact worst_eq_bot_iff

theorem itemGrade_eq_pass_iff {mode : RevocationPolicyMode} {certificate : CertificateNode}
    {item : Evidence} :
    itemGrade mode certificate item = .pass ↔ evidenceBindingState certificate item = .pass ∧
      ∀ check ∈ item.checks, checkGrade mode check = .pass := by
  simp only [itemGrade, AggregateState.inf_eq_pass_iff]
  exact and_congr_right fun _ => worst_eq_top_iff

theorem certificateGrade_eq_fail_iff {mode : RevocationPolicyMode} {certificate : CertificateNode}
    {items : List Evidence} :
    certificateGrade mode certificate items = .fail ↔
      items = [] ∨ ∃ item ∈ items, itemGrade mode certificate item = .fail := by
  cases items with
  | nil => simp [certificateGrade]
  | cons head rest =>
      simp only [certificateGrade, List.isEmpty_cons, Bool.false_eq_true, if_false, reduceCtorEq,
        false_or]
      exact worst_eq_bot_iff

theorem certificateGrade_eq_pass_iff {mode : RevocationPolicyMode} {certificate : CertificateNode}
    {items : List Evidence} :
    certificateGrade mode certificate items = .pass ↔
      items ≠ [] ∧ ∀ item ∈ items, itemGrade mode certificate item = .pass := by
  cases items with
  | nil => simp [certificateGrade]
  | cons head rest =>
      simp only [certificateGrade, List.isEmpty_cons, Bool.false_eq_true, if_false, ne_eq,
        reduceCtorEq, not_false_iff, true_and]
      exact worst_eq_top_iff

theorem designGrade_eq_fail_iff {request : VerificationRequest} {certificate : CertificateNode} :
    designGrade request certificate = .fail ↔
      certificate.hasHybridCertificateSignatureDesign = false ∧
        (certificate.bindingDesign ≠ .relatedCertificate ∨
          pairedOperation request certificate = none ∨
          ∃ pair, pairedOperation request certificate = some pair ∧
            requiredCheckState pair.sameAuthenticationOperation false = .fail) := by
  unfold designGrade
  cases hybrid : certificate.hasHybridCertificateSignatureDesign with
  | true => simp
  | false =>
      by_cases related : certificate.bindingDesign = .relatedCertificate
      · cases found : pairedOperation request certificate <;> simp [related]
      · simp [related]

theorem designGrade_eq_pass_iff {request : VerificationRequest} {certificate : CertificateNode} :
    designGrade request certificate = .pass ↔
      certificate.hasHybridCertificateSignatureDesign = true ∨
        certificate.bindingDesign = .relatedCertificate ∧
          ∃ pair, pairedOperation request certificate = some pair ∧
            requiredCheckState pair.sameAuthenticationOperation false = .pass := by
  unfold designGrade
  cases hybrid : certificate.hasHybridCertificateSignatureDesign with
  | true => simp
  | false =>
      by_cases related : certificate.bindingDesign = .relatedCertificate
      · cases found : pairedOperation request certificate <;> simp [related]
      · simp [related]

end HybridX509.Oracle
