import HybridX509.Oracle.Outcome

/-! # Better checks

Two requests that differ only in their check results, each result of the second at
least as good as its counterpart. Everything but the grades agrees, so the
aggregates of the first are bounded by those of the second.
-/

namespace HybridX509.Oracle

open Lib

/-- The same item up to its checks, each graded at least as high. -/
structure ItemImproves (mode : RevocationPolicyMode) (item better : Evidence) : Prop where
  rest : better = { item with
    present := better.present
    recognized := better.recognized
    signature := better.signature
    binding := better.binding
    path := better.path
    validity := better.validity
    revocation := better.revocation
    decisionSensitiveForFixture := better.decisionSensitiveForFixture }
  checks : List.Forall₂ (fun check check' => checkGrade mode check ≤ checkGrade mode check')
    item.checks better.checks

/-- The same pairing up to its check, graded at least as high. -/
structure PairImproves (pair better : PairedAuthentication) : Prop where
  rest : better = { pair with sameAuthenticationOperation := better.sameAuthenticationOperation }
  check : requiredCheckState pair.sameAuthenticationOperation false ≤
    requiredCheckState better.sameAuthenticationOperation false

/-- The request with other check results. -/
def withChecks (request : VerificationRequest) (validationTime : CheckResult)
    (pairs : List PairedAuthentication) (items : List Evidence) : VerificationRequest :=
  { request with
    stack := { request.stack with validationTime := validationTime }
    pairedAuthentications := pairs
    evidence := items }

theorem ItemImproves.itemGrade_le {mode : RevocationPolicyMode} {item better : Evidence}
    (improves : ItemImproves mode item better) (certificate : CertificateNode) :
    itemGrade mode certificate item ≤ itemGrade mode certificate better := by
  have binding : evidenceBindingState certificate item = evidenceBindingState certificate better := by
    rw [improves.rest]
    rfl
  exact inf_le_inf binding.le (worst_le_of_aligned improves.checks)

theorem certificateGrade_le_of_aligned {mode : RevocationPolicyMode} {certificate : CertificateNode}
    {items better : List Evidence} (aligned : List.Forall₂ (ItemImproves mode) items better) :
    certificateGrade mode certificate items ≤ certificateGrade mode certificate better := by
  have grades : worst (itemGrade mode certificate) items ≤ worst (itemGrade mode certificate) better :=
    worst_le_of_aligned (aligned.imp fun _ _ improves => improves.itemGrade_le certificate)
  cases aligned with
  | nil => exact le_rfl
  | cons => exact grades

section Requests

variable {parseFromRfc3339 : String → Bool} {request : VerificationRequest}
  {validationTime : CheckResult} {pairs : List PairedAuthentication} {items : List Evidence}

theorem stackState_improves
    (timeImproves : requiredCheckState request.stack.validationTime false ≤
      requiredCheckState validationTime false) {low high : AggregateState}
    (computed : stackState request = .ok low)
    (computed' : stackState (withChecks request validationTime pairs items) = .ok high) :
    low ≤ high := by
  unfold stackState withChecks at *
  cases verdict : request.stack.verdict with
  | accept =>
      simp only [verdict, Except.ok.injEq] at computed computed'
      subst computed computed'
      unfold stackValidationTimeState
      split
      · exact le_rfl
      · exact timeImproves
  | reject =>
      simp only [verdict, Except.ok.injEq] at computed computed'
      exact (computed.symm.trans computed').le
  | indeterminate =>
      simp only [verdict, Except.ok.injEq] at computed computed'
      exact (computed.symm.trans computed').le
  | unsupported => simp [verdict] at computed

theorem requirementGrade_improves
    (itemsImprove : List.Forall₂ (ItemImproves request.revocationPolicy.mode) request.evidence items)
    (kind : EvidenceKind) (certificate : CertificateNode) :
    requirementGrade request kind certificate ≤
      requirementGrade (withChecks request validationTime pairs items) kind certificate := by
  apply certificateGrade_le_of_aligned
  refine List.rel_filter ?_ itemsImprove
  intro item better improves
  rw [improves.rest]

theorem designGrade_improves (wf : WellFormed parseFromRfc3339 request)
    (wf' : WellFormed parseFromRfc3339 (withChecks request validationTime pairs items))
    (pairsImprove : List.Forall₂ PairImproves request.pairedAuthentications pairs)
    (itemsImprove : List.Forall₂ (ItemImproves request.revocationPolicy.mode) request.evidence items)
    (certificate : CertificateNode) :
    designGrade request certificate ≤
      designGrade (withChecks request validationTime pairs items) certificate := by
  unfold designGrade
  split
  · exact le_rfl
  · split
    · exact le_rfl
    · cases found : pairedOperation request certificate with
      | none => exact AggregateState.fail_le _
      | some pair =>
          obtain ⟨item, inside, named, paired, carried⟩ := wf.pairedOperation_eq_some_iff.mp found
          obtain ⟨item', inside', itemImproves⟩ := (exists_aligned itemsImprove).1 item inside
          obtain ⟨pair', paired', pairImproves⟩ := (exists_aligned pairsImprove).1 pair paired
          have named' : item'.certificateId = certificate.id := by
            rw [itemImproves.rest]
            exact named
          have carried' : item'.authenticationOperationId = some pair'.operationId := by
            rw [itemImproves.rest, pairImproves.rest]
            exact carried
          have found' : pairedOperation (withChecks request validationTime pairs items)
              certificate = some pair' :=
            wf'.pairedOperation_eq_some_iff.mpr ⟨item', inside', named', paired', carried'⟩
          rw [found']
          exact pairImproves.check

/-- Improving check results never lowers the verdict. -/
theorem improved_checks_atMost {answer answer' : VerificationResult}
    (timeImproves : requiredCheckState request.stack.validationTime false ≤
      requiredCheckState validationTime false)
    (pairsImprove : List.Forall₂ PairImproves request.pairedAuthentications pairs)
    (itemsImprove : List.Forall₂ (ItemImproves request.revocationPolicy.mode) request.evidence items)
    (returned : evaluate parseFromRfc3339 request = .ok answer)
    (returned' : evaluate parseFromRfc3339 (withChecks request validationTime pairs items) =
      .ok answer') :
    PolicyVerdict.AtMost answer.policyVerdict answer'.policyVerdict := by
  obtain ⟨wf, outcome⟩ := evaluate_ok_iff.mp returned
  obtain ⟨wf', outcome'⟩ := evaluate_ok_iff.mp returned'
  refine outcome.atMost outcome' rfl rfl ?_ rfl
  intro a b computes computes'
  refine computes.below computes' (stackState_improves timeImproves computes.stack computes'.stack)
    rfl (fun kind => wf.kindState_le wf' ?_) (designState_le ?_) rfl
  · intro certificate member
    exact ⟨member, requirementGrade_improves itemsImprove kind certificate⟩
  · intro certificate member
    exact ⟨member, designGrade_improves wf wf' pairsImprove itemsImprove certificate⟩

theorem improved_signature_atMost :
    ∃ answer answer',
      evaluate Fixture.acceptTime { Fixture.request .p2RequiredHybrid with
        evidence := [Fixture.evidence "classical" .classical,
          { Fixture.evidence "pq" .postQuantum with signature := .observed .fail }] } =
        .ok answer ∧
      evaluate Fixture.acceptTime (Fixture.request .p2RequiredHybrid) = .ok answer' ∧
      PolicyVerdict.AtMost answer.policyVerdict answer'.policyVerdict := by
  obtain ⟨answer, returned, _⟩ := answer_of_map
    (by decide +kernel : (evaluate Fixture.acceptTime { Fixture.request .p2RequiredHybrid with
        evidence := [Fixture.evidence "classical" .classical,
          { Fixture.evidence "pq" .postQuantum with signature := .observed .fail }] }).map
      (·.policyVerdict) = .ok .reject)
  obtain ⟨answer', returned', _⟩ := Fixture.request_hybrid
  refine ⟨answer, answer', returned, returned', ?_⟩
  refine improved_checks_atMost le_rfl .nil
    (.cons ⟨rfl, List.forall₂_same.mpr fun _ _ => le_rfl⟩ (.cons ⟨rfl, ?_⟩ .nil)) returned returned'
  simp only [Evidence.checks, List.forall₂_cons, le_rfl, true_and, and_true, List.Forall₂.nil]
  decide

end Requests

end HybridX509.Oracle
