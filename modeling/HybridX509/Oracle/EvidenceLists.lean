import HybridX509.Oracle.Panics
import Mathlib.Data.List.Perm.Subperm

/-! # Withheld and reordered evidence

The evidence and pairing lists may be reordered, and evidence may be left out,
without a malformed request becoming well formed or the verdict improving. Both
rest on the uniqueness that validation establishes: an item that survives is graded
as before, and the pairing of a Related certificate does not depend on which of its
items is found first.
-/

namespace HybridX509.Oracle

open Lib

section Lists

variable {parseFromRfc3339 : String → Bool} {request : VerificationRequest}
  {items : List Evidence} {pairs : List PairedAuthentication}

private theorem nodup_map_of_subperm {β κ : Type*} {key : β → κ} {few many : List β}
    (kept : few.Subperm many) (distinct : (many.map key).Nodup) : (few.map key).Nodup := by
  obtain ⟨listed, perm, sublist⟩ := kept
  exact (perm.map key).nodup_iff.mp (distinct.sublist (sublist.map key))

theorem EvidenceWellFormed.rearranged {certificate : CertificateNode} {item : Evidence}
    (wf : EvidenceWellFormed request certificate item)
    (samePairs : pairs.Perm request.pairedAuthentications) :
    EvidenceWellFormed { request with evidence := items, pairedAuthentications := pairs }
      certificate item := by
  refine { wf with paired := ?_, pairedArtifact := ?_ }
  · intro operationId carried
    obtain ⟨pair, member, rest⟩ := wf.paired operationId carried
    exact ⟨pair, samePairs.mem_iff.mpr member, rest⟩
  · intro kind pair member
    exact wf.pairedArtifact kind pair (samePairs.mem_iff.mp member)

/-- Validation survives leaving evidence out and reordering both lists. -/
theorem WellFormed.rearranged (wf : WellFormed parseFromRfc3339 request)
    (kept : items.Subperm request.evidence) (samePairs : pairs.Perm request.pairedAuthentications) :
    WellFormed parseFromRfc3339
      { request with evidence := items, pairedAuthentications := pairs } := by
  refine { wf with
    evidenceIds := nodup_map_of_subperm kept wf.evidenceIds
    evidenceKinds := nodup_map_of_subperm kept wf.evidenceKinds
    operationIds := nodup_map_of_subperm samePairs.subperm wf.operationIds
    pairs := ?_
    evidence := ?_
    sameOperation := ?_ }
  · intro pair member
    have wfp := wf.pairs pair (samePairs.mem_iff.mp member)
    exact ⟨wfp.operationId, wfp.hash, wfp.classicalCertificate⟩
  · intro item member
    obtain ⟨certificate, inPath, wfi⟩ := wf.evidence item (kept.subset member)
    exact ⟨certificate, inPath, wfi.rearranged samePairs⟩
  · intro item inItem other inOther
    exact wf.sameOperation item (kept.subset inItem) other (kept.subset inOther)

section Grades

variable (wf : WellFormed parseFromRfc3339 request) (kept : items.Subperm request.evidence)
  (samePairs : pairs.Perm request.pairedAuthentications)

include wf kept samePairs

theorem requirementGrade_rearranged_le (kind : EvidenceKind) (certificate : CertificateNode) :
    requirementGrade { request with evidence := items, pairedAuthentications := pairs } kind
      certificate ≤ requirementGrade request kind certificate := by
  have wf' := wf.rearranged kept samePairs
  cases found : itemsOf { request with evidence := items, pairedAuthentications := pairs } kind
      certificate with
  | nil => simp [requirementGrade, certificateGrade, found]
  | cons item rest =>
      have member' : item ∈ itemsOf
          { request with evidence := items, pairedAuthentications := pairs } kind certificate := by
        simp [found]
      obtain ⟨inside, named, sameKind⟩ := mem_itemsOf.mp member'
      have member := mem_itemsOf.mpr ⟨kept.subset inside, named, sameKind⟩
      rw [requirementGrade, requirementGrade, wf'.itemsOf_eq_singleton member',
        wf.itemsOf_eq_singleton member]

theorem designGrade_rearranged_le (certificate : CertificateNode) :
    designGrade { request with evidence := items, pairedAuthentications := pairs } certificate ≤
      designGrade request certificate := by
  have wf' := wf.rearranged kept samePairs
  unfold designGrade
  split
  · exact le_rfl
  · split
    · exact le_rfl
    · cases found : pairedOperation
          { request with evidence := items, pairedAuthentications := pairs } certificate with
      | none => exact AggregateState.fail_le _
      | some pair =>
          obtain ⟨item, inside, named, paired, carried⟩ := wf'.pairedOperation_eq_some_iff.mp found
          have also : pairedOperation request certificate = some pair :=
            wf.pairedOperation_eq_some_iff.mpr
              ⟨item, kept.subset inside, named, samePairs.mem_iff.mp paired, carried⟩
          simp [also]

theorem kindState_rearranged_le (kind : EvidenceKind) :
    kindState { request with evidence := items, pairedAuthentications := pairs } kind ≤
      kindState request kind := by
  apply (wf.rearranged kept samePairs).kindState_le wf
  intro certificate member
  exact ⟨member, requirementGrade_rearranged_le wf kept samePairs kind certificate⟩

theorem designState_rearranged_le :
    hybridAuthenticationDesignState
      (certificates { request with evidence := items, pairedAuthentications := pairs })
      { request with evidence := items, pairedAuthentications := pairs } ≤
      hybridAuthenticationDesignState (certificates request) request := by
  apply designState_le
  intro certificate member
  exact ⟨member, designGrade_rearranged_le wf kept samePairs certificate⟩

end Grades

/-- Withholding evidence leaves the request answerable and never improves the
    verdict. -/
theorem withheld_evidence_atMost {answer : VerificationResult}
    (returned : evaluate parseFromRfc3339 request = .ok answer)
    (kept : items.Sublist request.evidence) :
    ∃ answer', evaluate parseFromRfc3339 { request with evidence := items } = .ok answer' ∧
      PolicyVerdict.AtMost answer'.policyVerdict answer.policyVerdict := by
  obtain ⟨wf, outcome⟩ := evaluate_ok_iff.mp returned
  have wf' := wf.rearranged kept.subperm (List.Perm.refl request.pairedAuthentications)
  obtain ⟨answer', outcome'⟩ := Outcome.total { request with evidence := items }
  refine ⟨answer', evaluate_ok_iff.mpr ⟨wf', outcome'⟩, outcome'.atMost outcome rfl rfl ?_ rfl⟩
  intro a b computes computes'
  have stack : a.stackState = b.stackState :=
    ok_unique computes.stack computes'.stack
  have samePairs := List.Perm.refl request.pairedAuthentications
  exact computes.below computes' stack.le rfl (kindState_rearranged_le wf kept.subperm samePairs)
    (designState_rearranged_le wf kept.subperm samePairs) rfl

theorem withheld_postQuantum_atMost :
    ∃ answer answer', evaluate Fixture.acceptTime (Fixture.request .p1OptionalHybrid) = .ok answer ∧
      evaluate Fixture.acceptTime { Fixture.request .p1OptionalHybrid with
        evidence := [Fixture.evidence "classical" .classical] } = .ok answer' ∧
      PolicyVerdict.AtMost answer'.policyVerdict answer.policyVerdict := by
  obtain ⟨answer, returned, _⟩ := answer_of_map
    (by decide +kernel : (evaluate Fixture.acceptTime (Fixture.request .p1OptionalHybrid)).map
      (·.policyVerdict) = .ok .hybridClaimSetSatisfied)
  have kept : [Fixture.evidence "classical" .classical].Sublist
      (Fixture.request .p1OptionalHybrid).evidence := List.sublist_append_left _ _
  obtain ⟨answer', returned', atMost⟩ := withheld_evidence_atMost returned kept
  exact ⟨answer, answer', returned, returned', atMost⟩

/-! ## Order -/

section Order

variable (sameItems : items.Perm request.evidence)
  (samePairs : pairs.Perm request.pairedAuthentications)

include sameItems samePairs

theorem wellFormed_reordered_iff :
    WellFormed parseFromRfc3339 { request with evidence := items, pairedAuthentications := pairs } ↔
      WellFormed parseFromRfc3339 request :=
  ⟨fun wf => wf.rearranged sameItems.symm.subperm samePairs.symm,
    fun wf => wf.rearranged sameItems.subperm samePairs⟩

theorem aggregates_reordered (wf : WellFormed parseFromRfc3339 request) :
    aggregates { request with evidence := items, pairedAuthentications := pairs } =
      aggregates request := by
  have wf' := wf.rearranged sameItems.subperm samePairs
  have kind (k : EvidenceKind) :
      kindState { request with evidence := items, pairedAuthentications := pairs } k =
        kindState request k :=
    le_antisymm (kindState_rearranged_le wf sameItems.subperm samePairs k)
      (kindState_rearranged_le wf' sameItems.symm.subperm samePairs.symm k)
  have design : hybridAuthenticationDesignState
      (certificates { request with evidence := items, pairedAuthentications := pairs })
      { request with evidence := items, pairedAuthentications := pairs } =
        hybridAuthenticationDesignState (certificates request) request :=
    le_antisymm (designState_rearranged_le wf sameItems.subperm samePairs)
      (designState_rearranged_le wf' sameItems.symm.subperm samePairs.symm)
  unfold aggregates
  rw [kind .classical, kind .postQuantum, design]
  rfl

omit samePairs in
theorem evidenceOfKind_reordered (pairs : List PairedAuthentication) (kind : EvidenceKind) :
    (evidenceOfKind { request with evidence := items, pairedAuthentications := pairs } kind).Perm
      (evidenceOfKind request kind) :=
  (sameItems.filter _).filter _

omit sameItems samePairs in
theorem missingEvidenceChecks_perm (required : List CertificateNode) {few many : List Evidence}
    (perm : few.Perm many) (kind : EvidenceKind) :
    missingEvidenceChecks required few kind = missingEvidenceChecks required many kind := by
  simp only [missingEvidenceChecks, perm.any_eq]

theorem failedChecks_reordered :
    (failedChecks { request with evidence := items, pairedAuthentications := pairs }).Perm
      (failedChecks request) := by
  have missing (kind : EvidenceKind) := missingEvidenceChecks_perm
    (requiredCertificates request kind) (evidenceOfKind_reordered sameItems pairs kind) kind
  refine ((List.Perm.append (List.Perm.append ?_ ?_) ?_).append ?_)
  · exact (sameItems.filter _).flatMap_right _
  · exact List.Perm.of_eq (missing .classical)
  · exact List.Perm.of_eq (missing .postQuantum)
  · exact (samePairs.filter _).map _

/-- Both runs refuse the request, or both answer it alike up to the order of the
    reported checks. -/
theorem Outcome.reordered (wf : WellFormed parseFromRfc3339 request)
    {answer answer' : VerificationResult} (outcome : Outcome request answer)
    (outcome' : Outcome { request with evidence := items, pairedAuthentications := pairs }
      answer') :
    answer'.policyVerdict = answer.policyVerdict ∧ answer'.reason = answer.reason ∧
      answer'.classicalOnlyFallback = answer.classicalOnlyFallback ∧
      answer'.lifecycleDesynchronization = answer.lifecycleDesynchronization ∧
      answer'.failedChecks.Perm answer.failedChecks := by
  cases outcome with
  | unsupported refused =>
      cases outcome' with
      | unsupported => exact ⟨rfl, rfl, rfl, rfl, List.Perm.refl _⟩
      | decided supported => exact absurd (refused.symm.trans supported) (by decide)
  | @decided a reason supported computed decision =>
      cases outcome' with
      | unsupported refused => exact absurd (refused.symm.trans supported) (by decide)
      | @decided b reason' _ computed' decision' =>
          obtain rfl : b = a := Except.ok.inj
            (computed'.symm.trans ((aggregates_reordered sameItems samePairs wf).trans computed))
          have sameReason : reason' = reason :=
            congrArg Prod.snd (ok_unique decision' decision)
          refine ⟨rfl, sameReason, rfl, ?_, failedChecks_reordered sameItems samePairs⟩
          exact congrArg (_ && ·) (evidenceOfKind_reordered sameItems pairs .postQuantum).any_eq

/-- The order of the evidence and of the pairings does not matter. -/
theorem evaluate_order_irrelevant :
    ((∃ error, evaluate parseFromRfc3339
        { request with evidence := items, pairedAuthentications := pairs } = .error (.err error)) ↔
      ∃ error, evaluate parseFromRfc3339 request = .error (.err error)) ∧
    ∀ answer answer', evaluate parseFromRfc3339 request = .ok answer →
      evaluate parseFromRfc3339
        { request with evidence := items, pairedAuthentications := pairs } = .ok answer' →
      answer'.policyVerdict = answer.policyVerdict ∧ answer'.reason = answer.reason ∧
        answer'.classicalOnlyFallback = answer.classicalOnlyFallback ∧
        answer'.lifecycleDesynchronization = answer.lifecycleDesynchronization ∧
        answer'.failedChecks.Perm answer.failedChecks := by
  constructor
  · rw [evaluate_err_iff, evaluate_err_iff, wellFormed_reordered_iff sameItems samePairs]
  · intro answer answer' returned returned'
    obtain ⟨wf, outcome⟩ := evaluate_ok_iff.mp returned
    obtain ⟨_, outcome'⟩ := evaluate_ok_iff.mp returned'
    exact outcome.reordered sameItems samePairs wf outcome'

end Order

theorem evaluate_order_irrelevant_composite :
    ∃ answer answer', evaluate Fixture.acceptTime (Fixture.request .p2RequiredHybrid) = .ok answer ∧
      evaluate Fixture.acceptTime { Fixture.request .p2RequiredHybrid with
        evidence := [Fixture.evidence "pq" .postQuantum, Fixture.evidence "classical" .classical] } =
        .ok answer' ∧
      answer'.policyVerdict = answer.policyVerdict := by
  obtain ⟨answer, returned, _⟩ := Fixture.request_hybrid
  obtain ⟨answer', returned', _⟩ := answer_of_map
    (by decide +kernel : (evaluate Fixture.acceptTime { Fixture.request .p2RequiredHybrid with
        evidence := [Fixture.evidence "pq" .postQuantum,
          Fixture.evidence "classical" .classical] }).map (·.policyVerdict) =
      .ok .hybridClaimSetSatisfied)
  have swapped := List.Perm.swap (Fixture.evidence "classical" .classical)
    (Fixture.evidence "pq" .postQuantum) []
  exact ⟨answer, answer', returned, returned',
    ((@evaluate_order_irrelevant Fixture.acceptTime (Fixture.request .p2RequiredHybrid) _ []
      swapped (List.Perm.refl [])).2 answer answer' returned returned').1⟩

end Lists

end HybridX509.Oracle
