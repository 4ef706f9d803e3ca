import HybridX509.Oracle.Acceptance

/-! # The exact meaning of required hybrid acceptance

P2 read off the request: what makes it unsupported, what speaks against it, and
what has to be shown. An objection is decisive wherever it stands in the path and
whatever else is indeterminate; nothing but the listed facts is asked for.
-/

namespace HybridX509.Oracle

open Lib

/-- A strong check that failed, or that is not applicable and may not be. -/
def Objects (check : CheckResult) : Prop :=
  Strong check ∧ (check.state = .fail ∨ check.state = .notApplicable)

def Establishes (check : CheckResult) : Prop := Strong check ∧ check.state = .pass

/-- An input the oracle does not judge. -/
def UnsupportedInput (request : VerificationRequest) : Prop :=
  request.stack.verdict = .unsupported ∨ ∃ certificate ∈ certificates request,
    certificate.subjectPublicKeyScheme = .unknown ∨
      certificate.certificateSignatureScheme = .unknown ∨ certificate.bindingDesign = .unknown

/-- What P2 rejects for. -/
inductive Objection (request : VerificationRequest) : Prop where
  | stackRejects (rejects : request.stack.verdict = .reject)
  | validationTime (accepts : request.stack.verdict = .accept)
      (applied : request.stack.appliedValidationTime = request.validationTime)
      (objects : Objects request.stack.validationTime)
  | notHybrid {certificate : CertificateNode} (inside : certificate ∈ certificates request)
      (signature : certificate.hasHybridCertificateSignatureDesign = false)
      (design : certificate.bindingDesign ≠ .relatedCertificate)
  | noOperation {certificate : CertificateNode} (inside : certificate ∈ certificates request)
      (related : certificate.bindingDesign = .relatedCertificate)
      (scheme : certificate.certificateSignatureScheme ≠ .hybrid)
      (absent : ∀ item ∈ request.evidence, item.certificateId ≠ certificate.id)
  | pairing {certificate : CertificateNode} {item : Evidence} {pair : PairedAuthentication}
      (inside : certificate ∈ certificates request)
      (related : certificate.bindingDesign = .relatedCertificate)
      (scheme : certificate.certificateSignatureScheme ≠ .hybrid)
      (member : item ∈ request.evidence) (named : item.certificateId = certificate.id)
      (paired : pair ∈ request.pairedAuthentications)
      (carried : item.authenticationOperationId = some pair.operationId)
      (objects : Objects pair.sameAuthenticationOperation)
  | missing {certificate : CertificateNode} {kind : EvidenceKind}
      (inside : certificate ∈ certificates request) (required : certificate.requires kind = true)
      (absent : ∀ item ∈ request.evidence, item.certificateId = certificate.id → item.kind ≠ kind)
  | check {certificate : CertificateNode} {item : Evidence} {check : String × CheckResult}
      (inside : certificate ∈ certificates request)
      (required : certificate.requires item.kind = true)
      (member : item ∈ request.evidence) (named : item.certificateId = certificate.id)
      (performed : check ∈ item.checks) (strong : Strong check.2)
      (objects : check.2.state = .fail ∨
        check.2.state = .notApplicable ∧ ¬ MayBeNotApplicable request.revocationPolicy.mode check.1)

/-- An item of the kind that is bound to the certificate by its hashes and whose
    checks pass. -/
def Shown (request : VerificationRequest) (kind : EvidenceKind) (certificate : CertificateNode) :
    Prop :=
  ∃ item ∈ request.evidence, item.certificateId = certificate.id ∧ item.kind = kind ∧
    item.certificateDerSha256.isSome ∧ item.evidenceArtifactDerSha256.isSome ∧
    item.issuerEdgeSha256.isSome ∧ ChecksPass request.revocationPolicy.mode item

/-- What P2 accepts for. -/
structure FullyShown (request : VerificationRequest) : Prop where
  stackAccepts : request.stack.verdict = .accept
  applied : request.stack.appliedValidationTime = request.validationTime
  validationTime : Establishes request.stack.validationTime
  profile : request.stack.validationProfile = .x509Path ∨
    request.stack.validationProfile = .webPkiServer
  selected : request.stack.selectedPathSource = .adapterSelected
  edges : ∀ certificate ∈ request.certificatePath, certificate.issuerEdgeSha256.isSome
  design : ∀ certificate ∈ certificates request,
    certificate.hasHybridCertificateSignatureDesign = true ∨
      certificate.bindingDesign = .relatedCertificate ∧
        ∃ item ∈ request.evidence, item.certificateId = certificate.id ∧
          ∃ pair ∈ request.pairedAuthentications,
            item.authenticationOperationId = some pair.operationId ∧
              Establishes pair.sameAuthenticationOperation
  evidence : ∀ certificate ∈ certificates request, ∀ kind,
    certificate.requires kind = true → Shown request kind certificate

/-! ## One aggregate at a time -/

theorem requiredCheckState_objects_iff {check : CheckResult} :
    requiredCheckState check false = .fail ↔ Objects check := by
  simp [requiredCheckState_eq_fail_iff, Objects]

theorem requiredCheckState_establishes_iff {check : CheckResult} :
    requiredCheckState check false = .pass ↔ Establishes check := by
  simp [requiredCheckState_eq_pass_iff, Establishes]

theorem unsupportedInput_iff {request : VerificationRequest} :
    unsupported request = true ↔ UnsupportedInput request := by
  simp only [unsupported_iff, UnsupportedInput, CertificateNode.hasUnknownCryptoProperty,
    AlgorithmSecurity.isUnknown, BindingDesign.isUnknown, Bool.or_eq_true, beq_iff_eq, or_assoc]

theorem stackState_eq_fail_iff {request : VerificationRequest} {state : AggregateState}
    (computed : stackState request = .ok state) :
    state = .fail ↔ request.stack.verdict = .reject ∨ request.stack.verdict = .accept ∧
      request.stack.appliedValidationTime = request.validationTime ∧
      Objects request.stack.validationTime := by
  unfold stackState at computed
  cases verdict : request.stack.verdict with
  | accept =>
      simp only [verdict, Except.ok.injEq, stackValidationTimeState] at computed
      by_cases applied : request.stack.appliedValidationTime = request.validationTime
      · simp [← computed, applied, requiredCheckState_objects_iff]
      · simp [← computed, applied]
  | reject =>
      simp only [verdict, Except.ok.injEq] at computed
      simp [← computed]
  | indeterminate =>
      simp only [verdict, Except.ok.injEq] at computed
      simp [← computed]
  | unsupported => simp [verdict] at computed

theorem stackState_eq_pass_iff {request : VerificationRequest} {state : AggregateState}
    (computed : stackState request = .ok state) :
    state = .pass ↔ request.stack.verdict = .accept ∧
      request.stack.appliedValidationTime = request.validationTime ∧
      Establishes request.stack.validationTime := by
  unfold stackState at computed
  cases verdict : request.stack.verdict with
  | accept =>
      simp only [verdict, Except.ok.injEq, stackValidationTimeState] at computed
      by_cases applied : request.stack.appliedValidationTime = request.validationTime
      · simp [← computed, applied, requiredCheckState_establishes_iff]
      · simp [← computed, applied]
  | reject =>
      simp only [verdict, Except.ok.injEq] at computed
      simp [← computed]
  | indeterminate =>
      simp only [verdict, Except.ok.injEq] at computed
      simp [← computed]
  | unsupported => simp [verdict] at computed

section Aggregate

variable {parseFromRfc3339 : String → Bool} {request : VerificationRequest}

theorem requirementGrade_eq_fail_iff {kind : EvidenceKind} {certificate : CertificateNode} :
    requirementGrade request kind certificate = .fail ↔
      (∀ item ∈ request.evidence, item.certificateId = certificate.id → item.kind ≠ kind) ∨
      ∃ item ∈ request.evidence, item.certificateId = certificate.id ∧ item.kind = kind ∧
        ∃ check ∈ item.checks, checkGrade request.revocationPolicy.mode check = .fail := by
  have absent : itemsOf request kind certificate = [] ↔
      ∀ item ∈ request.evidence, item.certificateId = certificate.id → item.kind ≠ kind := by
    simp [itemsOf, List.filter_eq_nil_iff]
  simp only [requirementGrade, certificateGrade_eq_fail_iff, absent, mem_itemsOf,
    itemGrade_eq_fail_iff, and_assoc]

theorem evidenceBindingState_eq_pass_iff {certificate : CertificateNode} {item : Evidence}
    (inner : certificate.position ≠ .trustAnchor) (der : certificate.derSha256.isSome) :
    evidenceBindingState certificate item = .pass ↔
      item.certificateDerSha256.isSome ∧ item.evidenceArtifactDerSha256.isSome ∧
        certificate.issuerEdgeSha256.isSome ∧ item.issuerEdgeSha256.isSome := by
  have present : certificate.derSha256.isNone = false := Option.isNone_eq_false_iff.mpr der
  unfold evidenceBindingState
  cases item.certificateDerSha256 <;> cases item.evidenceArtifactDerSha256 <;>
    cases certificate.issuerEdgeSha256 <;> cases item.issuerEdgeSha256 <;> simp [present, inner]

theorem WellFormed.kindState_eq_fail_iff (wf : WellFormed parseFromRfc3339 request)
    {kind : EvidenceKind} :
    kindState request kind = .fail ↔ ∃ certificate ∈ certificates request,
      certificate.requires kind = true ∧
        requirementGrade request kind certificate = .fail := by
  rw [wf.kindState_eq_worst, ← AggregateState.bot_eq, worst_eq_bot_iff]
  simp only [mem_requiredCertificates, and_assoc]

theorem WellFormed.kindState_eq_pass_iff (wf : WellFormed parseFromRfc3339 request)
    {kind : EvidenceKind} :
    kindState request kind = .pass ↔ ∀ certificate ∈ certificates request,
      certificate.requires kind = true →
        requirementGrade request kind certificate = .pass := by
  rw [wf.kindState_eq_worst, ← AggregateState.top_eq, worst_eq_top_iff]
  simp only [mem_requiredCertificates, and_imp]

theorem WellFormed.requirementGrade_bound_iff (wf : WellFormed parseFromRfc3339 request)
    {kind : EvidenceKind} {certificate : CertificateNode}
    (inside : certificate ∈ certificates request) :
    requirementGrade request kind certificate = .pass ↔
      certificate.issuerEdgeSha256.isSome ∧ Shown request kind certificate := by
  have inPath := (mem_certificates.mp inside).1
  have bound (item : Evidence) := @evidenceBindingState_eq_pass_iff certificate item
    (wf.not_trustAnchor inPath) (wf.pathCertificates certificate inPath).derPresent
  rw [wf.requirementGrade_eq_pass_iff]
  simp only [itemGrade_eq_pass_iff, bound, checkGrade_eq_pass_iff]
  constructor
  · intro ⟨item, single, ⟨der, artifact, edge, issuer⟩, checks⟩
    have member : item ∈ itemsOf request kind certificate := by simp [single]
    obtain ⟨inEvidence, named, sameKind⟩ := mem_itemsOf.mp member
    exact ⟨edge, item, inEvidence, named, sameKind, der, artifact, issuer, checks⟩
  · intro ⟨edge, item, inEvidence, named, sameKind, der, artifact, issuer, checks⟩
    have member := mem_itemsOf.mpr ⟨inEvidence, named, sameKind⟩
    exact ⟨item, wf.itemsOf_eq_singleton member, ⟨der, artifact, edge, issuer⟩, checks⟩

theorem WellFormed.requirementGrade_shown_iff (wf : WellFormed parseFromRfc3339 request)
    (edges : ∀ certificate ∈ request.certificatePath, certificate.issuerEdgeSha256.isSome)
    {kind : EvidenceKind} {certificate : CertificateNode}
    (inside : certificate ∈ certificates request) :
    requirementGrade request kind certificate = .pass ↔ Shown request kind certificate := by
  have edge := edges certificate (mem_certificates.mp inside).1
  rw [wf.requirementGrade_bound_iff inside]
  simp only [edge, true_and]

theorem hasHybridDesign_of_scheme {certificate : CertificateNode}
    (scheme : certificate.certificateSignatureScheme = .hybrid) :
    certificate.hasHybridCertificateSignatureDesign = true := by
  simp [CertificateNode.hasHybridCertificateSignatureDesign, scheme]

theorem not_hasHybridDesign_of_related {certificate : CertificateNode}
    (related : certificate.bindingDesign = .relatedCertificate)
    (scheme : certificate.certificateSignatureScheme ≠ .hybrid) :
    certificate.hasHybridCertificateSignatureDesign = false := by
  simp [CertificateNode.hasHybridCertificateSignatureDesign, related, scheme,
    BindingDesign.isHybridCertificateSignatureDesign]

theorem WellFormed.objection_of_kindState (wf : WellFormed parseFromRfc3339 request)
    {kind : EvidenceKind} (failed : kindState request kind = .fail) : Objection request := by
  obtain ⟨certificate, inside, required, grade⟩ := wf.kindState_eq_fail_iff.mp failed
  rcases requirementGrade_eq_fail_iff.mp grade with
    absent | ⟨item, member, named, rfl, check, performed, checkFailed⟩
  · exact .missing inside required absent
  · obtain ⟨strong, objects⟩ := checkGrade_eq_fail_iff.mp checkFailed
    exact .check inside required member named performed strong objects

theorem WellFormed.objection_of_design (wf : WellFormed parseFromRfc3339 request)
    (failed : hybridAuthenticationDesignState (certificates request) request = .fail) :
    Objection request := by
  rw [hybridAuthenticationDesignState_eq_worst, ← AggregateState.bot_eq, worst_eq_bot_iff] at failed
  obtain ⟨certificate, inside, grade⟩ := failed
  obtain ⟨signature, rest⟩ := designGrade_eq_fail_iff.mp grade
  by_cases related : certificate.bindingDesign = .relatedCertificate
  · have scheme : certificate.certificateSignatureScheme ≠ .hybrid := fun hybrid => by
      simp [hasHybridDesign_of_scheme hybrid] at signature
    rcases rest with other | none | ⟨pair, found, objects⟩
    · exact absurd related other
    · refine .noOperation inside related scheme fun item member named => ?_
      obtain ⟨pair, found⟩ := (wf.pairedOperation_isSome_iff (mem_certificates.mp inside).1
        related).mpr ⟨item, member, named⟩
      simp [none] at found
    · obtain ⟨item, member, named, paired, carried⟩ := wf.pairedOperation_eq_some_iff.mp found
      exact .pairing inside related scheme member named paired carried
        (requiredCheckState_objects_iff.mp objects)
  · exact .notHybrid inside signature related

theorem WellFormed.kindState_eq_fail (wf : WellFormed parseFromRfc3339 request)
    {certificate : CertificateNode} {kind : EvidenceKind}
    (inside : certificate ∈ certificates request) (required : certificate.requires kind = true)
    (grade : requirementGrade request kind certificate = .fail) : kindState request kind = .fail :=
  wf.kindState_eq_fail_iff.mpr ⟨certificate, inside, required, grade⟩

theorem designState_eq_fail {certificate : CertificateNode}
    (inside : certificate ∈ certificates request)
    (grade : designGrade request certificate = .fail) :
    hybridAuthenticationDesignState (certificates request) request = .fail := by
  rw [hybridAuthenticationDesignState_eq_worst, ← AggregateState.bot_eq, worst_eq_bot_iff]
  exact ⟨certificate, inside, grade⟩

/-- The whole of the aggregates fails exactly on an objection. -/
theorem WellFormed.whole_eq_fail_iff (wf : WellFormed parseFromRfc3339 request) {a : Aggregates}
    (computes : Computes request a) : a.whole = .fail ↔ Objection request := by
  have profile := computes.ranged.profile
  have validatedPath := computes.ranged.validatedPath
  simp only [Aggregates.whole, Aggregates.classicalPart, AggregateState.inf_eq_fail_iff, profile,
    validatedPath, or_false, stackState_eq_fail_iff computes.stack, computes.classical, computes.pq,
    computes.design]
  constructor
  · rintro (((( rejects | ⟨accepts, applied, objects⟩) | classical) | pq) | design)
    · exact .stackRejects rejects
    · exact .validationTime accepts applied objects
    · exact wf.objection_of_kindState classical
    · exact wf.objection_of_kindState pq
    · exact wf.objection_of_design design
  · intro objection
    cases objection with
    | stackRejects rejects => simp [rejects]
    | validationTime accepts applied objects => simp [accepts, applied, objects]
    | @notHybrid certificate inside signature design =>
        have grade : designGrade request certificate = .fail :=
          designGrade_eq_fail_iff.mpr ⟨signature, .inl design⟩
        exact .inr (designState_eq_fail inside grade)
    | @noOperation certificate inside related scheme absent =>
        have none : pairedOperation request certificate = none := by
          apply Option.eq_none_iff_forall_ne_some.mpr
          intro pair found
          obtain ⟨item, member, named, _⟩ := wf.pairedOperation_eq_some_iff.mp found
          exact absent item member named
        have signature := not_hasHybridDesign_of_related related scheme
        have grade := designGrade_eq_fail_iff.mpr ⟨signature, .inr (.inl none)⟩
        exact .inr (designState_eq_fail inside grade)
    | pairing inside related scheme member named paired carried objects =>
        have found := wf.pairedOperation_eq_some_iff.mpr ⟨_, member, named, paired, carried⟩
        have failed := requiredCheckState_objects_iff.mpr objects
        have signature := not_hasHybridDesign_of_related related scheme
        have grade := designGrade_eq_fail_iff.mpr ⟨signature, .inr (.inr ⟨_, found, failed⟩)⟩
        exact .inr (designState_eq_fail inside grade)
    | @missing certificate kind inside required absent =>
        have grade := requirementGrade_eq_fail_iff.mpr (.inl absent)
        have failed := wf.kindState_eq_fail inside required grade
        cases kind <;> simp [failed]
    | @check certificate item check inside required member named performed strong objects =>
        have objecting := checkGrade_eq_fail_iff.mpr ⟨strong, objects⟩
        have grade := requirementGrade_eq_fail_iff.mpr
          (.inr ⟨item, member, named, rfl, check, performed, objecting⟩)
        have failed := wf.kindState_eq_fail inside required grade
        cases kind : item.kind <;> simp [kind] at failed <;> simp [failed]

/-- The whole of the aggregates passes exactly when everything is shown. -/
theorem WellFormed.whole_eq_pass_iff (wf : WellFormed parseFromRfc3339 request) {a : Aggregates}
    (computes : Computes request a) : a.whole = .pass ↔ FullyShown request := by
  have design : hybridAuthenticationDesignState (certificates request) request = .pass ↔
      ∀ certificate ∈ certificates request, designGrade request certificate = .pass := by
    rw [hybridAuthenticationDesignState_eq_worst]
    exact worst_eq_top_iff
  simp only [Aggregates.whole, Aggregates.classicalPart, AggregateState.inf_eq_pass_iff,
    stackState_eq_pass_iff computes.stack, computes.profile, computes.classical, computes.pq,
    computes.design, computes.validatedPath, authenticationProfileState_eq_pass_iff, design,
    wf.validatedPathState_eq_pass_iff, wf.kindState_eq_pass_iff, designGrade_eq_pass_iff,
    wf.pairedOperation_eq_some_iff, requiredCheckState_establishes_iff]
  constructor
  · rintro ⟨⟨⟨⟨⟨⟨accepts, applied, time⟩, profile⟩, classical⟩, pq⟩, designs⟩, selected, edges⟩
    refine ⟨accepts, applied, time, profile, selected, edges, ?_, ?_⟩
    · intro certificate inside
      rcases designs certificate inside with hybrid | ⟨related, pair, ⟨item, member, named, paired,
        carried⟩, establishes⟩
      · exact .inl hybrid
      · exact .inr ⟨related, item, member, named, pair, paired, carried, establishes⟩
    · intro certificate inside kind required
      rw [← wf.requirementGrade_shown_iff edges inside]
      cases kind with
      | classical => exact classical certificate inside required
      | postQuantum => exact pq certificate inside required
  · intro shown
    have grades (kind : EvidenceKind) : ∀ certificate ∈ certificates request,
        certificate.requires kind = true →
          requirementGrade request kind certificate = .pass := by
      intro certificate inside required
      rw [wf.requirementGrade_shown_iff shown.edges inside]
      exact shown.evidence certificate inside kind required
    refine ⟨⟨⟨⟨⟨⟨shown.stackAccepts, shown.applied, shown.validationTime⟩, shown.profile⟩,
      grades .classical⟩, grades .postQuantum⟩, ?_⟩, shown.selected, shown.edges⟩
    intro certificate inside
    rcases shown.design certificate inside with hybrid | ⟨related, item, member, named, pair,
      paired, carried, establishes⟩
    · exact .inl hybrid
    · exact .inr ⟨related, pair, ⟨item, member, named, paired, carried⟩, establishes⟩

/-- The answers of P2 to a well-formed request. -/
theorem WellFormed.p2_answer (wf : WellFormed parseFromRfc3339 request)
    (policy : request.policy = .p2RequiredHybrid) {answer : VerificationResult}
    (outcome : Outcome request answer) :
    (answer.policyVerdict = .unsupported ↔ UnsupportedInput request) ∧
      (answer.policyVerdict = .reject ↔ ¬ UnsupportedInput request ∧ Objection request) ∧
      (answer.policyVerdict = .hybridClaimSetSatisfied ↔
        ¬ UnsupportedInput request ∧ ¬ Objection request ∧ FullyShown request) ∧
      (answer.policyVerdict = .indeterminate ↔
        ¬ UnsupportedInput request ∧ ¬ Objection request ∧ ¬ FullyShown request) := by
  rw [← unsupportedInput_iff, ← outcome.unsupported_verdict_iff]
  by_cases supported : answer.policyVerdict = .unsupported
  · simp [supported]
  · obtain ⟨a, computes, verdict⟩ := outcome.verdict_eq supported
    have verdict : answer.policyVerdict = hybridVerdict a.whole := by rw [verdict, policy]; rfl
    rw [← wf.whole_eq_fail_iff computes, ← wf.whole_eq_pass_iff computes, verdict]
    cases a.whole <;> simp [hybridVerdict]

/-- Required hybrid acceptance, exactly: unsupported inputs are set apart, an
    objection rejects, everything shown accepts, and the rest is indeterminate. -/
theorem p2_verdict_exact (valid : validateRequest parseFromRfc3339 request = .ok ())
    (policy : request.policy = .p2RequiredHybrid) :
    ∃ answer, evaluate parseFromRfc3339 request = .ok answer ∧
      (answer.policyVerdict = .unsupported ↔ UnsupportedInput request) ∧
      (answer.policyVerdict = .reject ↔ ¬ UnsupportedInput request ∧ Objection request) ∧
      (answer.policyVerdict = .hybridClaimSetSatisfied ↔
        ¬ UnsupportedInput request ∧ ¬ Objection request ∧ FullyShown request) ∧
      (answer.policyVerdict = .indeterminate ↔
        ¬ UnsupportedInput request ∧ ¬ Objection request ∧ ¬ FullyShown request) := by
  have wf := validateRequest_ok_iff.mp valid
  obtain ⟨answer, outcome⟩ := Outcome.total request
  exact ⟨answer, evaluate_of_outcome valid outcome, wf.p2_answer policy outcome⟩

theorem p2_verdict_exact_composite :
    ∃ answer, evaluate Fixture.acceptTime (Fixture.request .p2RequiredHybrid) = .ok answer ∧
      answer.policyVerdict = .hybridClaimSetSatisfied ∧
      ¬ UnsupportedInput (Fixture.request .p2RequiredHybrid) ∧
      ¬ Objection (Fixture.request .p2RequiredHybrid) ∧
      FullyShown (Fixture.request .p2RequiredHybrid) := by
  obtain ⟨answer, returned, verdict⟩ := Fixture.request_hybrid
  obtain ⟨other, returned', _, _, hybrid, _⟩ := @p2_verdict_exact Fixture.acceptTime
    (Fixture.request .p2RequiredHybrid) (by decide +kernel) rfl
  obtain rfl : other = answer := ok_unique returned' returned
  exact ⟨other, returned, verdict, hybrid.mp verdict⟩

end Aggregate

end HybridX509.Oracle
