import HybridX509.Oracle.RequiredHybrid

/-! # Fallback and desynchronization

The two flags of an answer are computed beside the verdict, from fewer aggregates
and differently for each policy. They are restated over the request: a fallback is a
classical authentication that succeeded where a hybrid one was asked for or on
offer. Unsupported requests are answered before the flags are computed and never
raise them.
-/

namespace HybridX509.Oracle

open Lib

variable {parseFromRfc3339 : String → Bool} {request : VerificationRequest}
  {answer : VerificationResult}

/-- The certificate is bound to an issuer and has an item of the kind that is bound
    to it and whose checks pass. -/
def FullyPasses (request : VerificationRequest) (kind : EvidenceKind)
    (certificate : CertificateNode) : Prop :=
  certificate.issuerEdgeSha256.isSome ∧ Shown request kind certificate

/-- The evidence of one kind passes wherever the scope requires it. -/
def KindPasses (request : VerificationRequest) (kind : EvidenceKind) : Prop :=
  ∀ certificate ∈ certificates request, certificate.requires kind = true →
    FullyPasses request kind certificate

/-- Every certificate of the scope is signed hybrid or has an established pairing. -/
def DesignPasses (request : VerificationRequest) : Prop :=
  ∀ certificate ∈ certificates request, certificate.hasHybridCertificateSignatureDesign = true ∨
    certificate.bindingDesign = .relatedCertificate ∧
      ∃ item ∈ request.evidence, item.certificateId = certificate.id ∧
        ∃ pair ∈ request.pairedAuthentications,
          item.authenticationOperationId = some pair.operationId ∧
            Establishes pair.sameAuthenticationOperation

/-- The stack accepted at the requested time under an authentication profile, and
    the classical evidence of the scope carries it. -/
structure ClassicalSucceeds (request : VerificationRequest) : Prop where
  stackAccepts : request.stack.verdict = .accept
  applied : request.stack.appliedValidationTime = request.validationTime
  validationTime : Establishes request.stack.validationTime
  profile : request.stack.validationProfile = .x509Path ∨
    request.stack.validationProfile = .webPkiServer
  required : ∃ certificate ∈ certificates request, certificate.requires .classical = true
  classical : KindPasses request .classical

theorem WellFormed.kindPasses_iff (wf : WellFormed parseFromRfc3339 request)
    {kind : EvidenceKind} : kindState request kind = .pass ↔ KindPasses request kind := by
  rw [wf.kindState_eq_pass_iff]
  constructor
  · intro passes certificate inside required
    exact (wf.requirementGrade_bound_iff inside).mp (passes certificate inside required)
  · intro passes certificate inside required
    exact (wf.requirementGrade_bound_iff inside).mpr (passes certificate inside required)

theorem WellFormed.designPasses_iff (wf : WellFormed parseFromRfc3339 request) :
    hybridAuthenticationDesignState (certificates request) request = .pass ↔
      DesignPasses request := by
  rw [hybridAuthenticationDesignState_eq_worst, ← AggregateState.top_eq, worst_eq_top_iff]
  simp only [AggregateState.top_eq, designGrade_eq_pass_iff, wf.pairedOperation_eq_some_iff,
    requiredCheckState_establishes_iff]
  constructor
  · intro passes certificate inside
    rcases passes certificate inside with
      hybrid | ⟨related, pair, ⟨item, member, named, paired, carried⟩, establishes⟩
    · exact .inl hybrid
    · exact .inr ⟨related, item, member, named, pair, paired, carried, establishes⟩
  · intro passes certificate inside
    rcases passes certificate inside with
      hybrid | ⟨related, item, member, named, pair, paired, carried, establishes⟩
    · exact .inl hybrid
    · exact .inr ⟨related, pair, ⟨item, member, named, paired, carried⟩, establishes⟩

theorem WellFormed.classicalSucceeds_iff (wf : WellFormed parseFromRfc3339 request)
    {a : Aggregates} (computes : Computes request a) :
    a.classicalAuthenticationSucceeded = true ↔ ClassicalSucceeds request := by
  have required : (!(requiredCertificates request .classical).isEmpty) = true ↔
      ∃ certificate ∈ certificates request, certificate.requires .classical = true := by
    simp only [Bool.not_eq_true', List.isEmpty_eq_false_iff_exists_mem, mem_requiredCertificates]
  rw [Aggregates.classicalAuthenticationSucceeded_iff, computes.requirement, required]
  simp only [Aggregates.classicalPart, AggregateState.inf_eq_pass_iff,
    stackState_eq_pass_iff computes.stack, computes.profile,
    authenticationProfileState_eq_pass_iff, computes.classical, wf.kindPasses_iff]
  constructor
  · intro ⟨exists_required, ⟨⟨accepts, applied, time⟩, profile⟩, classical⟩
    exact ⟨accepts, applied, time, profile, exists_required, classical⟩
  · intro succeeds
    exact ⟨succeeds.required, ⟨⟨succeeds.stackAccepts, succeeds.applied,
      succeeds.validationTime⟩, succeeds.profile⟩, succeeds.classical⟩

/-- A fallback needs a policy that knows one and a classical success; the verdict
    is then classical acceptance under P1 and no acceptance under P2. -/
theorem fallback_cases {policy : Policy} {a : Aggregates}
    (fallen : fallback policy (verdictOf policy a) a = true) :
    a.classicalAuthenticationSucceeded = true ∧
      (policy = .p1OptionalHybrid ∧ verdictOf policy a = .classicalClaimSetSatisfied ∨
        policy = .p2RequiredHybrid ∧
          (verdictOf policy a = .reject ∨ verdictOf policy a = .indeterminate)) := by
  cases policy with
  | p0Classical => simp [fallback] at fallen
  | p3Continuity => simp [fallback] at fallen
  | p1OptionalHybrid =>
      simp only [fallback, Bool.and_eq_true, beq_iff_eq] at fallen
      refine ⟨?_, .inl ⟨rfl, fallen.1⟩⟩
      exact Aggregates.classicalAuthenticationSucceeded_iff.mpr
        (classicalPart_eq_pass_of_classical fallen.1)
  | p2RequiredHybrid =>
      simp only [fallback, Bool.and_eq_true, Bool.or_eq_true, bne_iff_ne] at fallen
      refine ⟨fallen.1, .inr ⟨rfl, ?_⟩⟩
      have whole : a.whole ≠ .pass := by
        simp only [Aggregates.whole, ne_eq, AggregateState.inf_eq_pass_iff]
        tauto
      simp only [verdictOf]
      cases state : a.whole with
      | pass => exact absurd state whole
      | fail => exact .inl rfl
      | indeterminate => exact .inr rfl

/-- What a raised flag says about the request and the verdict. -/
structure FlagsHold (request : VerificationRequest) (answer : VerificationResult) : Prop where
  desynchronization : answer.lifecycleDesynchronization = true →
    answer.classicalOnlyFallback = true
  policy : answer.classicalOnlyFallback = true →
    request.policy = .p1OptionalHybrid ∨ request.policy = .p2RequiredHybrid
  succeeds : answer.classicalOnlyFallback = true → ClassicalSucceeds request
  optional : answer.classicalOnlyFallback = true → request.policy = .p1OptionalHybrid →
    answer.policyVerdict = .classicalClaimSetSatisfied
  required : answer.classicalOnlyFallback = true → request.policy = .p2RequiredHybrid →
    answer.policyVerdict = .reject ∨ answer.policyVerdict = .indeterminate

/-- The flags mean what they say, and under P2 a classical success without the
    hybrid part raises the fallback unless the request is unsupported. -/
theorem flags_exact (returned : evaluate parseFromRfc3339 request = .ok answer) :
    FlagsHold request answer ∧
      (request.policy = .p2RequiredHybrid → answer.policyVerdict ≠ .unsupported →
        ClassicalSucceeds request →
        ¬ KindPasses request .postQuantum ∨ ¬ DesignPasses request →
          answer.classicalOnlyFallback = true) := by
  obtain ⟨wf, outcome⟩ := evaluate_ok_iff.mp returned
  cases outcome with
  | unsupported =>
      refine ⟨⟨?_, ?_, ?_, ?_, ?_⟩, fun _ supported => absurd rfl supported⟩ <;> simp [result]
  | @decided a reason supported computed decision =>
      have computes := computes_of_aggregates computed
      have succeeds := wf.classicalSucceeds_iff computes
      constructor
      · constructor
        · intro desynchronized
          exact (Bool.and_eq_true_iff.mp desynchronized).1
        · intro fallen
          rcases (fallback_cases fallen).2 with ⟨optional, _⟩ | ⟨required, _⟩
          · exact .inl optional
          · exact .inr required
        · intro fallen
          exact succeeds.mp (fallback_cases fallen).1
        · intro fallen optional
          rcases (fallback_cases fallen).2 with ⟨_, verdict⟩ | ⟨required, _⟩
          · exact verdict
          · exact absurd (optional.symm.trans required) (by decide)
        · intro fallen required
          rcases (fallback_cases fallen).2 with ⟨optional, _⟩ | ⟨_, verdict⟩
          · exact absurd (optional.symm.trans required) (by decide)
          · exact verdict
      · intro required _ classical missing
        simp only [result, required, fallback, Bool.and_eq_true, Bool.or_eq_true, bne_iff_ne,
          ne_eq, computes.pq, computes.design, wf.kindPasses_iff, wf.designPasses_iff]
        exact ⟨succeeds.mpr classical, missing⟩

/-- The fixture with a composite intermediate that has no post-quantum evidence. -/
def pathFallbackRequest : VerificationRequest :=
  { Fixture.intermediateRequest .hybrid .atomicComposite .pass with
    pathScope := .certificationPath }

theorem flags_exact_fallback :
    ∃ answer, evaluate Fixture.acceptTime pathFallbackRequest = .ok answer ∧
      answer.classicalOnlyFallback = true ∧ FlagsHold pathFallbackRequest answer := by
  obtain ⟨answer, returned, fallen⟩ := answer_of_map
    (by decide +kernel : (evaluate Fixture.acceptTime pathFallbackRequest).map
      (·.classicalOnlyFallback) = .ok true)
  exact ⟨answer, returned, fallen, (flags_exact returned).1⟩

/-- The fixture with an intermediate of an unknown signature scheme. -/
def unknownIssuerRequest : VerificationRequest :=
  { Fixture.intermediateRequest .unknown .none .pass with pathScope := .certificationPath }

theorem unknownIssuerRequest_no_fallback :
    ∃ answer, evaluate Fixture.acceptTime unknownIssuerRequest = .ok answer ∧
      unknownIssuerRequest.policy = .p2RequiredHybrid ∧
      ClassicalSucceeds unknownIssuerRequest ∧ ¬ DesignPasses unknownIssuerRequest ∧
      answer.classicalOnlyFallback = false := by
  obtain ⟨answer, returned, fallen⟩ := answer_of_map
    (by decide +kernel : (evaluate Fixture.acceptTime unknownIssuerRequest).map
      (·.classicalOnlyFallback) = .ok false)
  have wf := (evaluate_ok_iff.mp returned).1
  have stack : stackState unknownIssuerRequest = .ok .pass := rfl
  refine ⟨answer, returned, rfl, ?_, ?_, fallen⟩
  · obtain ⟨accepts, applied, time⟩ := (stackState_eq_pass_iff stack).mp rfl
    exact ⟨accepts, applied, time, .inl rfl, ⟨Fixture.leaf, List.mem_cons_self, rfl⟩,
      wf.kindPasses_iff.mp (by decide)⟩
  · rw [← wf.designPasses_iff]
    decide

end HybridX509.Oracle
