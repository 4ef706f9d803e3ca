import HybridX509.Oracle.Panics

/-! # Policies and scopes on one request

Validation, support and the aggregates do not look at the policy, so the three
policies are three readings of the same aggregates. A wider scope only adds
certificates to the lists that P2 takes the worst of.
-/

namespace HybridX509.Oracle

open Lib

variable {parseFromRfc3339 : String → Bool} {request : VerificationRequest}

/-! ## Policies -/

section Readings

variable {a : Aggregates}

theorem whole_ne_pass_of_classicalPart (below : a.classicalPart ≠ .pass) : a.whole ≠ .pass := by
  intro pass
  exact below (AggregateState.pass_le_iff.mp (pass ▸ a.whole_le_classicalPart))

/-- P1 answers as P0, except that it may raise acceptance to hybrid. -/
theorem verdictOf_p1_cases :
    verdictOf .p1OptionalHybrid a = verdictOf .p0Classical a ∨
      verdictOf .p1OptionalHybrid a = .hybridClaimSetSatisfied ∧
        verdictOf .p0Classical a = .classicalClaimSetSatisfied ∧
        verdictOf .p2RequiredHybrid a = .hybridClaimSetSatisfied := by
  simp only [verdictOf]
  cases requirement : a.hasClassicalRequirement with
  | false => exact .inl rfl
  | true =>
      by_cases pass : a.whole = .pass
      · have part : a.classicalPart = .pass := by
          by_contra below
          exact whole_ne_pass_of_classicalPart below pass
        exact .inr (by simp [pass, part, classicalVerdict, hybridVerdict])
      · exact .inl (by simp [pass])

theorem verdictOf_p0_ne_hybrid : verdictOf .p0Classical a ≠ .hybridClaimSetSatisfied := by
  simp only [verdictOf]
  split
  · exact classicalVerdict_ne_hybrid _
  · decide

/-- A fallback under P2 is what P1 accepts as classical. -/
theorem classical_of_p2_fallback {verdict : PolicyVerdict}
    (fallen : fallback .p2RequiredHybrid verdict a = true) :
    verdictOf .p1OptionalHybrid a = .classicalClaimSetSatisfied := by
  simp only [fallback, Bool.and_eq_true, Bool.or_eq_true, bne_iff_ne] at fallen
  obtain ⟨requirement, part⟩ := Aggregates.classicalAuthenticationSucceeded_iff.mp fallen.1
  have whole : a.whole ≠ .pass := by
    simp only [Aggregates.whole, ne_eq, AggregateState.inf_eq_pass_iff]
    tauto
  simp [verdictOf, requirement, whole, part, classicalVerdict]

end Readings

theorem evaluate_policy_error {abort : Abort}
    (invalid : validateRequest parseFromRfc3339 request = .error abort) (policy : Policy) :
    evaluate parseFromRfc3339 { request with policy := policy } = .error abort :=
  evaluate_error_iff.mpr invalid

/-- The relations between the answers of P0, P1 and P2. -/
structure Coherent (p0 p1 p2 : VerificationResult) : Prop where
  reject : p1.policyVerdict = .reject ↔ p0.policyVerdict = .reject
  indeterminate : p1.policyVerdict = .indeterminate ↔ p0.policyVerdict = .indeterminate
  unsupportedP1 : p1.policyVerdict = .unsupported ↔ p0.policyVerdict = .unsupported
  unsupportedP2 : p0.policyVerdict = .unsupported ↔ p2.policyVerdict = .unsupported
  accepted : p1.policyVerdict = .classicalClaimSetSatisfied ∨
    p1.policyVerdict = .hybridClaimSetSatisfied ↔ p0.policyVerdict = .classicalClaimSetSatisfied
  hybrid : p1.policyVerdict = .hybridClaimSetSatisfied →
    p2.policyVerdict = .hybridClaimSetSatisfied
  fallback : p2.classicalOnlyFallback = true → p1.policyVerdict = .classicalClaimSetSatisfied

theorem coherent_of_outcomes {p0 p1 p2 : VerificationResult}
    (outcome0 : Outcome { request with policy := .p0Classical } p0)
    (outcome1 : Outcome { request with policy := .p1OptionalHybrid } p1)
    (outcome2 : Outcome { request with policy := .p2RequiredHybrid } p2) : Coherent p0 p1 p2 := by
  cases outcome0 with
  | unsupported refused =>
      cases outcome1 with
      | decided supported => exact absurd (refused.symm.trans supported) (by decide)
      | unsupported =>
          cases outcome2 with
          | decided supported => exact absurd (refused.symm.trans supported) (by decide)
          | unsupported => constructor <;> simp [result]
  | @decided a _ supported computed =>
      cases outcome1 with
      | unsupported refused => exact absurd (refused.symm.trans supported) (by decide)
      | @decided b _ _ computed1 =>
          cases outcome2 with
          | unsupported refused => exact absurd (refused.symm.trans supported) (by decide)
          | @decided c _ _ computed2 =>
              obtain rfl : b = a := ok_unique computed1 computed
              obtain rfl : c = b := ok_unique computed2 computed
              have noHybrid := @verdictOf_p0_ne_hybrid c
              have supported0 := verdictOf_ne_unsupported .p0Classical c
              have supported2 := verdictOf_ne_unsupported .p2RequiredHybrid c
              have fallen := @classical_of_p2_fallback c (verdictOf .p2RequiredHybrid c)
              rcases @verdictOf_p1_cases c with same | ⟨raised, classical, whole⟩
              · constructor <;> simp_all [result]
              · constructor <;> simp_all [result]

/-- Evaluating one request under P0, P1 and P2 gives one error three times, or
    three coherent answers. -/
theorem policies_coherent (parseFromRfc3339 : String → Bool) (request : VerificationRequest) :
    (∃ error,
      evaluate parseFromRfc3339 { request with policy := .p0Classical } = .error (.err error) ∧
      evaluate parseFromRfc3339 { request with policy := .p1OptionalHybrid } = .error (.err error) ∧
      evaluate parseFromRfc3339 { request with policy := .p2RequiredHybrid } =
        .error (.err error)) ∨
    ∃ p0 p1 p2, evaluate parseFromRfc3339 { request with policy := .p0Classical } = .ok p0 ∧
      evaluate parseFromRfc3339 { request with policy := .p1OptionalHybrid } = .ok p1 ∧
      evaluate parseFromRfc3339 { request with policy := .p2RequiredHybrid } = .ok p2 ∧
      Coherent p0 p1 p2 := by
  cases valid : validateRequest parseFromRfc3339 request with
  | error abort =>
      obtain ⟨error, rfl⟩ := validateRequest_raises parseFromRfc3339 request abort valid
      exact .inl ⟨error, evaluate_policy_error valid _, evaluate_policy_error valid _,
        evaluate_policy_error valid _⟩
  | ok =>
      obtain ⟨p0, outcome0⟩ := Outcome.total { request with policy := .p0Classical }
      obtain ⟨p1, outcome1⟩ := Outcome.total { request with policy := .p1OptionalHybrid }
      obtain ⟨p2, outcome2⟩ := Outcome.total { request with policy := .p2RequiredHybrid }
      exact .inr ⟨p0, p1, p2, evaluate_of_outcome valid outcome0, evaluate_of_outcome valid outcome1,
        evaluate_of_outcome valid outcome2, coherent_of_outcomes outcome0 outcome1 outcome2⟩

/-! ## Scopes -/

theorem certificates_endEntity_subset {certificate : CertificateNode}
    (inside : certificate ∈ certificates { request with pathScope := .endEntity }) :
    certificate ∈ certificates { request with pathScope := .certificationPath } := by
  obtain ⟨inPath, included⟩ := mem_certificates.mp inside
  refine mem_certificates.mpr ⟨inPath, ?_⟩
  have position : certificate.position = .endEntity := by simpa [PathScope.includes] using included
  simp [PathScope.includes, position]

theorem unsupported_widened (refused : unsupported { request with pathScope := .endEntity } = true) :
    unsupported { request with pathScope := .certificationPath } = true := by
  rcases unsupported_iff.mp refused with stack | ⟨certificate, inside, unknown⟩
  · exact unsupported_iff.mpr (.inl stack)
  · exact unsupported_iff.mpr (.inr ⟨certificate, certificates_endEntity_subset inside, unknown⟩)

theorem kindState_widened_le (valid : validateRequest parseFromRfc3339 request = .ok ())
    (kind : EvidenceKind) :
    kindState { request with pathScope := .certificationPath } kind ≤
      kindState { request with pathScope := .endEntity } kind := by
  have wf (scope : PathScope) : WellFormed parseFromRfc3339 { request with pathScope := scope } :=
    validateRequest_ok_iff.mp valid
  apply (wf _).kindState_le (wf _)
  intro certificate member
  obtain ⟨inside, required⟩ := mem_requiredCertificates.mp member
  exact ⟨mem_requiredCertificates.mpr ⟨certificates_endEntity_subset inside, required⟩, le_rfl⟩

theorem designState_widened_le :
    hybridAuthenticationDesignState (certificates { request with pathScope := .certificationPath })
      { request with pathScope := .certificationPath } ≤
    hybridAuthenticationDesignState (certificates { request with pathScope := .endEntity })
      { request with pathScope := .endEntity } := by
  apply designState_le
  intro certificate member
  exact ⟨certificates_endEntity_subset member, le_rfl⟩

/-- Under P2 the certification path is judged at most as well as its end entity. -/
theorem wider_scope_atMost (parseFromRfc3339 : String → Bool) (request : VerificationRequest)
    (policy : request.policy = .p2RequiredHybrid) :
    (∃ error, evaluate parseFromRfc3339 { request with pathScope := .endEntity } =
        .error (.err error) ∧
      evaluate parseFromRfc3339 { request with pathScope := .certificationPath } =
        .error (.err error)) ∨
    ∃ leaf path, evaluate parseFromRfc3339 { request with pathScope := .endEntity } = .ok leaf ∧
      evaluate parseFromRfc3339 { request with pathScope := .certificationPath } = .ok path ∧
      (path.policyVerdict ≠ .unsupported →
        PolicyVerdict.AtMost path.policyVerdict leaf.policyVerdict) := by
  cases valid : validateRequest parseFromRfc3339 request with
  | error abort =>
      obtain ⟨error, rfl⟩ := validateRequest_raises parseFromRfc3339 request abort valid
      exact .inl ⟨error, evaluate_error_iff.mpr valid, evaluate_error_iff.mpr valid⟩
  | ok =>
      obtain ⟨leaf, leafOutcome⟩ := Outcome.total { request with pathScope := .endEntity }
      obtain ⟨path, pathOutcome⟩ := Outcome.total { request with pathScope := .certificationPath }
      refine .inr ⟨leaf, path, evaluate_of_outcome valid leafOutcome,
        evaluate_of_outcome valid pathOutcome, fun supported => ?_⟩
      have leafSupported : leaf.policyVerdict ≠ .unsupported := fun refused =>
        supported (pathOutcome.unsupported_verdict_iff.mpr
          (unsupported_widened (leafOutcome.unsupported_verdict_iff.mp refused)))
      obtain ⟨a, computes, verdict⟩ := pathOutcome.verdict_eq supported
      obtain ⟨b, computes', verdict'⟩ := leafOutcome.verdict_eq leafSupported
      rw [verdict, verdict', policy]
      apply hybridVerdict_mono
      have stack : a.stackState = b.stackState :=
        ok_unique computes.stack computes'.stack
      have below : a.Below b := computes.below computes' stack.le rfl
        (kindState_widened_le valid) designState_widened_le rfl
      exact below.whole_le

/-- The end entity is accepted as hybrid, the path is not: its intermediate has no
    post-quantum evidence. -/
theorem wider_scope_atMost_intermediate :
    ∃ leaf path, evaluate Fixture.acceptTime
        { Fixture.intermediateRequest .hybrid .atomicComposite .pass with
          pathScope := .endEntity } = .ok leaf ∧
      evaluate Fixture.acceptTime
        { Fixture.intermediateRequest .hybrid .atomicComposite .pass with
          pathScope := .certificationPath } = .ok path ∧
      leaf.policyVerdict = .hybridClaimSetSatisfied ∧ path.policyVerdict = .reject ∧
      PolicyVerdict.AtMost path.policyVerdict leaf.policyVerdict := by
  obtain ⟨accepted, leafReturns, hybrid⟩ := answer_of_map
    (by decide +kernel : (evaluate Fixture.acceptTime
      { Fixture.intermediateRequest .hybrid .atomicComposite .pass with
        pathScope := .endEntity }).map (·.policyVerdict) = .ok .hybridClaimSetSatisfied)
  obtain ⟨rejected, pathReturns, reject⟩ := answer_of_map
    (by decide +kernel : (evaluate Fixture.acceptTime
      { Fixture.intermediateRequest .hybrid .atomicComposite .pass with
        pathScope := .certificationPath }).map (·.policyVerdict) = .ok .reject)
  rcases wider_scope_atMost Fixture.acceptTime
      (Fixture.intermediateRequest .hybrid .atomicComposite .pass) rfl with
    ⟨error, _, failed⟩ | ⟨leaf, path, leafReturned, pathReturned, atMost⟩
  · cases failed.symm.trans pathReturns
  · obtain rfl : leaf = accepted := ok_unique leafReturned leafReturns
    obtain rfl : path = rejected := ok_unique pathReturned pathReturns
    exact ⟨leaf, path, leafReturned, pathReturned, hybrid, reject,
      atMost (by rw [reject]; decide)⟩

end HybridX509.Oracle
