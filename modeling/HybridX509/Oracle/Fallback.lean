import HybridX509.Oracle.Flags

/-! # Requests without a hybrid authentication

A hybrid authentication may be on offer in the scope without being established. All that
an answer can then say depends on the classical part: acceptance under the policies that
are content with it, and a fallback under the policies that would have preferred more.
-/

namespace HybridX509.Oracle

open Lib

/-- The answer of a request that has no hybrid authentication, by whether its classical
    part succeeds and whether an item of its post-quantum part has lapsed. -/
structure ClassicalOnly (policy : Policy) (answer : VerificationResult)
    (succeeds lapsed : Prop) : Prop where
  notHybrid : answer.policyVerdict ≠ .hybridClaimSetSatisfied
  unsupported : answer.policyVerdict = .unsupported ↔ answer.stackVerdict = .unsupported
  classical : answer.policyVerdict = .classicalClaimSetSatisfied ↔
    (policy = .p0Classical ∨ policy = .p1OptionalHybrid) ∧ succeeds
  fallback : answer.classicalOnlyFallback = true ↔
    (policy = .p1OptionalHybrid ∨ policy = .p2RequiredHybrid) ∧ succeeds
  desynchronization : answer.lifecycleDesynchronization = true ↔
    answer.classicalOnlyFallback = true ∧ lapsed

theorem ClassicalOnly.congr {policy : Policy} {answer : VerificationResult}
    {succeeds succeeds' lapsed lapsed' : Prop}
    (only : ClassicalOnly policy answer succeeds lapsed) (same : succeeds ↔ succeeds')
    (sameLapsed : lapsed ↔ lapsed') : ClassicalOnly policy answer succeeds' lapsed' where
  notHybrid := only.notHybrid
  unsupported := only.unsupported
  classical := only.classical.trans (and_congr_right' same)
  fallback := only.fallback.trans (and_congr_right' same)
  desynchronization := only.desynchronization.trans (and_congr_right' sameLapsed)

/-- Where a classical part that succeeds leaves no room for a lapse, there is no
    desynchronization. -/
theorem ClassicalOnly.synchronized {policy : Policy} {answer : VerificationResult}
    {succeeds lapsed : Prop} (only : ClassicalOnly policy answer succeeds lapsed)
    (apart : succeeds → ¬ lapsed) : ClassicalOnly policy answer succeeds False :=
  { only with
    desynchronization := by
      rw [only.desynchronization, and_false, iff_false]
      rintro ⟨fallen, lapse⟩
      exact apart (only.fallback.mp fallen).2 lapse }

section Aggregates

variable {policy : Policy} {a : Aggregates}

/-- Where the whole does not pass, the classical part is all there is to accept. -/
theorem verdictOf_classical_iff (incomplete : a.whole ≠ .pass) :
    verdictOf policy a = .classicalClaimSetSatisfied ↔
      (policy = .p0Classical ∨ policy = .p1OptionalHybrid) ∧
        a.classicalAuthenticationSucceeded = true := by
  rw [Aggregates.classicalAuthenticationSucceeded_iff]
  cases policy with
  | p0Classical =>
      cases required : a.hasClassicalRequirement <;> cases part : a.classicalPart <;>
        simp [verdictOf, required, part, classicalVerdict]
  | p1OptionalHybrid =>
      cases required : a.hasClassicalRequirement <;> cases part : a.classicalPart <;>
        simp [verdictOf, required, part, classicalVerdict, incomplete]
  | p2RequiredHybrid => cases whole : a.whole <;> simp [verdictOf, whole, hybridVerdict]
  | p3Continuity => simp [verdictOf]

/-- Where a hybrid authentication was on offer and failed to pass, the flag repeats the
    success of the classical part. -/
theorem fallback_iff (incomplete : a.whole ≠ .pass) (offered : a.hybridClaimEvaluated = true)
    (missing : a.pqState ≠ .pass ∨ a.hybridDesignState ≠ .pass) :
    fallback policy (verdictOf policy a) a = true ↔
      (policy = .p1OptionalHybrid ∨ policy = .p2RequiredHybrid) ∧
        a.classicalAuthenticationSucceeded = true := by
  cases policy with
  | p0Classical | p3Continuity => simp [fallback]
  | p1OptionalHybrid =>
      simp only [fallback, Bool.and_eq_true, beq_iff_eq, offered, and_true,
        verdictOf_classical_iff incomplete]
      simp
  | p2RequiredHybrid => simpa [fallback] using fun _ => missing

end Aggregates

variable {parseFromRfc3339 : String → Bool} {request : VerificationRequest}
  {answer : VerificationResult}

/-- What a request shows for a certificate and a kind is its one item of the kind. -/
theorem WellFormed.shown_iff (wf : WellFormed parseFromRfc3339 request) {item : Evidence}
    (member : item ∈ request.evidence) (bound : item.certificateDerSha256.isSome ∧
      item.evidenceArtifactDerSha256.isSome ∧ item.issuerEdgeSha256.isSome)
    {certificate : CertificateNode} (named : item.certificateId = certificate.id) :
    Shown request item.kind certificate ↔ ChecksPass request.revocationPolicy.mode item := by
  constructor
  · rintro ⟨other, inOther, otherNamed, otherKind, -, -, -, passes⟩
    have same : (other.certificateId, other.kind) = (item.certificateId, item.kind) :=
      Prod.ext (otherNamed.trans named.symm) otherKind
    obtain rfl := List.inj_on_of_nodup_map wf.evidenceKinds inOther member same
    exact passes
  · intro passes
    exact ⟨item, member, named, rfl, bound.1, bound.2.1, bound.2.2, passes⟩

/-- A hybrid authentication is on offer in a scope of known algorithms, and is not
    established. -/
structure HybridMissing (request : VerificationRequest) : Prop where
  known : ∀ certificate ∈ certificates request, certificate.hasUnknownCryptoProperty = false
  offered : ∃ certificate ∈ certificates request,
    certificate.hasHybridCertificateSignatureDesign = true ∨
      certificate.bindingDesign = .relatedCertificate
  missing : ¬ KindPasses request .postQuantum ∨ ¬ DesignPasses request

/-- An item of the post-quantum part was not valid any more, or revoked. -/
def Lapsed (request : VerificationRequest) : Prop :=
  ∃ item ∈ evidenceOfKind request .postQuantum,
    item.validity.state = .fail ∨ item.revocation.state = .fail

theorem HybridMissing.unsupported_iff (missing : HybridMissing request) :
    unsupported request = true ↔ request.stack.verdict = .unsupported := by
  rw [Oracle.unsupported_iff, or_iff_left]
  rintro ⟨certificate, inside, unknown⟩
  exact absurd ((missing.known certificate inside).symm.trans unknown) (by decide)

theorem offered_of_aggregates (missing : HybridMissing request) {a : Aggregates}
    (computed : aggregates request = .ok a) : a.hybridClaimEvaluated = true := by
  obtain ⟨_, -, rest⟩ := bind_ok_iff.mp computed
  obtain rfl := pure_ok_iff.mp rest
  obtain ⟨certificate, inside, hybrid⟩ := missing.offered
  have found : ((certificates request).any fun certificate =>
      certificate.hasHybridCertificateSignatureDesign ||
        certificate.bindingDesign == .relatedCertificate) = true :=
    List.any_eq_true.mpr ⟨certificate, inside, by simpa using hybrid⟩
  simp only [found, Bool.or_true]

theorem HybridMissing.parts (missing : HybridMissing request)
    (wf : WellFormed parseFromRfc3339 request) {a : Aggregates} (computes : Computes request a) :
    a.pqState ≠ .pass ∨ a.hybridDesignState ≠ .pass := by
  rw [computes.pq, computes.design, ne_eq, ne_eq, wf.kindPasses_iff, wf.designPasses_iff]
  exact missing.missing

/-- What is answered where the hybrid authentication on offer is not established. -/
theorem HybridMissing.classicalOnly (missing : HybridMissing request)
    (returned : evaluate parseFromRfc3339 request = .ok answer) :
    ClassicalOnly request.policy answer (ClassicalSucceeds request) (Lapsed request) := by
  obtain ⟨wf, outcome⟩ := evaluate_ok_iff.mp returned
  cases outcome with
  | unsupported refused =>
      have stack := missing.unsupported_iff.mp refused
      have none : ¬ ClassicalSucceeds request := by
        intro succeeds
        exact absurd (stack.symm.trans succeeds.stackAccepts) (by decide)
      constructor <;> simp [result, stack, none]
  | @decided a reason supported computed decision =>
      have computes := computes_of_aggregates computed
      have parts := missing.parts wf computes
      have incomplete : a.whole ≠ .pass := by
        simp only [Aggregates.whole, ne_eq, AggregateState.inf_eq_pass_iff]
        tauto
      have succeeds := wf.classicalSucceeds_iff computes
      constructor
      · intro hybrid
        exact incomplete (whole_eq_pass_of_hybrid hybrid)
      · have stack : request.stack.verdict ≠ .unsupported := by
          rw [ne_eq, ← missing.unsupported_iff, supported]
          decide
        simp [result, verdictOf_ne_unsupported, stack]
      · rw [← succeeds]
        exact verdictOf_classical_iff incomplete
      · rw [← succeeds]
        exact fallback_iff incomplete (offered_of_aggregates missing computed) parts
      · simp [result, lifecycleDesynchronization, Lapsed]

end HybridX509.Oracle
