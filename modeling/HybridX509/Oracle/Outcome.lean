import HybridX509.Oracle.Decision

/-! # What an evaluation returns

`evaluate` refuses exactly the malformed requests, with the error of validation,
and otherwise returns in one of two ways. Neither `unreachable!` is reached. Every
later result about a run starts from `evaluate_ok_iff`; a comparison of two runs
goes through `Outcome.atMost`.
-/

namespace HybridX509.Oracle

open Lib

/-- What `aggregates` computes, field by field. -/
structure Computes (request : VerificationRequest) (a : Aggregates) : Prop where
  stack : stackState request = .ok a.stackState
  profile : a.profileState = authenticationProfileState request.stack.validationProfile
  classical : a.classicalState = kindState request .classical
  pq : a.pqState = kindState request .postQuantum
  design : a.hybridDesignState = hybridAuthenticationDesignState (certificates request) request
  validatedPath : a.validatedPathState = validatedPathState request
  requirement : a.hasClassicalRequirement = !(requiredCertificates request .classical).isEmpty

theorem computes_of_aggregates {request : VerificationRequest} {a : Aggregates}
    (computed : aggregates request = .ok a) : Computes request a := by
  unfold aggregates at computed
  obtain ⟨state, stack, rest⟩ := bind_ok_iff.mp computed
  obtain rfl := pure_ok_iff.mp rest
  exact ⟨stack, rfl, rfl, rfl, rfl, rfl, rfl⟩

theorem Computes.ranged {request : VerificationRequest} {a : Aggregates}
    (computes : Computes request a) : a.Ranged where
  profile := computes.profile ▸ authenticationProfileState_ne_fail _
  validatedPath := computes.validatedPath ▸ validatedPathState_ne_fail _

/-- The comparison of two aggregates, reduced to what depends on the evidence. -/
theorem Computes.below {request request' : VerificationRequest} {a b : Aggregates}
    (computes : Computes request a) (computes' : Computes request' b)
    (stack : a.stackState ≤ b.stackState)
    (profile : request.stack.validationProfile = request'.stack.validationProfile)
    (kinds : ∀ kind, kindState request kind ≤ kindState request' kind)
    (design : hybridAuthenticationDesignState (certificates request) request ≤
      hybridAuthenticationDesignState (certificates request') request')
    (path : validatedPathState request = validatedPathState request') : a.Below b where
  stack := stack
  profile := by rw [computes.profile, computes'.profile, profile]
  classical := by rw [computes.classical, computes'.classical]; exact kinds .classical
  pq := by rw [computes.pq, computes'.pq]; exact kinds .postQuantum
  design := by rw [computes.design, computes'.design]; exact design
  validatedPath := by rw [computes.validatedPath, computes'.validatedPath, path]

theorem unsupported_iff {request : VerificationRequest} :
    unsupported request = true ↔ request.stack.verdict = .unsupported ∨
      ∃ certificate ∈ certificates request, certificate.hasUnknownCryptoProperty = true := by
  simp only [unsupported, Bool.or_eq_true, List.any_eq_true, beq_iff_eq]
  exact or_comm

theorem aggregates_total {request : VerificationRequest} (supported : unsupported request = false) :
    ∃ a, aggregates request = .ok a := by
  have known : request.stack.verdict ≠ .unsupported := by
    intro same
    rw [unsupported_iff.mpr (Or.inl same)] at supported
    cases supported
  have stack : ∃ state, stackState request = .ok state := by
    unfold stackState
    split
    · exact ⟨_, rfl⟩
    · exact ⟨_, rfl⟩
    · exact ⟨_, rfl⟩
    · contradiction
  obtain ⟨state, stack⟩ := stack
  exact ⟨_, bind_ok_iff.mpr ⟨state, stack, rfl⟩⟩

/-- The trees always decide, and their verdict is the closed form. -/
theorem policyDecision_total (policy : Policy) {a : Aggregates} (ranged : a.Ranged) :
    ∃ reason, policyDecision policy a = .ok (verdictOf policy a, reason) := by
  cases policy with
  | p0Classical => exact ⟨(decideP0 a).2, by rw [← decideP0_verdict ranged]; rfl⟩
  | p1OptionalHybrid => exact ⟨(decideP1 a).2, by rw [← decideP1_verdict ranged]; rfl⟩
  | p2RequiredHybrid => exact decideP2_verdict ranged
  | p3Continuity => exact ⟨_, rfl⟩

/-- The two ways a well-formed request is answered. -/
inductive Outcome (request : VerificationRequest) : VerificationResult → Prop where
  | unsupported (refused : unsupported request = true) :
      Outcome request (result request .unsupported false false []
        "The certificate cryptographic properties or validation stack are unsupported.")
  | decided {a : Aggregates} {reason : String} (supported : Oracle.unsupported request = false)
      (computed : aggregates request = .ok a)
      (decision : policyDecision request.policy a = .ok (verdictOf request.policy a, reason)) :
      Outcome request (result request (verdictOf request.policy a)
        (fallback request.policy (verdictOf request.policy a) a)
        (lifecycleDesynchronization request
          (fallback request.policy (verdictOf request.policy a) a))
        (failedChecks request) reason)

section Runs

variable {parseFromRfc3339 : String → Bool} {request : VerificationRequest}

theorem Outcome.total (request : VerificationRequest) : ∃ answer, Outcome request answer := by
  cases supported : Oracle.unsupported request with
  | true => exact ⟨_, .unsupported supported⟩
  | false =>
      obtain ⟨a, computed⟩ := aggregates_total supported
      obtain ⟨reason, decision⟩ :=
        policyDecision_total request.policy (computes_of_aggregates computed).ranged
      exact ⟨_, .decided supported computed decision⟩

theorem evaluate_of_outcome {answer : VerificationResult}
    (valid : validateRequest parseFromRfc3339 request = .ok ()) (outcome : Outcome request answer) :
    evaluate parseFromRfc3339 request = .ok answer := by
  unfold evaluate
  rw [valid]
  cases outcome with
  | unsupported refused => simp [refused, bind, Except.bind, pure, Except.pure]
  | decided supported computed decision =>
      simp [supported, computed, decision, bind, Except.bind, pure, Except.pure]

/-- Validation decides whether a request is answered, and `Outcome` how. -/
theorem evaluate_ok_iff {answer : VerificationResult} :
    evaluate parseFromRfc3339 request = .ok answer ↔
      WellFormed parseFromRfc3339 request ∧ Outcome request answer := by
  rw [← validateRequest_ok_iff]
  constructor
  · intro returned
    obtain ⟨_, valid, _⟩ := bind_ok_iff.mp returned
    obtain ⟨other, outcome⟩ := Outcome.total request
    have same : answer = other :=
      ok_unique returned (evaluate_of_outcome valid outcome)
    exact ⟨valid, same ▸ outcome⟩
  · intro ⟨valid, outcome⟩
    exact evaluate_of_outcome valid outcome

theorem evaluate_error_iff {abort : Abort} :
    evaluate parseFromRfc3339 request = .error abort ↔
      validateRequest parseFromRfc3339 request = .error abort := by
  cases valid : validateRequest parseFromRfc3339 request with
  | error other => simp [evaluate, valid, bind, Except.bind]
  | ok =>
      obtain ⟨answer, outcome⟩ := Outcome.total request
      simp [evaluate_of_outcome valid outcome]

theorem WellFormed.answered (wf : WellFormed parseFromRfc3339 request) :
    ∃ answer, evaluate parseFromRfc3339 request = .ok answer := by
  obtain ⟨answer, outcome⟩ := Outcome.total request
  exact ⟨answer, evaluate_ok_iff.mpr ⟨wf, outcome⟩⟩

/-- A request is answered exactly when it is well formed. -/
theorem evaluate_ok_exists_iff :
    (∃ answer, evaluate parseFromRfc3339 request = .ok answer) ↔
      WellFormed parseFromRfc3339 request := by
  constructor
  · intro ⟨answer, returned⟩
    exact (evaluate_ok_iff.mp returned).1
  · intro wf
    exact wf.answered

theorem answer_of_map {β : Type} {view : VerificationResult → β} {value : β}
    (evaluated : (evaluate parseFromRfc3339 request).map view = .ok value) :
    ∃ answer, evaluate parseFromRfc3339 request = .ok answer ∧ view answer = value := by
  cases returned : evaluate parseFromRfc3339 request with
  | error abort => simp [returned, Except.map] at evaluated
  | ok answer => exact ⟨answer, rfl, by simpa [returned, Except.map] using evaluated⟩

/-! ## Reading an outcome back -/

namespace Outcome

variable {answer : VerificationResult}

/-- An answer repeats the request it was given for. -/
theorem eq_result (outcome : Outcome request answer) :
    ∃ verdict fallback lifecycle failed reason,
      answer = result request verdict fallback lifecycle failed reason := by
  cases outcome with
  | unsupported refused => exact ⟨_, _, _, _, _, rfl⟩
  | decided supported computed decision => exact ⟨_, _, _, _, _, rfl⟩

theorem unsupported_verdict_iff (outcome : Outcome request answer) :
    answer.policyVerdict = .unsupported ↔ Oracle.unsupported request = true := by
  cases outcome with
  | unsupported refused => simp [refused, result]
  | decided supported computed decision => simp [supported, result, verdictOf_ne_unsupported]

theorem supported (outcome : Outcome request answer)
    (judged : answer.policyVerdict ≠ .unsupported) : Oracle.unsupported request = false := by
  rw [ne_eq, outcome.unsupported_verdict_iff, Bool.not_eq_true] at judged
  exact judged

/-- An answer other than `Unsupported` is the verdict of computed aggregates. -/
theorem verdict_eq (outcome : Outcome request answer)
    (supported : answer.policyVerdict ≠ .unsupported) :
    ∃ a, Computes request a ∧ answer.policyVerdict = verdictOf request.policy a := by
  cases outcome with
  | unsupported refused => exact absurd rfl supported
  | decided _ computed decision => exact ⟨_, computes_of_aggregates computed, rfl⟩

/-- Two runs under one policy, compared through their aggregates. -/
theorem atMost {request' : VerificationRequest} {answer' : VerificationResult}
    (low : Outcome request answer) (high : Outcome request' answer')
    (policy : request.policy = request'.policy)
    (support : Oracle.unsupported request = Oracle.unsupported request')
    (below : ∀ a b, Computes request a → Computes request' b → a.Below b)
    (requirement : (requiredCertificates request .classical).isEmpty =
      (requiredCertificates request' .classical).isEmpty) :
    PolicyVerdict.AtMost answer.policyVerdict answer'.policyVerdict := by
  by_cases supported : answer.policyVerdict = .unsupported
  · have also : answer'.policyVerdict = .unsupported :=
      high.unsupported_verdict_iff.mpr (support ▸ low.unsupported_verdict_iff.mp supported)
    rw [supported, also]
    exact PolicyVerdict.AtMost.refl _
  · have also : answer'.policyVerdict ≠ .unsupported := fun same =>
      supported (low.unsupported_verdict_iff.mpr (support ▸ high.unsupported_verdict_iff.mp same))
    obtain ⟨a, computes, verdict⟩ := low.verdict_eq supported
    obtain ⟨b, computes', verdict'⟩ := high.verdict_eq also
    rw [verdict, verdict', policy]
    apply verdictOf_mono (below a b computes computes')
    rw [computes.requirement, computes'.requirement, requirement]

end Outcome

end Runs

/-! ## A request

`evidence` and `request` of the oracle tests. The concrete cases of later modules
are field updates of it; `acceptTime` stands for a parser that reads its time.
-/

namespace Fixture

def leafDer : String := "aaaaaaaaaaaaaaaaaaaaaaaaaaaaaaaaaaaaaaaaaaaaaaaaaaaaaaaaaaaaaaaa"

def otherDer : String := "bbbbbbbbbbbbbbbbbbbbbbbbbbbbbbbbbbbbbbbbbbbbbbbbbbbbbbbbbbbbbbbb"

def leafEdge : String := "cccccccccccccccccccccccccccccccccccccccccccccccccccccccccccccccc"

def otherEdge : String := "dddddddddddddddddddddddddddddddddddddddddddddddddddddddddddddddd"

def rootDer : String := "eeeeeeeeeeeeeeeeeeeeeeeeeeeeeeeeeeeeeeeeeeeeeeeeeeeeeeeeeeeeeeee"

def time : String := "2026-06-20T00:00:00Z"

def acceptTime (text : String) : Bool := text == time

def pass : CheckResult := .observed .pass

def evidence (id : String) (kind : EvidenceKind) : Evidence where
  id := id
  certificateId := "leaf"
  position := .endEntity
  certificateDerSha256 := some leafDer
  evidenceArtifactDerSha256 := some leafDer
  issuerEdgeSha256 := some leafEdge
  authenticationOperationId := none
  kind := kind
  present := pass
  recognized := pass
  signature := pass
  binding := pass
  path := pass
  validity := pass
  revocation := pass
  revocationMethod := .crl
  appliedRevocationPolicy := .crlHardFail
  decisionSensitiveForFixture := pass

def leaf : CertificateNode where
  id := "leaf"
  position := .endEntity
  subjectPublicKeyScheme := .classical
  certificateSignatureScheme := .hybrid
  bindingDesign := .atomicComposite
  derSha256 := some leafDer
  issuerEdgeSha256 := some leafEdge

def stack : StackObservation where
  adapter := "test"
  version := "1"
  verdict := .accept
  versionTrack := .userSupplied
  validationProfile := .x509Path
  executionIsolation := .container
  certificationPathDerSha256 := [leafDer]
  selectedPathSource := .adapterSelected
  trustAnchor := .certificateDerSha256 rootDer
  appliedValidationTime := time
  validationTime := pass

def request (policy : Policy) : VerificationRequest where
  apiVersion := API_VERSION
  policy := policy
  pathScope := .endEntity
  validationTime := time
  previousAuthentication := none
  revocationPolicy := .crlHardFail
  stack := stack
  expectedTrustAnchor := .certificateDerSha256 rootDer
  certificatePath := [leaf]
  pairedAuthentications := []
  evidence := [evidence "classical" .classical, evidence "pq" .postQuantum]

/-- The fixture with an intermediate that brings a classical item only. -/
def intermediateRequest (scheme : AlgorithmSecurity) (design : BindingDesign)
    (signature : CheckState) : VerificationRequest :=
  { request .p2RequiredHybrid with
    stack := { stack with
      certificationPathDerSha256 := [leafDer, otherDer] }
    certificatePath := [leaf,
      { leaf with
        id := "ca"
        position := .intermediate
        certificateSignatureScheme := scheme
        bindingDesign := design
        derSha256 := some otherDer
        issuerEdgeSha256 := some otherEdge }]
    evidence := [evidence "classical" .classical,
      { evidence "ca-classical" .classical with
        certificateId := "ca"
        position := .intermediate
        certificateDerSha256 := some otherDer
        evidenceArtifactDerSha256 := some otherDer
        issuerEdgeSha256 := some otherEdge
        signature := .observed signature },
      evidence "pq" .postQuantum] }

theorem request_hybrid : ∃ answer, evaluate acceptTime (request .p2RequiredHybrid) = .ok answer ∧
    answer.policyVerdict = .hybridClaimSetSatisfied :=
  answer_of_map (by decide +kernel)

end Fixture

end HybridX509.Oracle
