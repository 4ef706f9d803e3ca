import HybridX509.Oracle.Outcome

/-! # What an end-entity decision looks at

Under the end-entity scope the cryptographic properties of the intermediates, the
evidence about them and the pairings that name them do not reach the answer. Scope
is applied to certificates, evidence and reported pairings in different places, and
the pairing of a Related certificate is looked up in the unfiltered lists, so each
of these uses is compared on its own.
-/

namespace HybridX509.Oracle

open Lib

/-- The same certificate, or two intermediates that differ in their schemes and
    binding designs at most. -/
def SameNode (left right : CertificateNode) : Prop :=
  left = right ∨ left.position = .intermediate ∧
    right = { left with
      subjectPublicKeyScheme := right.subjectPublicKeyScheme
      certificateSignatureScheme := right.certificateSignatureScheme
      bindingDesign := right.bindingDesign }

/-- The pairing names an intermediate certificate of the path. -/
def namesIntermediate (request : VerificationRequest) (pair : PairedAuthentication) : Bool :=
  request.certificatePath.any fun certificate =>
    certificate.position == .intermediate && certificate.id == pair.classicalCertificateId

/-- Two requests that differ about intermediate certificates only. -/
structure DifferAtIntermediates (left right : VerificationRequest) : Prop where
  apart : right = { left with
    certificatePath := right.certificatePath
    pairedAuthentications := right.pairedAuthentications
    evidence := right.evidence }
  path : List.Forall₂ SameNode left.certificatePath right.certificatePath
  evidence : left.evidence.filter (·.position != .intermediate) =
    right.evidence.filter (·.position != .intermediate)
  pairs : (left.pairedAuthentications.filter fun pair => !namesIntermediate left pair) =
    right.pairedAuthentications.filter fun pair => !namesIntermediate right pair

theorem SameNode.symm {left right : CertificateNode} (same : SameNode left right) :
    SameNode right left := by
  rcases same with rfl | ⟨position, rest⟩
  · exact .inl rfl
  · refine .inr ⟨?_, ?_⟩
    · rw [rest]
      exact position
    · rw [rest]

theorem SameNode.position_eq {left right : CertificateNode} (same : SameNode left right) :
    left.position = right.position := by
  rcases same with rfl | ⟨_, rest⟩
  · rfl
  · rw [rest]

theorem SameNode.eq_of_endEntity {left right : CertificateNode} (same : SameNode left right)
    (endEntity : left.position = .endEntity) : left = right := by
  rcases same with rfl | ⟨intermediate, _⟩
  · rfl
  · rw [endEntity] at intermediate
    cases intermediate

/-- The validated path reads nothing the two certificates may differ in. -/
theorem SameNode.validatedPathCertificate_eq {left right : CertificateNode}
    (same : SameNode left right) (hasEndEntity : Bool) :
    validatedPathCertificate hasEndEntity left = validatedPathCertificate hasEndEntity right := by
  rcases same with rfl | ⟨_, rest⟩
  · rfl
  · rw [rest]
    rfl

section Paths

variable {path path' : List CertificateNode} (aligned : List.Forall₂ SameNode path path')

include aligned

theorem endEntities_eq :
    path.filter (·.position == .endEntity) = path'.filter (·.position == .endEntity) := by
  induction aligned with
  | nil => rfl
  | @cons left right _ _ same _ ih =>
      by_cases endEntity : left.position = .endEntity
      · have node := same.eq_of_endEntity endEntity
        simp [← node, endEntity, ih]
      · have also : right.position ≠ .endEntity := same.position_eq ▸ endEntity
        simp [endEntity, also, ih]

theorem validatedPath_eq (hasEndEntity : Bool) :
    path.foldlM validatedPathCertificate hasEndEntity =
      path'.foldlM validatedPathCertificate hasEndEntity := by
  induction aligned generalizing hasEndEntity with
  | nil => rfl
  | cons same _ ih =>
      rw [List.foldlM_cons, List.foldlM_cons, same.validatedPathCertificate_eq]
      exact congrArg _ (funext ih)

end Paths

theorem endEntity_of_mem_certificates {request : VerificationRequest}
    (scope : request.pathScope = .endEntity) {certificate : CertificateNode}
    (inside : certificate ∈ certificates request) :
    certificate ∈ request.certificatePath ∧ certificate.position = .endEntity := by
  obtain ⟨inPath, included⟩ := mem_certificates.mp inside
  rw [scope] at included
  exact ⟨inPath, by simpa [PathScope.includes] using included⟩

/-- In a well-formed request no other certificate shares the identifier of an
    end entity. -/
theorem WellFormed.namesIntermediate_eq_false {parseFromRfc3339 : String → Bool}
    {request : VerificationRequest} (wf : WellFormed parseFromRfc3339 request)
    {certificate : CertificateNode} (inPath : certificate ∈ request.certificatePath)
    (endEntity : certificate.position = .endEntity) {pair : PairedAuthentication}
    (names : certificate.id = pair.classicalCertificateId) :
    namesIntermediate request pair = false := by
  simp only [namesIntermediate, List.any_eq_false, Bool.and_eq_true, beq_iff_eq, not_and]
  intro other inside intermediate sameId
  obtain rfl : other = certificate :=
    List.inj_on_of_nodup_map wf.certificateIds inside inPath (sameId.trans names.symm)
  rw [endEntity] at intermediate
  cases intermediate

namespace DifferAtIntermediates

variable {left right : VerificationRequest} (differ : DifferAtIntermediates left right)

include differ

theorem symm : DifferAtIntermediates right left where
  apart := by rw [differ.apart]
  path := differ.path.flip.imp fun _ _ same => SameNode.symm same
  evidence := differ.evidence.symm
  pairs := differ.pairs.symm

theorem policy_eq : left.policy = right.policy := by rw [differ.apart]

theorem pathScope_eq : left.pathScope = right.pathScope := by rw [differ.apart]

theorem stack_eq : left.stack = right.stack := by rw [differ.apart]

theorem validationTime_eq : left.validationTime = right.validationTime := by rw [differ.apart]

theorem revocationPolicy_eq : left.revocationPolicy = right.revocationPolicy := by
  rw [differ.apart]

theorem stackState_eq : stackState left = stackState right := by
  simp only [stackState, stackValidationTimeState, differ.stack_eq, differ.validationTime_eq]

theorem validatedPathState_eq : validatedPathState left = validatedPathState right := by
  simp only [validatedPathState, differ.stack_eq, validatedPath_eq differ.path]

section EndEntity

variable (scope : left.pathScope = .endEntity)

include scope

theorem certificates_eq : certificates left = certificates right := by
  have scope' : right.pathScope = .endEntity := differ.pathScope_eq ▸ scope
  rw [certificates, certificates, scope, scope']
  exact endEntities_eq differ.path

/-- Leaving out the intermediate items first changes nothing. -/
theorem inScope_eq : inScope left = inScope right := by
  have scope' : right.pathScope = .endEntity := differ.pathScope_eq ▸ scope
  have through (items : List Evidence) : items.filter (PathScope.endEntity.includes ·.position) =
      (items.filter (·.position != .intermediate)).filter
        (PathScope.endEntity.includes ·.position) := by
    rw [List.filter_filter]
    apply List.filter_congr
    intro item _
    cases item.position <;> rfl
  rw [inScope, inScope, scope, scope', through, differ.evidence, ← through]

theorem evidenceOfKind_eq (kind : EvidenceKind) :
    evidenceOfKind left kind = evidenceOfKind right kind := by
  rw [evidenceOfKind, evidenceOfKind, differ.inScope_eq scope]

theorem requiredCertificates_eq (kind : EvidenceKind) :
    requiredCertificates left kind = requiredCertificates right kind := by
  rw [requiredCertificates, requiredCertificates, differ.certificates_eq scope]

theorem kindState_eq (kind : EvidenceKind) : kindState left kind = kindState right kind := by
  rw [kindState, kindState, differ.requiredCertificates_eq scope, differ.evidenceOfKind_eq scope,
    differ.revocationPolicy_eq]

theorem unsupported_eq : unsupported left = unsupported right := by
  rw [unsupported, unsupported, differ.certificates_eq scope, differ.stack_eq]

/-- A pairing found for an end entity is found in the other request too, where the
    lookup meets other items and other pairings on its way. -/
theorem pairedOperation_carried {parseFromRfc3339 : String → Bool}
    (wf : WellFormed parseFromRfc3339 left) (wf' : WellFormed parseFromRfc3339 right)
    {certificate : CertificateNode} (inside : certificate ∈ certificates left)
    {pair : PairedAuthentication} (found : pairedOperation left certificate = some pair) :
    pairedOperation right certificate = some pair := by
  obtain ⟨inPath, endEntity⟩ := endEntity_of_mem_certificates scope inside
  obtain ⟨item, member, named, paired, carried⟩ := wf.pairedOperation_eq_some_iff.mp found
  have wfItem := wf.evidenceFor member inPath named
  have kept : item ∈ left.evidence.filter (·.position != .intermediate) := by
    simp [member, ← wfItem.position, endEntity]
  rw [differ.evidence] at kept
  obtain ⟨owner, ownerPaired, sameOperation, ownerNamed⟩ := wfItem.paired _ carried
  obtain rfl : owner = pair :=
    List.inj_on_of_nodup_map wf.operationIds ownerPaired paired sameOperation
  have names : certificate.id = owner.classicalCertificateId := (ownerNamed.trans named).symm
  have keptPair : owner ∈ left.pairedAuthentications.filter fun pair =>
      !namesIntermediate left pair := by
    simp [paired, wf.namesIntermediate_eq_false inPath endEntity names]
  rw [differ.pairs] at keptPair
  exact wf'.pairedOperation_eq_some_iff.mpr ⟨item, (List.mem_filter.mp kept).1, named,
    (List.mem_filter.mp keptPair).1, carried⟩

theorem pairedOperation_eq {parseFromRfc3339 : String → Bool}
    (wf : WellFormed parseFromRfc3339 left) (wf' : WellFormed parseFromRfc3339 right)
    {certificate : CertificateNode} (inside : certificate ∈ certificates left) :
    pairedOperation left certificate = pairedOperation right certificate := by
  have scope' : right.pathScope = .endEntity := differ.pathScope_eq ▸ scope
  have inside' : certificate ∈ certificates right := differ.certificates_eq scope ▸ inside
  ext pair
  constructor
  · exact differ.pairedOperation_carried scope wf wf' inside
  · exact differ.symm.pairedOperation_carried scope' wf' wf inside'

theorem designState_eq {parseFromRfc3339 : String → Bool}
    (wf : WellFormed parseFromRfc3339 left) (wf' : WellFormed parseFromRfc3339 right) :
    hybridAuthenticationDesignState (certificates left) left =
      hybridAuthenticationDesignState (certificates right) right := by
  rw [hybridAuthenticationDesignState_eq_worst, hybridAuthenticationDesignState_eq_worst,
    ← differ.certificates_eq scope]
  apply worst_congr
  intro certificate inside
  rw [designGrade, designGrade, differ.pairedOperation_eq scope wf wf' inside]

theorem aggregates_eq {parseFromRfc3339 : String → Bool}
    (wf : WellFormed parseFromRfc3339 left) (wf' : WellFormed parseFromRfc3339 right) :
    aggregates left = aggregates right := by
  unfold aggregates
  rw [differ.stackState_eq, differ.kindState_eq scope, differ.kindState_eq scope,
    differ.validatedPathState_eq, differ.designState_eq scope wf wf', differ.stack_eq,
    differ.requiredCertificates_eq scope, differ.requiredCertificates_eq scope,
    differ.certificates_eq scope]

/-- The reported pairings name in-scope certificates. -/
theorem failedPairChecks_eq {parseFromRfc3339 : String → Bool}
    (wf : WellFormed parseFromRfc3339 left) (wf' : WellFormed parseFromRfc3339 right) :
    failedPairChecks left = failedPairChecks right := by
  have scope' : right.pathScope = .endEntity := differ.pathScope_eq ▸ scope
  have through {request : VerificationRequest} (wf : WellFormed parseFromRfc3339 request)
      (scope : request.pathScope = .endEntity) :
      (request.pairedAuthentications.filter fun pair =>
        (certificates request).any (·.id == pair.classicalCertificateId)
          && requiredCheckState pair.sameAuthenticationOperation false != .pass) =
      (request.pairedAuthentications.filter fun pair => !namesIntermediate request pair).filter
        fun pair => (certificates request).any (·.id == pair.classicalCertificateId)
          && requiredCheckState pair.sameAuthenticationOperation false != .pass := by
    rw [List.filter_filter]
    apply List.filter_congr
    intro pair _
    cases named : (certificates request).any (·.id == pair.classicalCertificateId) with
    | false => simp
    | true =>
        obtain ⟨certificate, inside, sameId⟩ := List.any_eq_true.mp named
        obtain ⟨inPath, endEntity⟩ := endEntity_of_mem_certificates scope inside
        simp [wf.namesIntermediate_eq_false inPath endEntity (beq_iff_eq.mp sameId)]
  rw [failedPairChecks, failedPairChecks, through wf scope, through wf' scope', differ.pairs,
    differ.certificates_eq scope]

theorem failedChecks_eq {parseFromRfc3339 : String → Bool}
    (wf : WellFormed parseFromRfc3339 left) (wf' : WellFormed parseFromRfc3339 right) :
    failedChecks left = failedChecks right := by
  rw [failedChecks, failedChecks, differ.inScope_eq scope, differ.requiredCertificates_eq scope,
    differ.requiredCertificates_eq scope, differ.evidenceOfKind_eq scope,
    differ.evidenceOfKind_eq scope, differ.failedPairChecks_eq scope wf wf']

end EndEntity

end DifferAtIntermediates

/-- Intermediate certificates, their evidence and their pairings do not leak into
    an end-entity decision. -/
theorem endEntity_decision_independent {parseFromRfc3339 : String → Bool}
    {left right : VerificationRequest} {answer answer' : VerificationResult}
    (differ : DifferAtIntermediates left right) (scope : left.pathScope = .endEntity)
    (returned : evaluate parseFromRfc3339 left = .ok answer)
    (returned' : evaluate parseFromRfc3339 right = .ok answer') :
    answer.policyVerdict = answer'.policyVerdict ∧
      answer.classicalOnlyFallback = answer'.classicalOnlyFallback ∧
      answer.lifecycleDesynchronization = answer'.lifecycleDesynchronization ∧
      answer.reason = answer'.reason ∧ answer.failedChecks = answer'.failedChecks := by
  obtain ⟨wf, outcome⟩ := evaluate_ok_iff.mp returned
  obtain ⟨wf', outcome'⟩ := evaluate_ok_iff.mp returned'
  have support := differ.unsupported_eq scope
  cases outcome with
  | unsupported refused =>
      cases outcome' with
      | unsupported => exact ⟨rfl, rfl, rfl, rfl, rfl⟩
      | decided supported =>
          rw [refused, supported] at support
          cases support
  | @decided a reason supported computed decision =>
      cases outcome' with
      | unsupported refused =>
          rw [refused, supported] at support
          cases support
      | @decided b reason' _ computed' decision' =>
          rw [differ.aggregates_eq scope wf wf'] at computed
          obtain rfl : a = b := ok_unique computed computed'
          rw [differ.policy_eq] at decision
          have sameReason : reason = reason' :=
            congrArg Prod.snd (ok_unique decision decision')
          simp only [result, differ.policy_eq, lifecycleDesynchronization,
            differ.evidenceOfKind_eq scope, differ.failedChecks_eq scope wf wf', sameReason,
            and_self]

theorem endEntity_decision_independent_composite :
    ∃ answer answer',
      evaluate Fixture.acceptTime (Fixture.intermediateRequest .hybrid .atomicComposite .pass) =
        .ok answer ∧
      evaluate Fixture.acceptTime (Fixture.intermediateRequest .unknown .none .fail) = .ok answer' ∧
      answer.policyVerdict = .hybridClaimSetSatisfied ∧
      answer.policyVerdict = answer'.policyVerdict := by
  obtain ⟨answer, returned, verdict⟩ := answer_of_map
    (by decide +kernel : (evaluate Fixture.acceptTime
      (Fixture.intermediateRequest .hybrid .atomicComposite .pass)).map (·.policyVerdict) =
        .ok .hybridClaimSetSatisfied)
  obtain ⟨answer', returned', _⟩ := answer_of_map
    (by decide +kernel : (evaluate Fixture.acceptTime
      (Fixture.intermediateRequest .unknown .none .fail)).map (·.policyVerdict) =
        .ok .hybridClaimSetSatisfied)
  have differ : DifferAtIntermediates (Fixture.intermediateRequest .hybrid .atomicComposite .pass)
      (Fixture.intermediateRequest .unknown .none .fail) := {
    apart := rfl
    path := .cons (.inl rfl) (.cons (.inr ⟨rfl, rfl⟩) .nil)
    evidence := rfl
    pairs := rfl }
  exact ⟨answer, answer', returned, returned', verdict,
    (endEntity_decision_independent differ rfl returned returned').1⟩

end HybridX509.Oracle
