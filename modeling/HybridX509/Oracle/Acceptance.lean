import HybridX509.Oracle.Outcome

/-! # What an accepted request has shown

The verdicts restated over certificates, evidence items and checks. Hybrid and
classical acceptance are covered up to one kind of certificate each, for which the
requirement filters of the data model do not ask for classical evidence; P2 is
characterized completely.
-/

namespace HybridX509.Oracle

open Lib

variable {parseFromRfc3339 : String → Bool} {request : VerificationRequest}
  {answer : VerificationResult}

/-! ## Passing evidence -/

/-- The places where `evidence_state` accepts a check that is not applicable. -/
def MayBeNotApplicable (mode : RevocationPolicyMode) (name : String) : Prop :=
  name = "binding" ∨ name = "revocation" ∧ mode = .notRequired

/-- All eight checks of the item are strong and pass, up to the allowances. -/
def ChecksPass (mode : RevocationPolicyMode) (item : Evidence) : Prop :=
  ∀ check ∈ item.checks, Strong check.2 ∧
    (check.2.state = .pass ∨ check.2.state = .notApplicable ∧ MayBeNotApplicable mode check.1)

/-- Exactly one item of the kind names the certificate, and its checks pass. -/
def Covered (request : VerificationRequest) (kind : EvidenceKind) (certificate : CertificateNode) :
    Prop :=
  ∃ item, itemsOf request kind certificate = [item] ∧ ChecksPass request.revocationPolicy.mode item

/-- The request carries an item of the kind for the certificate whose checks pass. -/
def Supplied (request : VerificationRequest) (kind : EvidenceKind) (certificate : CertificateNode) :
    Prop :=
  ∃ item ∈ request.evidence, item.certificateId = certificate.id ∧ item.kind = kind ∧
    ChecksPass request.revocationPolicy.mode item

theorem covered_of_supplied (wf : WellFormed parseFromRfc3339 request) {kind : EvidenceKind}
    {certificate : CertificateNode} (supplied : Supplied request kind certificate) :
    Covered request kind certificate := by
  obtain ⟨item, member, named, sameKind, checks⟩ := supplied
  exact ⟨item, wf.itemsOf_eq_singleton (mem_itemsOf.mpr ⟨member, named, sameKind⟩), checks⟩

theorem Covered.supplied {kind : EvidenceKind} {certificate : CertificateNode}
    (covered : Covered request kind certificate) : Supplied request kind certificate := by
  obtain ⟨item, single, checks⟩ := covered
  have member : item ∈ itemsOf request kind certificate := by simp [single]
  obtain ⟨inside, named, sameKind⟩ := mem_itemsOf.mp member
  exact ⟨item, inside, named, sameKind, checks⟩

theorem allowNotApplicable_iff {mode : RevocationPolicyMode} {name : String} :
    allowNotApplicable mode name = true ↔ MayBeNotApplicable mode name := by
  simp [allowNotApplicable, MayBeNotApplicable]

theorem checkGrade_eq_pass_iff {mode : RevocationPolicyMode} {check : String × CheckResult} :
    checkGrade mode check = .pass ↔ Strong check.2 ∧
      (check.2.state = .pass ∨ check.2.state = .notApplicable ∧ MayBeNotApplicable mode check.1) := by
  rw [checkGrade, requiredCheckState_eq_pass_iff, allowNotApplicable_iff]

theorem checkGrade_eq_fail_iff {mode : RevocationPolicyMode} {check : String × CheckResult} :
    checkGrade mode check = .fail ↔ Strong check.2 ∧
      (check.2.state = .fail ∨ check.2.state = .notApplicable ∧ ¬ MayBeNotApplicable mode check.1) := by
  rw [checkGrade, requiredCheckState_eq_fail_iff, ← allowNotApplicable_iff, Bool.not_eq_true]

theorem covered_of_requirementGrade (wf : WellFormed parseFromRfc3339 request)
    {kind : EvidenceKind} {certificate : CertificateNode}
    (pass : requirementGrade request kind certificate = .pass) :
    Covered request kind certificate := by
  obtain ⟨item, single, grade⟩ := wf.requirementGrade_eq_pass_iff.mp pass
  refine ⟨item, single, fun check member => ?_⟩
  exact checkGrade_eq_pass_iff.mp ((itemGrade_eq_pass_iff.mp grade).2 check member)

/-- A passing aggregate covers every certificate that requires the kind. -/
theorem covered_of_kindState (wf : WellFormed parseFromRfc3339 request) {kind : EvidenceKind}
    (pass : kindState request kind = .pass) {certificate : CertificateNode}
    (inside : certificate ∈ certificates request) (required : certificate.requires kind = true) :
    Covered request kind certificate := by
  rw [wf.kindState_eq_worst] at pass
  have grade := worst_eq_top_iff.mp pass certificate
    (mem_requiredCertificates.mpr ⟨inside, required⟩)
  exact covered_of_requirementGrade wf grade

theorem known_of_supported (supported : unsupported request = false)
    {certificate : CertificateNode} (inside : certificate ∈ certificates request) :
    certificate.certificateSignatureScheme ≠ .unknown ∧ certificate.bindingDesign ≠ .unknown := by
  have known : certificate.hasUnknownCryptoProperty ≠ true := by
    intro unknown
    rw [unsupported_iff.mpr (Or.inr ⟨certificate, inside, unknown⟩)] at supported
    cases supported
  simp only [CertificateNode.hasUnknownCryptoProperty, AlgorithmSecurity.isUnknown,
    BindingDesign.isUnknown, Bool.or_eq_true, beq_iff_eq, not_or, ne_eq] at known
  exact ⟨known.1.2, known.2⟩

/-! ## Hybrid acceptance -/

theorem requires_or_related {certificate : CertificateNode}
    (known : certificate.certificateSignatureScheme ≠ .unknown)
    (design : certificate.hasHybridCertificateSignatureDesign = true ∨
      certificate.bindingDesign = .relatedCertificate) :
    certificate.requires .postQuantum = true ∧
      (certificate.requires .classical = true ∨ certificate.bindingDesign = .relatedCertificate ∧
        certificate.certificateSignatureScheme = .postQuantum) := by
  revert known design
  simp only [CertificateNode.requires, CertificateNode.hasHybridCertificateSignatureDesign,
    CertificateNode.requiresClassicalCertificateSignatureEvidence,
    CertificateNode.requiresPostQuantumCertificateSignatureEvidence]
  generalize certificate.certificateSignatureScheme = scheme
  generalize certificate.bindingDesign = design
  cases scheme <;> cases design <;> decide

/-- Under hybrid acceptance both kinds of evidence cover every in-scope
    certificate exactly when classical evidence happens to be supplied for the
    Related certificates that are signed post-quantum only: these are not asked
    for it. -/
theorem hybrid_covers_both_kinds_iff (returned : evaluate parseFromRfc3339 request = .ok answer)
    (hybrid : answer.policyVerdict = .hybridClaimSetSatisfied) :
    (∀ certificate ∈ request.certificatePath,
      request.pathScope.includes certificate.position = true →
        Covered request .classical certificate ∧ Covered request .postQuantum certificate) ↔
    ∀ certificate ∈ request.certificatePath,
      request.pathScope.includes certificate.position = true →
      certificate.bindingDesign = .relatedCertificate →
      certificate.certificateSignatureScheme = .postQuantum →
        Supplied request .classical certificate := by
  obtain ⟨wf, outcome⟩ := evaluate_ok_iff.mp returned
  have judged : answer.policyVerdict ≠ .unsupported := by rw [hybrid]; decide
  have supported := outcome.supported judged
  obtain ⟨a, computes, verdict⟩ := outcome.verdict_eq judged
  have whole := whole_eq_pass_of_hybrid (verdict.symm.trans hybrid)
  simp only [Aggregates.whole, Aggregates.classicalPart, AggregateState.inf_eq_pass_iff,
    computes.classical, computes.pq, computes.design] at whole
  obtain ⟨⟨⟨⟨_, classical⟩, pq⟩, design⟩, _⟩ := whole
  rw [hybridAuthenticationDesignState_eq_worst] at design
  constructor
  · intro covered certificate inPath included _ _
    exact (covered certificate inPath included).1.supplied
  · intro related certificate inPath included
    have inside := mem_certificates.mpr ⟨inPath, included⟩
    have shape : certificate.hasHybridCertificateSignatureDesign = true ∨
        certificate.bindingDesign = .relatedCertificate :=
      (designGrade_eq_pass_iff.mp (worst_eq_top_iff.mp design certificate inside)).imp_right And.left
    obtain ⟨asksPq, asksClassical⟩ :=
      requires_or_related (known_of_supported supported inside).1 shape
    refine ⟨?_, covered_of_kindState wf pq inside asksPq⟩
    rcases asksClassical with asked | ⟨isRelated, scheme⟩
    · exact covered_of_kindState wf classical inside asked
    · exact covered_of_supplied wf (related certificate inPath included isRelated scheme)

/-- The single certificate of the fixture as a Related certificate signed
    post-quantum only, with post-quantum evidence and a passing pairing. -/
def relatedPostQuantumRequest : VerificationRequest :=
  { Fixture.request .p2RequiredHybrid with
    certificatePath := [{ Fixture.leaf with
      subjectPublicKeyScheme := .postQuantum
      certificateSignatureScheme := .postQuantum
      bindingDesign := .relatedCertificate }]
    pairedAuthentications := [⟨"operation", "leaf", Fixture.otherDer, Fixture.pass⟩]
    evidence := [{ Fixture.evidence "pq" .postQuantum with
      evidenceArtifactDerSha256 := some Fixture.otherDer
      authenticationOperationId := some "operation" }] }

theorem relatedPostQuantumRequest_uncovered :
    ∃ answer, evaluate Fixture.acceptTime relatedPostQuantumRequest = .ok answer ∧
      answer.policyVerdict = .hybridClaimSetSatisfied ∧
      ¬ ∀ certificate ∈ relatedPostQuantumRequest.certificatePath,
        relatedPostQuantumRequest.pathScope.includes certificate.position = true →
          Covered relatedPostQuantumRequest .classical certificate ∧
            Covered relatedPostQuantumRequest .postQuantum certificate := by
  obtain ⟨answer, returned, hybrid⟩ := answer_of_map
    (by decide +kernel : (evaluate Fixture.acceptTime relatedPostQuantumRequest).map
      (·.policyVerdict) = .ok .hybridClaimSetSatisfied)
  refine ⟨answer, returned, hybrid, fun covered => ?_⟩
  obtain ⟨⟨item, single, _⟩, _⟩ := covered _ List.mem_cons_self rfl
  cases single

/-- The fixture under a composite intermediate that has both kinds of evidence too. -/
def compositePathRequest : VerificationRequest :=
  let request := Fixture.intermediateRequest .hybrid .atomicComposite .pass
  { request with
    pathScope := .certificationPath
    evidence := request.evidence ++ [{ Fixture.evidence "ca-pq" .postQuantum with
      certificateId := "ca"
      position := .intermediate
      certificateDerSha256 := some Fixture.otherDer
      evidenceArtifactDerSha256 := some Fixture.otherDer
      issuerEdgeSha256 := some Fixture.otherEdge }] }

theorem hybrid_covers_both_kinds_compositePath :
    ∃ answer, evaluate Fixture.acceptTime compositePathRequest = .ok answer ∧
      answer.policyVerdict = .hybridClaimSetSatisfied ∧
      ∀ certificate ∈ compositePathRequest.certificatePath,
        compositePathRequest.pathScope.includes certificate.position = true →
          Covered compositePathRequest .classical certificate ∧
            Covered compositePathRequest .postQuantum certificate := by
  obtain ⟨answer, returned, hybrid⟩ := answer_of_map
    (by decide +kernel : (evaluate Fixture.acceptTime compositePathRequest).map
      (·.policyVerdict) = .ok .hybridClaimSetSatisfied)
  refine ⟨answer, returned, hybrid, (hybrid_covers_both_kinds_iff returned hybrid).mpr ?_⟩
  intro certificate inPath _ related _
  rcases List.mem_pair.mp inPath with rfl | rfl
  · cases related
  · cases related

/-! ## Classical acceptance -/

theorem requires_classical_or_postQuantum_only {certificate : CertificateNode}
    (known : certificate.certificateSignatureScheme ≠ .unknown ∧
      certificate.bindingDesign ≠ .unknown) :
    certificate.requires .classical = true ∨ certificate.certificateSignatureScheme = .postQuantum ∧
      (certificate.bindingDesign = .none ∨ certificate.bindingDesign = .relatedCertificate) := by
  revert known
  simp only [CertificateNode.requires,
    CertificateNode.requiresClassicalCertificateSignatureEvidence]
  generalize certificate.certificateSignatureScheme = scheme
  generalize certificate.bindingDesign = design
  cases scheme <;> cases design <;> decide

/-- Under classical acceptance classical evidence covers every in-scope
    certificate exactly when it happens to be supplied for those signed
    post-quantum only, which the requirement filter leaves out. -/
theorem classical_covers_scope_iff (returned : evaluate parseFromRfc3339 request = .ok answer)
    (classical : answer.policyVerdict = .classicalClaimSetSatisfied) :
    (∀ certificate ∈ request.certificatePath,
      request.pathScope.includes certificate.position = true →
        Covered request .classical certificate) ↔
    ∀ certificate ∈ request.certificatePath,
      request.pathScope.includes certificate.position = true →
      certificate.certificateSignatureScheme = .postQuantum →
      certificate.bindingDesign = .none ∨ certificate.bindingDesign = .relatedCertificate →
        Supplied request .classical certificate := by
  obtain ⟨wf, outcome⟩ := evaluate_ok_iff.mp returned
  have judged : answer.policyVerdict ≠ .unsupported := by rw [classical]; decide
  have supported := outcome.supported judged
  obtain ⟨a, computes, verdict⟩ := outcome.verdict_eq judged
  have part := (classicalPart_eq_pass_of_classical (verdict.symm.trans classical)).2
  simp only [Aggregates.classicalPart, AggregateState.inf_eq_pass_iff, computes.classical] at part
  constructor
  · intro covered certificate inPath included _ _
    exact (covered certificate inPath included).supplied
  · intro others certificate inPath included
    have inside := mem_certificates.mpr ⟨inPath, included⟩
    rcases requires_classical_or_postQuantum_only (known_of_supported supported inside) with
      asked | ⟨scheme, design⟩
    · exact covered_of_kindState wf part.2 inside asked
    · exact covered_of_supplied wf (others certificate inPath included scheme design)

/-- A classical end entity under an intermediate that is signed post-quantum only
    and for which the request carries no evidence at all. -/
def postQuantumIssuerRequest : VerificationRequest :=
  { Fixture.request .p0Classical with
    pathScope := .certificationPath
    stack := { Fixture.stack with
      certificationPathDerSha256 := [Fixture.leafDer, Fixture.otherDer] }
    certificatePath := [
      { Fixture.leaf with certificateSignatureScheme := .classical, bindingDesign := .none },
      { id := "intermediate"
        position := .intermediate
        subjectPublicKeyScheme := .postQuantum
        certificateSignatureScheme := .postQuantum
        bindingDesign := .none
        derSha256 := some Fixture.otherDer
        issuerEdgeSha256 := some Fixture.otherEdge }]
    evidence := [Fixture.evidence "classical" .classical] }

theorem postQuantumIssuerRequest_uncovered :
    ∃ answer, evaluate Fixture.acceptTime postQuantumIssuerRequest = .ok answer ∧
      answer.policyVerdict = .classicalClaimSetSatisfied ∧
      ¬ ∀ certificate ∈ postQuantumIssuerRequest.certificatePath,
        postQuantumIssuerRequest.pathScope.includes certificate.position = true →
          Covered postQuantumIssuerRequest .classical certificate := by
  obtain ⟨answer, returned, classical⟩ := answer_of_map
    (by decide +kernel : (evaluate Fixture.acceptTime postQuantumIssuerRequest).map
      (·.policyVerdict) = .ok .classicalClaimSetSatisfied)
  refine ⟨answer, returned, classical, fun covered => ?_⟩
  obtain ⟨item, single, _⟩ :=
    covered _ (List.mem_cons_of_mem _ List.mem_cons_self) rfl
  cases single

/-- A composite end entity under a classical intermediate. -/
def classicalPathRequest : VerificationRequest :=
  { Fixture.intermediateRequest .classical .none .pass with
    policy := .p0Classical
    pathScope := .certificationPath }

theorem classical_covers_scope_classicalPath :
    ∃ answer, evaluate Fixture.acceptTime classicalPathRequest = .ok answer ∧
      answer.policyVerdict = .classicalClaimSetSatisfied ∧
      ∀ certificate ∈ classicalPathRequest.certificatePath,
        classicalPathRequest.pathScope.includes certificate.position = true →
          Covered classicalPathRequest .classical certificate := by
  obtain ⟨answer, returned, classical⟩ := answer_of_map
    (by decide +kernel : (evaluate Fixture.acceptTime classicalPathRequest).map
      (·.policyVerdict) = .ok .classicalClaimSetSatisfied)
  refine ⟨answer, returned, classical, (classical_covers_scope_iff returned classical).mpr ?_⟩
  intro certificate inPath _ scheme _
  rcases List.mem_pair.mp inPath with rfl | rfl
  · cases scheme
  · cases scheme

end HybridX509.Oracle
