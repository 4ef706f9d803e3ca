import HybridX509.Oracle.RequiredHybrid

/-! # Related acceptance

What hybrid acceptance says about the two artifacts of a Related certificate: one
pairing, carried by every item of the certificate, with the post-quantum item bound
to the artifact of the pairing and the classical one to the certificate. The oracle
compares hashes where both are present and never asks that the artifact of a
pairing differ from the certificate that names it.
-/

namespace HybridX509.Oracle

open Lib

variable {parseFromRfc3339 : String → Bool} {request : VerificationRequest}
  {answer : VerificationResult} {certificate : CertificateNode}

/-- Every item of the certificate carries the operation of the pairing. -/
def Carries (request : VerificationRequest) (certificate : CertificateNode)
    (pair : PairedAuthentication) : Prop :=
  ∀ item ∈ request.evidence, item.certificateId = certificate.id →
    item.authenticationOperationId = some pair.operationId

/-- The artifacts of a Related certificate against its pairing. -/
structure Pairs (request : VerificationRequest) (certificate : CertificateNode)
    (pair : PairedAuthentication) : Prop where
  carries : Carries request certificate pair
  names : pair.classicalCertificateId = certificate.id
  establishes : Establishes pair.sameAuthenticationOperation
  postQuantum : ∃ item, itemsOf request .postQuantum certificate = [item] ∧
    item.evidenceArtifactDerSha256 = some pair.postQuantumCertificateDerSha256
  classical : ∀ item ∈ itemsOf request .classical certificate,
    item.evidenceArtifactDerSha256 = none ∨
      item.evidenceArtifactDerSha256 = certificate.derSha256
  classicalSignature : certificate.certificateSignatureScheme = .classical →
    ∃ item, itemsOf request .classical certificate = [item] ∧
      item.evidenceArtifactDerSha256 = certificate.derSha256

theorem fullyShown_of_hybrid (returned : evaluate parseFromRfc3339 request = .ok answer)
    (hybrid : answer.policyVerdict = .hybridClaimSetSatisfied) : FullyShown request := by
  obtain ⟨wf, outcome⟩ := evaluate_ok_iff.mp returned
  obtain ⟨a, computes, verdict⟩ := outcome.verdict_eq (by rw [hybrid]; decide)
  exact (wf.whole_eq_pass_iff computes).mp (whole_eq_pass_of_hybrid (verdict.symm.trans hybrid))

theorem Shown.singleton (wf : WellFormed parseFromRfc3339 request) {kind : EvidenceKind}
    (shown : Shown request kind certificate) :
    ∃ item, itemsOf request kind certificate = [item] ∧ item.evidenceArtifactDerSha256.isSome := by
  obtain ⟨item, member, named, sameKind, _, artifact, _, _⟩ := shown
  exact ⟨item, wf.itemsOf_eq_singleton (mem_itemsOf.mpr ⟨member, named, sameKind⟩), artifact⟩

/-- One item settles the operation of all of them. -/
theorem WellFormed.carries (wf : WellFormed parseFromRfc3339 request) {item : Evidence}
    (member : item ∈ request.evidence) (named : item.certificateId = certificate.id)
    {pair : PairedAuthentication} (carried : item.authenticationOperationId = some pair.operationId) :
    Carries request certificate pair := by
  intro other otherMember otherNamed
  rw [wf.sameOperation other otherMember item member (otherNamed.trans named.symm)]
  exact carried

theorem WellFormed.classical_artifact (wf : WellFormed parseFromRfc3339 request)
    (inPath : certificate ∈ request.certificatePath) {item : Evidence}
    (member : item ∈ itemsOf request .classical certificate) :
    item.evidenceArtifactDerSha256 = none ∨
      item.evidenceArtifactDerSha256 = certificate.derSha256 := by
  obtain ⟨inside, named, kind⟩ := mem_itemsOf.mp member
  have compatible := (wf.evidenceFor inside inPath named).ownArtifact (.inr kind)
  obtain ⟨hash, der⟩ :=
    Option.isSome_iff_exists.mp (wf.pathCertificates certificate inPath).derPresent
  cases artifact : item.evidenceArtifactDerSha256 with
  | none => exact .inl rfl
  | some checked => exact .inr (by rw [der, compatible hash checked der artifact])

/-- The post-quantum item of a Related certificate is about the pairing. -/
theorem FullyShown.postQuantum_artifact (shown : FullyShown request)
    (wf : WellFormed parseFromRfc3339 request) (inside : certificate ∈ certificates request)
    (related : certificate.bindingDesign = .relatedCertificate) {pair : PairedAuthentication}
    (paired : pair ∈ request.pairedAuthentications) (carries : Carries request certificate pair) :
    ∃ item, itemsOf request .postQuantum certificate = [item] ∧
      item.evidenceArtifactDerSha256 = some pair.postQuantumCertificateDerSha256 := by
  have required : certificate.requires .postQuantum = true := by
    simp [CertificateNode.requires, related,
      CertificateNode.requiresPostQuantumCertificateSignatureEvidence]
  obtain ⟨item, single, artifact⟩ :=
    (shown.evidence certificate inside .postQuantum required).singleton wf
  obtain ⟨member, named, kind⟩ := mem_itemsOf.mp (single ▸ List.mem_singleton_self item)
  obtain ⟨hash, present⟩ := Option.isSome_iff_exists.mp artifact
  have inPath := (mem_certificates.mp inside).1
  have compatible := (wf.evidenceFor member inPath named).pairedArtifact kind pair paired
    (carries item member named)
  exact ⟨item, single, by rw [present, compatible _ hash rfl present]⟩

/-- The classical item of a classically signed certificate is about the certificate. -/
theorem FullyShown.classical_artifact (shown : FullyShown request)
    (wf : WellFormed parseFromRfc3339 request) (inside : certificate ∈ certificates request)
    (scheme : certificate.certificateSignatureScheme = .classical) :
    ∃ item, itemsOf request .classical certificate = [item] ∧
      item.evidenceArtifactDerSha256 = certificate.derSha256 := by
  have required : certificate.requires .classical = true := by
    simp [CertificateNode.requires, scheme, AlgorithmSecurity.isClassical,
      CertificateNode.requiresClassicalCertificateSignatureEvidence]
  obtain ⟨item, single, artifact⟩ :=
    (shown.evidence certificate inside .classical required).singleton wf
  have inPath := (mem_certificates.mp inside).1
  refine ⟨item, single, ?_⟩
  rcases wf.classical_artifact inPath (single ▸ List.mem_singleton_self item) with none | same
  · simp [none] at artifact
  · exact same

/-- Related acceptance rests on exactly one pairing, with both artifacts bound to
    it as far as they are named. -/
theorem related_acceptance_pairs (returned : evaluate parseFromRfc3339 request = .ok answer)
    (hybrid : answer.policyVerdict = .hybridClaimSetSatisfied)
    (inside : certificate ∈ certificates request)
    (related : certificate.bindingDesign = .relatedCertificate)
    (scheme : certificate.certificateSignatureScheme ≠ .hybrid) :
    ∃ pair ∈ request.pairedAuthentications, Pairs request certificate pair ∧
      ∀ other ∈ request.pairedAuthentications, Carries request certificate other →
        other = pair := by
  have wf := (evaluate_ok_iff.mp returned).1
  have inPath := (mem_certificates.mp inside).1
  have shown := fullyShown_of_hybrid returned hybrid
  have signature := not_hasHybridDesign_of_related related scheme
  rcases shown.design certificate inside with
    hybridDesign | ⟨_, item, member, named, pair, paired, carried, establishes⟩
  · rw [signature] at hybridDesign
    cases hybridDesign
  have wfItem := wf.evidenceFor member inPath named
  have carries := wf.carries member named carried
  refine ⟨pair, paired, ⟨carries, ?_, establishes, ?_, ?_, ?_⟩, ?_⟩
  · obtain ⟨owner, ownerPaired, sameOperation, names⟩ := wfItem.paired _ carried
    obtain rfl : owner = pair :=
      List.inj_on_of_nodup_map wf.operationIds ownerPaired paired sameOperation
    exact names.trans named
  · exact shown.postQuantum_artifact wf inside related paired carries
  · exact fun classical member => wf.classical_artifact inPath member
  · exact shown.classical_artifact wf inside
  · intro other otherPaired otherCarries
    have operation := (otherCarries item member named).symm.trans carried
    exact List.inj_on_of_nodup_map wf.operationIds otherPaired paired (Option.some.inj operation)

/-- The Related request of the oracle tests, with the scheme of the certificate, the
    artifact of the pairing and the artifact of the classical item left open. -/
def relatedRequest (scheme : AlgorithmSecurity) (paired : String) (classical : Option String) :
    VerificationRequest :=
  { Fixture.request .p2RequiredHybrid with
    certificatePath := [{ Fixture.leaf with
      certificateSignatureScheme := scheme
      bindingDesign := .relatedCertificate }]
    pairedAuthentications := [⟨"operation-1", "leaf", paired, .observed .pass⟩]
    evidence := [{ Fixture.evidence "classical" .classical with
        evidenceArtifactDerSha256 := classical
        authenticationOperationId := some "operation-1" },
      { Fixture.evidence "pq" .postQuantum with
        evidenceArtifactDerSha256 := some paired
        authenticationOperationId := some "operation-1" }] }

theorem related_acceptance_pairs_two :
    ∃ pair ∈ (relatedRequest .classical Fixture.otherDer (some Fixture.leafDer)).pairedAuthentications,
      Pairs (relatedRequest .classical Fixture.otherDer (some Fixture.leafDer))
        { Fixture.leaf with
          certificateSignatureScheme := .classical
          bindingDesign := .relatedCertificate } pair := by
  obtain ⟨answer, returned, hybrid⟩ := answer_of_map
    (by decide +kernel : (evaluate Fixture.acceptTime
      (relatedRequest .classical Fixture.otherDer (some Fixture.leafDer))).map (·.policyVerdict) =
        .ok .hybridClaimSetSatisfied)
  obtain ⟨pair, paired, pairs, _⟩ := related_acceptance_pairs returned hybrid
    (List.mem_singleton_self _) rfl (by decide)
  exact ⟨pair, paired, pairs⟩

/-- Hybrid acceptance on one artifact for both kinds of evidence, and on classical
    evidence that names no artifact. -/
theorem related_acceptance_on_one_artifact :
    (∃ answer, evaluate Fixture.acceptTime
        (relatedRequest .classical Fixture.leafDer (some Fixture.leafDer)) = .ok answer ∧
      answer.policyVerdict = .hybridClaimSetSatisfied ∧
      ∀ item ∈ (relatedRequest .classical Fixture.leafDer (some Fixture.leafDer)).evidence,
        item.certificateId = "leaf" ∧ item.evidenceArtifactDerSha256 = some Fixture.leafDer) ∧
    ∃ answer, evaluate Fixture.acceptTime
        (relatedRequest .postQuantum Fixture.otherDer none) = .ok answer ∧
      answer.policyVerdict = .hybridClaimSetSatisfied ∧
      ∃ item ∈ (relatedRequest .postQuantum Fixture.otherDer none).evidence,
        item.certificateId = "leaf" ∧ item.kind = .classical ∧
          item.evidenceArtifactDerSha256 ≠ some Fixture.leafDer := by
  constructor
  · obtain ⟨answer, returned, hybrid⟩ := answer_of_map
      (by decide +kernel : (evaluate Fixture.acceptTime
        (relatedRequest .classical Fixture.leafDer (some Fixture.leafDer))).map (·.policyVerdict) =
          .ok .hybridClaimSetSatisfied)
    exact ⟨answer, returned, hybrid, by decide⟩
  · obtain ⟨answer, returned, hybrid⟩ := answer_of_map
      (by decide +kernel : (evaluate Fixture.acceptTime
        (relatedRequest .postQuantum Fixture.otherDer none)).map (·.policyVerdict) =
          .ok .hybridClaimSetSatisfied)
    exact ⟨answer, returned, hybrid, _, List.mem_cons_self, rfl, rfl, by decide⟩

end HybridX509.Oracle
