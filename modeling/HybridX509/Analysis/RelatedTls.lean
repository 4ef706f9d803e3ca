import HybridX509.Analysis.Transcripts
import HybridX509.Revocation.Crl

/-! # The Related TLS analysis

`analysis/related_tls.rs`: a handshake with a classical certificate that names a
post-quantum one. The handshake stands for signature and path of the classical item, and
everything that is not acceptance is taken for a failure. The two certificates are known
not to take part in one operation, whatever the handshakes say.
-/

namespace HybridX509.Analysis.RelatedTls

open Lib X509 Oracle Adapters Adapters.BouncyCastle Revocation Revocation.Ocsp PathRuns PathPositions
open Transcripts

structure RelatedTlsConfig where
  docker : String
  image : String
  trustStore : String
  issuer : String
  classicalCertificate : String
  invalidBindingClassicalCertificate : String
  missingBindingClassicalCertificate : String
  postQuantumCertificate : String
  expiredPostQuantumCertificate : String
  classicalPrivateKey : String
  postQuantumPrivateKey : String
  crl : String
  validationTime : String
  timeout : Duration
  maxOutputBytes : Nat
  deriving Repr, DecidableEq

structure RelatedTlsReport where
  apiVersion : String
  separatePostQuantumTlsContext : String
  conformance : RelatedConformanceResult
  binding : RelatedBindingResult
  invalidBinding : RelatedBindingResult
  classicalCrlStatus : CrlStatusResult
  postQuantumCrlStatus : CrlStatusResult
  classicalTls : TlsTranscriptEvidence
  invalidClassicalSignatureTls : TlsTranscriptEvidence
  invalidBindingClassicalTls : TlsTranscriptEvidence
  missingBindingClassicalTls : TlsTranscriptEvidence
  separatePostQuantumTls : TlsTranscriptEvidence
  expiredPostQuantumTls : TlsTranscriptEvidence
  result : VerificationResult
  deriving Repr, DecidableEq

def RelatedTlsConfig.settings (config : RelatedTlsConfig) : HandshakeSettings where
  docker := config.docker
  image := config.image
  trustStore := config.trustStore
  issuer := config.issuer
  validationTime := config.validationTime
  timeout := config.timeout
  maxOutputBytes := config.maxOutputBytes

/-- The handshakes of the analysis. -/
structure Runs where
  classicalTls : TlsTranscriptEvidence
  invalidClassicalSignatureTls : TlsTranscriptEvidence
  invalidBindingClassicalTls : TlsTranscriptEvidence
  missingBindingClassicalTls : TlsTranscriptEvidence
  separatePostQuantumTls : TlsTranscriptEvidence
  expiredPostQuantumTls : TlsTranscriptEvidence
  deriving Repr, DecidableEq

/-- What the analysis reads from its files. -/
structure Material extends EndEntity where
  postQuantumCertificateDerSha256 : String
  conformance : RelatedConformanceResult
  invalidBinding : RelatedBindingResult
  classicalCrlStatus : CrlStatusResult
  postQuantumCrlStatus : CrlStatusResult
  classicalValidity : CheckResult
  postQuantumValidity : CheckResult
  deriving Repr, DecidableEq

def properties : LeafPathProperties := ⟨.classical, .classical, .relatedCertificate⟩

def OPERATION_ID : String := "end-entity-related-authentication"

section Analyze

variable (sys : TlsSystem) (config : RelatedTlsConfig)

def gather : Except TlsAnalysisError (Runs × Material) := do
  checkDesign sys .relatedCertificate config.classicalCertificate
  let conformance ← mapErr .pem (verifyRelatedCertificateConformance sys.toLibrary
    config.classicalCertificate config.postQuantumCertificate INPUT_LIMIT)
  let invalidBinding ← mapErr .pem (verifyRelatedBinding sys.toLibrary
    config.invalidBindingClassicalCertificate config.postQuantumCertificate INPUT_LIMIT)
  let classicalCrlStatus ← mapErr .pem (checkCrlStatus sys.toLibrary config.classicalCertificate
    config.issuer config.crl config.validationTime INPUT_LIMIT)
  let postQuantumCrlStatus ← mapErr .pem (checkCrlStatus sys.toLibrary
    config.postQuantumCertificate config.issuer config.crl config.validationTime INPUT_LIMIT)
  let classicalTls ←
    mapErr .tls (runTls sys config.settings config.classicalCertificate config.classicalPrivateKey)
  let invalidBindingClassicalTls ← mapErr .tls (runTls sys config.settings
    config.invalidBindingClassicalCertificate config.classicalPrivateKey)
  let missingBindingClassicalTls ← mapErr .tls (runTls sys config.settings
    config.missingBindingClassicalCertificate config.classicalPrivateKey)
  let separatePostQuantumTls ← mapErr .tls
    (runTls sys config.settings config.postQuantumCertificate config.postQuantumPrivateKey)
  let expiredPostQuantumTls ← mapErr .tls
    (runTls sys config.settings config.expiredPostQuantumCertificate config.postQuantumPrivateKey)
  let invalidClassicalFile ← damagedFile sys config.classicalCertificate
  let invalidClassicalSignatureTls ←
    mapErr .tls (runTls sys config.settings invalidClassicalFile config.classicalPrivateKey)
  let postQuantumValidity ← mapErr .pem (checkCertificateValidity sys.toLibrary
    config.postQuantumCertificate config.validationTime INPUT_LIMIT)
  let certificateDerSha256 ←
    mapErr .pem (certificateDerHash sys.toLibrary config.classicalCertificate INPUT_LIMIT)
  let postQuantumCertificateDerSha256 ←
    mapErr .pem (certificateDerHash sys.toLibrary config.postQuantumCertificate INPUT_LIMIT)
  let issuerEdgeSha256 ← mapErr .pem
    (issuerEdgeHash sys.toLibrary config.classicalCertificate config.issuer INPUT_LIMIT)
  let expectedTrustAnchor ←
    mapErr .pem (certificateTrustAnchor sys.toLibrary config.trustStore INPUT_LIMIT)
  let certificatePath ← mapErr .pem (endEntityCertificationPath sys.toLibrary
    config.classicalCertificate config.issuer config.trustStore properties INPUT_LIMIT)
  let classicalValidity ← mapErr .pem (checkCertificateValidity sys.toLibrary
    config.classicalCertificate config.validationTime INPUT_LIMIT)
  return ({
      classicalTls := classicalTls
      invalidClassicalSignatureTls := invalidClassicalSignatureTls
      invalidBindingClassicalTls := invalidBindingClassicalTls
      missingBindingClassicalTls := missingBindingClassicalTls
      separatePostQuantumTls := separatePostQuantumTls
      expiredPostQuantumTls := expiredPostQuantumTls }, {
      certificateDerSha256 := certificateDerSha256
      issuerEdgeSha256 := issuerEdgeSha256
      expectedTrustAnchor := expectedTrustAnchor
      certificatePath := certificatePath
      postQuantumCertificateDerSha256 := postQuantumCertificateDerSha256
      conformance := conformance
      invalidBinding := invalidBinding
      classicalCrlStatus := classicalCrlStatus
      postQuantumCrlStatus := postQuantumCrlStatus
      classicalValidity := classicalValidity
      postQuantumValidity := postQuantumValidity })

def classicalOutcome (runs : Runs) : CheckResult :=
  behavioralCheck (runs.classicalTls.verdict == .accept
    && runs.invalidClassicalSignatureTls.verdict == .reject) .pass

/-- A handshake that accepts without the binding is known not to depend on the certificate
    that the binding names. -/
def postQuantumOutcome (runs : Runs) (material : Material) : CheckResult :=
  behavioralCheck (runs.classicalTls.verdict == .accept
    && (relatedConformanceCheck material.conformance).state == .pass
    && material.invalidBinding.check.state == .fail
    && runs.invalidBindingClassicalTls.verdict == .accept
    && runs.missingBindingClassicalTls.verdict == .accept
    && material.postQuantumCrlStatus.revocation.state == .fail
    && runs.expiredPostQuantumTls.verdict == .reject) .fail

def classicalPart (runs : Runs) (material : Material) : Part where
  name := "related-classical-certificate"
  kind := .classical
  signature := acceptanceCheck runs.classicalTls.verdict
  binding := .observed .notApplicable
  path := acceptanceCheck runs.classicalTls.verdict
  validity := material.classicalValidity
  revocation := material.classicalCrlStatus.revocation
  decisionSensitiveForFixture := classicalOutcome runs

def postQuantumPart (runs : Runs) (material : Material) : Part where
  name := "related-post-quantum-certificate"
  kind := .postQuantum
  signature := .observed .notApplicable
  binding := relatedConformanceCheck material.conformance
  path := .observed .notApplicable
  validity := material.postQuantumValidity
  revocation := material.postQuantumCrlStatus.revocation
  decisionSensitiveForFixture := postQuantumOutcome runs material

def pairedAuthentication (material : Material) : PairedAuthentication where
  operationId := OPERATION_ID
  classicalCertificateId := "end-entity"
  postQuantumCertificateDerSha256 := material.postQuantumCertificateDerSha256
  sameAuthenticationOperation := .observed .fail

def request (runs : Runs) (material : Material) : VerificationRequest :=
  tlsRequest config.validationTime runs.classicalTls.report.observation material.toEndEntity
    [pairedAuthentication material]
    [material.item material.certificateDerSha256 (some OPERATION_ID) .crl
        (classicalPart runs material),
      material.item material.postQuantumCertificateDerSha256 (some OPERATION_ID) .crl
        (postQuantumPart runs material)]

def analyze : Except TlsAnalysisError RelatedTlsReport := do
  let (runs, material) ← gather sys config
  let result ←
    mapErr .oracle (evaluate (readsTime sys.toLibrary) (request config runs material))
  return {
    apiVersion := API_VERSION
    separatePostQuantumTlsContext :=
      "separate TLS authentication; not selected evidence for the classical TLS result"
    conformance := material.conformance
    binding := material.conformance.rfc9763.binding
    invalidBinding := material.invalidBinding
    classicalCrlStatus := material.classicalCrlStatus
    postQuantumCrlStatus := material.postQuantumCrlStatus
    classicalTls := runs.classicalTls
    invalidClassicalSignatureTls := runs.invalidClassicalSignatureTls
    invalidBindingClassicalTls := runs.invalidBindingClassicalTls
    missingBindingClassicalTls := runs.missingBindingClassicalTls
    separatePostQuantumTls := runs.separatePostQuantumTls
    expiredPostQuantumTls := runs.expiredPostQuantumTls
    result := result }

end Analyze

/-! ## What the checks come from -/

def account (runs : Runs) : Account where
  handshakes := [runs.classicalTls.verdict, runs.invalidClassicalSignatureTls.verdict,
    runs.invalidBindingClassicalTls.verdict, runs.missingBindingClassicalTls.verdict,
    runs.separatePostQuantumTls.verdict, runs.expiredPostQuantumTls.verdict]
  sources := [
    (("related-classical-certificate", "signature"), .run runs.classicalTls.verdict),
    (("related-classical-certificate", "path"), .run runs.classicalTls.verdict),
    (("related-classical-certificate", "decision-sensitive-for-fixture"),
      .controls [runs.classicalTls.verdict, runs.invalidClassicalSignatureTls.verdict]),
    (("related-post-quantum-certificate", "decision-sensitive-for-fixture"),
      .controls [runs.classicalTls.verdict, runs.invalidBindingClassicalTls.verdict,
        runs.missingBindingClassicalTls.verdict, runs.expiredPostQuantumTls.verdict])]

section Honesty

variable {sys : TlsSystem} {config : RelatedTlsConfig} {runs : Runs} {material : Material}

theorem gathered_of_ok (gathered : gather sys config = .ok (runs, material)) :
    Gathered sys config.settings properties config.classicalCertificate
      config.classicalPrivateKey runs.classicalTls material.toEndEntity ∧
      certificateDerHash sys.toLibrary config.postQuantumCertificate INPUT_LIMIT =
        .ok material.postQuantumCertificateDerSha256 := by
  simp only [gather, bind_ok_iff, mapErr_ok_iff, exists_unit_iff, pure_ok_iff, Prod.mk.injEq]
    at gathered
  obtain ⟨_, _, _, _, _, _, _, _, _, _, ran, _, _, _, _, _, _, _, _, _, _, _, _, _, checked, _,
    hashed, _, postQuantumHashed, _, joined, _, anchored, _, path, _, _, rfl, rfl⟩ := gathered
  exact ⟨⟨ran, hashed, joined, anchored, path, (read_of_checkCertificateValidity checked).2⟩,
    postQuantumHashed⟩

/-- The named certificate is known not to matter only when all the handshakes that show it
    were conclusive. -/
theorem conclusive_of_postQuantumOutcome
    (failed : (postQuantumOutcome runs material).state = .fail) :
    Conclusive runs.classicalTls.verdict ∧ Conclusive runs.invalidBindingClassicalTls.verdict ∧
      Conclusive runs.missingBindingClassicalTls.verdict ∧
      Conclusive runs.expiredPostQuantumTls.verdict := by
  unfold postQuantumOutcome behavioralCheck at failed
  split at failed
  · rename_i established
    simp only [Bool.and_eq_true, beq_iff_eq] at established
    obtain ⟨⟨⟨⟨⟨⟨classical, -⟩, -⟩, damaged⟩, missing⟩, -⟩, expired⟩ := established
    exact ⟨.inl classical, .inl damaged, .inl missing, .inr expired⟩
  · cases failed

theorem neverInvents_iff :
    (account runs).NeverInvents (request config runs material) ↔
      Conclusive runs.classicalTls.verdict := by
  have classical : (classicalOutcome runs).state ≠ .fail :=
    behavioralCheck_ne (by decide) (by decide)
  have handshake : (account runs).NeverInvents (request config runs material) ↔
      ((acceptanceCheck runs.classicalTls.verdict).state = .fail →
        runs.classicalTls.verdict = .reject) ∧
      ((postQuantumOutcome runs material).state = .fail → Conclusive runs.classicalTls.verdict ∧
        Conclusive runs.invalidBindingClassicalTls.verdict ∧
        Conclusive runs.missingBindingClassicalTls.verdict ∧
        Conclusive runs.expiredPostQuantumTls.verdict) := by
    simp [Account.NeverInvents, account, request, tlsRequest, EndEntity.item, classicalPart,
      postQuantumPart, Evidence.checks, Source.Permits, classical]
  rw [handshake, acceptanceCheck_honest_iff]
  exact and_iff_left conclusive_of_postQuantumOutcome

/-- The result that is reported is the answer to the request. -/
theorem result_of_analyze (gathered : gather sys config = .ok (runs, material))
    {answer : VerificationResult} (returned : evaluate (readsTime sys.toLibrary)
      (request config runs material) = .ok answer) {report : RelatedTlsReport}
    (analyzed : analyze sys config = .ok report) : report.result = answer := by
  simp only [analyze, gathered, ok_bind, returned, mapErr_ok] at analyzed
  rw [← pure_ok_iff.mp analyzed]

section Accepted

variable (digest : ∀ bytes, (sys.sha256 bytes).length = 32)
  (gathered : gather sys config = .ok (runs, material))

include digest gathered

theorem item_wellFormed {artifact : String} (hex : IsSha256Hex artifact) {part : Part}
    (classical : part.kind = .classical → artifact = material.certificateDerSha256)
    (postQuantum : part.kind = .postQuantum →
      artifact = material.postQuantumCertificateDerSha256) :
    EvidenceWellFormed (request config runs material) (material.node properties)
      (material.item artifact (some OPERATION_ID) .crl part) where
  named := rfl
  certificateDerHash :=
    hashWellFormed_some (isSha256Hex_of_certificateDerHash digest (gathered_of_ok gathered).1.der)
  issuerEdgeHash :=
    hashWellFormed_some (isSha256Hex_of_issuerEdgeHash digest (gathered_of_ok gathered).1.edge)
  artifactHash := hashWellFormed_some hex
  position := rfl
  der := compatible_refl _
  issuerEdge := compatible_refl _
  carriesOperation := iff_of_true rfl rfl
  paired := by
    rintro _ ⟨⟩
    exact ⟨_, List.mem_cons_self, rfl, rfl⟩
  ownArtifact := by
    rintro (absent | kind)
    · cases absent
    · obtain rfl := classical kind
      exact compatible_refl _
  pairedArtifact := by
    intro kind pair member _
    obtain rfl := List.mem_singleton.mp member
    obtain rfl := postQuantum kind
    exact compatible_refl _
  revocationPolicy := rfl
  revocationMethod := fun _ same => by cases same
  revocationNotRequired := fun same => by cases same

theorem wellFormed_of_ok :
    WellFormed (readsTime sys.toLibrary) (request config runs material) := by
  obtain ⟨about, postQuantumHashed⟩ := gathered_of_ok gathered
  have ids : "related-classical-certificate" ≠ "related-post-quantum-certificate" := by decide
  have kinds : EvidenceKind.classical ≠ .postQuantum := by decide
  have hex := isSha256Hex_of_certificateDerHash digest postQuantumHashed
  refine about.wellFormed digest (fun atomic => by cases atomic) (List.nodup_singleton _) ids kinds
    rfl (fun pair member => ?_) fun item member => ?_
  · obtain rfl := List.mem_singleton.mp member
    obtain ⟨_, _, -, -, path⟩ := about.path_eq
    have named : OPERATION_ID ≠ "" := by decide
    refine ⟨named, hex, material.node properties, ?_, rfl, rfl⟩
    rw [tlsRequest, path]
    exact List.mem_cons_self
  · rcases List.mem_pair.mp member with rfl | rfl
    · exact item_wellFormed digest gathered (isSha256Hex_of_certificateDerHash digest about.der)
        (fun _ => rfl) (fun kind => by cases kind)
    · exact item_wellFormed digest gathered hex (fun kind => by cases kind) (fun _ => rfl)

/-- The request of the analysis tells an inconclusive handshake from a failed one exactly
    when the handshake with the classical certificate was conclusive. Its pairing is always
    known to fail, so nothing is said about its verdict. -/
theorem honest_iff :
    ∃ answer, evaluate (readsTime sys.toLibrary) (request config runs material) = .ok answer ∧
      (∀ report, analyze sys config = .ok report → report.result = answer) ∧
      ((account runs).Honest (request config runs material) answer.policyVerdict ↔
        Conclusive runs.classicalTls.verdict) := by
  obtain ⟨answer, returned⟩ := (wellFormed_of_ok digest gathered).answered
  refine ⟨answer, returned, fun report analyzed => result_of_analyze gathered returned analyzed, ?_⟩
  constructor
  · intro honest
    exact neverInvents_iff.mp honest.neverInvents
  · intro conclusive
    refine ⟨neverInvents_iff.mpr conclusive, fun _ noOther => ?_⟩
    exact absurd rfl (noOther.pairs _ List.mem_cons_self)

end Accepted

end Honesty

end HybridX509.Analysis.RelatedTls
