import HybridX509.Analysis.Transcripts

/-! # The atomic TLS analysis

`analysis/atomic_tls.rs`: a handshake with a composite certificate, and two more with one
component of its signature damaged. The path check of both items repeats the first
handshake, and takes everything that is not acceptance for a failure.
-/

namespace HybridX509.Analysis.AtomicTls

open Lib X509 Oracle Adapters Adapters.BouncyCastle Revocation.Ocsp PathRuns PathPositions
open Transcripts

structure AtomicTlsConfig where
  docker : String
  image : String
  trustStore : String
  issuer : String
  validCertificate : String
  invalidPostQuantumCertificate : String
  privateKey : String
  validationTime : String
  timeout : Duration
  maxOutputBytes : Nat
  deriving Repr, DecidableEq

structure AtomicTlsReport where
  apiVersion : String
  validTls : TlsTranscriptEvidence
  invalidClassicalTls : TlsTranscriptEvidence
  invalidPostQuantumTls : TlsTranscriptEvidence
  result : VerificationResult
  deriving Repr, DecidableEq

def AtomicTlsConfig.settings (config : AtomicTlsConfig) : HandshakeSettings where
  docker := config.docker
  image := config.image
  trustStore := config.trustStore
  issuer := config.issuer
  validationTime := config.validationTime
  timeout := config.timeout
  maxOutputBytes := config.maxOutputBytes

/-- The handshakes of the analysis. -/
structure Runs where
  validTls : TlsTranscriptEvidence
  invalidClassicalTls : TlsTranscriptEvidence
  invalidPostQuantumTls : TlsTranscriptEvidence
  deriving Repr, DecidableEq

/-- What the analysis reads from its files. -/
structure Material extends EndEntity where
  validity : CheckResult
  deriving Repr, DecidableEq

def properties : LeafPathProperties := ⟨.classical, .hybrid, .atomicComposite⟩

section Analyze

variable (sys : TlsSystem) (config : AtomicTlsConfig)

def gather : Except TlsAnalysisError (Runs × Material) := do
  [config.validCertificate, config.invalidPostQuantumCertificate].forM
    (checkDesign sys .atomicComposite)
  let validTls ← mapErr .tls (runTls sys config.settings config.validCertificate config.privateKey)
  let invalidPostQuantumTls ← mapErr .tls
    (runTls sys config.settings config.invalidPostQuantumCertificate config.privateKey)
  let invalidClassicalFile ← damagedFile sys config.validCertificate
  let invalidClassicalTls ←
    mapErr .tls (runTls sys config.settings invalidClassicalFile config.privateKey)
  let validity ← mapErr .pem (checkCertificateValidity sys.toLibrary config.validCertificate
    config.validationTime INPUT_LIMIT)
  let certificateDerSha256 ←
    mapErr .pem (certificateDerHash sys.toLibrary config.validCertificate INPUT_LIMIT)
  let issuerEdgeSha256 ←
    mapErr .pem (issuerEdgeHash sys.toLibrary config.validCertificate config.issuer INPUT_LIMIT)
  let expectedTrustAnchor ←
    mapErr .pem (certificateTrustAnchor sys.toLibrary config.trustStore INPUT_LIMIT)
  let certificatePath ← mapErr .pem (endEntityCertificationPath sys.toLibrary
    config.validCertificate config.issuer config.trustStore properties INPUT_LIMIT)
  return (⟨validTls, invalidClassicalTls, invalidPostQuantumTls⟩,
    ⟨⟨certificateDerSha256, issuerEdgeSha256, expectedTrustAnchor, certificatePath⟩, validity⟩)

/-- Neither component of the signature is checked by itself. -/
def componentPart (runs : Runs) (material : Material) (name : String) (kind : EvidenceKind)
    (outcome : CheckResult) : Part where
  name := name
  kind := kind
  signature := ⟨.indeterminate, .unknown⟩
  binding := .observed .notApplicable
  path := acceptanceCheck runs.validTls.verdict
  validity := material.validity
  revocation := .observed .notChecked
  decisionSensitiveForFixture := outcome

def classicalOutcome (runs : Runs) : CheckResult :=
  behavioralCheck (runs.validTls.verdict == .accept
    && runs.invalidClassicalTls.verdict == .reject) .pass

def postQuantumOutcome (runs : Runs) : CheckResult :=
  behavioralCheck (runs.validTls.verdict == .accept
    && runs.invalidPostQuantumTls.verdict == .reject) .pass

def item (material : Material) (part : Part) : Evidence :=
  material.item material.certificateDerSha256 none .none part

def request (runs : Runs) (material : Material) : VerificationRequest :=
  tlsRequest config.validationTime runs.validTls.report.observation material.toEndEntity []
    [item material (componentPart runs material "composite-ecdsa-component" .classical
        (classicalOutcome runs)),
      item material (componentPart runs material "composite-mldsa-component" .postQuantum
        (postQuantumOutcome runs))]

def analyze : Except TlsAnalysisError AtomicTlsReport := do
  let (runs, material) ← gather sys config
  let result ←
    mapErr .oracle (evaluate (readsTime sys.toLibrary) (request config runs material))
  return ⟨API_VERSION, runs.validTls, runs.invalidClassicalTls, runs.invalidPostQuantumTls, result⟩

end Analyze

/-! ## What the checks come from -/

def account (runs : Runs) : Account where
  handshakes := [runs.validTls.verdict, runs.invalidClassicalTls.verdict,
    runs.invalidPostQuantumTls.verdict]
  sources := [
    (("composite-ecdsa-component", "path"), .run runs.validTls.verdict),
    (("composite-ecdsa-component", "decision-sensitive-for-fixture"),
      .controls [runs.validTls.verdict, runs.invalidClassicalTls.verdict]),
    (("composite-mldsa-component", "path"), .run runs.validTls.verdict),
    (("composite-mldsa-component", "decision-sensitive-for-fixture"),
      .controls [runs.validTls.verdict, runs.invalidPostQuantumTls.verdict])]

section Honesty

variable {sys : TlsSystem} {config : AtomicTlsConfig} {runs : Runs} {material : Material}

theorem gathered_of_ok (gathered : gather sys config = .ok (runs, material)) :
    Gathered sys config.settings properties config.validCertificate config.privateKey
      runs.validTls material.toEndEntity ∧
      (material.validity.state = .pass ∨ material.validity.state = .fail) := by
  simp only [gather, bind_ok_iff, mapErr_ok_iff, exists_unit_iff, pure_ok_iff, Prod.mk.injEq]
    at gathered
  obtain ⟨_, _, ran, _, _, _, _, _, _, _, checked, _, hashed, _, joined, _, anchored, _, path, rfl,
    rfl⟩ := gathered
  exact ⟨⟨ran, hashed, joined, anchored, path, (read_of_checkCertificateValidity checked).2⟩,
    decided_of_checkCertificateValidity checked⟩

theorem outcomes_ne (state : CheckState) (apart : CheckState.pass ≠ state)
    (settled : state ≠ .indeterminate) (runs : Runs) :
    (classicalOutcome runs).state ≠ state ∧ (postQuantumOutcome runs).state ≠ state :=
  ⟨behavioralCheck_ne apart settled, behavioralCheck_ne apart settled⟩

/-- Decision sensitivity is never recorded as a failure here, and a path check is one as
    soon as the handshake is not accepted. -/
theorem neverInvents_iff :
    (account runs).NeverInvents (request config runs material) ↔
      Conclusive runs.validTls.verdict := by
  obtain ⟨classical, postQuantum⟩ := outcomes_ne .fail (by decide) (by decide) runs
  rw [← acceptanceCheck_honest_iff]
  simp [Account.NeverInvents, account, request, tlsRequest, item, EndEntity.item, componentPart,
    Evidence.checks, Source.Permits, classical, postQuantum]

/-- Only the path checks fail after a handshake without an answer, while the certificate is
    valid. -/
theorem noOtherFailure (inconclusive : ¬ Conclusive runs.validTls.verdict)
    (valid : material.validity.state ≠ .fail) :
    (account runs).NoOtherFailure (request config runs material) where
  stack := fun rejects => inconclusive (.inr rejects)
  pairs := fun _ member => by cases member
  checks := by
    obtain ⟨classical, postQuantum⟩ := outcomes_ne .fail (by decide) (by decide) runs
    simp [account, request, tlsRequest, item, EndEntity.item, componentPart, Evidence.checks,
      CheckResult.observed, Source.Inconclusive, classical, postQuantum, valid, inconclusive]

theorem applicable_of_ok (gathered : gather sys config = .ok (runs, material)) :
    ∀ item ∈ (request config runs material).evidence, ∀ check ∈ item.checks,
      check.2.state = .notApplicable → check.1 = "binding" := by
  obtain ⟨classical, postQuantum⟩ := outcomes_ne .notApplicable (by decide) (by decide) runs
  have path := acceptanceCheck_ne_notApplicable runs.validTls.verdict
  have validity : material.validity.state ≠ .notApplicable := by
    rcases (gathered_of_ok gathered).2 with passed | failed
    · simp [passed]
    · simp [failed]
  simp [request, tlsRequest, item, EndEntity.item, componentPart, Evidence.checks,
    CheckResult.observed, classical, postQuantum, path, validity]

theorem wellFormed_of_ok (digest : ∀ bytes, (sys.sha256 bytes).length = 32)
    (gathered : gather sys config = .ok (runs, material)) :
    WellFormed (readsTime sys.toLibrary) (request config runs material) := by
  obtain ⟨about, -⟩ := gathered_of_ok gathered
  have ids : "composite-ecdsa-component" ≠ "composite-mldsa-component" := by decide
  have kinds : EvidenceKind.classical ≠ .postQuantum := by decide
  have unchecked : (CheckResult.observed .notChecked).state ≠ .pass := by decide
  refine about.wellFormed digest (fun _ => rfl) List.nodup_nil ids kinds rfl
    (fun _ member => by cases member) fun item member => ?_
  rcases List.mem_pair.mp member with rfl | rfl
  · exact about.item_wellFormed digest (by decide) rfl unchecked
  · exact about.item_wellFormed digest (by decide) rfl unchecked

/-- The result that is reported is the answer to the request. -/
theorem result_of_analyze (gathered : gather sys config = .ok (runs, material))
    {answer : VerificationResult} (returned : evaluate (readsTime sys.toLibrary)
      (request config runs material) = .ok answer) {report : AtomicTlsReport}
    (analyzed : analyze sys config = .ok report) : report.result = answer := by
  simp only [analyze, gathered, ok_bind, returned, mapErr_ok] at analyzed
  rw [← pure_ok_iff.mp analyzed]

/-- The request of the analysis tells an inconclusive handshake from a failed one exactly
    when the handshake with the valid certificate was conclusive. -/
theorem honest_iff (digest : ∀ bytes, (sys.sha256 bytes).length = 32)
    (gathered : gather sys config = .ok (runs, material)) :
    ∃ answer, evaluate (readsTime sys.toLibrary) (request config runs material) = .ok answer ∧
      (∀ report, analyze sys config = .ok report → report.result = answer) ∧
      ((account runs).Honest (request config runs material) answer.policyVerdict ↔
        Conclusive runs.validTls.verdict) := by
  obtain ⟨answer, returned⟩ := (wellFormed_of_ok digest gathered).answered
  refine ⟨answer, returned, fun report analyzed => result_of_analyze gathered returned analyzed, ?_⟩
  constructor
  · intro honest
    exact neverInvents_iff.mp honest.neverInvents
  · intro conclusive
    have named : ∀ item ∈ (request config runs material).evidence,
        item.certificateId = "end-entity" := by
      intro item member
      rcases List.mem_pair.mp member with rfl | rfl <;> rfl
    exact (gathered_of_ok gathered).1.honest ⟨by decide, by decide, rfl⟩ ⟨rfl, rfl⟩ named
      (applicable_of_ok gathered) conclusive (neverInvents_iff.mpr conclusive) returned

end Honesty

end HybridX509.Analysis.AtomicTls
