import HybridX509.Analysis.Transcripts

/-! # The Chameleon TLS analysis

`analysis/chameleon_tls.rs`: handshakes with a base certificate, with its damaged copies and,
separately, with the delta certificate. The signature of the delta certificate is checked
directly and repeats the verdict of its run, but the two path checks take everything that is
not acceptance for a failure.
-/

namespace HybridX509.Analysis.ChameleonTls

open Lib X509 Oracle Adapters Adapters.BouncyCastle Revocation.Ocsp PathRuns PathPositions
open Transcripts

structure ChameleonTlsConfig where
  docker : String
  image : String
  trustStore : String
  issuer : String
  validBaseCertificate : String
  invalidDeltaBaseCertificate : String
  deltaCertificate : String
  basePrivateKey : String
  deltaPrivateKey : String
  validationTime : String
  timeout : Duration
  maxOutputBytes : Nat
  deriving Repr, DecidableEq

structure ChameleonTlsReport where
  apiVersion : String
  validBaseTls : TlsTranscriptEvidence
  invalidBaseSignatureTls : TlsTranscriptEvidence
  invalidDeltaBaseTls : TlsTranscriptEvidence
  separateDeltaTls : TlsTranscriptEvidence
  validDeltaDirectControl : AdapterReport
  invalidDeltaDirectControl : AdapterReport
  result : VerificationResult
  deriving Repr, DecidableEq

def ChameleonTlsConfig.settings (config : ChameleonTlsConfig) : HandshakeSettings where
  docker := config.docker
  image := config.image
  trustStore := config.trustStore
  issuer := config.issuer
  validationTime := config.validationTime
  timeout := config.timeout
  maxOutputBytes := config.maxOutputBytes

/-- The handshakes of the analysis and its direct checks of the delta signature. -/
structure Runs where
  validBaseTls : TlsTranscriptEvidence
  invalidBaseSignatureTls : TlsTranscriptEvidence
  invalidDeltaBaseTls : TlsTranscriptEvidence
  separateDeltaTls : TlsTranscriptEvidence
  validDelta : AdapterExecution
  invalidDelta : AdapterExecution
  deriving Repr, DecidableEq

/-- What the analysis reads from its files. -/
structure Material extends EndEntity where
  baseValidity : CheckResult
  deltaValidity : CheckResult
  deriving Repr, DecidableEq

def properties : LeafPathProperties := ⟨.classical, .classical, .chameleon⟩

section Analyze

variable (sys : TlsSystem) (config : ChameleonTlsConfig)

def runDelta (leaf : String) : Except BouncyCastleError AdapterExecution :=
  verify sys.toSystem {
    docker := config.docker
    image := config.image
    trustStore := config.trustStore
    intermediate := config.issuer
    leaf := leaf
    validationTime := config.validationTime
    timeout := config.timeout
    maxOutputBytes := config.maxOutputBytes
    mode := .deltaSignature
    privateKey := none
    crl := none }

def gather : Except TlsAnalysisError (Runs × Material) := do
  [config.validBaseCertificate, config.invalidDeltaBaseCertificate].forM
    (checkDesign sys .chameleon)
  let validBaseTls ←
    mapErr .tls (runTls sys config.settings config.validBaseCertificate config.basePrivateKey)
  let invalidDeltaBaseTls ← mapErr .tls
    (runTls sys config.settings config.invalidDeltaBaseCertificate config.basePrivateKey)
  let separateDeltaTls ←
    mapErr .tls (runTls sys config.settings config.deltaCertificate config.deltaPrivateKey)
  let invalidBaseFile ← damagedFile sys config.validBaseCertificate
  let invalidBaseSignatureTls ←
    mapErr .tls (runTls sys config.settings invalidBaseFile config.basePrivateKey)
  let validDelta ← mapErr .bouncyCastle (runDelta sys config config.validBaseCertificate)
  let invalidDelta ← mapErr .bouncyCastle (runDelta sys config config.invalidDeltaBaseCertificate)
  let baseValidity ← mapErr .pem (checkCertificateValidity sys.toLibrary
    config.validBaseCertificate config.validationTime INPUT_LIMIT)
  let deltaValidity ← mapErr .pem (checkCertificateValidity sys.toLibrary config.deltaCertificate
    config.validationTime INPUT_LIMIT)
  let certificateDerSha256 ←
    mapErr .pem (certificateDerHash sys.toLibrary config.validBaseCertificate INPUT_LIMIT)
  let issuerEdgeSha256 ← mapErr .pem
    (issuerEdgeHash sys.toLibrary config.validBaseCertificate config.issuer INPUT_LIMIT)
  let expectedTrustAnchor ←
    mapErr .pem (certificateTrustAnchor sys.toLibrary config.trustStore INPUT_LIMIT)
  let certificatePath ← mapErr .pem (endEntityCertificationPath sys.toLibrary
    config.validBaseCertificate config.issuer config.trustStore properties INPUT_LIMIT)
  return ({
      validBaseTls := validBaseTls
      invalidBaseSignatureTls := invalidBaseSignatureTls
      invalidDeltaBaseTls := invalidDeltaBaseTls
      separateDeltaTls := separateDeltaTls
      validDelta := validDelta
      invalidDelta := invalidDelta },
    ⟨⟨certificateDerSha256, issuerEdgeSha256, expectedTrustAnchor, certificatePath⟩, baseValidity,
      deltaValidity⟩)

def postQuantumOutcome (runs : Runs) : CheckResult :=
  behavioralCheck (runs.validBaseTls.verdict == .accept
    && runs.invalidBaseSignatureTls.verdict == .reject) .pass

/-- A handshake that accepts a damaged delta is known not to depend on it. -/
def classicalOutcome (runs : Runs) : CheckResult :=
  behavioralCheck (runs.validBaseTls.verdict == .accept
    && runs.invalidDeltaBaseTls.verdict == .accept
    && runs.validDelta.observation.verdict == .accept
    && runs.invalidDelta.observation.verdict == .reject) .fail

def deltaSignature (runs : Runs) : CheckResult :=
  .observed (match runs.validDelta.observation.verdict with
    | .accept => .pass
    | .reject => .fail
    | .indeterminate | .unsupported => .indeterminate)

def deltaPart (runs : Runs) (material : Material) : Part where
  name := "delta-classical-certificate"
  kind := .classical
  signature := deltaSignature runs
  binding := deltaSignature runs
  path := acceptanceCheck runs.separateDeltaTls.verdict
  validity := material.deltaValidity
  revocation := .observed .notChecked
  decisionSensitiveForFixture := classicalOutcome runs

def basePart (runs : Runs) (material : Material) : Part where
  name := "base-mldsa-certificate"
  kind := .postQuantum
  signature := postQuantumOutcome runs
  binding := .observed .notApplicable
  path := acceptanceCheck runs.validBaseTls.verdict
  validity := material.baseValidity
  revocation := .observed .notChecked
  decisionSensitiveForFixture := postQuantumOutcome runs

def item (material : Material) (part : Part) : Evidence :=
  material.item material.certificateDerSha256 none .none part

def request (runs : Runs) (material : Material) : VerificationRequest :=
  tlsRequest config.validationTime runs.validBaseTls.report.observation material.toEndEntity []
    [item material (deltaPart runs material), item material (basePart runs material)]

def analyze : Except TlsAnalysisError ChameleonTlsReport := do
  let (runs, material) ← gather sys config
  let validDeltaDirectControl ← mapErr .support (runs.validDelta.report sys.toSystem)
  let invalidDeltaDirectControl ← mapErr .support (runs.invalidDelta.report sys.toSystem)
  let result ←
    mapErr .oracle (evaluate (readsTime sys.toLibrary) (request config runs material))
  return {
    apiVersion := API_VERSION
    validBaseTls := runs.validBaseTls
    invalidBaseSignatureTls := runs.invalidBaseSignatureTls
    invalidDeltaBaseTls := runs.invalidDeltaBaseTls
    separateDeltaTls := runs.separateDeltaTls
    validDeltaDirectControl := validDeltaDirectControl
    invalidDeltaDirectControl := invalidDeltaDirectControl
    result := result }

end Analyze

/-! ## What the checks come from -/

def account (runs : Runs) : Account where
  handshakes := [runs.validBaseTls.verdict, runs.invalidBaseSignatureTls.verdict,
    runs.invalidDeltaBaseTls.verdict, runs.separateDeltaTls.verdict]
  sources := [
    (("delta-classical-certificate", "signature"), .run runs.validDelta.observation.verdict),
    (("delta-classical-certificate", "binding"), .run runs.validDelta.observation.verdict),
    (("delta-classical-certificate", "path"), .run runs.separateDeltaTls.verdict),
    (("delta-classical-certificate", "decision-sensitive-for-fixture"),
      .controls [runs.validBaseTls.verdict, runs.invalidDeltaBaseTls.verdict,
        runs.validDelta.observation.verdict, runs.invalidDelta.observation.verdict]),
    (("base-mldsa-certificate", "signature"),
      .controls [runs.validBaseTls.verdict, runs.invalidBaseSignatureTls.verdict]),
    (("base-mldsa-certificate", "path"), .run runs.validBaseTls.verdict),
    (("base-mldsa-certificate", "decision-sensitive-for-fixture"),
      .controls [runs.validBaseTls.verdict, runs.invalidBaseSignatureTls.verdict])]

section Honesty

variable {sys : TlsSystem} {config : ChameleonTlsConfig} {runs : Runs} {material : Material}

theorem gathered_of_ok (gathered : gather sys config = .ok (runs, material)) :
    Gathered sys config.settings properties config.validBaseCertificate config.basePrivateKey
      runs.validBaseTls material.toEndEntity ∧
      (material.baseValidity.state = .pass ∨ material.baseValidity.state = .fail) ∧
      (material.deltaValidity.state = .pass ∨ material.deltaValidity.state = .fail) := by
  simp only [gather, bind_ok_iff, mapErr_ok_iff, exists_unit_iff, pure_ok_iff, Prod.mk.injEq]
    at gathered
  obtain ⟨_, _, ran, _, _, _, _, _, _, _, _, _, _, _, _, _, baseChecked, _, deltaChecked, _, hashed,
    _, joined, _, anchored, _, path, rfl, rfl⟩ := gathered
  exact ⟨⟨ran, hashed, joined, anchored, path, (read_of_checkCertificateValidity baseChecked).2⟩,
    decided_of_checkCertificateValidity baseChecked,
    decided_of_checkCertificateValidity deltaChecked⟩

theorem deltaSignature_fail_iff :
    (deltaSignature runs).state = .fail ↔ runs.validDelta.observation.verdict = .reject := by
  unfold deltaSignature
  cases runs.validDelta.observation.verdict <;> decide

/-- The delta is known not to matter only when all its controls were conclusive. -/
theorem conclusive_of_classicalOutcome (failed : (classicalOutcome runs).state = .fail) :
    Conclusive runs.validBaseTls.verdict ∧ Conclusive runs.invalidDeltaBaseTls.verdict ∧
      Conclusive runs.validDelta.observation.verdict ∧
      Conclusive runs.invalidDelta.observation.verdict := by
  unfold classicalOutcome behavioralCheck at failed
  split at failed
  · rename_i established
    simp only [Bool.and_eq_true, beq_iff_eq] at established
    obtain ⟨⟨⟨base, damagedBase⟩, delta⟩, damagedDelta⟩ := established
    exact ⟨.inl base, .inl damagedBase, .inl delta, .inr damagedDelta⟩
  · cases failed

theorem neverInvents_iff :
    (account runs).NeverInvents (request config runs material) ↔
      Conclusive runs.validBaseTls.verdict ∧ Conclusive runs.separateDeltaTls.verdict := by
  have postQuantum : (postQuantumOutcome runs).state ≠ .fail :=
    behavioralCheck_ne (by decide) (by decide)
  have paths : (account runs).NeverInvents (request config runs material) ↔
      (((acceptanceCheck runs.separateDeltaTls.verdict).state = .fail →
          runs.separateDeltaTls.verdict = .reject) ∧
        ((classicalOutcome runs).state = .fail → Conclusive runs.validBaseTls.verdict ∧
          Conclusive runs.invalidDeltaBaseTls.verdict ∧
          Conclusive runs.validDelta.observation.verdict ∧
          Conclusive runs.invalidDelta.observation.verdict)) ∧
      ((acceptanceCheck runs.validBaseTls.verdict).state = .fail →
        runs.validBaseTls.verdict = .reject) := by
    simp [Account.NeverInvents, account, request, tlsRequest, item, EndEntity.item, deltaPart,
      basePart, Evidence.checks, Source.Permits, deltaSignature_fail_iff, postQuantum]
  rw [paths, acceptanceCheck_honest_iff, acceptanceCheck_honest_iff]
  constructor
  · rintro ⟨⟨delta, _⟩, base⟩
    exact ⟨base, delta⟩
  · rintro ⟨base, delta⟩
    exact ⟨⟨delta, conclusive_of_classicalOutcome⟩, base⟩

theorem applicable_of_ok (gathered : gather sys config = .ok (runs, material)) :
    ∀ item ∈ (request config runs material).evidence, ∀ check ∈ item.checks,
      check.2.state = .notApplicable → check.1 = "binding" := by
  obtain ⟨-, baseValidity, deltaValidity⟩ := gathered_of_ok gathered
  have base : material.baseValidity.state ≠ .notApplicable := by
    rcases baseValidity with passed | failed
    · simp [passed]
    · simp [failed]
  have delta : material.deltaValidity.state ≠ .notApplicable := by
    rcases deltaValidity with passed | failed
    · simp [passed]
    · simp [failed]
  have signature : (deltaSignature runs).state ≠ .notApplicable := by
    unfold deltaSignature
    cases runs.validDelta.observation.verdict <;> decide
  have classical : (classicalOutcome runs).state ≠ .notApplicable :=
    behavioralCheck_ne (by decide) (by decide)
  have postQuantum : (postQuantumOutcome runs).state ≠ .notApplicable :=
    behavioralCheck_ne (by decide) (by decide)
  have basePath := acceptanceCheck_ne_notApplicable runs.validBaseTls.verdict
  have deltaPath := acceptanceCheck_ne_notApplicable runs.separateDeltaTls.verdict
  simp [request, tlsRequest, item, EndEntity.item, deltaPart, basePart, Evidence.checks,
    CheckResult.observed, base, delta, signature, classical, postQuantum, basePath, deltaPath]

theorem wellFormed_of_ok (digest : ∀ bytes, (sys.sha256 bytes).length = 32)
    (gathered : gather sys config = .ok (runs, material)) :
    WellFormed (readsTime sys.toLibrary) (request config runs material) := by
  obtain ⟨about, -⟩ := gathered_of_ok gathered
  have ids : "delta-classical-certificate" ≠ "base-mldsa-certificate" := by decide
  have kinds : EvidenceKind.classical ≠ .postQuantum := by decide
  have unchecked : (CheckResult.observed .notChecked).state ≠ .pass := by decide
  refine about.wellFormed digest (fun atomic => by cases atomic) List.nodup_nil ids kinds rfl
    (fun _ member => by cases member) fun item member => ?_
  rcases List.mem_pair.mp member with rfl | rfl
  · exact about.item_wellFormed digest (by decide) rfl unchecked
  · exact about.item_wellFormed digest (by decide) rfl unchecked

/-- The result that is reported is the answer to the request. -/
theorem result_of_analyze (gathered : gather sys config = .ok (runs, material))
    {answer : VerificationResult} (returned : evaluate (readsTime sys.toLibrary)
      (request config runs material) = .ok answer) {report : ChameleonTlsReport}
    (analyzed : analyze sys config = .ok report) : report.result = answer := by
  simp only [analyze, gathered, ok_bind, returned, mapErr_ok, bind_ok_iff, pure_ok_iff] at analyzed
  obtain ⟨_, _, _, _, rfl⟩ := analyzed
  rfl

/-- The request of the analysis tells an inconclusive run from a failed one exactly when both
    handshakes behind a path check were conclusive. -/
theorem honest_iff (digest : ∀ bytes, (sys.sha256 bytes).length = 32)
    (gathered : gather sys config = .ok (runs, material)) :
    ∃ answer, evaluate (readsTime sys.toLibrary) (request config runs material) = .ok answer ∧
      (∀ report, analyze sys config = .ok report → report.result = answer) ∧
      ((account runs).Honest (request config runs material) answer.policyVerdict ↔
        Conclusive runs.validBaseTls.verdict ∧ Conclusive runs.separateDeltaTls.verdict) := by
  obtain ⟨answer, returned⟩ := (wellFormed_of_ok digest gathered).answered
  refine ⟨answer, returned, fun report analyzed => result_of_analyze gathered returned analyzed, ?_⟩
  constructor
  · intro honest
    exact neverInvents_iff.mp honest.neverInvents
  · intro conclusive
    have named : ∀ item ∈ (request config runs material).evidence,
        item.certificateId = "end-entity" := by
      intro item member
      rcases List.mem_pair.mp member with rfl | rfl <;> rfl
    exact (gathered_of_ok gathered).1.honest ⟨by decide, by decide, rfl⟩ ⟨rfl, rfl⟩ named
      (applicable_of_ok gathered) conclusive.1 (neverInvents_iff.mpr conclusive) returned

end Honesty

end HybridX509.Analysis.ChameleonTls
