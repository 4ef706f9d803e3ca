import HybridX509.Analysis.Fallbacks

/-! # The Catalyst TLS analysis

`observe` of `analysis/tls.rs` and `analysis/catalyst_tls.rs`: OpenSSL handshakes with a
certificate that carries a second, alternative signature, and with the certificate with
one of its two signatures damaged; the alternative signature is checked directly by
Bouncy Castle.
-/

namespace HybridX509.Analysis.CatalystTls

open Lib X509 Oracle Adapters Adapters.Stacks Adapters.BouncyCastle Revocation PathRuns PathPositions
open Revocation.Ocsp (Duration)
open Transcripts (EndEntity TlsTranscriptEvidence observeTranscript)
open Fallbacks

/-! ## Handshakes -/

structure TlsHandshakeEvidence where
  report : AdapterReport
  certificateSha256 : String
  certificateSubject : Option String
  protocol : Option String
  cipherSuite : Option String
  authenticationSignature : Option String
  keyExchangeGroup : Option String
  certificateSelection : CheckResult
  hostnameVerification : CheckResult
  proofOfPossession : CheckResult
  transcriptBinding : CheckResult
  deriving Repr, DecidableEq

def TlsHandshakeEvidence.verdict (evidence : TlsHandshakeEvidence) : StackVerdict :=
  evidence.report.observation.verdict

/-- `str::lines`: a line feed ends a line, with a carriage return before it, and no line
    begins at the end of the text. -/
def lines (text : List Char) : List (List Char) :=
  let pieces := text.splitOn '\n'
  pieces.dropLast.map (fun line => if line.getLast? = some '\r' then line.dropLast else line)
    ++ (pieces.getLast?.filter (· ≠ [])).toList

/-- The rest of the first line that begins with the prefix. -/
def lineValue (output : List Char) (lead : String) : Option String :=
  (lines output).findSome? fun line =>
    if lead.toList.isPrefixOf (trim line) then
      some (.ofList ((trim line).drop lead.toList.length))
    else none

def observe (sys : FallbackSystem) (config : OpenSslTlsConfig) :
    Except HandshakeError TlsHandshakeEvidence := do
  let execution ← mapErr .openSsl (verifyTls sys.toStackSystem config)
  let accepted := execution.observation.verdict == .accept
  let output := fromUtf8Lossy execution.verificationOutput.stdout.bytes
  let authenticationSignature := lineValue output "Signature type: "
  let complete := accepted && lineValue output "Verification: " == some "OK"
    && lineValue output "Verified peername: " == some config.hostname
  let certificateDer ← mapErr .pem (readDer sys.toLibrary config.leaf .certificate INPUT_LIMIT)
  let report ← mapErr .support (execution.report sys.toSystem)
  return {
    report := report
    certificateSha256 := sha256Hex sys.toLibrary certificateDer
    certificateSubject := lineValue output "Peer certificate: "
    protocol := lineValue output "Protocol version: "
    cipherSuite := lineValue output "Ciphersuite: "
    authenticationSignature := authenticationSignature
    keyExchangeGroup := lineValue output "Negotiated TLS1.3 group: "
    certificateSelection := behavioralCheck complete .pass
    hostnameVerification := .observed (if complete then .pass else .indeterminate)
    proofOfPossession := behavioralCheck (complete && authenticationSignature.isSome) .pass
    transcriptBinding :=
      if complete && authenticationSignature.isSome then ⟨.pass, .inferred⟩
      else ⟨.indeterminate, .unknown⟩ }

/-! ## The analysis -/

structure CatalystTlsConfig where
  docker : String
  opensslImage : String
  bouncyCastleImage : String
  trustStore : String
  issuer : String
  validCertificate : String
  invalidPostQuantumCertificate : String
  privateKey : String
  crl : String
  hostname : String
  validationTime : String
  timeout : Duration
  maxOutputBytes : Nat
  deriving Repr, DecidableEq

structure CatalystTlsReport where
  apiVersion : String
  crlStatus : CrlStatusResult
  validTls : TlsHandshakeEvidence
  invalidClassicalTls : TlsHandshakeEvidence
  invalidPostQuantumTls : TlsHandshakeEvidence
  validPostQuantumDirectControl : AdapterReport
  invalidPostQuantumDirectControl : AdapterReport
  transcriptBindingControl : TlsTranscriptEvidence
  result : VerificationResult
  deriving Repr, DecidableEq

namespace CatalystTlsConfig

variable (config : CatalystTlsConfig)

def settings : ScopeSettings := ⟨.p2RequiredHybrid, config.validationTime, none⟩

def files : PathFiles := ⟨config.trustStore, config.issuer, config.validCertificate⟩

/-- The parts of the configuration that the direct controls are made with. -/
def runSettings : RunSettings :=
  ⟨config.docker, config.bouncyCastleImage, config.validationTime, config.timeout,
    config.maxOutputBytes⟩

end CatalystTlsConfig

/-- The runs of the analysis. -/
structure Runs where
  validTls : TlsHandshakeEvidence
  invalidClassicalTls : TlsHandshakeEvidence
  invalidPostQuantumTls : TlsHandshakeEvidence
  validPostQuantum : AdapterExecution
  invalidPostQuantum : AdapterExecution
  transcriptBinding : TlsTranscriptEvidence
  deriving Repr, DecidableEq

/-- What the analysis reads from its files. -/
structure Material extends EndEntity where
  crlStatus : CrlStatusResult
  validity : CheckResult
  deriving Repr, DecidableEq

def properties : LeafPathProperties := ⟨.classical, .classical, .catalyst⟩

section Analyze

variable (sys : FallbackSystem) (config : CatalystTlsConfig)

def runTls (leaf : String) : Except FallbackError TlsHandshakeEvidence :=
  mapErr .handshake (observe sys {
    docker := config.docker
    image := config.opensslImage
    trustStore := config.trustStore
    intermediate := config.issuer
    leaf := leaf
    privateKey := config.privateKey
    hostname := config.hostname
    validationTime := config.validationTime
    timeout := config.timeout
    maxOutputBytes := config.maxOutputBytes })

def runPostQuantum (leaf : String) : Except FallbackError AdapterExecution :=
  mapErr .bouncyCastle (run sys.toTlsSystem.toSystem config.runSettings config.trustStore
    config.issuer leaf .alternativeSignature none)

def runTranscriptBinding : Except FallbackError TlsTranscriptEvidence :=
  mapErr .tls (observeTranscript sys.toTlsSystem {
    docker := config.docker
    image := config.bouncyCastleImage
    trustStore := config.trustStore
    intermediate := config.issuer
    leaf := config.validCertificate
    privateKey := config.privateKey
    validationTime := config.validationTime
    timeout := config.timeout
    maxOutputBytes := config.maxOutputBytes })

def gather : Except FallbackError (Runs × Material) := do
  [config.validCertificate, config.invalidPostQuantumCertificate].forM (checkDesign sys .catalyst)
  let crlStatus ← mapErr .pem (checkCrlStatus sys.toLibrary config.validCertificate config.issuer
    config.crl config.validationTime INPUT_LIMIT)
  let validTls ← runTls sys config config.validCertificate
  let invalidPostQuantumTls ← runTls sys config config.invalidPostQuantumCertificate
  let invalidClassicalFile ← damagedFile sys config.validCertificate
  let invalidClassicalTls ← runTls sys config invalidClassicalFile
  let validPostQuantum ← runPostQuantum sys config config.validCertificate
  let invalidPostQuantum ← runPostQuantum sys config config.invalidPostQuantumCertificate
  let transcriptBinding ← runTranscriptBinding sys config
  let validity ← mapErr .pem (checkCertificateValidity sys.toLibrary config.validCertificate
    config.validationTime INPUT_LIMIT)
  let certificateDerSha256 ←
    mapErr .pem (certificateDerHash sys.toLibrary config.validCertificate INPUT_LIMIT)
  let issuerEdgeSha256 ←
    mapErr .pem (issuerEdgeHash sys.toLibrary config.validCertificate config.issuer INPUT_LIMIT)
  let expectedTrustAnchor ←
    mapErr .pem (certificateTrustAnchor sys.toLibrary config.trustStore INPUT_LIMIT)
  let certificatePath ← mapErr .pem (endEntityCertificationPath sys.toLibrary
    config.validCertificate config.issuer config.trustStore properties INPUT_LIMIT)
  return ({
      -- The transcript is bound by the control, not by what the handshake printed.
      validTls := { validTls with transcriptBinding := transcriptBinding.binding }
      invalidClassicalTls := invalidClassicalTls
      invalidPostQuantumTls := invalidPostQuantumTls
      validPostQuantum := validPostQuantum
      invalidPostQuantum := invalidPostQuantum
      transcriptBinding := transcriptBinding },
    ⟨⟨certificateDerSha256, issuerEdgeSha256, expectedTrustAnchor, certificatePath⟩, crlStatus,
      validity⟩)

def classicalOutcome (runs : Runs) : CheckResult :=
  behavioralCheck (runs.validTls.verdict == .accept
    && runs.invalidClassicalTls.verdict == .reject) .pass

/-- A handshake that accepts the damaged alternative signature is known not to check it. -/
def postQuantumOutcome (runs : Runs) : CheckResult :=
  behavioralCheck (runs.validTls.verdict == .accept
    && runs.invalidPostQuantumTls.verdict == .accept
    && runs.validPostQuantum.observation.verdict == .accept
    && runs.invalidPostQuantum.observation.verdict == .reject) .fail

def classicalPart (runs : Runs) (material : Material) : Part where
  name := "classical-base-signature"
  kind := .classical
  signature := checkFromVerdict runs.validTls.verdict
  binding := .observed .notApplicable
  path := checkFromVerdict runs.validTls.verdict
  validity := material.validity
  revocation := material.crlStatus.revocation
  decisionSensitiveForFixture := classicalOutcome runs

def postQuantumPart (runs : Runs) (material : Material) : Part where
  name := "catalyst-alternative-signature"
  kind := .postQuantum
  signature := checkFromVerdict runs.validPostQuantum.observation.verdict
  binding := checkFromVerdict runs.validPostQuantum.observation.verdict
  path := checkFromVerdict runs.validTls.verdict
  validity := material.validity
  revocation := material.crlStatus.revocation
  decisionSensitiveForFixture := postQuantumOutcome runs

def request (runs : Runs) (material : Material) : VerificationRequest :=
  endEntityRequest config.settings runs.validTls.report.observation material.toEndEntity []
    (items material.toEndEntity material.certificateDerSha256 none .crl
      (classicalPart runs material) (postQuantumPart runs material))

def analyze : Except FallbackError CatalystTlsReport := do
  let (runs, material) ← gather sys config
  let validPostQuantum ← mapErr .support (runs.validPostQuantum.report sys.toTlsSystem.toSystem)
  let invalidPostQuantum ←
    mapErr .support (runs.invalidPostQuantum.report sys.toTlsSystem.toSystem)
  let result ←
    mapErr .oracle (evaluate (readsTime sys.toLibrary) (request config runs material))
  return {
    apiVersion := API_VERSION
    crlStatus := material.crlStatus
    validTls := runs.validTls
    invalidClassicalTls := runs.invalidClassicalTls
    invalidPostQuantumTls := runs.invalidPostQuantumTls
    validPostQuantumDirectControl := validPostQuantum
    invalidPostQuantumDirectControl := invalidPostQuantum
    transcriptBindingControl := runs.transcriptBinding
    result := result }

end Analyze

/-! ## What the result says -/

section Result

variable {sys : FallbackSystem} {config : CatalystTlsConfig} {runs : Runs} {material : Material}

theorem shownPath_of_observe {config : OpenSslTlsConfig} {evidence : TlsHandshakeEvidence}
    (observed : observe sys config = .ok evidence) :
    ShownPath sys.toLibrary ⟨config.trustStore, config.intermediate, config.leaf⟩
      config.validationTime evidence.report.observation := by
  simp only [observe, bind_ok_iff, mapErr_ok_iff, pure_ok_iff] at observed
  obtain ⟨execution, verified, _, -, report, reported, rfl⟩ := observed
  rw [(report_eq reported).1]
  exact shownPath_of_verifyTls verified

theorem joined_of_ok (gathered : gather sys config = .ok (runs, material)) :
    Joined sys.toLibrary config.files config.settings properties
        runs.validTls.report.observation material.toEndEntity ∧
      Read material.crlStatus.revocation ∧
      checkCertificateValidity sys.toLibrary config.validCertificate config.validationTime
        INPUT_LIMIT = .ok material.validity := by
  simp only [gather, runTls, bind_ok_iff, mapErr_ok_iff, exists_unit_iff, pure_ok_iff,
    Prod.mk.injEq] at gathered
  obtain ⟨-, _, listed, validTls, observed, _, -, _, -, _, -, _, -, _, -, _, -, _, checked, _,
    hashed, _, joined, _, anchored, _, path, rfl, rfl⟩ := gathered
  obtain ⟨-, read, time⟩ := read_checkCrlStatus listed
  exact ⟨⟨shownPath_of_observe observed, hashed, joined, anchored, path, time⟩, read, checked⟩

theorem runTls_raises (leaf : String) :
    Raises FallbackError.NotOracle (runTls sys config leaf) := raises_other _ (by simp)

theorem runPostQuantum_raises (leaf : String) :
    Raises FallbackError.NotOracle (runPostQuantum sys config leaf) := raises_other _ (by simp)

theorem gather_raises : Raises FallbackError.NotOracle (gather sys config) := by
  unfold gather
  refine raises_bind (raises_forM (checkDesign_raises _)) fun _ _ => ?_
  refine raises_bind (raises_other _ (by simp)) fun _ _ => ?_
  refine raises_bind (runTls_raises _) fun _ _ => ?_
  refine raises_bind (runTls_raises _) fun _ _ => ?_
  refine raises_bind (damagedFile_raises _) fun _ _ => ?_
  refine raises_bind (runTls_raises _) fun _ _ => ?_
  refine raises_bind (runPostQuantum_raises _) fun _ _ => ?_
  refine raises_bind (runPostQuantum_raises _) fun _ _ => ?_
  refine raises_bind (raises_other _ (by simp)) fun _ _ => ?_
  refine raises_bind (raises_other _ (by simp)) fun _ _ => ?_
  refine raises_bind (raises_other _ (by simp)) fun _ _ => ?_
  refine raises_bind (raises_other _ (by simp)) fun _ _ => ?_
  refine raises_bind (raises_other _ (by simp)) fun _ _ => ?_
  exact raises_bind (raises_other _ (by simp)) fun _ _ => raises_ok _

/-- The classical signature carried the handshake: it was accepted with the certificate as
    it is, which was valid and not revoked, and refused with the classical signature
    damaged. -/
structure Carried (sys : FallbackSystem) (config : CatalystTlsConfig)
    (report : CatalystTlsReport) : Prop where
  accepted : report.validTls.verdict = .accept
  refused : report.invalidClassicalTls.verdict = .reject
  valid : ∃ validity, checkCertificateValidity sys.toLibrary config.validCertificate
    config.validationTime INPUT_LIMIT = .ok validity ∧ validity.state = .pass
  unrevoked : report.crlStatus.revocation.state = .pass

/-- The alternative signature was never looked at: the handshake was accepted with it
    damaged, although the direct check tells the two certificates apart. -/
structure Overlooked (report : CatalystTlsReport) : Prop where
  accepted : report.validTls.verdict = .accept
  alsoAccepted : report.invalidPostQuantumTls.verdict = .accept
  correct : report.validPostQuantumDirectControl.observation.verdict = .accept
  damaged : report.invalidPostQuantumDirectControl.observation.verdict = .reject

/-- The result of a report, by the controls that stand beside it. -/
structure Accounted (sys : FallbackSystem) (config : CatalystTlsConfig)
    (report : CatalystTlsReport) : Prop where
  classicalOnly : ClassicalOnly .p2RequiredHybrid report.result (Carried sys config report) False
  reject : report.result.policyVerdict = .reject ↔ report.validTls.verdict ≠ .unsupported ∧
    (report.validTls.verdict = .reject ∨
      report.validPostQuantumDirectControl.observation.verdict = .reject ∨
      (∃ validity, checkCertificateValidity sys.toLibrary config.validCertificate
        config.validationTime INPUT_LIMIT = .ok validity ∧ validity.state = .fail) ∨
      report.crlStatus.revocation.state = .fail ∨ Overlooked report)

theorem classicalPart_passes_iff (gathered : gather sys config = .ok (runs, material)) :
    ChecksPass .hardFail (material.item material.certificateDerSha256 none .crl
      (classicalPart runs material)) ↔
      runs.validTls.verdict = .accept ∧ runs.invalidClassicalTls.verdict = .reject ∧
        material.validity.state = .pass ∧ material.crlStatus.revocation.state = .pass := by
  obtain ⟨-, revocation, checked⟩ := joined_of_ok gathered
  have validity := read_checkCertificateValidity checked
  simp only [checksPass_iff, EndEntity.item, classicalPart, classicalOutcome,
    establishes_checkFromVerdict_iff, establishes_behavioralCheck_iff, validity.establishes_iff,
    revocation.establishes_iff, Bool.and_eq_true, beq_iff_eq]
  simp only [CheckResult.observed, Strong, reduceCtorEq, true_or, false_or, and_self, true_and]
  tauto

theorem postQuantumPart_not_passes :
    ¬ ChecksPass .hardFail (material.item material.certificateDerSha256 none .crl
      (postQuantumPart runs material)) := by
  rw [checksPass_iff rfl rfl]
  rintro ⟨-, -, -, -, -, sensitive⟩
  exact (behavioralCheck_one_sided _).2 sensitive

theorem parts_fail_iff (gathered : gather sys config = .ok (runs, material)) :
    (Fails (material.item material.certificateDerSha256 none .crl (classicalPart runs material)) ∨
      Fails (material.item material.certificateDerSha256 none .crl
        (postQuantumPart runs material))) ↔
      runs.validTls.verdict = .reject ∨ runs.validPostQuantum.observation.verdict = .reject ∨
        material.validity.state = .fail ∨ material.crlStatus.revocation.state = .fail ∨
        (postQuantumOutcome runs).state = .fail := by
  obtain ⟨-, revocation, checked⟩ := joined_of_ok gathered
  have validity := read_checkCertificateValidity checked
  have insensitive : Objects (postQuantumOutcome runs) ↔ (postQuantumOutcome runs).state = .fail := by
    rw [postQuantumOutcome, objects_behavioralCheck_iff]
    cases _ : (runs.validTls.verdict == .accept && runs.invalidPostQuantumTls.verdict == .accept
      && runs.validPostQuantum.observation.verdict == .accept
      && runs.invalidPostQuantum.observation.verdict == .reject) <;> simp [behavioralCheck]
  have binding (verdict : StackVerdict) : (Strong (checkFromVerdict verdict) ∧
      (checkFromVerdict verdict).state = .fail) ↔ verdict = .reject := by
    cases verdict <;> simp [Strong, checkFromVerdict, CheckResult.observed]
  have unbound : ¬ (Strong (CheckResult.observed .notApplicable) ∧
      (CheckResult.observed .notApplicable).state = .fail) := by
    rintro ⟨-, failed⟩
    cases failed
  simp only [fails_iff, EndEntity.item, classicalPart, postQuantumPart, objects_checkFromVerdict_iff,
    validity.objects_iff, revocation.objects_iff, insensitive, binding, unbound, classicalOutcome,
    (behavioralCheck_one_sided _).1]
  tauto

theorem hybridMissing_of_ok (gathered : gather sys config = .ok (runs, material)) :
    HybridMissing (request config runs material) := by
  obtain ⟨joined, -, -⟩ := joined_of_ok gathered
  refine ⟨?_, ?_, .inl ?_⟩
  · rw [request, joined.certificates_eq]
    exact List.forall_mem_singleton.mpr rfl
  · rw [request, joined.certificates_eq]
    exact ⟨_, List.mem_singleton_self _, .inl rfl⟩
  · rw [request, joined.kindPasses_postQuantum_iff ⟨rfl, rfl⟩ rfl]
    exact postQuantumPart_not_passes

theorem wellFormed_of_ok (digest : ∀ bytes, (sys.sha256 bytes).length = 32)
    (gathered : gather sys config = .ok (runs, material)) :
    WellFormed (readsTime sys.toLibrary) (request config runs material) := by
  obtain ⟨joined, -, -⟩ := joined_of_ok gathered
  have ids : "classical-base-signature" ≠ "catalyst-alternative-signature" := by decide
  have kinds : EvidenceKind.classical ≠ .postQuantum := by decide
  refine joined.wellFormed digest (by decide) List.nodup_nil ids kinds rfl
    (fun _ member => by cases member) fun item member => ?_
  rcases List.mem_pair.mp member with rfl | rfl
  · exact joined.item_wellFormed digest (by decide) (by decide) rfl
  · exact joined.item_wellFormed digest (by decide) (by decide) rfl

/-- A check that shows an insensitivity was established by its controls. -/
theorem overlooked_iff : (postQuantumOutcome runs).state = .fail ↔
    runs.validTls.verdict = .accept ∧ runs.invalidPostQuantumTls.verdict = .accept ∧
      runs.validPostQuantum.observation.verdict = .accept ∧
      runs.invalidPostQuantum.observation.verdict = .reject := by
  rw [postQuantumOutcome, behavioralCheck]
  split
  · next shown => simpa [and_assoc] using shown
  · next unshown => simpa [and_assoc] using unshown

theorem carried_iff (gathered : gather sys config = .ok (runs, material)) :
    ClassicalSucceeds (request config runs material) ↔
      runs.validTls.verdict = .accept ∧ runs.invalidClassicalTls.verdict = .reject ∧
        material.validity.state = .pass ∧ material.crlStatus.revocation.state = .pass := by
  rw [request, (joined_of_ok gathered).1.classicalSucceeds_iff ⟨rfl, rfl⟩ rfl,
    classicalPart_passes_iff gathered]
  exact and_iff_right_of_imp fun passes => passes.1

theorem reject_iff (gathered : gather sys config = .ok (runs, material))
    {answer : VerificationResult} (returned : evaluate (readsTime sys.toLibrary)
      (request config runs material) = .ok answer) :
    answer.policyVerdict = .reject ↔ runs.validTls.verdict ≠ .unsupported ∧
      (runs.validTls.verdict = .reject ∨ runs.validPostQuantum.observation.verdict = .reject ∨
        material.validity.state = .fail ∨ material.crlStatus.revocation.state = .fail ∨
        (postQuantumOutcome runs).state = .fail) := by
  obtain ⟨joined, -, -⟩ := joined_of_ok gathered
  obtain ⟨wf, outcome⟩ := evaluate_ok_iff.mp returned
  have unsupported : UnsupportedInput (request config runs material) ↔
      runs.validTls.verdict = .unsupported := by
    rw [← unsupportedInput_iff, (hybridMissing_of_ok gathered).unsupported_iff]
    rfl
  have objection : Objection (request config runs material) ↔ _ :=
    joined.objection_iff ⟨rfl, rfl⟩ rfl (by decide) fun kind => by cases kind <;> rfl
  rw [(wf.p2_answer rfl outcome).2.1, unsupported, objection, parts_fail_iff gathered]
  exact and_congr_right' (or_iff_right_of_imp .inl)

/-- No analysis fails because the oracle refused its request. The result of a report is
    accounted for by the controls beside it: there is a fallback exactly when the classical
    signature carried the handshake, and a rejection exactly for what failed. -/
theorem catalystTls_accounted (digest : ∀ bytes, (sys.sha256 bytes).length = 32) :
    Yields (Accounted sys config) FallbackError.NotOracle (analyze sys config) := by
  refine yields_bind gather_raises ?_
  rintro ⟨runs, material⟩ gathered
  refine yields_bind (raises_other _ (by simp)) fun validControl validReported => ?_
  refine yields_bind (raises_other _ (by simp)) fun invalidControl invalidReported => ?_
  obtain ⟨answer, returned⟩ := (wellFormed_of_ok digest gathered).answered
  simp only [returned, mapErr_ok, ok_bind]
  refine yields_ok ?_
  obtain ⟨-, -, checked⟩ := joined_of_ok gathered
  have validControl := (report_eq (mapErr_ok_iff.mp validReported)).1
  have invalidControl := (report_eq (mapErr_ok_iff.mp invalidReported)).1
  have validity {state : CheckState} : (∃ validity, checkCertificateValidity sys.toLibrary
      config.validCertificate config.validationTime INPUT_LIMIT = .ok validity ∧
      validity.state = state) ↔ material.validity.state = state := by
    simp [checked]
  constructor
  · refine (((hybridMissing_of_ok gathered).classicalOnly returned).synchronized ?_).congr ?_ Iff.rfl
    · intro succeeds lapsed
      obtain ⟨-, -, valid, unrevoked⟩ := (carried_iff gathered).mp succeeds
      rcases (lapsed_iff ⟨rfl, rfl⟩).mp lapsed with expired | revoked
      · exact absurd (expired.symm.trans valid) (by decide)
      · exact absurd (revoked.symm.trans unrevoked) (by decide)
    · rw [carried_iff gathered, ← validity]
      constructor
      · rintro ⟨accepted, refused, valid, unrevoked⟩
        exact ⟨accepted, refused, valid, unrevoked⟩
      · intro carried
        exact ⟨carried.accepted, carried.refused, carried.valid, carried.unrevoked⟩
  · rw [validity]
    refine (reject_iff gathered returned).trans (and_congr_right' ?_)
    rw [overlooked_iff, ← validControl, ← invalidControl]
    refine or_congr_right (or_congr_right (or_congr_right (or_congr_right ?_)))
    constructor
    · rintro ⟨accepted, alsoAccepted, correct, damaged⟩
      exact ⟨accepted, alsoAccepted, correct, damaged⟩
    · intro overlooked
      exact ⟨overlooked.accepted, overlooked.alsoAccepted, overlooked.correct, overlooked.damaged⟩

end Result

namespace Fixture

def config : CatalystTlsConfig where
  docker := "docker"
  opensslImage := "hybrid-x509-openssl:4.0.1"
  bouncyCastleImage := "hybrid-x509-bouncycastle:1.84"
  trustStore := "root.pem"
  issuer := "issuer.pem"
  validCertificate := "catalyst.pem"
  invalidPostQuantumCertificate := "altered.pem"
  privateKey := "key.pem"
  crl := "crl.pem"
  hostname := "catalyst.pqc-probe.test"
  validationTime := "2026-06-20T00:00:00Z"
  timeout := ⟨5, 0⟩
  maxOutputBytes := 64 * 1024

end Fixture

/-- A handshake that does not look at the alternative signature. -/
theorem catalystTls_accounted_overlooked : ∃ report,
    analyze Fallbacks.Fixture.system Fixture.config = .ok report ∧ Overlooked report ∧
      report.result.policyVerdict = .reject ∧ report.result.classicalOnlyFallback = true := by
  obtain ⟨report, returned, accepted, alsoAccepted, correct, damaged, fallen⟩ :
      ∃ report, analyze Fallbacks.Fixture.system Fixture.config = .ok report ∧
        report.validTls.verdict = .accept ∧
        report.invalidPostQuantumTls.verdict = .accept ∧
        report.validPostQuantumDirectControl.observation.verdict = .accept ∧
        report.invalidPostQuantumDirectControl.observation.verdict = .reject ∧
        report.result.classicalOnlyFallback = true := by
    decide +kernel
  have accounted :=
    (catalystTls_accounted Fallbacks.Fixture.length_digest).1 report returned
  have overlooked : Overlooked report := ⟨accepted, alsoAccepted, correct, damaged⟩
  have supported : report.validTls.verdict ≠ .unsupported := by
    rw [accepted]
    decide
  exact ⟨report, returned, overlooked, accounted.reject.mpr
    ⟨supported, .inr (.inr (.inr (.inr overlooked)))⟩, fallen⟩

end HybridX509.Analysis.CatalystTls
