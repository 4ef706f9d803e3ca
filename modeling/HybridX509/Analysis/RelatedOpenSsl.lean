import HybridX509.Analysis.Fallbacks

/-! # The Related OpenSSL analysis

`analysis/related_openssl.rs`: a classical certificate that names a post-quantum one, both
validated by OpenSSL, but in runs of their own. The pair is therefore always recorded as
not authenticated in one operation, and what is left to find out is whether the classical
certificate is accepted by itself while the other one has lapsed.
-/

namespace HybridX509.Analysis.RelatedOpenSsl

open Lib X509 Oracle Adapters Adapters.Stacks Revocation PathRuns PathPositions
open Adapters.ValidationTime (OpenSslContainerConfig)
open Revocation.Ocsp (Duration)
open Transcripts (EndEntity)
open Fallbacks

structure RelatedOpenSslConfig where
  docker : String
  image : String
  trustStore : String
  issuer : String
  classicalCertificate : String
  postQuantumCertificate : String
  expiredPostQuantumCertificate : String
  invalidBindingCertificate : String
  crl : String
  validationTime : String
  policy : Policy
  previousAuthentication : Option AuthenticationLevel
  timeout : Duration
  maxOutputBytes : Nat
  deriving Repr, DecidableEq

structure RelatedOpenSslReport where
  apiVersion : String
  conformance : RelatedConformanceResult
  binding : RelatedBindingResult
  invalidBinding : RelatedBindingResult
  classicalCrlStatus : CrlStatusResult
  postQuantumCrlStatus : CrlStatusResult
  classicalControl : AdapterReport
  classicalInvalidControl : AdapterReport
  postQuantumValidityControl : AdapterReport
  postQuantumExpiredControl : AdapterReport
  postQuantumInvalidBindingPathControl : AdapterReport
  postQuantumRevocationControl : AdapterReport
  result : VerificationResult
  deriving Repr, DecidableEq

namespace RelatedOpenSslConfig

variable (config : RelatedOpenSslConfig)

def settings : ScopeSettings :=
  ⟨config.policy, config.validationTime, config.previousAuthentication⟩

def files : PathFiles := ⟨config.trustStore, config.issuer, config.classicalCertificate⟩

def opensslConfig (leaf : String) (crl : Option String) : OpenSslContainerConfig where
  docker := config.docker
  image := config.image
  trustStore := config.trustStore
  intermediate := config.issuer
  leaf := leaf
  crl := crl
  validationTime := config.validationTime
  timeout := config.timeout
  maxOutputBytes := config.maxOutputBytes

end RelatedOpenSslConfig

/-- The runs of the analysis. -/
structure Runs where
  classical : AdapterExecution
  classicalInvalid : AdapterExecution
  postQuantumValidity : AdapterExecution
  postQuantumInvalidBindingPath : AdapterExecution
  postQuantumExpired : AdapterExecution
  postQuantumRevocation : AdapterExecution
  deriving Repr, DecidableEq

/-- What the analysis reads from its files. -/
structure Material extends EndEntity where
  postQuantumCertificateDerSha256 : String
  conformance : RelatedConformanceResult
  invalidBinding : RelatedBindingResult
  classicalCrlStatus : CrlStatusResult
  postQuantumCrlStatus : CrlStatusResult
  deriving Repr, DecidableEq

def properties : LeafPathProperties := ⟨.classical, .classical, .relatedCertificate⟩

def OPERATION_ID : String := "end-entity-related-authentication"

section Analyze

variable (sys : FallbackSystem) (config : RelatedOpenSslConfig)

def runOpenSsl (leaf : String) (crl : Option String) : Except FallbackError AdapterExecution :=
  mapErr .openSsl (verifyOpenSslContainer sys.toStackSystem (config.opensslConfig leaf crl))

def gather : Except FallbackError (Runs × Material) := do
  checkDesign sys .relatedCertificate config.classicalCertificate
  let conformance ← mapErr .pem (verifyRelatedCertificateConformance sys.toLibrary
    config.classicalCertificate config.postQuantumCertificate INPUT_LIMIT)
  let invalidBinding ← mapErr .pem (verifyRelatedBinding sys.toLibrary
    config.classicalCertificate config.invalidBindingCertificate INPUT_LIMIT)
  let classicalCrlStatus ← mapErr .pem (checkCrlStatus sys.toLibrary config.classicalCertificate
    config.issuer config.crl config.validationTime INPUT_LIMIT)
  let postQuantumCrlStatus ← mapErr .pem (checkCrlStatus sys.toLibrary
    config.postQuantumCertificate config.issuer config.crl config.validationTime INPUT_LIMIT)
  let classical ← runOpenSsl sys config config.classicalCertificate (some config.crl)
  let invalidFile ← damagedFile sys config.classicalCertificate
  let classicalInvalid ← runOpenSsl sys config invalidFile (some config.crl)
  let postQuantumValidity ← runOpenSsl sys config config.postQuantumCertificate none
  let postQuantumInvalidBindingPath ← runOpenSsl sys config config.invalidBindingCertificate none
  let postQuantumExpired ← runOpenSsl sys config config.expiredPostQuantumCertificate none
  let postQuantumRevocation ←
    runOpenSsl sys config config.postQuantumCertificate (some config.crl)
  let certificateDerSha256 ←
    mapErr .pem (certificateDerHash sys.toLibrary config.classicalCertificate INPUT_LIMIT)
  let postQuantumCertificateDerSha256 ←
    mapErr .pem (certificateDerHash sys.toLibrary config.postQuantumCertificate INPUT_LIMIT)
  let issuerEdgeSha256 ← mapErr .pem
    (issuerEdgeHash sys.toLibrary config.classicalCertificate config.issuer INPUT_LIMIT)
  let expectedTrustAnchor ←
    mapErr .pem (certificateTrustAnchor sys.toLibrary config.trustStore INPUT_LIMIT)
  let certificatePath ← mapErr .pem (endEntityCertificationPath sys.toLibrary
    config.classicalCertificate config.issuer config.trustStore properties INPUT_LIMIT)
  return (⟨classical, classicalInvalid, postQuantumValidity, postQuantumInvalidBindingPath,
      postQuantumExpired, postQuantumRevocation⟩, {
      certificateDerSha256 := certificateDerSha256
      issuerEdgeSha256 := issuerEdgeSha256
      expectedTrustAnchor := expectedTrustAnchor
      certificatePath := certificatePath
      postQuantumCertificateDerSha256 := postQuantumCertificateDerSha256
      conformance := conformance
      invalidBinding := invalidBinding
      classicalCrlStatus := classicalCrlStatus
      postQuantumCrlStatus := postQuantumCrlStatus })

def classicalOutcome (runs : Runs) : CheckResult :=
  behavioralCheck (runs.classical.observation.verdict == .accept
    && runs.classicalInvalid.observation.verdict == .reject) .pass

/-- The stack is known not to look at the pair: it accepts the classical certificate whatever
    has become of the other one. -/
def postQuantumOutcome (runs : Runs) (material : Material) : CheckResult :=
  behavioralCheck (runs.classical.observation.verdict == .accept
    && (relatedConformanceCheck material.conformance).state == .pass
    && material.invalidBinding.check.state == .fail
    && runs.postQuantumInvalidBindingPath.observation.verdict == .accept
    && runs.postQuantumExpired.observation.verdict == .reject
    && material.postQuantumCrlStatus.revocation.state == .fail) .fail

/-- The checks of signature, path and validity all repeat one run. -/
def classicalPart (runs : Runs) (material : Material) : Part where
  name := "classical-certificate-path"
  kind := .classical
  signature := checkFromVerdict runs.classical.observation.verdict
  binding := .observed .notApplicable
  path := checkFromVerdict runs.classical.observation.verdict
  validity := checkFromVerdict runs.classical.observation.verdict
  revocation := material.classicalCrlStatus.revocation
  decisionSensitiveForFixture := classicalOutcome runs

def postQuantumPart (runs : Runs) (material : Material) : Part where
  name := "related-post-quantum-certificate"
  kind := .postQuantum
  signature := checkFromVerdict runs.postQuantumValidity.observation.verdict
  binding := relatedConformanceCheck material.conformance
  path := checkFromVerdict runs.postQuantumValidity.observation.verdict
  validity := checkFromVerdict runs.postQuantumValidity.observation.verdict
  revocation := material.postQuantumCrlStatus.revocation
  decisionSensitiveForFixture := postQuantumOutcome runs material

def pairedAuthentication (material : Material) : PairedAuthentication where
  operationId := OPERATION_ID
  classicalCertificateId := "end-entity"
  postQuantumCertificateDerSha256 := material.postQuantumCertificateDerSha256
  sameAuthenticationOperation := .observed .fail

def request (runs : Runs) (material : Material) : VerificationRequest :=
  endEntityRequest config.settings runs.classical.observation material.toEndEntity
    [pairedAuthentication material]
    (items material.toEndEntity material.postQuantumCertificateDerSha256 (some OPERATION_ID) .crl
      (classicalPart runs material) (postQuantumPart runs material))

def analyze : Except FallbackError RelatedOpenSslReport := do
  let (runs, material) ← gather sys config
  let classical ← mapErr .support (runs.classical.report sys.toSystem)
  let classicalInvalid ← mapErr .support (runs.classicalInvalid.report sys.toSystem)
  let postQuantumValidity ← mapErr .support (runs.postQuantumValidity.report sys.toSystem)
  let postQuantumExpired ← mapErr .support (runs.postQuantumExpired.report sys.toSystem)
  let postQuantumInvalidBindingPath ←
    mapErr .support (runs.postQuantumInvalidBindingPath.report sys.toSystem)
  let postQuantumRevocation ← mapErr .support (runs.postQuantumRevocation.report sys.toSystem)
  let result ←
    mapErr .oracle (evaluate (readsTime sys.toLibrary) (request config runs material))
  return {
    apiVersion := API_VERSION
    conformance := material.conformance
    binding := material.conformance.rfc9763.binding
    invalidBinding := material.invalidBinding
    classicalCrlStatus := material.classicalCrlStatus
    postQuantumCrlStatus := material.postQuantumCrlStatus
    classicalControl := classical
    classicalInvalidControl := classicalInvalid
    postQuantumValidityControl := postQuantumValidity
    postQuantumExpiredControl := postQuantumExpired
    postQuantumInvalidBindingPathControl := postQuantumInvalidBindingPath
    postQuantumRevocationControl := postQuantumRevocation
    result := result }

end Analyze

/-! ## What the result says -/

section Result

variable {sys : FallbackSystem} {config : RelatedOpenSslConfig} {runs : Runs} {material : Material}

theorem runOpenSsl_raises (leaf : String) (crl : Option String) :
    Raises FallbackError.NotOracle (runOpenSsl sys config leaf crl) := raises_other _ (by simp)

theorem gather_raises : Raises FallbackError.NotOracle (gather sys config) := by
  unfold gather
  refine raises_bind (checkDesign_raises _ _) fun _ _ => ?_
  refine raises_bind (raises_other _ (by simp)) fun _ _ => ?_
  refine raises_bind (raises_other _ (by simp)) fun _ _ => ?_
  refine raises_bind (raises_other _ (by simp)) fun _ _ => ?_
  refine raises_bind (raises_other _ (by simp)) fun _ _ => ?_
  refine raises_bind (runOpenSsl_raises _ _) fun _ _ => ?_
  refine raises_bind (damagedFile_raises _) fun _ _ => ?_
  refine raises_bind (runOpenSsl_raises _ _) fun _ _ => ?_
  refine raises_bind (runOpenSsl_raises _ _) fun _ _ => ?_
  refine raises_bind (runOpenSsl_raises _ _) fun _ _ => ?_
  refine raises_bind (runOpenSsl_raises _ _) fun _ _ => ?_
  refine raises_bind (runOpenSsl_raises _ _) fun _ _ => ?_
  refine raises_bind (raises_other _ (by simp)) fun _ _ => ?_
  refine raises_bind (raises_other _ (by simp)) fun _ _ => ?_
  refine raises_bind (raises_other _ (by simp)) fun _ _ => ?_
  refine raises_bind (raises_other _ (by simp)) fun _ _ => ?_
  exact raises_bind (raises_other _ (by simp)) fun _ _ => raises_ok _

theorem joined_of_ok (gathered : gather sys config = .ok (runs, material)) :
    Joined sys.toLibrary config.files config.settings properties runs.classical.observation
        material.toEndEntity ∧
      certificateDerHash sys.toLibrary config.postQuantumCertificate INPUT_LIMIT =
        .ok material.postQuantumCertificateDerSha256 ∧
      Read material.classicalCrlStatus.revocation := by
  simp only [gather, runOpenSsl, bind_ok_iff, mapErr_ok_iff, exists_unit_iff, pure_ok_iff,
    Prod.mk.injEq] at gathered
  obtain ⟨-, _, -, _, -, _, listed, _, -, _, ran, _, -, _, -, _, -, _, -, _, -, _, -, _, hashed, _,
    postQuantumHashed, _, joined, _, anchored, _, path, rfl, rfl⟩ := gathered
  obtain ⟨-, read, time⟩ := read_checkCrlStatus listed
  exact ⟨⟨shownPath_of_verifyOpenSslContainer ran, hashed, joined, anchored, path, time⟩,
    postQuantumHashed, read⟩

/-- The classical certificate was accepted by itself: it was not revoked, and with its
    signature damaged it was refused. -/
structure Carried (report : RelatedOpenSslReport) : Prop where
  accepted : report.classicalControl.observation.verdict = .accept
  refused : report.classicalInvalidControl.observation.verdict = .reject
  unrevoked : report.classicalCrlStatus.revocation.state = .pass

/-- The post-quantum certificate was refused, or revoked. -/
def PairLapsed (report : RelatedOpenSslReport) : Prop :=
  report.postQuantumValidityControl.observation.verdict = .reject ∨
    report.postQuantumCrlStatus.revocation.state = .fail

/-- The result of a report, by the controls that stand beside it. -/
structure Accounted (config : RelatedOpenSslConfig) (report : RelatedOpenSslReport) : Prop where
  classicalOnly : ClassicalOnly config.policy report.result (Carried report) (PairLapsed report)
  required : config.policy = .p2RequiredHybrid →
    (report.result.policyVerdict = .reject ↔
      report.classicalControl.observation.verdict ≠ .unsupported)

theorem classicalPart_passes_iff (gathered : gather sys config = .ok (runs, material)) :
    ChecksPass .hardFail (material.item material.certificateDerSha256 (some OPERATION_ID) .crl
      (classicalPart runs material)) ↔
      runs.classical.observation.verdict = .accept ∧
        runs.classicalInvalid.observation.verdict = .reject ∧
        material.classicalCrlStatus.revocation.state = .pass := by
  obtain ⟨-, -, revocation⟩ := joined_of_ok gathered
  simp only [checksPass_iff, EndEntity.item, classicalPart, classicalOutcome,
    establishes_checkFromVerdict_iff, establishes_behavioralCheck_iff,
    revocation.establishes_iff, Bool.and_eq_true, beq_iff_eq]
  simp only [CheckResult.observed, Strong, reduceCtorEq, true_or, false_or, and_self, true_and]
  tauto

theorem carried_iff (gathered : gather sys config = .ok (runs, material)) :
    ClassicalSucceeds (request config runs material) ↔
      runs.classical.observation.verdict = .accept ∧
        runs.classicalInvalid.observation.verdict = .reject ∧
        material.classicalCrlStatus.revocation.state = .pass := by
  rw [request, (joined_of_ok gathered).1.classicalSucceeds_iff ⟨rfl, rfl⟩ rfl,
    classicalPart_passes_iff gathered]
  exact and_iff_right_of_imp fun passes => passes.1

/-- The pair is never authenticated in one operation. -/
theorem not_designPasses (gathered : gather sys config = .ok (runs, material)) :
    ¬ DesignPasses (request config runs material) := by
  obtain ⟨joined, -, -⟩ := joined_of_ok gathered
  intro passes
  have inside : material.node properties ∈ certificates (request config runs material) := by
    rw [request, joined.certificates_eq]
    exact List.mem_singleton_self _
  obtain hybrid | ⟨-, _, -, -, pair, paired, -, establishes⟩ := passes _ inside
  · cases hybrid
  · obtain rfl := List.mem_singleton.mp paired
    cases establishes.2

theorem hybridMissing_of_ok (gathered : gather sys config = .ok (runs, material)) :
    HybridMissing (request config runs material) := by
  obtain ⟨joined, -, -⟩ := joined_of_ok gathered
  refine ⟨?_, ?_, .inr (not_designPasses gathered)⟩
  · rw [request, joined.certificates_eq]
    exact List.forall_mem_singleton.mpr rfl
  · rw [request, joined.certificates_eq]
    exact ⟨_, List.mem_singleton_self _, .inr rfl⟩

section Accepted

variable (digest : ∀ bytes, (sys.sha256 bytes).length = 32)
  (gathered : gather sys config = .ok (runs, material))

include digest gathered

theorem item_wellFormed {artifact : String} (hex : IsSha256Hex artifact) {part : Part}
    (classical : part.kind = .classical → artifact = material.certificateDerSha256)
    (postQuantum : part.kind = .postQuantum →
      artifact = material.postQuantumCertificateDerSha256) :
    EvidenceWellFormed (request config runs material) (material.node properties)
      (material.item artifact (some OPERATION_ID) .crl part) where
  named := rfl
  certificateDerHash :=
    hashWellFormed_some (isSha256Hex_of_certificateDerHash digest (joined_of_ok gathered).1.der)
  issuerEdgeHash :=
    hashWellFormed_some (isSha256Hex_of_issuerEdgeHash digest (joined_of_ok gathered).1.edge)
  artifactHash := hashWellFormed_some hex
  position := rfl
  der := compatible_refl _
  issuerEdge := compatible_refl _
  carriesOperation := iff_of_true rfl rfl
  paired := by
    rintro _ ⟨⟩
    exact ⟨_, List.mem_cons_self, rfl, rfl⟩
  ownArtifact := by
    rintro (absent | kind)
    · cases absent
    · obtain rfl := classical kind
      exact compatible_refl _
  pairedArtifact := by
    intro kind pair member _
    obtain rfl := List.mem_singleton.mp member
    obtain rfl := postQuantum kind
    exact compatible_refl _
  revocationPolicy := rfl
  revocationMethod := fun _ same => by cases same
  revocationNotRequired := fun same => by cases same

theorem wellFormed_of_ok : WellFormed (readsTime sys.toLibrary) (request config runs material) := by
  obtain ⟨joined, postQuantumHashed, -⟩ := joined_of_ok gathered
  have ids : "classical-certificate-path" ≠ "related-post-quantum-certificate" := by decide
  have kinds : EvidenceKind.classical ≠ .postQuantum := by decide
  have hex := isSha256Hex_of_certificateDerHash digest postQuantumHashed
  refine joined.wellFormed digest (by decide) (List.nodup_singleton _) ids kinds rfl
    (fun pair member => ?_) fun item member => ?_
  · obtain rfl := List.mem_singleton.mp member
    obtain ⟨_, _, -, -, path⟩ := joined.path_eq
    have named : OPERATION_ID ≠ "" := by decide
    refine ⟨named, hex, material.node properties, ?_, rfl, rfl⟩
    simp only [endEntityRequest, scopeRequest, path, List.mem_cons_self]
  · rcases List.mem_pair.mp member with rfl | rfl
    · exact item_wellFormed digest gathered (isSha256Hex_of_certificateDerHash digest joined.der)
        (fun _ => rfl) (fun kind => by cases kind)
    · exact item_wellFormed digest gathered hex (fun kind => by cases kind) (fun _ => rfl)

end Accepted

/-- Under the policy that requires both, the pair is an objection by itself. -/
theorem objection_of_ok (gathered : gather sys config = .ok (runs, material)) :
    Objection (request config runs material) := by
  have inside : material.node properties ∈ certificates (request config runs material) := by
    rw [request, (joined_of_ok gathered).1.certificates_eq]
    exact List.mem_singleton_self _
  have plain : AlgorithmSecurity.classical ≠ .hybrid := by decide
  exact .pairing inside rfl plain List.mem_cons_self rfl List.mem_cons_self rfl
    ⟨.inl rfl, .inl rfl⟩

/-- No analysis fails because the oracle refused its request. Whatever the policy, the
    result of a report is accounted for by the controls beside it: a fallback is the
    classical certificate accepted by itself, and the two life cycles are out of step
    exactly when the other certificate was refused or revoked at the same time. -/
theorem relatedOpenSsl_accounted (digest : ∀ bytes, (sys.sha256 bytes).length = 32) :
    Yields (Accounted config) FallbackError.NotOracle (analyze sys config) := by
  refine yields_bind gather_raises ?_
  rintro ⟨runs, material⟩ gathered
  refine yields_bind (raises_other _ (by simp)) fun classical classicalReported => ?_
  refine yields_bind (raises_other _ (by simp)) fun invalid invalidReported => ?_
  refine yields_bind (raises_other _ (by simp)) fun postQuantum postQuantumReported => ?_
  refine yields_bind (raises_other _ (by simp)) fun _ _ => ?_
  refine yields_bind (raises_other _ (by simp)) fun _ _ => ?_
  refine yields_bind (raises_other _ (by simp)) fun _ _ => ?_
  obtain ⟨answer, returned⟩ := (wellFormed_of_ok digest gathered).answered
  simp only [returned, mapErr_ok, ok_bind]
  refine yields_ok ?_
  have classicalSame := (report_eq (mapErr_ok_iff.mp classicalReported)).1
  have invalidSame := (report_eq (mapErr_ok_iff.mp invalidReported)).1
  have postQuantumSame := (report_eq (mapErr_ok_iff.mp postQuantumReported)).1
  constructor
  · refine ((hybridMissing_of_ok gathered).classicalOnly returned).congr ?_ ?_
    · rw [carried_iff gathered, ← classicalSame, ← invalidSame]
      constructor
      · rintro ⟨accepted, refused, unrevoked⟩
        exact ⟨accepted, refused, unrevoked⟩
      · intro carried
        exact ⟨carried.accepted, carried.refused, carried.unrevoked⟩
    · have refused : (checkFromVerdict runs.postQuantumValidity.observation.verdict).state = .fail ↔
          runs.postQuantumValidity.observation.verdict = .reject := by
        cases runs.postQuantumValidity.observation.verdict <;>
          simp [checkFromVerdict, CheckResult.observed]
      rw [request, lapsed_iff ⟨rfl, rfl⟩, PairLapsed, postQuantumSame, ← refused]
      rfl
  · intro required
    obtain ⟨wf, outcome⟩ := evaluate_ok_iff.mp returned
    have unsupported : UnsupportedInput (request config runs material) ↔
        runs.classical.observation.verdict = .unsupported := by
      rw [← unsupportedInput_iff, (hybridMissing_of_ok gathered).unsupported_iff]
      rfl
    rw [classicalSame]
    refine (wf.p2_answer required outcome).2.1.trans ?_
    rw [unsupported, and_iff_left (objection_of_ok gathered)]

end Result

namespace Fixture

def config : RelatedOpenSslConfig where
  docker := "docker"
  image := "hybrid-x509-openssl:4.0.1"
  trustStore := "root.pem"
  issuer := "issuer.pem"
  classicalCertificate := "related.pem"
  postQuantumCertificate := "pure.pem"
  expiredPostQuantumCertificate := "expired.pem"
  invalidBindingCertificate := "altered.pem"
  crl := "crl.pem"
  validationTime := "2026-06-20T00:00:00Z"
  policy := .p1OptionalHybrid
  previousAuthentication := none
  timeout := ⟨5, 0⟩
  maxOutputBytes := 64 * 1024

end Fixture

/-- A post-quantum certificate that is refused beside a classical one that is accepted. -/
theorem relatedOpenSsl_accounted_lapsed : ∃ report,
    analyze Fallbacks.Fixture.system Fixture.config = .ok report ∧ Carried report ∧
      report.result.policyVerdict = .classicalClaimSetSatisfied ∧
      report.result.lifecycleDesynchronization = true := by
  obtain ⟨report, returned, accepted, refused, unrevoked, lapsed⟩ :
      ∃ report, analyze Fallbacks.Fixture.system Fixture.config = .ok report ∧
        report.classicalControl.observation.verdict = .accept ∧
        report.classicalInvalidControl.observation.verdict = .reject ∧
        report.classicalCrlStatus.revocation.state = .pass ∧
        report.postQuantumValidityControl.observation.verdict = .reject := by
    decide +kernel
  have accounted := ((relatedOpenSsl_accounted Fallbacks.Fixture.length_digest).1 report
    returned).classicalOnly
  have carried : Carried report := ⟨accepted, refused, unrevoked⟩
  exact ⟨report, returned, carried, accounted.classical.mpr ⟨.inr rfl, carried⟩,
    accounted.desynchronization.mpr
      ⟨accounted.fallback.mpr ⟨.inl rfl, carried⟩, .inl lapsed⟩⟩

end HybridX509.Analysis.RelatedOpenSsl
