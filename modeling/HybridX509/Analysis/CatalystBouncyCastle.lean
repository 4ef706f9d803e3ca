import HybridX509.Analysis.Fallbacks

/-! # The Catalyst Bouncy Castle analysis

`analysis/catalyst_bouncy_castle.rs`: a Catalyst path that Bouncy Castle validates by its
classical signatures, evaluated for the leaf alone and for the whole path. No control looks
at the alternative signature of the intermediate certificate, so its item is recorded as
missing.
-/

namespace HybridX509.Analysis.CatalystBouncyCastle

open Lib X509 Oracle Adapters Adapters.Stacks Adapters.BouncyCastle Revocation PathRuns PathPositions
open Revocation.Ocsp (Duration)
open Fallbacks

structure CatalystBouncyCastleConfig where
  docker : String
  image : String
  trustStore : String
  issuer : String
  validCertificate : String
  invalidPostQuantumCertificate : String
  crl : String
  rootCrl : String
  validationTime : String
  policy : Policy
  previousAuthentication : Option AuthenticationLevel
  timeout : Duration
  maxOutputBytes : Nat
  deriving Repr, DecidableEq

structure CatalystBouncyCastleReport where
  apiVersion : String
  crlStatus : CrlStatusResult
  intermediateCrlStatus : CrlStatusResult
  rootCrlStatus : CrlStatusResult
  validDefaultControl : AdapterReport
  invalidClassicalDefaultControl : AdapterReport
  invalidPostQuantumDefaultControl : AdapterReport
  validPostQuantumDirectControl : AdapterReport
  invalidPostQuantumDirectControl : AdapterReport
  intermediateInvalidClassicalControl : AdapterReport
  rootInvalidClassicalControl : AdapterReport
  result : VerificationResult
  scopes : List ScopedVerificationResult
  deriving Repr, DecidableEq

namespace CatalystBouncyCastleConfig

variable (config : CatalystBouncyCastleConfig)

def settings : ScopeSettings :=
  ⟨config.policy, config.validationTime, config.previousAuthentication⟩

def files : PathFiles := ⟨config.trustStore, config.issuer, config.validCertificate⟩

def runSettings : RunSettings :=
  ⟨config.docker, config.image, config.validationTime, config.timeout, config.maxOutputBytes⟩

end CatalystBouncyCastleConfig

/-- The runs of the analysis. -/
structure Runs where
  validDefault : AdapterExecution
  invalidPostQuantumDefault : AdapterExecution
  validPostQuantum : AdapterExecution
  invalidPostQuantum : AdapterExecution
  invalidClassical : AdapterExecution
  invalidIntermediate : AdapterExecution
  invalidRoot : AdapterExecution
  deriving Repr, DecidableEq

/-- What the analysis reads from its files. -/
structure Material where
  crlStatus : CrlStatusResult
  intermediateCrlStatus : CrlStatusResult
  rootCrlStatus : CrlStatusResult
  leafValidity : CheckResult
  intermediateValidity : CheckResult
  rootValidity : CheckResult
  leafHash : String
  leafEdgeHash : String
  intermediateHash : String
  intermediateEdgeHash : String
  rootHash : String
  expectedTrustAnchor : TrustAnchor
  deriving Repr, DecidableEq

section Analyze

variable (sys : FallbackSystem) (config : CatalystBouncyCastleConfig)

def runPaths (trustStore intermediate leaf : String) (mode : BouncyCastleMode) :
    Except FallbackError AdapterExecution :=
  mapErr .bouncyCastle
    (run sys.toTlsSystem.toSystem config.runSettings trustStore intermediate leaf mode none)

def runLeaf (leaf : String) (mode : BouncyCastleMode) : Except FallbackError AdapterExecution :=
  runPaths sys config config.trustStore config.issuer leaf mode

def gather : Except FallbackError (Runs × Material) := do
  [config.validCertificate, config.invalidPostQuantumCertificate].forM (checkDesign sys .catalyst)
  let crlStatus ← mapErr .pem (checkCrlStatus sys.toLibrary config.validCertificate config.issuer
    config.crl config.validationTime INPUT_LIMIT)
  let intermediateCrlStatus ← mapErr .pem (checkCrlStatus sys.toLibrary config.issuer
    config.trustStore config.rootCrl config.validationTime INPUT_LIMIT)
  let rootCrlStatus ← mapErr .pem (checkCrlStatus sys.toLibrary config.trustStore
    config.trustStore config.rootCrl config.validationTime INPUT_LIMIT)
  let leafValidity ← mapErr .pem (checkCertificateValidity sys.toLibrary config.validCertificate
    config.validationTime INPUT_LIMIT)
  let intermediateValidity ← mapErr .pem
    (checkCertificateValidity sys.toLibrary config.issuer config.validationTime INPUT_LIMIT)
  let rootValidity ← mapErr .pem
    (checkCertificateValidity sys.toLibrary config.trustStore config.validationTime INPUT_LIMIT)
  let validDefault ← runLeaf sys config config.validCertificate .path
  let invalidPostQuantumDefault ← runLeaf sys config config.invalidPostQuantumCertificate .path
  let validPostQuantum ← runLeaf sys config config.validCertificate .alternativeSignature
  let invalidPostQuantum ←
    runLeaf sys config config.invalidPostQuantumCertificate .alternativeSignature
  let invalidClassicalFile ← damagedFile sys config.validCertificate
  let invalidClassical ← runLeaf sys config invalidClassicalFile .path
  let invalidIntermediateFile ← damagedFile sys config.issuer
  let invalidIntermediate ← runPaths sys config config.trustStore invalidIntermediateFile
    config.validCertificate .path
  let invalidRootFile ← damagedFile sys config.trustStore
  let invalidRoot ← runPaths sys config invalidRootFile config.issuer config.validCertificate .path
  let leafHash ←
    mapErr .pem (certificateDerHash sys.toLibrary config.validCertificate INPUT_LIMIT)
  let leafEdgeHash ←
    mapErr .pem (issuerEdgeHash sys.toLibrary config.validCertificate config.issuer INPUT_LIMIT)
  let intermediateHash ← mapErr .pem (certificateDerHash sys.toLibrary config.issuer INPUT_LIMIT)
  let intermediateEdgeHash ←
    mapErr .pem (issuerEdgeHash sys.toLibrary config.issuer config.trustStore INPUT_LIMIT)
  let rootHash ← mapErr .pem (certificateDerHash sys.toLibrary config.trustStore INPUT_LIMIT)
  let expectedTrustAnchor ←
    mapErr .pem (certificateTrustAnchor sys.toLibrary config.trustStore INPUT_LIMIT)
  return (⟨validDefault, invalidPostQuantumDefault, validPostQuantum, invalidPostQuantum,
      invalidClassical, invalidIntermediate, invalidRoot⟩,
    ⟨crlStatus, intermediateCrlStatus, rootCrlStatus, leafValidity, intermediateValidity,
      rootValidity, leafHash, leafEdgeHash, intermediateHash, intermediateEdgeHash, rootHash,
      expectedTrustAnchor⟩)

def classicalOutcome (runs : Runs) : CheckResult :=
  behavioralCheck (runs.validDefault.observation.verdict == .accept
    && runs.invalidClassical.observation.verdict == .reject) .pass

def postQuantumOutcome (runs : Runs) : CheckResult :=
  behavioralCheck (runs.validDefault.observation.verdict == .accept
    && runs.invalidPostQuantumDefault.observation.verdict == .accept
    && runs.validPostQuantum.observation.verdict == .accept
    && runs.invalidPostQuantum.observation.verdict == .reject) .fail

def intermediateClassicalOutcome (runs : Runs) : CheckResult :=
  behavioralCheck (runs.validDefault.observation.verdict == .accept
    && runs.invalidIntermediate.observation.verdict == .reject) .pass

/-- The signature of a trust anchor is not looked at. -/
def rootClassicalOutcome (runs : Runs) : CheckResult :=
  behavioralCheck (runs.validDefault.observation.verdict == .accept
    && runs.invalidRoot.observation.verdict == .accept) .fail

def leafNode (material : Material) : CertificateNode :=
  ⟨"end-entity", .endEntity, .classical, .classical, .catalyst, some material.leafHash,
    some material.leafEdgeHash⟩

def intermediateNode (material : Material) : CertificateNode :=
  ⟨"intermediate", .intermediate, .classical, .classical, .catalyst,
    some material.intermediateHash, some material.intermediateEdgeHash⟩

def rootNode (material : Material) : CertificateNode :=
  ⟨"root", .trustAnchor, .classical, .classical, .none, some material.rootHash, none⟩

def certificatePath (material : Material) : List CertificateNode :=
  [leafNode material, intermediateNode material, rootNode material].filter
    (·.position != .trustAnchor)

/-- An item of a certificate that was looked at, or was not. -/
def evidenceItem (certificate : CertificateNode) (present recognized : CheckResult) (part : Part) :
    Evidence where
  id := part.name
  certificateId := certificate.id
  position := certificate.position
  certificateDerSha256 := certificate.derSha256
  evidenceArtifactDerSha256 := certificate.derSha256
  issuerEdgeSha256 := certificate.issuerEdgeSha256
  authenticationOperationId := none
  kind := part.kind
  present := present
  recognized := recognized
  signature := part.signature
  binding := part.binding
  path := part.path
  validity := part.validity
  revocation := part.revocation
  revocationMethod := .crl
  appliedRevocationPolicy := .crlHardFail
  decisionSensitiveForFixture := part.decisionSensitiveForFixture

def observedItem (certificate : CertificateNode) : Part → Evidence :=
  evidenceItem certificate (.observed .pass) (.observed .pass)

def leafClassicalPart (runs : Runs) (material : Material) : Part where
  name := "classical-base-signature"
  kind := .classical
  signature := checkFromVerdict runs.validDefault.observation.verdict
  binding := .observed .notApplicable
  path := checkFromVerdict runs.validDefault.observation.verdict
  validity := material.leafValidity
  revocation := material.crlStatus.revocation
  decisionSensitiveForFixture := classicalOutcome runs

def leafPostQuantumPart (runs : Runs) (material : Material) : Part where
  name := "catalyst-alternative-signature"
  kind := .postQuantum
  signature := checkFromVerdict runs.validPostQuantum.observation.verdict
  binding := checkFromVerdict runs.validPostQuantum.observation.verdict
  path := checkFromVerdict runs.validDefault.observation.verdict
  validity := material.leafValidity
  revocation := material.crlStatus.revocation
  decisionSensitiveForFixture := postQuantumOutcome runs

def intermediateClassicalPart (runs : Runs) (material : Material) : Part where
  name := "intermediate-classical-signature"
  kind := .classical
  signature := material.intermediateCrlStatus.issuer
  binding := .observed .notApplicable
  path := checkFromVerdict runs.validDefault.observation.verdict
  validity := material.intermediateValidity
  revocation := material.intermediateCrlStatus.revocation
  decisionSensitiveForFixture := intermediateClassicalOutcome runs

def intermediatePostQuantumPart (material : Material) : Part where
  name := "intermediate-alternative-signature"
  kind := .postQuantum
  signature := .observed .notChecked
  binding := .observed .notChecked
  path := .observed .notChecked
  validity := material.intermediateValidity
  revocation := material.intermediateCrlStatus.revocation
  decisionSensitiveForFixture := .observed .notChecked

def rootClassicalPart (runs : Runs) (material : Material) : Part where
  name := "root-classical-signature"
  kind := .classical
  signature := material.rootCrlStatus.issuer
  binding := .observed .notApplicable
  path := checkFromVerdict runs.validDefault.observation.verdict
  validity := material.rootValidity
  revocation := material.rootCrlStatus.revocation
  decisionSensitiveForFixture := rootClassicalOutcome runs

def leafClassical (runs : Runs) (material : Material) : Evidence :=
  observedItem (leafNode material) (leafClassicalPart runs material)

def leafPostQuantum (runs : Runs) (material : Material) : Evidence :=
  observedItem (leafNode material) (leafPostQuantumPart runs material)

def intermediateClassical (runs : Runs) (material : Material) : Evidence :=
  observedItem (intermediateNode material) (intermediateClassicalPart runs material)

/-- Nobody looked for the alternative signature of the intermediate certificate. -/
def intermediatePostQuantum (material : Material) : Evidence :=
  evidenceItem (intermediateNode material) (.observed .fail) (.observed .notChecked)
    (intermediatePostQuantumPart material)

def evidence (runs : Runs) (material : Material) : List Evidence :=
  [leafClassical runs material, leafPostQuantum runs material,
    intermediateClassical runs material, intermediatePostQuantum material,
    observedItem (rootNode material) (rootClassicalPart runs material)].filter
    (·.position != .trustAnchor)

def request (runs : Runs) (material : Material) : PathScope → VerificationRequest :=
  scopeRequest config.settings runs.validDefault.observation material.expectedTrustAnchor
    (certificatePath material) (evidence runs material)

def analyze : Except FallbackError CatalystBouncyCastleReport := do
  let (runs, material) ← gather sys config
  let scopes ← mapErr .oracle (evaluateEach sys.toLibrary (request config runs material))
  let report := fun (execution : AdapterExecution) =>
    mapErr FallbackError.support (execution.report sys.toTlsSystem.toSystem)
  let validDefault ← report runs.validDefault
  let invalidClassical ← report runs.invalidClassical
  let invalidPostQuantumDefault ← report runs.invalidPostQuantumDefault
  let validPostQuantum ← report runs.validPostQuantum
  let invalidPostQuantum ← report runs.invalidPostQuantum
  let invalidIntermediate ← report runs.invalidIntermediate
  let invalidRoot ← report runs.invalidRoot
  match scopes with
  -- `scopes[0]`: there is a result for each of the two scopes.
  | [] => .error (.oracle (.panicked "index out of bounds"))
  | first :: _ =>
      return {
        apiVersion := API_VERSION
        crlStatus := material.crlStatus
        intermediateCrlStatus := material.intermediateCrlStatus
        rootCrlStatus := material.rootCrlStatus
        validDefaultControl := validDefault
        invalidClassicalDefaultControl := invalidClassical
        invalidPostQuantumDefaultControl := invalidPostQuantumDefault
        validPostQuantumDirectControl := validPostQuantum
        invalidPostQuantumDirectControl := invalidPostQuantum
        intermediateInvalidClassicalControl := invalidIntermediate
        rootInvalidClassicalControl := invalidRoot
        result := first.result
        scopes := scopes }

end Analyze

/-! ## What the results say -/

section Result

variable {sys : FallbackSystem} {config : CatalystBouncyCastleConfig} {runs : Runs}
  {material : Material}

theorem runPaths_raises (trustStore intermediate leaf : String) (mode : BouncyCastleMode) :
    Raises FallbackError.NotOracle (runPaths sys config trustStore intermediate leaf mode) :=
  raises_other _ (by simp)

theorem runLeaf_raises (leaf : String) (mode : BouncyCastleMode) :
    Raises FallbackError.NotOracle (runLeaf sys config leaf mode) := runPaths_raises _ _ _ _

theorem gather_raises : Raises FallbackError.NotOracle (gather sys config) := by
  unfold gather
  refine raises_bind (raises_forM (checkDesign_raises _)) fun _ _ => ?_
  refine raises_bind (raises_other _ (by simp)) fun _ _ => ?_
  refine raises_bind (raises_other _ (by simp)) fun _ _ => ?_
  refine raises_bind (raises_other _ (by simp)) fun _ _ => ?_
  refine raises_bind (raises_other _ (by simp)) fun _ _ => ?_
  refine raises_bind (raises_other _ (by simp)) fun _ _ => ?_
  refine raises_bind (raises_other _ (by simp)) fun _ _ => ?_
  refine raises_bind (runLeaf_raises _ _) fun _ _ => ?_
  refine raises_bind (runLeaf_raises _ _) fun _ _ => ?_
  refine raises_bind (runLeaf_raises _ _) fun _ _ => ?_
  refine raises_bind (runLeaf_raises _ _) fun _ _ => ?_
  refine raises_bind (damagedFile_raises _) fun _ _ => ?_
  refine raises_bind (runLeaf_raises _ _) fun _ _ => ?_
  refine raises_bind (damagedFile_raises _) fun _ _ => ?_
  refine raises_bind (runPaths_raises _ _ _ _) fun _ _ => ?_
  refine raises_bind (damagedFile_raises _) fun _ _ => ?_
  refine raises_bind (runPaths_raises _ _ _ _) fun _ _ => ?_
  refine raises_bind (raises_other _ (by simp)) fun _ _ => ?_
  refine raises_bind (raises_other _ (by simp)) fun _ _ => ?_
  refine raises_bind (raises_other _ (by simp)) fun _ _ => ?_
  refine raises_bind (raises_other _ (by simp)) fun _ _ => ?_
  refine raises_bind (raises_other _ (by simp)) fun _ _ => ?_
  exact raises_bind (raises_other _ (by simp)) fun _ _ => raises_ok _

/-- What was read about the path, against the run that was shown it. -/
structure Placed (lib : Library) (config : CatalystBouncyCastleConfig)
    (stack : StackObservation) (material : Material) : Prop where
  shown : ShownPath lib config.files config.validationTime stack
  leafDer : certificateDerHash lib config.validCertificate INPUT_LIMIT = .ok material.leafHash
  leafEdge : issuerEdgeHash lib config.validCertificate config.issuer INPUT_LIMIT =
    .ok material.leafEdgeHash
  intermediateDer : certificateDerHash lib config.issuer INPUT_LIMIT =
    .ok material.intermediateHash
  intermediateEdge : issuerEdgeHash lib config.issuer config.trustStore INPUT_LIMIT =
    .ok material.intermediateEdgeHash
  anchor : certificateTrustAnchor lib config.trustStore INPUT_LIMIT =
    .ok material.expectedTrustAnchor
  time : readsTime lib config.validationTime = true
  unrevoked : Read material.crlStatus.revocation
  intermediateIssued : Read material.intermediateCrlStatus.issuer
  intermediateUnrevoked : Read material.intermediateCrlStatus.revocation
  leafValid : checkCertificateValidity lib config.validCertificate config.validationTime
    INPUT_LIMIT = .ok material.leafValidity
  intermediateValid : checkCertificateValidity lib config.issuer config.validationTime
    INPUT_LIMIT = .ok material.intermediateValidity

theorem placed_of_ok (gathered : gather sys config = .ok (runs, material)) :
    Placed sys.toLibrary config runs.validDefault.observation material := by
  simp only [gather, runLeaf, runPaths, bind_ok_iff, mapErr_ok_iff, exists_unit_iff, pure_ok_iff,
    Prod.mk.injEq] at gathered
  obtain ⟨-, _, listed, _, intermediateListed, _, -, _, leafValid, _, intermediateValid, _, -, _,
    ran, _, -, _, -, _, -, _, -, _, -, _, -, _, -, _, -, _, -, _, leafDer, _, leafEdge, _,
    intermediateDer, _, intermediateEdge, _, -, _, anchor, rfl, rfl⟩ := gathered
  obtain ⟨-, unrevoked, time⟩ := read_checkCrlStatus listed
  obtain ⟨intermediateIssued, intermediateUnrevoked, -⟩ := read_checkCrlStatus intermediateListed
  have shown := shownPath_of_run ran
  exact ⟨shown, leafDer, leafEdge, intermediateDer, intermediateEdge, anchor, time, unrevoked,
    intermediateIssued, intermediateUnrevoked, leafValid, intermediateValid⟩

theorem certificatePath_eq :
    certificatePath material = [leafNode material, intermediateNode material] := rfl

theorem evidence_eq : evidence runs material = [leafClassical runs material,
    leafPostQuantum runs material, intermediateClassical runs material,
    intermediatePostQuantum material] := rfl

/-- The requests of both scopes are accepted. -/
theorem wellFormed_of_ok (digest : ∀ bytes, (sys.sha256 bytes).length = 32)
    (gathered : gather sys config = .ok (runs, material)) (scope : PathScope) :
    WellFormed (readsTime sys.toLibrary) (request config runs material scope) := by
  have placed := placed_of_ok gathered
  obtain ⟨leaf, intermediate, root, observed⟩ := placed.shown.observed
  obtain rfl : material.leafHash = leaf := ok_unique placed.leafDer observed.leafHash
  obtain rfl : material.intermediateHash = intermediate :=
    ok_unique placed.intermediateDer observed.intermediateHash
  have anchored := anchor_of_observed observed placed.anchor
  have presentable : Presentable config.settings runs.validDefault.observation
      material.expectedTrustAnchor (certificatePath material) (evidence runs material) := {
    order := ⟨leafNode material, [intermediateNode material], rfl, rfl,
      List.forall_mem_singleton.mpr rfl⟩
    certificateIds := by simp [certificatePath_eq, leafNode, intermediateNode]
    certificates := by
      rw [certificatePath_eq]
      intro certificate member
      rcases List.mem_pair.mp member with rfl | rfl
      · exact ⟨rfl, hashWellFormed_some (isSha256Hex_of_certificateDerHash digest placed.leafDer),
          hashWellFormed_some (isSha256Hex_of_issuerEdgeHash digest placed.leafEdge),
          fun atomic => by cases atomic⟩
      · exact ⟨rfl,
          hashWellFormed_some (isSha256Hex_of_certificateDerHash digest placed.intermediateDer),
          hashWellFormed_some (isSha256Hex_of_issuerEdgeHash digest placed.intermediateEdge),
          fun atomic => by cases atomic⟩
    unrelated := by simp [certificatePath_eq, leafNode, intermediateNode]
    items := by
      rw [evidence_eq, certificatePath_eq]
      have leafItem (present recognized : CheckResult) (part : Part) : ItemOf (leafNode material)
          (evidenceItem (leafNode material) present recognized part) :=
        ⟨rfl, rfl, rfl, rfl, rfl, rfl, rfl, rfl⟩
      have intermediateItem (present recognized : CheckResult) (part : Part) :
          ItemOf (intermediateNode material)
            (evidenceItem (intermediateNode material) present recognized part) :=
        ⟨rfl, rfl, rfl, rfl, rfl, rfl, rfl, rfl⟩
      intro item member
      simp only [List.mem_cons, List.not_mem_nil, or_false] at member
      rcases member with rfl | rfl | rfl | rfl
      · exact ⟨_, List.mem_cons_self, leafItem _ _ _⟩
      · exact ⟨_, List.mem_cons_self, leafItem _ _ _⟩
      · exact ⟨_, List.mem_cons_of_mem _ List.mem_cons_self, intermediateItem _ _ _⟩
      · exact ⟨_, List.mem_cons_of_mem _ List.mem_cons_self, intermediateItem _ _ _⟩
    evidenceIds := by
      have names : ["classical-base-signature", "catalyst-alternative-signature",
        "intermediate-classical-signature", "intermediate-alternative-signature"].Nodup := by decide
      exact names
    evidenceKinds := by
      have keys : [("end-entity", EvidenceKind.classical), ("end-entity", .postQuantum),
        ("intermediate", .classical), ("intermediate", .postQuantum)].Nodup := by decide
      exact keys
    selectedPath := by rw [observed.path]; rfl
    anchorHash := by
      rw [anchored]
      exact isSha256Hex_of_certificateDerHash digest observed.rootHash
    sameAnchor := anchored.trans observed.anchor.symm
    appliedTime := observed.time }
  exact presentable.wellFormed placed.time scope

/-- The classical signature of the leaf carried its validation: the path was accepted with
    the certificate as it is, which was valid and not revoked, and refused with the
    signature damaged. -/
structure CarriedLeaf (sys : FallbackSystem) (config : CatalystBouncyCastleConfig)
    (report : CatalystBouncyCastleReport) : Prop where
  accepted : report.validDefaultControl.observation.verdict = .accept
  refused : report.invalidClassicalDefaultControl.observation.verdict = .reject
  valid : ∃ validity, checkCertificateValidity sys.toLibrary config.validCertificate
    config.validationTime INPUT_LIMIT = .ok validity ∧ validity.state = .pass
  unrevoked : report.crlStatus.revocation.state = .pass

/-- So did that of the intermediate certificate, which its issuer made. -/
structure CarriedPath (sys : FallbackSystem) (config : CatalystBouncyCastleConfig)
    (report : CatalystBouncyCastleReport) : Prop extends CarriedLeaf sys config report where
  intermediateIssued : report.intermediateCrlStatus.issuer.state = .pass
  intermediateRefused : report.intermediateInvalidClassicalControl.observation.verdict = .reject
  intermediateValid : ∃ validity, checkCertificateValidity sys.toLibrary config.issuer
    config.validationTime INPUT_LIMIT = .ok validity ∧ validity.state = .pass
  intermediateUnrevoked : report.intermediateCrlStatus.revocation.state = .pass

/-- The two results of a report, by the controls that stand beside them. -/
structure Accounted (sys : FallbackSystem) (config : CatalystBouncyCastleConfig)
    (report : CatalystBouncyCastleReport) (path : VerificationResult) : Prop where
  scopes : report.scopes = [⟨.endEntity, report.result⟩, ⟨.certificationPath, path⟩]
  leafOnly : ClassicalOnly config.policy report.result (CarriedLeaf sys config report) False
  pathOnly : ClassicalOnly config.policy path (CarriedPath sys config report) False
  required : config.policy = .p2RequiredHybrid →
    (path.policyVerdict = .reject ↔ report.validDefaultControl.observation.verdict ≠ .unsupported)

theorem leafClassical_passes_iff (placed : Placed sys.toLibrary config
      runs.validDefault.observation material) :
    ChecksPass .hardFail (leafClassical runs material) ↔
      runs.validDefault.observation.verdict = .accept ∧
        runs.invalidClassical.observation.verdict = .reject ∧
        material.leafValidity.state = .pass ∧ material.crlStatus.revocation.state = .pass := by
  have validity := read_checkCertificateValidity placed.leafValid
  rw [checksPass_iff rfl rfl]
  simp only [leafClassical, observedItem, evidenceItem, leafClassicalPart, classicalOutcome,
    establishes_checkFromVerdict_iff, establishes_behavioralCheck_iff, validity.establishes_iff,
    placed.unrevoked.establishes_iff, Bool.and_eq_true, beq_iff_eq]
  simp only [CheckResult.observed, Strong, reduceCtorEq, true_or, false_or, and_self, true_and]
  tauto

theorem intermediateClassical_passes_iff (placed : Placed sys.toLibrary config
      runs.validDefault.observation material) :
    ChecksPass .hardFail (intermediateClassical runs material) ↔
      runs.validDefault.observation.verdict = .accept ∧
        material.intermediateCrlStatus.issuer.state = .pass ∧
        runs.invalidIntermediate.observation.verdict = .reject ∧
        material.intermediateValidity.state = .pass ∧
        material.intermediateCrlStatus.revocation.state = .pass := by
  have validity := read_checkCertificateValidity placed.intermediateValid
  rw [checksPass_iff rfl rfl]
  simp only [intermediateClassical, observedItem, evidenceItem, intermediateClassicalPart,
    intermediateClassicalOutcome, establishes_checkFromVerdict_iff, establishes_behavioralCheck_iff,
    validity.establishes_iff, placed.intermediateIssued.establishes_iff,
    placed.intermediateUnrevoked.establishes_iff, Bool.and_eq_true, beq_iff_eq]
  simp only [CheckResult.observed, Strong, reduceCtorEq, true_or, false_or, and_self, true_and]
  tauto

theorem leafPostQuantum_not_passes : ¬ ChecksPass .hardFail (leafPostQuantum runs material) := by
  rw [checksPass_iff rfl rfl]
  rintro ⟨-, -, -, -, -, sensitive⟩
  exact (behavioralCheck_one_sided _).2 sensitive

theorem certificates_endEntity :
    certificates (request config runs material .endEntity) = [leafNode material] := rfl

theorem certificates_certificationPath :
    certificates (request config runs material .certificationPath) =
      [leafNode material, intermediateNode material] := rfl

theorem leaf_inside (scope : PathScope) :
    leafNode material ∈ certificates (request config runs material scope) := by
  cases scope with
  | endEntity => exact List.mem_cons_self
  | certificationPath => exact List.mem_cons_self

theorem hybridMissing (wf : ∀ scope, WellFormed (readsTime sys.toLibrary)
      (request config runs material scope)) (scope : PathScope) :
    HybridMissing (request config runs material scope) where
  known := by
    intro certificate inside
    have inside : certificate ∈ [leafNode material, intermediateNode material] :=
      (List.mem_filter.mp inside).1
    rcases List.mem_pair.mp inside with rfl | rfl
    · rfl
    · rfl
  offered := ⟨_, leaf_inside scope, .inl rfl⟩
  missing := by
    have member : leafPostQuantum runs material ∈ (request config runs material scope).evidence :=
      List.mem_cons_of_mem _ List.mem_cons_self
    refine .inl fun passes => ?_
    obtain ⟨-, shown⟩ := passes _ (leaf_inside scope) rfl
    exact leafPostQuantum_not_passes
      (((wf scope).shown_iff member ⟨rfl, rfl, rfl⟩ rfl).mp shown)

/-- Whatever lapsed, a classical item of the same certificate records it as well. -/
theorem lapsed_of_ok {scope : PathScope} (lapsed : Lapsed (request config runs material scope)) :
    material.leafValidity.state = .fail ∨ material.crlStatus.revocation.state = .fail ∨
      scope = .certificationPath ∧ (material.intermediateValidity.state = .fail ∨
        material.intermediateCrlStatus.revocation.state = .fail) := by
  obtain ⟨item, member, lapsed⟩ := lapsed
  simp only [evidenceOfKind, inScope, List.mem_filter] at member
  obtain ⟨⟨member, included⟩, kind⟩ := member
  have member : item ∈ evidence runs material := member
  rw [evidence_eq] at member
  simp only [List.mem_cons, List.not_mem_nil, or_false] at member
  rcases member with rfl | rfl | rfl | rfl
  · cases kind
  · exact lapsed.imp_right .inl
  · cases kind
  · cases scope with
    | endEntity => cases included
    | certificationPath => exact .inr (.inr ⟨rfl, lapsed⟩)

section Succeeds

variable (gathered : gather sys config = .ok (runs, material))
  (wf : ∀ scope, WellFormed (readsTime sys.toLibrary) (request config runs material scope))

include gathered

/-- Of the classical part only the verdict and the items are left open. -/
theorem classicalSucceeds_iff (scope : PathScope) :
    ClassicalSucceeds (request config runs material scope) ↔
      runs.validDefault.observation.verdict = .accept ∧
        KindPasses (request config runs material scope) .classical := by
  have placed := placed_of_ok gathered
  obtain ⟨_, _, _, observed⟩ := placed.shown.observed
  constructor
  · intro succeeds
    exact ⟨succeeds.stackAccepts, succeeds.classical⟩
  · rintro ⟨accepts, passes⟩
    refine ⟨accepts, observed.time, ?_, placed.shown.profile, ⟨_, leaf_inside scope, rfl⟩, passes⟩
    show Establishes runs.validDefault.observation.validationTime
    rw [placed.shown.validationTime]
    exact ⟨.inl rfl, rfl⟩

include wf

theorem leaf_fullyPasses_iff (scope : PathScope) :
    FullyPasses (request config runs material scope) .classical (leafNode material) ↔
      runs.validDefault.observation.verdict = .accept ∧
        runs.invalidClassical.observation.verdict = .reject ∧
        material.leafValidity.state = .pass ∧ material.crlStatus.revocation.state = .pass := by
  have member : leafClassical runs material ∈ (request config runs material scope).evidence :=
    List.mem_cons_self
  rw [← leafClassical_passes_iff (placed_of_ok gathered)]
  exact (and_iff_right rfl).trans ((wf scope).shown_iff member ⟨rfl, rfl, rfl⟩ rfl)

theorem intermediate_fullyPasses_iff (scope : PathScope) :
    FullyPasses (request config runs material scope) .classical (intermediateNode material) ↔
      runs.validDefault.observation.verdict = .accept ∧
        material.intermediateCrlStatus.issuer.state = .pass ∧
        runs.invalidIntermediate.observation.verdict = .reject ∧
        material.intermediateValidity.state = .pass ∧
        material.intermediateCrlStatus.revocation.state = .pass := by
  have member : intermediateClassical runs material ∈
      (request config runs material scope).evidence :=
    List.mem_cons_of_mem _ (List.mem_cons_of_mem _ List.mem_cons_self)
  rw [← intermediateClassical_passes_iff (placed_of_ok gathered)]
  exact (and_iff_right rfl).trans ((wf scope).shown_iff member ⟨rfl, rfl, rfl⟩ rfl)

theorem carriedLeaf_iff : ClassicalSucceeds (request config runs material .endEntity) ↔
    runs.validDefault.observation.verdict = .accept ∧
      runs.invalidClassical.observation.verdict = .reject ∧
      material.leafValidity.state = .pass ∧ material.crlStatus.revocation.state = .pass := by
  rw [classicalSucceeds_iff gathered, KindPasses, certificates_endEntity,
    ← leaf_fullyPasses_iff gathered wf .endEntity]
  simp only [List.mem_singleton, forall_eq]
  constructor
  · rintro ⟨-, passes⟩
    exact passes rfl
  · intro passes
    exact ⟨((leaf_fullyPasses_iff gathered wf _).mp passes).1, fun _ => passes⟩

theorem carriedPath_iff : ClassicalSucceeds (request config runs material .certificationPath) ↔
    (runs.validDefault.observation.verdict = .accept ∧
      runs.invalidClassical.observation.verdict = .reject ∧
      material.leafValidity.state = .pass ∧ material.crlStatus.revocation.state = .pass) ∧
    runs.validDefault.observation.verdict = .accept ∧
      material.intermediateCrlStatus.issuer.state = .pass ∧
      runs.invalidIntermediate.observation.verdict = .reject ∧
      material.intermediateValidity.state = .pass ∧
      material.intermediateCrlStatus.revocation.state = .pass := by
  rw [classicalSucceeds_iff gathered, KindPasses, certificates_certificationPath,
    ← leaf_fullyPasses_iff gathered wf .certificationPath,
    ← intermediate_fullyPasses_iff gathered wf .certificationPath]
  simp only [List.forall_mem_cons, List.not_mem_nil, false_implies, implies_true, and_true]
  constructor
  · rintro ⟨-, leaf, intermediate⟩
    exact ⟨leaf rfl, intermediate rfl⟩
  · rintro ⟨leaf, intermediate⟩
    exact ⟨((leaf_fullyPasses_iff gathered wf _).mp leaf).1, fun _ => leaf, fun _ => intermediate⟩

theorem leaf_classicalOnly {answer : VerificationResult}
    (returned : evaluate (readsTime sys.toLibrary)
      (request config runs material .endEntity) = .ok answer) :
    ClassicalOnly config.policy answer
      (ClassicalSucceeds (request config runs material .endEntity)) False := by
  refine ((hybridMissing wf _).classicalOnly returned).synchronized fun succeeds lapsed => ?_
  obtain ⟨-, -, valid, unrevoked⟩ := (carriedLeaf_iff gathered wf).mp succeeds
  rcases lapsed_of_ok lapsed with expired | revoked | ⟨outside, -⟩
  · exact absurd (expired.symm.trans valid) (by decide)
  · exact absurd (revoked.symm.trans unrevoked) (by decide)
  · cases outside

theorem path_classicalOnly {answer : VerificationResult}
    (returned : evaluate (readsTime sys.toLibrary)
      (request config runs material .certificationPath) = .ok answer) :
    ClassicalOnly config.policy answer
      (ClassicalSucceeds (request config runs material .certificationPath)) False := by
  refine ((hybridMissing wf _).classicalOnly returned).synchronized fun succeeds lapsed => ?_
  obtain ⟨⟨-, -, valid, unrevoked⟩, -, -, -, issuerValid, issuerUnrevoked⟩ :=
    (carriedPath_iff gathered wf).mp succeeds
  rcases lapsed_of_ok lapsed with expired | revoked | ⟨-, expired | revoked⟩
  · exact absurd (expired.symm.trans valid) (by decide)
  · exact absurd (revoked.symm.trans unrevoked) (by decide)
  · exact absurd (expired.symm.trans issuerValid) (by decide)
  · exact absurd (revoked.symm.trans issuerUnrevoked) (by decide)

end Succeeds

/-- The item of the alternative signature that nobody looked for is an objection. -/
theorem path_objection : Objection (request config runs material .certificationPath) := by
  have member : intermediatePostQuantum material ∈
      (request config runs material .certificationPath).evidence :=
    List.mem_cons_of_mem _ (List.mem_cons_of_mem _ (List.mem_cons_of_mem _ List.mem_cons_self))
  have inside : intermediateNode material ∈
      certificates (request config runs material .certificationPath) :=
    List.mem_cons_of_mem _ List.mem_cons_self
  have performed : ("present", CheckResult.observed .fail) ∈
      (intermediatePostQuantum material).checks := List.mem_cons_self
  exact .check inside rfl member rfl performed (.inl rfl) (.inl rfl)

/-- Under the policy that requires both, the path is rejected unless it is unsupported. -/
theorem path_reject_iff (wf : ∀ scope, WellFormed (readsTime sys.toLibrary)
      (request config runs material scope))
    (required : config.policy = .p2RequiredHybrid) {answer : VerificationResult}
    (returned : evaluate (readsTime sys.toLibrary)
      (request config runs material .certificationPath) = .ok answer) :
    answer.policyVerdict = .reject ↔ runs.validDefault.observation.verdict ≠ .unsupported := by
  obtain ⟨-, outcome⟩ := evaluate_ok_iff.mp returned
  have unsupported : UnsupportedInput (request config runs material .certificationPath) ↔
      runs.validDefault.observation.verdict = .unsupported := by
    rw [← unsupportedInput_iff, (hybridMissing wf _).unsupported_iff]
    rfl
  refine ((wf _).p2_answer required outcome).2.1.trans ?_
  rw [unsupported, and_iff_left path_objection]

/-- No analysis fails because the oracle refused a request. The results of a report are
    accounted for by the controls beside them: the fallback of a scope is that of each of
    its certificates, and where both signatures are required the whole path is rejected,
    whatever the controls of the leaf say. -/
theorem catalystBouncyCastle_accounted (digest : ∀ bytes, (sys.sha256 bytes).length = 32) :
    Yields (fun report => ∃ path, Accounted sys config report path) FallbackError.NotOracle
      (analyze sys config) := by
  refine yields_bind gather_raises ?_
  rintro ⟨runs, material⟩ gathered
  have wf := wellFormed_of_ok digest gathered
  obtain ⟨endEntity, leafReturned⟩ := (wf .endEntity).answered
  obtain ⟨path, pathReturned⟩ := (wf .certificationPath).answered
  have scopes : evaluateEach sys.toLibrary (request config runs material) = .ok _ :=
    evaluateEach_ok_iff.mpr ⟨endEntity, path, leafReturned, pathReturned, rfl⟩
  simp only [scopes, mapErr_ok, ok_bind]
  refine yields_bind (raises_other _ (by simp)) fun _ validReported => ?_
  refine yields_bind (raises_other _ (by simp)) fun _ invalidReported => ?_
  refine yields_bind (raises_other _ (by simp)) fun _ _ => ?_
  refine yields_bind (raises_other _ (by simp)) fun _ _ => ?_
  refine yields_bind (raises_other _ (by simp)) fun _ _ => ?_
  refine yields_bind (raises_other _ (by simp)) fun _ intermediateReported => ?_
  refine yields_bind (raises_other _ (by simp)) fun _ _ => ?_
  refine yields_ok ⟨path, ?_⟩
  have validSame := (report_eq (mapErr_ok_iff.mp validReported)).1
  have invalidSame := (report_eq (mapErr_ok_iff.mp invalidReported)).1
  have intermediateSame := (report_eq (mapErr_ok_iff.mp intermediateReported)).1
  have placed := placed_of_ok gathered
  have leafSame := carriedLeaf_iff gathered wf
  have pathSame := carriedPath_iff gathered wf
  rw [← validSame, ← invalidSame] at leafSame
  rw [← validSame, ← invalidSame, ← intermediateSame] at pathSame
  refine ⟨rfl, ?_, ?_, ?_⟩
  · refine (leaf_classicalOnly gathered wf leafReturned).congr ?_ Iff.rfl
    refine leafSame.trans ⟨?_, ?_⟩
    · rintro ⟨accepted, refused, valid, unrevoked⟩
      exact ⟨accepted, refused, ⟨_, placed.leafValid, valid⟩, unrevoked⟩
    · rintro ⟨accepted, refused, ⟨validity, checked, valid⟩, unrevoked⟩
      obtain rfl := ok_unique checked placed.leafValid
      exact ⟨accepted, refused, valid, unrevoked⟩
  · refine (path_classicalOnly gathered wf pathReturned).congr ?_ Iff.rfl
    refine pathSame.trans ⟨?_, ?_⟩
    · rintro ⟨⟨accepted, refused, valid, unrevoked⟩, -, issued, damaged, issuerValid,
        issuerUnrevoked⟩
      exact ⟨⟨accepted, refused, ⟨_, placed.leafValid, valid⟩, unrevoked⟩, issued, damaged,
        ⟨_, placed.intermediateValid, issuerValid⟩, issuerUnrevoked⟩
    · rintro ⟨⟨accepted, refused, ⟨validity, checked, valid⟩, unrevoked⟩, issued, damaged,
        ⟨issuerValidity, issuerChecked, issuerValid⟩, issuerUnrevoked⟩
      obtain rfl := ok_unique checked placed.leafValid
      obtain rfl := ok_unique issuerChecked placed.intermediateValid
      exact ⟨⟨accepted, refused, valid, unrevoked⟩, accepted, issued, damaged, issuerValid,
        issuerUnrevoked⟩
  · intro required
    rw [path_reject_iff wf required pathReturned, ← validSame]

end Result

namespace Fixture

def config : CatalystBouncyCastleConfig where
  docker := "docker"
  image := "hybrid-x509-bouncycastle:1.84"
  trustStore := "root.pem"
  issuer := "issuer.pem"
  validCertificate := "catalyst.pem"
  invalidPostQuantumCertificate := "altered.pem"
  crl := "crl.pem"
  rootCrl := "crl.pem"
  validationTime := "2026-06-20T00:00:00Z"
  policy := .p2RequiredHybrid
  previousAuthentication := none
  timeout := ⟨5, 0⟩
  maxOutputBytes := 64 * 1024

end Fixture

/-- A path whose classical signatures are checked, and nothing else is. -/
theorem catalystBouncyCastle_accounted_rejected : ∃ report path,
    analyze Fallbacks.Fixture.system Fixture.config = .ok report ∧
      Accounted Fallbacks.Fixture.system Fixture.config report path ∧
      report.result.classicalOnlyFallback = true ∧ path.policyVerdict = .reject := by
  obtain ⟨report, returned, accepted, fallen⟩ :
      ∃ report, analyze Fallbacks.Fixture.system Fixture.config = .ok report ∧
        report.validDefaultControl.observation.verdict = .accept ∧
        report.result.classicalOnlyFallback = true := by
    decide +kernel
  obtain ⟨path, accounted⟩ :=
    (catalystBouncyCastle_accounted Fallbacks.Fixture.length_digest).1 report returned
  have supported : report.validDefaultControl.observation.verdict ≠ .unsupported := by
    rw [accepted]
    decide
  exact ⟨report, path, returned, accounted, fallen, (accounted.required rfl).mpr supported⟩

end HybridX509.Analysis.CatalystBouncyCastle
