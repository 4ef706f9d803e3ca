import HybridX509.Analysis.PathRuns

/-! # The atomic path analysis

`analysis/atomic_path_scope.rs`: a certification path of composite certificates, each
replaced in turn by a copy with one damaged component. The results read by later
analyses are recovered from the report alone.
-/

namespace HybridX509.Analysis.AtomicPathScope

open Lib X509 Oracle Adapters Adapters.BouncyCastle Revocation.Ocsp PathRuns

structure AtomicPathScopeConfig where
  docker : String
  image : String
  root : String
  intermediate : String
  leaf : String
  invalidClassicalRoot : String
  invalidPostQuantumRoot : String
  invalidClassicalIntermediate : String
  invalidPostQuantumIntermediate : String
  invalidClassicalLeaf : String
  invalidPostQuantumLeaf : String
  rootCrl : String
  intermediateCrl : String
  validationTime : String
  policy : Policy
  previousAuthentication : Option AuthenticationLevel
  timeout : Duration
  maxOutputBytes : Nat
  deriving Repr, DecidableEq

structure AtomicPathPositionReport where
  position : PathPosition
  validity : CheckResult
  crlStatus : AdapterReport
  validSignature : AdapterReport
  invalidClassicalSignature : AdapterReport
  invalidPostQuantumSignature : AdapterReport
  invalidClassicalDefaultPath : AdapterReport
  invalidPostQuantumDefaultPath : AdapterReport
  classicalDecisionSensitiveForFixture : CheckResult
  postQuantumDecisionSensitiveForFixture : CheckResult
  deriving Repr, DecidableEq

structure AtomicPathScopeReport where
  apiVersion : String
  validDefaultPath : AdapterReport
  positions : List AtomicPathPositionReport
  scopes : List ScopedVerificationResult
  deriving Repr, DecidableEq

inductive AtomicPathScopeError where
  | wrongScheme
  | bouncyCastle (error : BouncyCastleError)
  | support (error : AdapterSupportError)
  | pem (error : PemError)
  | oracle (abort : Abort)
  deriving Repr, DecidableEq

structure PositionAnalysis where
  position : PathPosition
  certificateDerSha256 : String
  issuerEdgeSha256 : Option String
  validity : CheckResult
  crl : AdapterExecution
  validSignature : AdapterExecution
  invalidClassicalSignature : AdapterExecution
  invalidPostQuantumSignature : AdapterExecution
  invalidClassicalPath : AdapterExecution
  invalidPostQuantumPath : AdapterExecution
  classicalOutcome : CheckResult
  postQuantumOutcome : CheckResult
  deriving Repr, DecidableEq

/-- The files of a position. -/
structure PositionFiles where
  certificate : String
  issuer : String
  crl : String
  invalidClassical : String
  invalidPostQuantum : String
  deriving Repr, DecidableEq

namespace AtomicPathScopeConfig

variable (config : AtomicPathScopeConfig)

def settings : ScopeSettings :=
  ⟨config.policy, config.validationTime, config.previousAuthentication⟩

def runSettings : RunSettings :=
  ⟨config.docker, config.image, config.validationTime, config.timeout, config.maxOutputBytes⟩

def pathFiles : PathFiles := ⟨config.root, config.intermediate, config.leaf⟩

/-- The certificates whose design is checked first. -/
def controls : List String :=
  [config.root, config.intermediate, config.leaf, config.invalidClassicalRoot,
    config.invalidPostQuantumRoot, config.invalidClassicalIntermediate,
    config.invalidPostQuantumIntermediate, config.invalidClassicalLeaf,
    config.invalidPostQuantumLeaf]

def files : PathPosition → PositionFiles
  | .endEntity => ⟨config.leaf, config.intermediate, config.intermediateCrl,
      config.invalidClassicalLeaf, config.invalidPostQuantumLeaf⟩
  | .intermediate => ⟨config.intermediate, config.root, config.rootCrl,
      config.invalidClassicalIntermediate, config.invalidPostQuantumIntermediate⟩
  | .trustAnchor => ⟨config.root, config.root, config.rootCrl,
      config.invalidClassicalRoot, config.invalidPostQuantumRoot⟩

end AtomicPathScopeConfig

section Runs

variable (sys : System BouncyCastleConfig) (config : AtomicPathScopeConfig)

def runDirect (issuer certificate : String) : Except BouncyCastleError AdapterExecution :=
  run sys config.runSettings config.root issuer certificate .certificateSignature none

def runCrl (issuer certificate crl : String) : Except BouncyCastleError AdapterExecution :=
  run sys config.runSettings config.root issuer certificate .crlStatus (some crl)

def pathWithReplacement (position : PathPosition) (replacement : String) :
    Except BouncyCastleError AdapterExecution :=
  runPath sys config.runSettings (config.pathFiles.withReplacement position replacement)

def analyzePosition (position : PathPosition) (validVerdict : StackVerdict) :
    Except AtomicPathScopeError PositionAnalysis := do
  let ⟨certificate, issuer, crl, invalidClassical, invalidPostQuantum⟩ := config.files position
  let validSignature ← mapErr .bouncyCastle (runDirect sys config issuer certificate)
  let invalidClassicalSignature ←
    mapErr .bouncyCastle (runDirect sys config issuer invalidClassical)
  let invalidPostQuantumSignature ←
    mapErr .bouncyCastle (runDirect sys config issuer invalidPostQuantum)
  let invalidClassicalPath ←
    mapErr .bouncyCastle (pathWithReplacement sys config position invalidClassical)
  let invalidPostQuantumPath ←
    mapErr .bouncyCastle (pathWithReplacement sys config position invalidPostQuantum)
  let directControls := validSignature.observation.verdict == .accept
  let certificateDerSha256 ←
    mapErr .pem (certificateDerHash sys.toLibrary certificate INPUT_LIMIT)
  let issuerEdgeSha256 ← mapErr .pem (positionEdge sys.toLibrary position certificate issuer)
  let validity ← mapErr .pem
    (checkCertificateValidity sys.toLibrary certificate config.validationTime INPUT_LIMIT)
  let crl ← mapErr .bouncyCastle (runCrl sys config issuer certificate crl)
  return {
    position := position
    certificateDerSha256 := certificateDerSha256
    issuerEdgeSha256 := issuerEdgeSha256
    validity := validity
    crl := crl
    validSignature := validSignature
    invalidClassicalSignature := invalidClassicalSignature
    invalidPostQuantumSignature := invalidPostQuantumSignature
    invalidClassicalPath := invalidClassicalPath
    invalidPostQuantumPath := invalidPostQuantumPath
    classicalOutcome := outcomeCheck validVerdict invalidClassicalPath.observation.verdict
      (directControls && invalidClassicalSignature.observation.verdict == .reject)
    postQuantumOutcome := outcomeCheck validVerdict invalidPostQuantumPath.observation.verdict
      (directControls && invalidPostQuantumSignature.observation.verdict == .reject) }

end Runs

/-- One of the two items of a position. -/
def componentEvidence (analysis : PositionAnalysis) (validPath : StackVerdict)
    (component : String) (kind : EvidenceKind) (outcome : CheckResult) : Evidence where
  id := positionId analysis.position ++ component
  certificateId := positionId analysis.position
  position := analysis.position
  certificateDerSha256 := some analysis.certificateDerSha256
  evidenceArtifactDerSha256 := some analysis.certificateDerSha256
  issuerEdgeSha256 := analysis.issuerEdgeSha256
  authenticationOperationId := none
  kind := kind
  present := .observed .pass
  recognized := .observed .pass
  signature := checkFromVerdict analysis.validSignature.observation.verdict
  binding := .observed .notApplicable
  path := checkFromVerdict validPath
  validity := analysis.validity
  revocation := checkFromVerdict analysis.crl.observation.verdict
  revocationMethod := .crl
  appliedRevocationPolicy := .crlHardFail
  decisionSensitiveForFixture := outcome

def positionEvidence (analysis : PositionAnalysis) (validPath : StackVerdict) : List Evidence :=
  [componentEvidence analysis validPath "-ecdsa-component" .classical analysis.classicalOutcome,
    componentEvidence analysis validPath "-mldsa-component" .postQuantum analysis.postQuantumOutcome]

def certificateNode (analysis : PositionAnalysis) : CertificateNode where
  id := positionId analysis.position
  position := analysis.position
  subjectPublicKeyScheme := .classical
  certificateSignatureScheme := .hybrid
  bindingDesign := .atomicComposite
  derSha256 := some analysis.certificateDerSha256
  issuerEdgeSha256 := analysis.issuerEdgeSha256

section Analyze

variable (sys : System BouncyCastleConfig)

def positionReport (analysis : PositionAnalysis) :
    Except AdapterSupportError AtomicPathPositionReport := do
  let crlStatus ← analysis.crl.report sys
  let validSignature ← analysis.validSignature.report sys
  let invalidClassicalSignature ← analysis.invalidClassicalSignature.report sys
  let invalidPostQuantumSignature ← analysis.invalidPostQuantumSignature.report sys
  let invalidClassicalDefaultPath ← analysis.invalidClassicalPath.report sys
  let invalidPostQuantumDefaultPath ← analysis.invalidPostQuantumPath.report sys
  return {
    position := analysis.position
    validity := analysis.validity
    crlStatus := crlStatus
    validSignature := validSignature
    invalidClassicalSignature := invalidClassicalSignature
    invalidPostQuantumSignature := invalidPostQuantumSignature
    invalidClassicalDefaultPath := invalidClassicalDefaultPath
    invalidPostQuantumDefaultPath := invalidPostQuantumDefaultPath
    classicalDecisionSensitiveForFixture := analysis.classicalOutcome
    postQuantumDecisionSensitiveForFixture := analysis.postQuantumOutcome }

/-- A control has to use the atomic composite scheme. -/
def checkControl (certificate : String) : Except AtomicPathScopeError Unit :=
  checkBindingDesign .pem sys.toLibrary .wrongScheme .atomicComposite certificate

def analyze (config : AtomicPathScopeConfig) :
    Except AtomicPathScopeError AtomicPathScopeReport := do
  config.controls.forM (checkControl sys)
  let validPath ←
    mapErr .bouncyCastle (runPath sys config.runSettings config.pathFiles)
  let validVerdict := validPath.observation.verdict
  let analyses ← [PathPosition.endEntity, .intermediate, .trustAnchor].mapM
    fun position => analyzePosition sys config position validVerdict
  let certificatePath := (analyses.filter (·.position != .trustAnchor)).map certificateNode
  let evidence := (analyses.filter (·.position != .trustAnchor)).flatMap
    fun analysis => positionEvidence analysis validVerdict
  let expectedTrustAnchor ←
    mapErr .pem (certificateTrustAnchor sys.toLibrary config.root INPUT_LIMIT)
  let scopes ← mapErr .oracle (evaluateEach sys.toLibrary
    (scopeRequest config.settings validPath.observation expectedTrustAnchor certificatePath
      evidence))
  let positions ← mapErr .support (analyses.mapM (positionReport sys))
  let validDefaultPath ← mapErr .support (validPath.report sys)
  return ⟨API_VERSION, validDefaultPath, positions, scopes⟩

end Analyze

/-! ## What a position contributes -/

section Positions

variable {sys : System BouncyCastleConfig} {config : AtomicPathScopeConfig}

/-- What the analysis of a position computed from the files of the position. -/
structure Analyzed (sys : System BouncyCastleConfig) (config : AtomicPathScopeConfig)
    (position : PathPosition) (analysis : PositionAnalysis) : Prop where
  located : analysis.position = position
  der : certificateDerHash sys.toLibrary (config.files position).certificate INPUT_LIMIT =
    .ok analysis.certificateDerSha256
  edge : position ≠ .trustAnchor → ∃ hash, analysis.issuerEdgeSha256 = some hash ∧
    issuerEdgeHash sys.toLibrary (config.files position).certificate
      (config.files position).issuer INPUT_LIMIT = .ok hash
  validSignature : runDirect sys config (config.files position).issuer
    (config.files position).certificate = .ok analysis.validSignature
  invalidClassicalSignature : runDirect sys config (config.files position).issuer
    (config.files position).invalidClassical = .ok analysis.invalidClassicalSignature
  invalidPostQuantumSignature : runDirect sys config (config.files position).issuer
    (config.files position).invalidPostQuantum = .ok analysis.invalidPostQuantumSignature
  invalidClassicalPath : pathWithReplacement sys config position
    (config.files position).invalidClassical = .ok analysis.invalidClassicalPath
  invalidPostQuantumPath : pathWithReplacement sys config position
    (config.files position).invalidPostQuantum = .ok analysis.invalidPostQuantumPath
  crl : runCrl sys config (config.files position).issuer (config.files position).certificate
    (config.files position).crl = .ok analysis.crl

theorem analyzed_of_ok {position : PathPosition} {verdict : StackVerdict}
    {analysis : PositionAnalysis}
    (analyzed : analyzePosition sys config position verdict = .ok analysis) :
    Analyzed sys config position analysis := by
  simp only [analyzePosition, bind_ok_iff, mapErr_ok_iff, pure_ok_iff] at analyzed
  obtain ⟨_, signed, _, classicalSigned, _, pqSigned, _, classicalRan, _, pqRan, der, hashed, edge,
    joined, _, _, _, crlRan, rfl⟩ := analyzed
  refine ⟨rfl, hashed, ?_, signed, classicalSigned, pqSigned, classicalRan, pqRan, crlRan⟩
  intro below
  simp only [positionEdge, below, if_false, map_ok_iff] at joined
  obtain ⟨hash, joint, rfl⟩ := joined
  exact ⟨hash, rfl, joint⟩

/-- The positions a request is built from. -/
theorem filter_analyzed {leaf intermediate root : PositionAnalysis}
    (leafAnalyzed : Analyzed sys config .endEntity leaf)
    (intermediateAnalyzed : Analyzed sys config .intermediate intermediate)
    (rootAnalyzed : Analyzed sys config .trustAnchor root) :
    [leaf, intermediate, root].filter (·.position != .trustAnchor) = [leaf, intermediate] := by
  simp [leafAnalyzed.located, intermediateAnalyzed.located, rootAnalyzed.located]

theorem itemOf_componentEvidence (analysis : PositionAnalysis) (validPath : StackVerdict)
    (component : String) (kind : EvidenceKind) (outcome : CheckResult) :
    ItemOf (certificateNode analysis)
      (componentEvidence analysis validPath component kind outcome) :=
  ⟨rfl, rfl, rfl, rfl, rfl, rfl, rfl, rfl⟩

theorem itemOf_of_mem {analysis : PositionAnalysis} {validPath : StackVerdict} {item : Evidence}
    (member : item ∈ positionEvidence analysis validPath) :
    ItemOf (certificateNode analysis) item := by
  rcases List.mem_pair.mp member with rfl | rfl
  · exact itemOf_componentEvidence ..
  · exact itemOf_componentEvidence ..

theorem positionEvidence_ids (analysis : PositionAnalysis) (validPath : StackVerdict) :
    (positionEvidence analysis validPath).map (·.id) =
      [positionId analysis.position ++ "-ecdsa-component",
        positionId analysis.position ++ "-mldsa-component"] := rfl

theorem positionEvidence_kinds (analysis : PositionAnalysis) (validPath : StackVerdict) :
    (positionEvidence analysis validPath).map (fun item => (item.certificateId, item.kind)) =
      [(positionId analysis.position, .classical), (positionId analysis.position, .postQuantum)] :=
  rfl

theorem Analyzed.certificateWellFormed (digest : ∀ bytes, (sys.sha256 bytes).length = 32)
    {position : PathPosition} {analysis : PositionAnalysis}
    (analyzed : Analyzed sys config position analysis) (below : position ≠ .trustAnchor) :
    CertificateWellFormed (certificateNode analysis) where
  derPresent := rfl
  derHash := hashWellFormed_some (isSha256Hex_of_certificateDerHash digest analyzed.der)
  edgeHash := by
    obtain ⟨hash, present, joint⟩ := analyzed.edge below
    rw [certificateNode, present]
    exact hashWellFormed_some (isSha256Hex_of_issuerEdgeHash digest joint)
  atomicComposite := fun _ => rfl

/-- Two analyzed positions, against a stack that observed their certificates under the
    given root. -/
theorem presentable_of_analyzed (digest : ∀ bytes, (sys.sha256 bytes).length = 32)
    {leaf intermediate : PositionAnalysis} (leafAnalyzed : Analyzed sys config .endEntity leaf)
    (intermediateAnalyzed : Analyzed sys config .intermediate intermediate) {root : String}
    (rootHash : IsSha256Hex root) {settings : ScopeSettings} {stack : StackObservation}
    (path : stack.certificationPathDerSha256 =
      [leaf.certificateDerSha256, intermediate.certificateDerSha256])
    (anchor : stack.trustAnchor = .certificateDerSha256 root)
    (time : stack.appliedValidationTime = settings.validationTime) (verdict : StackVerdict) :
    Presentable settings stack (.certificateDerSha256 root)
      [certificateNode leaf, certificateNode intermediate]
      (positionEvidence leaf verdict ++ positionEvidence intermediate verdict) where
  order := ⟨_, _, rfl, leafAnalyzed.located, by simp [certificateNode, intermediateAnalyzed.located]⟩
  certificateIds := by
    simp [certificateNode, leafAnalyzed.located, intermediateAnalyzed.located, positionId]
  certificates := by
    intro certificate member
    rcases List.mem_pair.mp member with rfl | rfl
    · exact leafAnalyzed.certificateWellFormed digest (by simp)
    · exact intermediateAnalyzed.certificateWellFormed digest (by simp)
  unrelated := by simp [certificateNode]
  items := by
    intro item member
    rcases List.mem_append.mp member with ofLeaf | ofIntermediate
    · exact ⟨_, List.mem_cons_self, itemOf_of_mem ofLeaf⟩
    · exact ⟨_, List.mem_cons_of_mem _ List.mem_cons_self, itemOf_of_mem ofIntermediate⟩
  evidenceIds := by
    rw [List.map_append, positionEvidence_ids, positionEvidence_ids, leafAnalyzed.located,
      intermediateAnalyzed.located]
    decide
  evidenceKinds := by
    rw [List.map_append, positionEvidence_kinds, positionEvidence_kinds, leafAnalyzed.located,
      intermediateAnalyzed.located]
    decide
  selectedPath := by simp [certificateNode, path]
  anchorHash := rootHash
  sameAnchor := anchor.symm
  appliedTime := time

end Positions

/-! ## Runs that return -/

/-- The adapter calls and the file check of a position return. -/
structure PositionReturns (sys : System BouncyCastleConfig) (config : AtomicPathScopeConfig)
    (position : PathPosition) : Prop where
  signatures : ∀ certificate ∈ [(config.files position).certificate,
      (config.files position).invalidClassical, (config.files position).invalidPostQuantum],
    RunReturns sys (runDirect sys config (config.files position).issuer certificate)
  paths : ∀ replacement ∈ [(config.files position).invalidClassical,
      (config.files position).invalidPostQuantum],
    RunReturns sys (pathWithReplacement sys config position replacement)
  crl : RunReturns sys (runCrl sys config (config.files position).issuer
    (config.files position).certificate (config.files position).crl)
  validity : ∃ check, checkCertificateValidity sys.toLibrary (config.files position).certificate
    config.validationTime INPUT_LIMIT = .ok check

/-- Every adapter call and file check of the analysis returns. -/
structure Returns (sys : System BouncyCastleConfig) (config : AtomicPathScopeConfig) : Prop where
  controls : ∀ certificate ∈ config.controls, checkControl sys certificate = .ok ()
  validPath : RunReturns sys (runPath sys config.runSettings config.pathFiles)
  positions : ∀ position, PositionReturns sys config position

section Totality

variable {sys : System BouncyCastleConfig} {config : AtomicPathScopeConfig}

theorem Returns.read (returns : Returns sys config) (position : PathPosition) :
    ∃ der, readDer sys.toLibrary (config.files position).certificate .certificate INPUT_LIMIT =
      .ok der := by
  obtain ⟨_, checked⟩ := (returns.positions position).validity
  exact (read_of_checkCertificateValidity checked).1

theorem Returns.readsTime (returns : Returns sys config) :
    readsTime sys.toLibrary config.validationTime = true := by
  obtain ⟨_, checked⟩ := (returns.positions .endEntity).validity
  exact (read_of_checkCertificateValidity checked).2

theorem Returns.edge (returns : Returns sys config) (position : PathPosition) :
    ∃ edge, positionEdge sys.toLibrary position (config.files position).certificate
      (config.files position).issuer = .ok edge := by
  cases position with
  | endEntity =>
      obtain ⟨hash, joint⟩ :=
        issuerEdgeHash_returns (returns.read .endEntity) (returns.read .intermediate)
      exact ⟨some hash, map_ok_iff.mpr ⟨hash, joint, rfl⟩⟩
  | intermediate =>
      obtain ⟨hash, joint⟩ :=
        issuerEdgeHash_returns (returns.read .intermediate) (returns.read .trustAnchor)
      exact ⟨some hash, map_ok_iff.mpr ⟨hash, joint, rfl⟩⟩
  | trustAnchor => exact ⟨none, rfl⟩

theorem analyzePosition_returns (returns : Returns sys config) (position : PathPosition)
    (verdict : StackVerdict) :
    ∃ analysis, analyzePosition sys config position verdict = .ok analysis := by
  have atPosition := returns.positions position
  obtain ⟨_, signed, _⟩ :=
    atPosition.signatures (config.files position).certificate (by simp)
  obtain ⟨_, classicalSigned, _⟩ :=
    atPosition.signatures (config.files position).invalidClassical (by simp)
  obtain ⟨_, pqSigned, _⟩ :=
    atPosition.signatures (config.files position).invalidPostQuantum (by simp)
  obtain ⟨_, classicalRan, _⟩ :=
    atPosition.paths (config.files position).invalidClassical (by simp)
  obtain ⟨_, pqRan, _⟩ :=
    atPosition.paths (config.files position).invalidPostQuantum (by simp)
  obtain ⟨_, crlRan, _⟩ := atPosition.crl
  obtain ⟨_, checked⟩ := atPosition.validity
  obtain ⟨der, read⟩ := returns.read position
  obtain ⟨_, joined⟩ := returns.edge position
  have hashed : certificateDerHash sys.toLibrary (config.files position).certificate INPUT_LIMIT =
      .ok (sha256Hex sys.toLibrary der) := bind_ok_iff.mpr ⟨der, read, rfl⟩
  simp only [analyzePosition, signed, classicalSigned, pqSigned, classicalRan, pqRan, hashed,
    joined, checked, crlRan, mapErr_ok, ok_bind]
  exact ⟨_, rfl⟩

theorem positionReport_returns (returns : Returns sys config) {position : PathPosition}
    {analysis : PositionAnalysis} (analyzed : Analyzed sys config position analysis) :
    ∃ report, positionReport sys analysis = .ok report := by
  have atPosition := returns.positions position
  obtain ⟨_, signed⟩ := (atPosition.signatures _ (by simp)).report analyzed.validSignature
  obtain ⟨_, classicalSigned⟩ :=
    (atPosition.signatures _ (by simp)).report analyzed.invalidClassicalSignature
  obtain ⟨_, pqSigned⟩ :=
    (atPosition.signatures _ (by simp)).report analyzed.invalidPostQuantumSignature
  obtain ⟨_, classicalRan⟩ := (atPosition.paths _ (by simp)).report analyzed.invalidClassicalPath
  obtain ⟨_, pqRan⟩ := (atPosition.paths _ (by simp)).report analyzed.invalidPostQuantumPath
  obtain ⟨_, crlRan⟩ := atPosition.crl.report analyzed.crl
  simp only [positionReport, signed, classicalSigned, pqSigned, classicalRan, pqRan, crlRan]
  exact ⟨_, rfl⟩

/-- When its calls and checks return, so does the analysis. -/
theorem analyze_returns (digest : ∀ bytes, (sys.sha256 bytes).length = 32)
    (returns : Returns sys config) : ∃ report, analyze sys config = .ok report := by
  obtain ⟨validPath, ran, validReport, reported⟩ := returns.validPath
  obtain ⟨leaf, leafOk⟩ :=
    analyzePosition_returns returns .endEntity validPath.observation.verdict
  obtain ⟨intermediate, intermediateOk⟩ :=
    analyzePosition_returns returns .intermediate validPath.observation.verdict
  obtain ⟨root, rootOk⟩ :=
    analyzePosition_returns returns .trustAnchor validPath.observation.verdict
  have leafAnalyzed := analyzed_of_ok leafOk
  have intermediateAnalyzed := analyzed_of_ok intermediateOk
  have rootAnalyzed := analyzed_of_ok rootOk
  obtain ⟨leafHash, intermediateHash, rootHash, observed⟩ := observed_of_runPath ran
  obtain rfl : leaf.certificateDerSha256 = leafHash :=
    ok_unique leafAnalyzed.der observed.leafHash
  obtain rfl : intermediate.certificateDerSha256 = intermediateHash :=
    ok_unique intermediateAnalyzed.der observed.intermediateHash
  have presentable := presentable_of_analyzed digest leafAnalyzed intermediateAnalyzed
    (isSha256Hex_of_certificateDerHash digest observed.rootHash) observed.path observed.anchor
    (show _ = config.settings.validationTime from observed.time) validPath.observation.verdict
  obtain ⟨scopes, evaluated⟩ := presentable.evaluated returns.readsTime
  obtain ⟨_, leafReported⟩ := positionReport_returns returns leafAnalyzed
  obtain ⟨_, intermediateReported⟩ := positionReport_returns returns intermediateAnalyzed
  obtain ⟨_, rootReported⟩ := positionReport_returns returns rootAnalyzed
  have controls : config.controls.forM (checkControl sys) = .ok () :=
    forM_ok_iff.mpr returns.controls
  have kept := filter_analyzed leafAnalyzed intermediateAnalyzed rootAnalyzed
  have anchored : certificateTrustAnchor sys.toLibrary config.root INPUT_LIMIT =
      .ok (.certificateDerSha256 rootHash) := bind_ok_iff.mpr ⟨rootHash, observed.rootHash, rfl⟩
  simp only [analyze, controls, ran, mapErr_ok, ok_bind, pure_eq_ok, List.mapM_cons, List.mapM_nil,
    leafOk, intermediateOk, rootOk, kept, anchored, List.map_cons, List.map_nil, List.flatMap_cons,
    List.flatMap_nil, List.append_nil, evaluated, leafReported, intermediateReported, rootReported,
    reported]
  exact ⟨_, rfl⟩

/-- The material of the first scope: two analyzed positions under a root. -/
structure Described (sys : System BouncyCastleConfig) (config : AtomicPathScopeConfig)
    (leaf intermediate : PositionAnalysis) (root : String) (verdict : StackVerdict)
    (result : VerificationResult) : Prop where
  leafAnalyzed : Analyzed sys config .endEntity leaf
  intermediateAnalyzed : Analyzed sys config .intermediate intermediate
  rootHashed : certificateDerHash sys.toLibrary config.root INPUT_LIMIT = .ok root
  path : result.certificatePath = [certificateNode leaf, certificateNode intermediate]
  evidence : result.evaluatedEvidence =
    positionEvidence leaf verdict ++ positionEvidence intermediate verdict
  anchor : result.expectedTrustAnchor = .certificateDerSha256 root

theorem described_of_analyze {report : AtomicPathScopeReport}
    (analyzed : analyze sys config = .ok report) :
    ∃ leaf intermediate root verdict first rest, report.scopes = first :: rest ∧
      Described sys config leaf intermediate root verdict first.result := by
  simp only [analyze, certificateTrustAnchor, bind_ok_iff, mapErr_ok_iff, exists_unit_iff,
    pure_ok_iff, List.mapM_cons, List.mapM_nil, evaluateEach_ok_iff] at analyzed
  obtain ⟨_, validPath, _, _, ⟨leaf, leafOk, _, ⟨intermediate, intermediateOk, _,
    ⟨root, rootOk, _, rfl, rfl⟩, rfl⟩, rfl⟩, _, ⟨rootHash, rootHashed, rfl⟩, _,
    ⟨endEntity, certificationPath, evaluated, _, rfl⟩, _, _, _, _, rfl⟩ := analyzed
  have leafAnalyzed := analyzed_of_ok leafOk
  have intermediateAnalyzed := analyzed_of_ok intermediateOk
  rw [filter_analyzed leafAnalyzed intermediateAnalyzed (analyzed_of_ok rootOk)] at evaluated
  obtain ⟨_, _, _, _, _, rfl⟩ := (evaluate_ok_iff.mp evaluated).2.eq_result
  exact ⟨leaf, intermediate, rootHash, validPath.observation.verdict, _, _, rfl, leafAnalyzed,
    intermediateAnalyzed, rootHashed, rfl, by simp [result, scopeRequest], rfl⟩

end Totality

end HybridX509.Analysis.AtomicPathScope
