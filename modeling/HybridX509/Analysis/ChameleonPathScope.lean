import HybridX509.Analysis.PathPositions

/-! # The Chameleon path analysis

`analysis/chameleon_path_scope.rs`: a path of base certificates that carry the difference
to classical delta certificates. The stack is shown the base path; the delta certificates
are validated as a path of their own and contribute the classical items.
-/

namespace HybridX509.Analysis.ChameleonPathScope

open Lib X509 Oracle Adapters Adapters.BouncyCastle Revocation.Ocsp PathRuns PathPositions

structure ChameleonPathScopeConfig where
  docker : String
  image : String
  rootBase : String
  intermediateBase : String
  leafBase : String
  rootDelta : String
  intermediateDelta : String
  leafDelta : String
  invalidDeltaRootBase : String
  invalidDeltaIntermediateBase : String
  invalidDeltaLeafBase : String
  invalidBaseRoot : String
  invalidBaseIntermediate : String
  invalidBaseLeaf : String
  rootBaseCrl : String
  intermediateBaseCrl : String
  rootDeltaCrl : String
  intermediateDeltaCrl : String
  validationTime : String
  policy : Policy
  previousAuthentication : Option AuthenticationLevel
  timeout : Duration
  maxOutputBytes : Nat
  deriving Repr, DecidableEq

structure ChameleonPathPositionReport where
  position : PathPosition
  baseValidity : CheckResult
  deltaValidity : CheckResult
  baseCrlStatus : AdapterReport
  deltaCrlStatus : AdapterReport
  baseSignature : AdapterReport
  invalidBaseSignature : AdapterReport
  deltaSignature : AdapterReport
  invalidDeltaSignature : AdapterReport
  invalidBaseDefaultPath : AdapterReport
  invalidDeltaDefaultPath : AdapterReport
  classicalDecisionSensitiveForFixture : CheckResult
  postQuantumDecisionSensitiveForFixture : CheckResult
  deriving Repr, DecidableEq

structure ChameleonPathScopeReport where
  apiVersion : String
  baseDefaultPath : AdapterReport
  deltaPathControl : AdapterReport
  positions : List ChameleonPathPositionReport
  scopes : List ScopedVerificationResult
  deriving Repr, DecidableEq

structure PositionAnalysis extends Located where
  baseValidity : CheckResult
  deltaValidity : CheckResult
  baseCrl : AdapterExecution
  deltaCrl : AdapterExecution
  baseSignature : AdapterExecution
  invalidBaseSignature : AdapterExecution
  deltaSignature : AdapterExecution
  invalidDeltaSignature : AdapterExecution
  invalidBasePath : AdapterExecution
  invalidDeltaPath : AdapterExecution
  classicalOutcome : CheckResult
  postQuantumOutcome : CheckResult
  deriving Repr, DecidableEq

structure PositionInputs where
  base : String
  delta : String
  invalidDeltaBase : String
  invalidBase : String
  baseIssuer : String
  deltaIssuer : String
  baseCrl : String
  deltaCrl : String
  deriving Repr, DecidableEq

namespace ChameleonPathScopeConfig

variable (config : ChameleonPathScopeConfig)

def settings : ScopeSettings :=
  ⟨config.policy, config.validationTime, config.previousAuthentication⟩

def runSettings : RunSettings :=
  ⟨config.docker, config.image, config.validationTime, config.timeout, config.maxOutputBytes⟩

def baseFiles : PathFiles := ⟨config.rootBase, config.intermediateBase, config.leafBase⟩

def deltaFiles : PathFiles := ⟨config.rootDelta, config.intermediateDelta, config.leafDelta⟩

def baseControls : List String :=
  [config.rootBase, config.intermediateBase, config.leafBase, config.invalidDeltaRootBase,
    config.invalidDeltaIntermediateBase, config.invalidDeltaLeafBase, config.invalidBaseRoot,
    config.invalidBaseIntermediate, config.invalidBaseLeaf]

def deltaControls : List String := [config.rootDelta, config.intermediateDelta, config.leafDelta]

def positionInputs : PathPosition → PositionInputs
  | .endEntity => {
      base := config.leafBase
      delta := config.leafDelta
      invalidDeltaBase := config.invalidDeltaLeafBase
      invalidBase := config.invalidBaseLeaf
      baseIssuer := config.intermediateBase
      deltaIssuer := config.intermediateDelta
      baseCrl := config.intermediateBaseCrl
      deltaCrl := config.intermediateDeltaCrl }
  | .intermediate => {
      base := config.intermediateBase
      delta := config.intermediateDelta
      invalidDeltaBase := config.invalidDeltaIntermediateBase
      invalidBase := config.invalidBaseIntermediate
      baseIssuer := config.rootBase
      deltaIssuer := config.rootDelta
      baseCrl := config.rootBaseCrl
      deltaCrl := config.rootDeltaCrl }
  | .trustAnchor => {
      base := config.rootBase
      delta := config.rootDelta
      invalidDeltaBase := config.invalidDeltaRootBase
      invalidBase := config.invalidBaseRoot
      baseIssuer := config.rootBase
      deltaIssuer := config.rootDelta
      baseCrl := config.rootBaseCrl
      deltaCrl := config.rootDeltaCrl }

end ChameleonPathScopeConfig

section Analyze

variable (sys : System BouncyCastleConfig) (config : ChameleonPathScopeConfig)

def runDirect (issuer certificate : String) : Except BouncyCastleError AdapterExecution :=
  run sys config.runSettings issuer issuer certificate .certificateSignature none

def runDelta (issuerBase base : String) : Except BouncyCastleError AdapterExecution :=
  run sys config.runSettings issuerBase issuerBase base .deltaSignature none

def runCrl (issuer certificate crl : String) : Except BouncyCastleError AdapterExecution :=
  run sys config.runSettings issuer issuer certificate .crlStatus (some crl)

def basePathWithReplacement (position : PathPosition) (replacement : String) :
    Except BouncyCastleError AdapterExecution :=
  runPath sys config.runSettings (config.baseFiles.withReplacement position replacement)

def analyzePosition (validPath : StackVerdict) (position : PathPosition) :
    Except PathScopeError PositionAnalysis := do
  let inputs := config.positionInputs position
  let baseSignature ← mapErr .bouncyCastle (runDirect sys config inputs.baseIssuer inputs.base)
  let invalidBaseSignature ←
    mapErr .bouncyCastle (runDirect sys config inputs.baseIssuer inputs.invalidBase)
  let deltaSignature ← mapErr .bouncyCastle (runDelta sys config inputs.baseIssuer inputs.base)
  let invalidDeltaSignature ←
    mapErr .bouncyCastle (runDelta sys config inputs.baseIssuer inputs.invalidDeltaBase)
  let invalidBasePath ←
    mapErr .bouncyCastle (basePathWithReplacement sys config position inputs.invalidBase)
  let invalidDeltaPath ←
    mapErr .bouncyCastle (basePathWithReplacement sys config position inputs.invalidDeltaBase)
  let certificateDerSha256 ← mapErr .pem (certificateDerHash sys.toLibrary inputs.base INPUT_LIMIT)
  let issuerEdgeSha256 ←
    mapErr .pem (positionEdge sys.toLibrary position inputs.base inputs.baseIssuer)
  let baseValidity ← mapErr .pem
    (checkCertificateValidity sys.toLibrary inputs.base config.validationTime INPUT_LIMIT)
  let deltaValidity ← mapErr .pem
    (checkCertificateValidity sys.toLibrary inputs.delta config.validationTime INPUT_LIMIT)
  let baseCrl ←
    mapErr .bouncyCastle (runCrl sys config inputs.baseIssuer inputs.base inputs.baseCrl)
  let deltaCrl ←
    mapErr .bouncyCastle (runCrl sys config inputs.deltaIssuer inputs.delta inputs.deltaCrl)
  return {
    position := position
    certificateDerSha256 := certificateDerSha256
    issuerEdgeSha256 := issuerEdgeSha256
    baseValidity := baseValidity
    deltaValidity := deltaValidity
    baseCrl := baseCrl
    deltaCrl := deltaCrl
    baseSignature := baseSignature
    invalidBaseSignature := invalidBaseSignature
    deltaSignature := deltaSignature
    invalidDeltaSignature := invalidDeltaSignature
    invalidBasePath := invalidBasePath
    invalidDeltaPath := invalidDeltaPath
    classicalOutcome := outcomeCheck validPath invalidDeltaPath.observation.verdict
      (deltaSignature.observation.verdict == .accept
        && invalidDeltaSignature.observation.verdict == .reject)
    postQuantumOutcome := outcomeCheck validPath invalidBasePath.observation.verdict
      (baseSignature.observation.verdict == .accept
        && invalidBaseSignature.observation.verdict == .reject) }

/-- The two items of a position, from the delta and from the base certificate. -/
def parts (basePath deltaPath : StackVerdict) (analysis : PositionAnalysis) : List Part :=
  [{ name := "-delta-certificate"
     kind := .classical
     signature := checkFromVerdict analysis.deltaSignature.observation.verdict
     binding := checkFromVerdict analysis.deltaSignature.observation.verdict
     path := checkFromVerdict deltaPath
     validity := analysis.deltaValidity
     revocation := checkFromVerdict analysis.deltaCrl.observation.verdict
     decisionSensitiveForFixture := analysis.classicalOutcome },
   { name := "-base-certificate"
     kind := .postQuantum
     signature := checkFromVerdict analysis.baseSignature.observation.verdict
     binding := .observed .notApplicable
     path := checkFromVerdict basePath
     validity := analysis.baseValidity
     revocation := checkFromVerdict analysis.baseCrl.observation.verdict
     decisionSensitiveForFixture := analysis.postQuantumOutcome }]

def positionEvidence (basePath deltaPath : StackVerdict) (analysis : PositionAnalysis) :
    List Evidence :=
  (parts basePath deltaPath analysis).map analysis.item

def certificateNode (analysis : PositionAnalysis) : CertificateNode :=
  analysis.node .classical .classical .chameleon

def positionReport (analysis : PositionAnalysis) :
    Except AdapterSupportError ChameleonPathPositionReport := do
  let baseCrlStatus ← analysis.baseCrl.report sys
  let deltaCrlStatus ← analysis.deltaCrl.report sys
  let baseSignature ← analysis.baseSignature.report sys
  let invalidBaseSignature ← analysis.invalidBaseSignature.report sys
  let deltaSignature ← analysis.deltaSignature.report sys
  let invalidDeltaSignature ← analysis.invalidDeltaSignature.report sys
  let invalidBaseDefaultPath ← analysis.invalidBasePath.report sys
  let invalidDeltaDefaultPath ← analysis.invalidDeltaPath.report sys
  return {
    position := analysis.position
    baseValidity := analysis.baseValidity
    deltaValidity := analysis.deltaValidity
    baseCrlStatus := baseCrlStatus
    deltaCrlStatus := deltaCrlStatus
    baseSignature := baseSignature
    invalidBaseSignature := invalidBaseSignature
    deltaSignature := deltaSignature
    invalidDeltaSignature := invalidDeltaSignature
    invalidBaseDefaultPath := invalidBaseDefaultPath
    invalidDeltaDefaultPath := invalidDeltaDefaultPath
    classicalDecisionSensitiveForFixture := analysis.classicalOutcome
    postQuantumDecisionSensitiveForFixture := analysis.postQuantumOutcome }

/-- A control has to be of the given design. -/
def checkControl (design : BindingDesign) (certificate : String) : Except PathScopeError Unit :=
  checkBindingDesign .pem sys.toLibrary .wrongScheme design certificate

/-- The requests about the base path. -/
def requests (basePath deltaPath : AdapterExecution) (expectedTrustAnchor : TrustAnchor)
    (analyses : List PositionAnalysis) : PathScope → VerificationRequest :=
  let below := belowAnchor PositionAnalysis.toLocated analyses
  scopeRequest config.settings basePath.observation expectedTrustAnchor (below.map certificateNode)
    (below.flatMap (positionEvidence basePath.observation.verdict deltaPath.observation.verdict))

def analyze : Except PathScopeError ChameleonPathScopeReport := do
  config.baseControls.forM (checkControl sys .chameleon)
  config.deltaControls.forM (checkControl sys .none)
  let basePath ← mapErr .bouncyCastle (runPath sys config.runSettings config.baseFiles)
  let deltaPath ← mapErr .bouncyCastle (runPath sys config.runSettings config.deltaFiles)
  let analyses ← eachPosition (analyzePosition sys config basePath.observation.verdict)
  let expectedTrustAnchor ←
    mapErr .pem (certificateTrustAnchor sys.toLibrary config.rootBase INPUT_LIMIT)
  let scopes ← mapErr .oracle (evaluateEach sys.toLibrary
    (requests config basePath deltaPath expectedTrustAnchor analyses))
  let positions ← mapErr .support (analyses.mapM (positionReport sys))
  let baseDefaultPath ← mapErr .support (basePath.report sys)
  let deltaPathControl ← mapErr .support (deltaPath.report sys)
  return ⟨API_VERSION, baseDefaultPath, deltaPathControl, positions, scopes⟩

end Analyze

/-! ## The requests are accepted -/

section Accepted

variable {sys : System BouncyCastleConfig} {config : ChameleonPathScopeConfig}

theorem placed_of_ok {validPath : StackVerdict} {position : PathPosition}
    {analysis : PositionAnalysis}
    (analyzed : analyzePosition sys config validPath position = .ok analysis) :
    Placed sys.toLibrary config.baseFiles position analysis.toLocated ∧
      readsTime sys.toLibrary config.validationTime = true := by
  simp only [analyzePosition, bind_ok_iff, mapErr_ok_iff, pure_ok_iff] at analyzed
  obtain ⟨_, _, _, _, _, _, _, _, _, _, _, _, der, hashed, edge, joined, _, checked, _, _, _, _, _,
    _, rfl⟩ := analyzed
  refine ⟨⟨rfl, ?_, ?_⟩, (read_of_checkCertificateValidity checked).2⟩
  · cases position <;> exact hashed
  · cases position <;> exact joined

theorem analyzePosition_raises (validPath : StackVerdict) (position : PathPosition) :
    Raises PathScopeError.NotOracle (analyzePosition sys config validPath position) := by
  unfold analyzePosition
  refine raises_bind (raises_other _ (by simp)) fun _ _ => ?_
  refine raises_bind (raises_other _ (by simp)) fun _ _ => ?_
  refine raises_bind (raises_other _ (by simp)) fun _ _ => ?_
  refine raises_bind (raises_other _ (by simp)) fun _ _ => ?_
  refine raises_bind (raises_other _ (by simp)) fun _ _ => ?_
  refine raises_bind (raises_other _ (by simp)) fun _ _ => ?_
  refine raises_bind (raises_other _ (by simp)) fun _ _ => ?_
  refine raises_bind (raises_other _ (by simp)) fun _ _ => ?_
  refine raises_bind (raises_other _ (by simp)) fun _ _ => ?_
  refine raises_bind (raises_other _ (by simp)) fun _ _ => ?_
  refine raises_bind (raises_other _ (by simp)) fun _ _ => ?_
  exact raises_bind (raises_other _ (by simp)) fun _ _ => raises_ok _

theorem checkControl_raises (design : BindingDesign) (certificate : String) :
    Raises PathScopeError.NotOracle (checkControl sys design certificate) :=
  checkBindingDesign_raises (by simp) (by simp) _ certificate

theorem analyze_yields (digest : ∀ bytes, (sys.sha256 bytes).length = 32) :
    Yields (fun report => Scoped report.scopes) PathScopeError.NotOracle (analyze sys config) := by
  refine yields_bind (raises_forM (checkControl_raises _)) fun _ _ => ?_
  refine yields_bind (raises_forM (checkControl_raises _)) fun _ _ => ?_
  refine yields_bind (raises_other _ (by simp)) fun basePath ran => ?_
  refine yields_bind (raises_other _ (by simp)) fun deltaPath _ => ?_
  refine yields_bind (raises_mapM (analyzePosition_raises _)) fun analyses analyzed => ?_
  refine yields_bind (raises_other _ (by simp)) fun anchor anchored => ?_
  obtain ⟨leaf, intermediate, root, rfl, leafPlaced, intermediatePlaced, rootPlaced, time⟩ :=
    eachPosition_placed placed_of_ok analyzed
  obtain ⟨leafHash, intermediateHash, rootHash, observed⟩ :=
    observed_of_runPath (mapErr_ok_iff.mp ran)
  obtain rfl := anchor_of_observed observed (mapErr_ok_iff.mp anchored)
  have distinct : Distinct
      [("-delta-certificate", .classical), ("-base-certificate", .postQuantum)] :=
    ⟨by decide, by decide⟩
  obtain ⟨scopes, evaluated, accepted⟩ := evaluateEach_analyses digest PositionAnalysis.toLocated
    (parts basePath.observation.verdict deltaPath.observation.verdict) distinct (fun _ => rfl)
    .classical .classical .chameleon (by decide) (by decide) config.settings observed time leafPlaced
    intermediatePlaced rootPlaced
  have requested : evaluateEach sys.toLibrary (requests config basePath deltaPath
      (.certificateDerSha256 rootHash) [leaf, intermediate, root]) = .ok scopes := evaluated
  simp only [requested, mapErr_ok, ok_bind]
  refine yields_bind (raises_other _ (by simp)) fun _ _ => ?_
  refine yields_bind (raises_other _ (by simp)) fun _ _ => ?_
  exact yields_bind (raises_other _ (by simp)) fun _ _ => yields_ok accepted

end Accepted

end HybridX509.Analysis.ChameleonPathScope
