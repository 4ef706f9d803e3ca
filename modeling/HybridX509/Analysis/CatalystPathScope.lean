import HybridX509.Analysis.PathPositions
import HybridX509.Revocation.Crl
import HybridX509.X509.PemText

/-! # The Catalyst path analysis

`analysis/catalyst_path_scope.rs`: a path of certificates with a second, alternative
signature. The classical control of a position is made here, by damaging the outer
signature and writing the certificate to a temporary file; the valid path is run again
for every position, and the outputs of these runs need not repeat the first.
-/

namespace HybridX509.Analysis.CatalystPathScope

open Lib X509 Oracle Adapters Adapters.BouncyCastle Revocation Revocation.Ocsp PathRuns PathPositions

structure CatalystPathScopeConfig where
  docker : String
  image : String
  root : String
  intermediate : String
  leaf : String
  invalidAlternativeRoot : String
  invalidAlternativeIntermediate : String
  invalidAlternativeLeaf : String
  rootCrl : String
  intermediateCrl : String
  validationTime : String
  policy : Policy
  previousAuthentication : Option AuthenticationLevel
  timeout : Duration
  maxOutputBytes : Nat
  deriving Repr, DecidableEq

structure CatalystPathPositionReport where
  position : PathPosition
  crlStatus : CrlStatusResult
  validity : CheckResult
  validAlternativeSignature : AdapterReport
  invalidAlternativeSignature : AdapterReport
  invalidAlternativeDefaultPath : AdapterReport
  invalidClassicalDefaultPath : AdapterReport
  classicalDecisionSensitiveForFixture : CheckResult
  postQuantumDecisionSensitiveForFixture : CheckResult
  deriving Repr, DecidableEq

structure CatalystPathScopeReport where
  apiVersion : String
  validDefaultPath : AdapterReport
  positions : List CatalystPathPositionReport
  scopes : List ScopedVerificationResult
  deriving Repr, DecidableEq

structure PositionAnalysis extends Located where
  crlStatus : CrlStatusResult
  validity : CheckResult
  validAlternative : AdapterExecution
  invalidAlternative : AdapterExecution
  invalidAlternativePath : AdapterExecution
  invalidClassicalPath : AdapterExecution
  classicalOutcome : CheckResult
  postQuantumOutcome : CheckResult
  deriving Repr, DecidableEq

structure PositionInputs where
  certificate : String
  issuer : String
  crl : String
  invalidAlternative : String
  deriving Repr, DecidableEq

namespace CatalystPathScopeConfig

variable (config : CatalystPathScopeConfig)

def settings : ScopeSettings :=
  ⟨config.policy, config.validationTime, config.previousAuthentication⟩

def runSettings : RunSettings :=
  ⟨config.docker, config.image, config.validationTime, config.timeout, config.maxOutputBytes⟩

def files : PathFiles := ⟨config.root, config.intermediate, config.leaf⟩

def controls : List String :=
  [config.root, config.intermediate, config.leaf, config.invalidAlternativeRoot,
    config.invalidAlternativeIntermediate, config.invalidAlternativeLeaf]

def inputs : PathPosition → PositionInputs
  | .endEntity =>
      ⟨config.leaf, config.intermediate, config.intermediateCrl, config.invalidAlternativeLeaf⟩
  | .intermediate =>
      ⟨config.intermediate, config.root, config.rootCrl, config.invalidAlternativeIntermediate⟩
  | .trustAnchor => ⟨config.root, config.root, config.rootCrl, config.invalidAlternativeRoot⟩

end CatalystPathScopeConfig

/-- The surroundings of the analysis: `readable_tempfile`, which gives the path of the
    written file, and what the repeated run of each position printed. -/
structure Surroundings extends System BouncyCastleConfig where
  readableTempfile : List UInt8 → Except String String
  rerun : PathPosition → Except String ProcessOutput

section Analyze

variable (sys : Surroundings) (config : CatalystPathScopeConfig)

def runDirect (issuer certificate : String) : Except BouncyCastleError AdapterExecution :=
  run sys.toSystem config.runSettings config.root issuer certificate .alternativeSignature none

def pathWithReplacement (position : PathPosition) (replacement : String) :
    Except BouncyCastleError AdapterExecution :=
  runPath sys.toSystem config.runSettings (config.files.withReplacement position replacement)

/-- The valid path, run again. -/
def runAgain (position : PathPosition) : Except BouncyCastleError AdapterExecution :=
  runPath { sys.toSystem with runProgram := fun _ => sys.rerun position } config.runSettings
    config.files

def analyzePosition (position : PathPosition) : Except PathScopeError PositionAnalysis := do
  let inputs := config.inputs position
  let validAlternative ←
    mapErr .bouncyCastle (runDirect sys config inputs.issuer inputs.certificate)
  let invalidAlternative ←
    mapErr .bouncyCastle (runDirect sys config inputs.issuer inputs.invalidAlternative)
  let invalidAlternativePath ←
    mapErr .bouncyCastle (pathWithReplacement sys config position inputs.invalidAlternative)
  let invalidClassicalFile ← damagedCopy .pem sys.toLibrary .mutation .io sys.base64Encode
    sys.readableTempfile inputs.certificate
  let invalidClassicalPath ←
    mapErr .bouncyCastle (pathWithReplacement sys config position invalidClassicalFile)
  let validDefault ← mapErr .bouncyCastle (runAgain sys config position)
  let certificateDerSha256 ←
    mapErr .pem (certificateDerHash sys.toLibrary inputs.certificate INPUT_LIMIT)
  let issuerEdgeSha256 ←
    mapErr .pem (positionEdge sys.toLibrary position inputs.certificate inputs.issuer)
  let crlStatus ← mapErr .pem (checkCrlStatus sys.toLibrary inputs.certificate inputs.issuer
    inputs.crl config.validationTime INPUT_LIMIT)
  let validity ← mapErr .pem
    (checkCertificateValidity sys.toLibrary inputs.certificate config.validationTime INPUT_LIMIT)
  return {
    position := position
    certificateDerSha256 := certificateDerSha256
    issuerEdgeSha256 := issuerEdgeSha256
    crlStatus := crlStatus
    validity := validity
    validAlternative := validAlternative
    invalidAlternative := invalidAlternative
    invalidAlternativePath := invalidAlternativePath
    invalidClassicalPath := invalidClassicalPath
    classicalOutcome := outcomeCheck validDefault.observation.verdict
      invalidClassicalPath.observation.verdict true
    postQuantumOutcome := outcomeCheck validDefault.observation.verdict
      invalidAlternativePath.observation.verdict
      (validAlternative.observation.verdict == .accept
        && invalidAlternative.observation.verdict == .reject) }

/-- The two items of a position. The alternative run stands for signature, binding and
    path alike. -/
def parts (validPath : StackVerdict) (analysis : PositionAnalysis) : List Part :=
  let alternative := checkFromVerdict analysis.validAlternative.observation.verdict
  [{ name := "-classical-signature"
     kind := .classical
     signature := analysis.crlStatus.issuer
     binding := .observed .notApplicable
     path := checkFromVerdict validPath
     validity := analysis.validity
     revocation := analysis.crlStatus.revocation
     decisionSensitiveForFixture := analysis.classicalOutcome },
   { name := "-alternative-signature"
     kind := .postQuantum
     signature := alternative
     binding := alternative
     path := alternative
     validity := analysis.validity
     revocation := analysis.crlStatus.revocation
     decisionSensitiveForFixture := analysis.postQuantumOutcome }]

def positionEvidence (validPath : StackVerdict) (analysis : PositionAnalysis) : List Evidence :=
  (parts validPath analysis).map analysis.item

def certificateNode (analysis : PositionAnalysis) : CertificateNode :=
  analysis.node .classical .classical .catalyst

def positionReport (analysis : PositionAnalysis) :
    Except AdapterSupportError CatalystPathPositionReport := do
  let validAlternativeSignature ← analysis.validAlternative.report sys.toSystem
  let invalidAlternativeSignature ← analysis.invalidAlternative.report sys.toSystem
  let invalidAlternativeDefaultPath ← analysis.invalidAlternativePath.report sys.toSystem
  let invalidClassicalDefaultPath ← analysis.invalidClassicalPath.report sys.toSystem
  return {
    position := analysis.position
    crlStatus := analysis.crlStatus
    validity := analysis.validity
    validAlternativeSignature := validAlternativeSignature
    invalidAlternativeSignature := invalidAlternativeSignature
    invalidAlternativeDefaultPath := invalidAlternativeDefaultPath
    invalidClassicalDefaultPath := invalidClassicalDefaultPath
    classicalDecisionSensitiveForFixture := analysis.classicalOutcome
    postQuantumDecisionSensitiveForFixture := analysis.postQuantumOutcome }

/-- A control has to use the Catalyst scheme. -/
def checkControl (certificate : String) : Except PathScopeError Unit :=
  checkBindingDesign .pem sys.toLibrary .wrongScheme .catalyst certificate

def requests (validPath : AdapterExecution) (expectedTrustAnchor : TrustAnchor)
    (analyses : List PositionAnalysis) : PathScope → VerificationRequest :=
  let below := belowAnchor PositionAnalysis.toLocated analyses
  scopeRequest config.settings validPath.observation expectedTrustAnchor (below.map certificateNode)
    (below.flatMap (positionEvidence validPath.observation.verdict))

def analyze : Except PathScopeError CatalystPathScopeReport := do
  config.controls.forM (checkControl sys)
  let validPath ← mapErr .bouncyCastle (runPath sys.toSystem config.runSettings config.files)
  let analyses ← eachPosition (analyzePosition sys config)
  let expectedTrustAnchor ←
    mapErr .pem (certificateTrustAnchor sys.toLibrary config.root INPUT_LIMIT)
  let scopes ← mapErr .oracle (evaluateEach sys.toLibrary
    (requests config validPath expectedTrustAnchor analyses))
  let positions ← mapErr .support (analyses.mapM (positionReport sys))
  let validDefaultPath ← mapErr .support (validPath.report sys.toSystem)
  return ⟨API_VERSION, validDefaultPath, positions, scopes⟩

end Analyze

/-! ## The requests are accepted -/

section Accepted

variable {sys : Surroundings} {config : CatalystPathScopeConfig}

theorem placed_of_ok {position : PathPosition} {analysis : PositionAnalysis}
    (analyzed : analyzePosition sys config position = .ok analysis) :
    Placed sys.toLibrary config.files position analysis.toLocated ∧
      readsTime sys.toLibrary config.validationTime = true := by
  simp only [analyzePosition, bind_ok_iff, mapErr_ok_iff, pure_ok_iff] at analyzed
  obtain ⟨_, _, _, _, _, _, _, _, _, _, _, _, der, hashed, edge, joined, _, _, _, checked,
    rfl⟩ := analyzed
  refine ⟨⟨rfl, ?_, ?_⟩, (read_of_checkCertificateValidity checked).2⟩
  · cases position <;> exact hashed
  · cases position <;> exact joined

theorem analyzePosition_raises (position : PathPosition) :
    Raises PathScopeError.NotOracle (analyzePosition sys config position) := by
  unfold analyzePosition
  refine raises_bind (raises_other _ (by simp)) fun _ _ => ?_
  refine raises_bind (raises_other _ (by simp)) fun _ _ => ?_
  refine raises_bind (raises_other _ (by simp)) fun _ _ => ?_
  refine raises_bind (damagedCopy_raises (by simp) (by simp) (by simp) _) fun _ _ => ?_
  refine raises_bind (raises_other _ (by simp)) fun _ _ => ?_
  refine raises_bind (raises_other _ (by simp)) fun _ _ => ?_
  refine raises_bind (raises_other _ (by simp)) fun _ _ => ?_
  refine raises_bind (raises_other _ (by simp)) fun _ _ => ?_
  refine raises_bind (raises_other _ (by simp)) fun _ _ => ?_
  exact raises_bind (raises_other _ (by simp)) fun _ _ => raises_ok _

theorem checkControl_raises (certificate : String) :
    Raises PathScopeError.NotOracle (checkControl sys certificate) :=
  checkBindingDesign_raises (by simp) (by simp) _ certificate

theorem analyze_yields (digest : ∀ bytes, (sys.sha256 bytes).length = 32) :
    Yields (fun report => Scoped report.scopes) PathScopeError.NotOracle (analyze sys config) := by
  refine yields_bind (raises_forM checkControl_raises) fun _ _ => ?_
  refine yields_bind (raises_other _ (by simp)) fun validPath ran => ?_
  refine yields_bind (raises_mapM analyzePosition_raises) fun analyses analyzed => ?_
  refine yields_bind (raises_other _ (by simp)) fun anchor anchored => ?_
  obtain ⟨leaf, intermediate, root, rfl, leafPlaced, intermediatePlaced, rootPlaced, time⟩ :=
    eachPosition_placed placed_of_ok analyzed
  obtain ⟨leafHash, intermediateHash, rootHash, observed⟩ :=
    observed_of_runPath (mapErr_ok_iff.mp ran)
  obtain rfl := anchor_of_observed observed (mapErr_ok_iff.mp anchored)
  have distinct : Distinct
      [("-classical-signature", .classical), ("-alternative-signature", .postQuantum)] :=
    ⟨by decide, by decide⟩
  obtain ⟨scopes, evaluated, accepted⟩ := evaluateEach_analyses digest PositionAnalysis.toLocated
    (parts validPath.observation.verdict) distinct (fun _ => rfl) .classical .classical .catalyst
    (by decide) (by decide) config.settings observed time leafPlaced intermediatePlaced rootPlaced
  have requested : evaluateEach sys.toLibrary (requests config validPath
      (.certificateDerSha256 rootHash) [leaf, intermediate, root]) = .ok scopes := evaluated
  simp only [requested, mapErr_ok, ok_bind]
  refine yields_bind (raises_other _ (by simp)) fun _ _ => ?_
  exact yields_bind (raises_other _ (by simp)) fun _ _ => yields_ok accepted

end Accepted

end HybridX509.Analysis.CatalystPathScope
