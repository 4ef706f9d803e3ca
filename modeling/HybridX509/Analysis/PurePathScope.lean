import HybridX509.Analysis.PathPositions

/-! # The pure path analysis

`analysis/pure_path_scope.rs`: a path of certificates that are signed post-quantum only.
Each position contributes one item, and each certificate is replaced in turn by a copy
with a damaged signature.
-/

namespace HybridX509.Analysis.PurePathScope

open Lib X509 Oracle Adapters Adapters.BouncyCastle Revocation.Ocsp PathRuns PathPositions

structure PurePathScopeConfig where
  docker : String
  image : String
  root : String
  intermediate : String
  leaf : String
  invalidRoot : String
  invalidIntermediate : String
  invalidLeaf : String
  rootCrl : String
  intermediateCrl : String
  validationTime : String
  policy : Policy
  previousAuthentication : Option AuthenticationLevel
  timeout : Duration
  maxOutputBytes : Nat
  deriving Repr, DecidableEq

structure PurePathPositionReport where
  position : PathPosition
  validity : CheckResult
  crlStatus : AdapterReport
  signature : AdapterReport
  invalidSignature : AdapterReport
  invalidDefaultPath : AdapterReport
  decisionSensitiveForFixture : CheckResult
  deriving Repr, DecidableEq

structure PurePathScopeReport where
  apiVersion : String
  validDefaultPath : AdapterReport
  positions : List PurePathPositionReport
  scopes : List ScopedVerificationResult
  deriving Repr, DecidableEq

structure PositionAnalysis extends Located where
  validity : CheckResult
  crl : AdapterExecution
  signature : AdapterExecution
  invalidSignature : AdapterExecution
  invalidPath : AdapterExecution
  outcome : CheckResult
  deriving Repr, DecidableEq

structure PositionInputs where
  certificate : String
  issuer : String
  invalid : String
  crl : String
  deriving Repr, DecidableEq

namespace PurePathScopeConfig

variable (config : PurePathScopeConfig)

def settings : ScopeSettings :=
  ⟨config.policy, config.validationTime, config.previousAuthentication⟩

def runSettings : RunSettings :=
  ⟨config.docker, config.image, config.validationTime, config.timeout, config.maxOutputBytes⟩

def files : PathFiles := ⟨config.root, config.intermediate, config.leaf⟩

def controls : List String :=
  [config.root, config.intermediate, config.leaf, config.invalidRoot, config.invalidIntermediate,
    config.invalidLeaf]

def inputs : PathPosition → PositionInputs
  | .endEntity =>
      ⟨config.leaf, config.intermediate, config.invalidLeaf, config.intermediateCrl⟩
  | .intermediate =>
      ⟨config.intermediate, config.root, config.invalidIntermediate, config.rootCrl⟩
  | .trustAnchor => ⟨config.root, config.root, config.invalidRoot, config.rootCrl⟩

end PurePathScopeConfig

section Analyze

variable (sys : System BouncyCastleConfig) (config : PurePathScopeConfig)

def runDirect (issuer certificate : String) : Except BouncyCastleError AdapterExecution :=
  run sys config.runSettings issuer issuer certificate .certificateSignature none

def runCrl (issuer certificate crl : String) : Except BouncyCastleError AdapterExecution :=
  run sys config.runSettings issuer issuer certificate .crlStatus (some crl)

def pathWithReplacement (position : PathPosition) (replacement : String) :
    Except BouncyCastleError AdapterExecution :=
  runPath sys config.runSettings (config.files.withReplacement position replacement)

def analyzePosition (validPath : StackVerdict) (position : PathPosition) :
    Except PathScopeError PositionAnalysis := do
  let inputs := config.inputs position
  let signature ← mapErr .bouncyCastle (runDirect sys config inputs.issuer inputs.certificate)
  let invalidSignature ← mapErr .bouncyCastle (runDirect sys config inputs.issuer inputs.invalid)
  let invalidPath ← mapErr .bouncyCastle (pathWithReplacement sys config position inputs.invalid)
  let certificateDerSha256 ←
    mapErr .pem (certificateDerHash sys.toLibrary inputs.certificate INPUT_LIMIT)
  let issuerEdgeSha256 ←
    mapErr .pem (positionEdge sys.toLibrary position inputs.certificate inputs.issuer)
  let validity ← mapErr .pem
    (checkCertificateValidity sys.toLibrary inputs.certificate config.validationTime INPUT_LIMIT)
  let crl ← mapErr .bouncyCastle (runCrl sys config inputs.issuer inputs.certificate inputs.crl)
  return {
    position := position
    certificateDerSha256 := certificateDerSha256
    issuerEdgeSha256 := issuerEdgeSha256
    validity := validity
    crl := crl
    signature := signature
    invalidSignature := invalidSignature
    invalidPath := invalidPath
    outcome := outcomeCheck validPath invalidPath.observation.verdict
      (signature.observation.verdict == .accept
        && invalidSignature.observation.verdict == .reject) }

def part (validPath : StackVerdict) (analysis : PositionAnalysis) : Part where
  name := "-mldsa-certificate"
  kind := .postQuantum
  signature := checkFromVerdict analysis.signature.observation.verdict
  binding := .observed .notApplicable
  path := checkFromVerdict validPath
  validity := analysis.validity
  revocation := checkFromVerdict analysis.crl.observation.verdict
  decisionSensitiveForFixture := analysis.outcome

def positionEvidence (validPath : StackVerdict) (analysis : PositionAnalysis) : Evidence :=
  analysis.item (part validPath analysis)

def certificateNode (analysis : PositionAnalysis) : CertificateNode :=
  analysis.node .postQuantum .postQuantum .none

def positionReport (analysis : PositionAnalysis) :
    Except AdapterSupportError PurePathPositionReport := do
  let crlStatus ← analysis.crl.report sys
  let signature ← analysis.signature.report sys
  let invalidSignature ← analysis.invalidSignature.report sys
  let invalidDefaultPath ← analysis.invalidPath.report sys
  return ⟨analysis.position, analysis.validity, crlStatus, signature, invalidSignature,
    invalidDefaultPath, analysis.outcome⟩

/-- A control has to be signed post-quantum only. -/
def checkControl (certificate : String) : Except PathScopeError Unit := do
  let profile ← mapErr .pem (inspectCertificate sys.toLibrary certificate INPUT_LIMIT)
  failIf (profile.certificateSignatureScheme ≠ .postQuantum) .wrongScheme

def requests (validPath : AdapterExecution) (expectedTrustAnchor : TrustAnchor)
    (analyses : List PositionAnalysis) : PathScope → VerificationRequest :=
  let below := belowAnchor PositionAnalysis.toLocated analyses
  scopeRequest config.settings validPath.observation expectedTrustAnchor (below.map certificateNode)
    (below.map (positionEvidence validPath.observation.verdict))

def analyze : Except PathScopeError PurePathScopeReport := do
  config.controls.forM (checkControl sys)
  let validPath ← mapErr .bouncyCastle (runPath sys config.runSettings config.files)
  let analyses ← eachPosition (analyzePosition sys config validPath.observation.verdict)
  let expectedTrustAnchor ←
    mapErr .pem (certificateTrustAnchor sys.toLibrary config.root INPUT_LIMIT)
  let scopes ← mapErr .oracle (evaluateEach sys.toLibrary
    (requests config validPath expectedTrustAnchor analyses))
  let positions ← mapErr .support (analyses.mapM (positionReport sys))
  let validDefaultPath ← mapErr .support (validPath.report sys)
  return ⟨API_VERSION, validDefaultPath, positions, scopes⟩

end Analyze

/-! ## The requests are accepted -/

section Accepted

variable {sys : System BouncyCastleConfig} {config : PurePathScopeConfig}

theorem placed_of_ok {validPath : StackVerdict} {position : PathPosition}
    {analysis : PositionAnalysis}
    (analyzed : analyzePosition sys config validPath position = .ok analysis) :
    Placed sys.toLibrary config.files position analysis.toLocated ∧
      readsTime sys.toLibrary config.validationTime = true := by
  simp only [analyzePosition, bind_ok_iff, mapErr_ok_iff, pure_ok_iff] at analyzed
  obtain ⟨_, _, _, _, _, _, der, hashed, edge, joined, _, checked, _, _, rfl⟩ := analyzed
  refine ⟨⟨rfl, ?_, ?_⟩, (read_of_checkCertificateValidity checked).2⟩
  · cases position <;> exact hashed
  · cases position <;> exact joined

theorem analyzePosition_raises (validPath : StackVerdict) (position : PathPosition) :
    Raises PathScopeError.NotOracle (analyzePosition sys config validPath position) := by
  unfold analyzePosition
  refine raises_bind (raises_other _ (by simp)) fun _ _ => ?_
  refine raises_bind (raises_other _ (by simp)) fun _ _ => ?_
  refine raises_bind (raises_other _ (by simp)) fun _ _ => ?_
  refine raises_bind (raises_other _ (by simp)) fun _ _ => ?_
  refine raises_bind (raises_other _ (by simp)) fun _ _ => ?_
  refine raises_bind (raises_other _ (by simp)) fun _ _ => ?_
  exact raises_bind (raises_other _ (by simp)) fun _ _ => raises_ok _

theorem checkControl_raises (certificate : String) :
    Raises PathScopeError.NotOracle (checkControl sys certificate) := by
  refine raises_bind (raises_other _ (by simp)) fun _ _ => raises_failIf fun _ abort same => ?_
  cases same

theorem analyze_yields (digest : ∀ bytes, (sys.sha256 bytes).length = 32) :
    Yields (fun report => Scoped report.scopes) PathScopeError.NotOracle (analyze sys config) := by
  refine yields_bind (raises_forM checkControl_raises) fun _ _ => ?_
  refine yields_bind (raises_other _ (by simp)) fun validPath ran => ?_
  refine yields_bind (raises_mapM (analyzePosition_raises _)) fun analyses analyzed => ?_
  refine yields_bind (raises_other _ (by simp)) fun anchor anchored => ?_
  obtain ⟨leaf, intermediate, root, rfl, leafPlaced, intermediatePlaced, rootPlaced, time⟩ :=
    eachPosition_placed placed_of_ok analyzed
  obtain ⟨leafHash, intermediateHash, rootHash, observed⟩ :=
    observed_of_runPath (mapErr_ok_iff.mp ran)
  obtain rfl := anchor_of_observed observed (mapErr_ok_iff.mp anchored)
  have distinct : Distinct [("-mldsa-certificate", .postQuantum)] := ⟨by decide, by decide⟩
  obtain ⟨scopes, evaluated, accepted⟩ := evaluateEach_analyses digest PositionAnalysis.toLocated
    (fun analysis => [part validPath.observation.verdict analysis]) distinct (fun _ => rfl)
    .postQuantum .postQuantum .none (by decide) (by decide) config.settings observed time leafPlaced
    intermediatePlaced rootPlaced
  have requested : evaluateEach sys.toLibrary (requests config validPath
      (.certificateDerSha256 rootHash) [leaf, intermediate, root]) = .ok scopes := by
    rw [belowAnchor_placed PositionAnalysis.toLocated leafPlaced intermediatePlaced rootPlaced]
      at evaluated
    rw [requests, belowAnchor_placed PositionAnalysis.toLocated leafPlaced intermediatePlaced
      rootPlaced]
    exact evaluated
  simp only [requested, mapErr_ok, ok_bind]
  refine yields_bind (raises_other _ (by simp)) fun positions _ => ?_
  exact yields_bind (raises_other _ (by simp)) fun validDefaultPath _ => yields_ok accepted

end Accepted

end HybridX509.Analysis.PurePathScope
