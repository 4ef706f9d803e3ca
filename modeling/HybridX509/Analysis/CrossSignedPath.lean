import HybridX509.Analysis.AtomicPathScope
import HybridX509.Lib.LexicalPath

/-! # The cross-signed path analysis

`analysis/cross_signed_path.rs`: one leaf whose issuer is certified twice, under a
classical and under an atomic root. Five builder runs say which route is taken, the
atomic analysis and the classical controls supply the evidence, and both routes are
evaluated.
-/

namespace HybridX509.Analysis.CrossSignedPath

open Lib X509 Oracle Adapters Adapters.BouncyCastle AtomicPathScope Revocation.Ocsp PathRuns

structure CrossSignedPathConfig where
  controls : String
  docker : String
  image : String
  validationTime : String
  policy : Policy
  previousAuthentication : Option AuthenticationLevel
  timeout : Duration
  maxOutputBytes : Nat
  deriving Repr, DecidableEq

inductive SelectedRoute where
  | classical
  | atomic
  deriving Repr, DecidableEq

structure SelectedPathReport where
  adapter : AdapterReport
  selectedPathSha256 : List String
  route : SelectedRoute
  deriving Repr, DecidableEq

structure CrossSignedPathReport where
  apiVersion : String
  selectedPath : SelectedPathReport
  forcedClassicalPath : SelectedPathReport
  forcedAtomicPath : SelectedPathReport
  classicalFallbackPath : SelectedPathReport
  atomicFallbackPath : SelectedPathReport
  invalidClassicalIntermediatePath : AdapterReport
  invalidClassicalRootPath : AdapterReport
  invalidClassicalLeafComponentPaths : List AdapterReport
  classicalIntermediateSignature : AdapterReport
  invalidClassicalIntermediateSignature : AdapterReport
  classicalRootSignature : AdapterReport
  invalidClassicalRootSignature : AdapterReport
  classicalRootCrlStatus : AdapterReport
  sharedIcaCrlStatus : AdapterReport
  atomicRoute : AtomicPathScopeReport
  selectedScopes : List ScopedVerificationResult
  classicalFallbackScopes : List ScopedVerificationResult
  deriving Repr, DecidableEq

inductive CrossSignedPathError where
  | invalidSelectedPath
  | unexpectedRoute
  | bouncyCastle (error : BouncyCastleError)
  | adapter (error : AdapterSupportError)
  | atomic (error : AtomicPathScopeError)
  | pem (error : PemError)
  | oracle (abort : Abort)
  | json (error : String)
  deriving Repr, DecidableEq

structure RouteHashes where
  classicalIca : String
  classicalRoot : String
  atomicIca : String
  atomicRoot : String
  deriving Repr, DecidableEq

structure SelectedPath where
  selectedPathSha256 : List String
  route : SelectedRoute
  deriving Repr, DecidableEq

/-- A value for each of the five builder runs. -/
structure Builders (α : Type) where
  selected : α
  forcedClassical : α
  forcedAtomic : α
  classicalFallback : α
  atomicFallback : α
  deriving Repr, DecidableEq

/-- The executions on the classical route beside the builder runs. -/
structure ClassicalControls where
  invalidIntermediatePath : AdapterExecution
  invalidRootPath : AdapterExecution
  invalidLeafEcdsaPath : AdapterExecution
  invalidLeafMldsaPath : AdapterExecution
  intermediateSignature : AdapterExecution
  invalidIntermediateSignature : AdapterExecution
  rootSignature : AdapterExecution
  invalidRootSignature : AdapterExecution
  rootCrl : AdapterExecution
  icaCrl : AdapterExecution
  deriving Repr, DecidableEq

namespace CrossSignedPathConfig

variable (config : CrossSignedPathConfig)

def path (name : String) : String := join config.controls name

def settings : ScopeSettings :=
  ⟨config.policy, config.validationTime, config.previousAuthentication⟩

def runSettings : RunSettings :=
  ⟨config.docker, config.image, config.validationTime, config.timeout, config.maxOutputBytes⟩

def atomicConfig : AtomicPathScopeConfig where
  docker := config.docker
  image := config.image
  root := config.path "cross-root-atomic.pem"
  intermediate := config.path "cross-ica-atomic.pem"
  leaf := config.path "cross-leaf.pem"
  invalidClassicalRoot := config.path "cross-root-atomic-bad-ecdsa.pem"
  invalidPostQuantumRoot := config.path "cross-root-atomic-bad-mldsa.pem"
  invalidClassicalIntermediate := config.path "cross-ica-atomic-bad-ecdsa.pem"
  invalidPostQuantumIntermediate := config.path "cross-ica-atomic-bad-mldsa.pem"
  invalidClassicalLeaf := config.path "cross-leaf-bad-ecdsa.pem"
  invalidPostQuantumLeaf := config.path "cross-leaf-bad-mldsa.pem"
  rootCrl := config.path "cross-root-atomic-crl.pem"
  intermediateCrl := config.path "cross-ica-crl.pem"
  validationTime := config.validationTime
  policy := config.policy
  previousAuthentication := config.previousAuthentication
  timeout := config.timeout
  maxOutputBytes := config.maxOutputBytes

end CrossSignedPathConfig

section Runs

variable (sys : System BouncyCastleConfig) (config : CrossSignedPathConfig)

def runBuilder (roots intermediates leaf : String) : Except BouncyCastleError AdapterExecution :=
  run sys config.runSettings (config.path roots) (config.path intermediates) (config.path leaf)
    .pathBuilder none

def runDirect (issuer certificate : String) : Except BouncyCastleError AdapterExecution :=
  run sys config.runSettings (config.path issuer) (config.path issuer) (config.path certificate)
    .certificateSignature none

def runCrl (issuer certificate crl : String) : Except BouncyCastleError AdapterExecution :=
  run sys config.runSettings (config.path issuer) (config.path issuer) (config.path certificate)
    .crlStatus (some (config.path crl))

def certificateHash (name : String) : Except PemError String :=
  certificateDerHash sys.toLibrary (config.path name) INPUT_LIMIT

def routeHashes : Except PemError RouteHashes := do
  let classicalIca ← certificateHash sys config "cross-ica-classical.pem"
  let classicalRoot ← certificateHash sys config "cross-root-classical.pem"
  let atomicIca ← certificateHash sys config "cross-ica-atomic.pem"
  let atomicRoot ← certificateHash sys config "cross-root-atomic.pem"
  return ⟨classicalIca, classicalRoot, atomicIca, atomicRoot⟩

def builderExecutions : Except BouncyCastleError (Builders AdapterExecution) := do
  let selected ← runBuilder sys config "cross-roots.pem" "cross-icas.pem" "cross-leaf.pem"
  let forcedClassical ←
    runBuilder sys config "cross-root-classical.pem" "cross-icas.pem" "cross-leaf.pem"
  let forcedAtomic ←
    runBuilder sys config "cross-root-atomic.pem" "cross-icas.pem" "cross-leaf.pem"
  let classicalFallback ←
    runBuilder sys config "cross-roots.pem" "cross-icas-classical-fallback.pem" "cross-leaf.pem"
  let atomicFallback ←
    runBuilder sys config "cross-roots.pem" "cross-icas-atomic-fallback.pem" "cross-leaf.pem"
  return ⟨selected, forcedClassical, forcedAtomic, classicalFallback, atomicFallback⟩

def selectedPath (execution : AdapterExecution) (hashes : RouteHashes) :
    Except CrossSignedPathError SelectedPath := do
  failIf (execution.observation.verdict ≠ .accept) .invalidSelectedPath
  let parsed ←
    mapErr .json (sys.selectedPathFromSlice execution.verificationOutput.stdout.bytes)
  match parsed with
  | [_, ica, root] =>
      if ica = hashes.classicalIca ∧ root = hashes.classicalRoot then
        .ok ⟨parsed, .classical⟩
      else if ica = hashes.atomicIca ∧ root = hashes.atomicRoot then
        .ok ⟨parsed, .atomic⟩
      else .error .invalidSelectedPath
  | _ => .error .invalidSelectedPath

/-- The five selected paths; all but the first have to take their controlled route. -/
def selectedPaths (executions : Builders AdapterExecution) (hashes : RouteHashes) :
    Except CrossSignedPathError (Builders SelectedPath) := do
  let selected ← selectedPath sys executions.selected hashes
  let forcedClassical ← selectedPath sys executions.forcedClassical hashes
  let forcedAtomic ← selectedPath sys executions.forcedAtomic hashes
  let classicalFallback ← selectedPath sys executions.classicalFallback hashes
  let atomicFallback ← selectedPath sys executions.atomicFallback hashes
  failIf (forcedClassical.route ≠ .classical ∨ forcedAtomic.route ≠ .atomic
      ∨ classicalFallback.route ≠ .classical ∨ atomicFallback.route ≠ .atomic)
    .unexpectedRoute
  return ⟨selected, forcedClassical, forcedAtomic, classicalFallback, atomicFallback⟩

def classicalControls : Except BouncyCastleError ClassicalControls := do
  let invalidIntermediatePath ← runBuilder sys config "cross-root-classical.pem"
    "cross-ica-classical-bad-signature.pem" "cross-leaf.pem"
  let invalidRootPath ← runBuilder sys config "cross-root-classical-bad-signature.pem"
    "cross-ica-classical.pem" "cross-leaf.pem"
  let invalidLeafEcdsaPath ← runBuilder sys config "cross-root-classical.pem"
    "cross-ica-classical.pem" "cross-leaf-bad-ecdsa.pem"
  let invalidLeafMldsaPath ← runBuilder sys config "cross-root-classical.pem"
    "cross-ica-classical.pem" "cross-leaf-bad-mldsa.pem"
  let intermediateSignature ←
    runDirect sys config "cross-root-classical.pem" "cross-ica-classical.pem"
  let invalidIntermediateSignature ←
    runDirect sys config "cross-root-classical.pem" "cross-ica-classical-bad-signature.pem"
  let rootSignature ←
    runDirect sys config "cross-root-classical.pem" "cross-root-classical.pem"
  let invalidRootSignature ←
    runDirect sys config "cross-root-classical.pem" "cross-root-classical-bad-signature.pem"
  let rootCrl ← runCrl sys config "cross-root-classical.pem" "cross-ica-classical.pem"
    "cross-root-classical-crl.pem"
  let icaCrl ← runCrl sys config "cross-ica-classical.pem" "cross-leaf.pem" "cross-ica-crl.pem"
  return ⟨invalidIntermediatePath, invalidRootPath, invalidLeafEcdsaPath, invalidLeafMldsaPath,
    intermediateSignature, invalidIntermediateSignature, rootSignature, invalidRootSignature,
    rootCrl, icaCrl⟩

end Runs

/-! ## Evaluating a route -/

section Routes

variable (sys : System BouncyCastleConfig) (config : CrossSignedPathConfig)

def evaluateScopes (builder : AdapterExecution) (certificatePath : List CertificateNode)
    (evidence : List Evidence) (expectedTrustAnchor : TrustAnchor) :
    Except Abort (List ScopedVerificationResult) :=
  evaluateEach sys.toLibrary (scopeRequest config.settings builder.observation expectedTrustAnchor
    (certificatePath.filter (·.position != .trustAnchor))
    (evidence.filter (·.position != .trustAnchor)))

/-- `atomic.scopes[0]`. -/
def firstScope (atomic : AtomicPathScopeReport) : Except Abort ScopedVerificationResult :=
  orFail atomic.scopes.head?
    (.panicked "index out of bounds: the len is 0 but the index is 0")

def evaluateAtomicRoute (builder : AdapterExecution) (atomic : AtomicPathScopeReport) :
    Except Abort (List ScopedVerificationResult) := do
  let first ← firstScope atomic
  evaluateScopes sys config builder first.result.certificatePath first.result.evaluatedEvidence
    first.result.expectedTrustAnchor

def outcome (valid invalid : StackVerdict) (direct : Bool) : CheckResult :=
  outcomeCheck valid invalid direct

def node (id : String) (position : PathPosition)
    (subjectPublicKeyScheme certificateSignatureScheme : AlgorithmSecurity)
    (bindingDesign : BindingDesign) (derSha256 issuerEdgeSha256 : Option String) :
    CertificateNode where
  id := id
  position := position
  subjectPublicKeyScheme := subjectPublicKeyScheme
  certificateSignatureScheme := certificateSignatureScheme
  bindingDesign := bindingDesign
  derSha256 := derSha256
  issuerEdgeSha256 := issuerEdgeSha256

/-- A leaf item of the atomic analysis on the classical route. -/
def rerouted (builder icaCrl : AdapterExecution) (leafHash leafEdgeHash : String)
    (item : Evidence) : Evidence :=
  { item with
    path := checkFromVerdict builder.observation.verdict
    revocation := checkFromVerdict icaCrl.observation.verdict
    certificateDerSha256 := some leafHash
    issuerEdgeSha256 := some leafEdgeHash }

/-- The item of a certificate with a classical signature only. -/
def signatureEvidence (id certificateId : String) (position : PathPosition) (hash : String)
    (edge : Option String) (builder signature crl : AdapterExecution)
    (validity outcome : CheckResult) : Evidence where
  id := id
  certificateId := certificateId
  position := position
  certificateDerSha256 := some hash
  evidenceArtifactDerSha256 := some hash
  issuerEdgeSha256 := edge
  authenticationOperationId := none
  kind := .classical
  present := .observed .pass
  recognized := .observed .pass
  signature := checkFromVerdict signature.observation.verdict
  binding := .observed .notApplicable
  path := checkFromVerdict builder.observation.verdict
  validity := validity
  revocation := checkFromVerdict crl.observation.verdict
  revocationMethod := .crl
  appliedRevocationPolicy := .crlHardFail
  decisionSensitiveForFixture := outcome

def evaluateClassicalRoute (builder : AdapterExecution) (atomic : AtomicPathScopeReport)
    (controls : ClassicalControls) :
    Except CrossSignedPathError (List ScopedVerificationResult) := do
  let first ← mapErr .oracle (firstScope atomic)
  let leafEvidence := first.result.evaluatedEvidence.filter (·.position == .endEntity)
  let leafHash ← mapErr .pem (certificateHash sys config "cross-leaf.pem")
  let leafEdgeHash ← mapErr .pem (issuerEdgeHash sys.toLibrary (config.path "cross-leaf.pem")
    (config.path "cross-ica-classical.pem") INPUT_LIMIT)
  let intermediateHash ← mapErr .pem (certificateHash sys config "cross-ica-classical.pem")
  let intermediateEdgeHash ←
    mapErr .pem (issuerEdgeHash sys.toLibrary (config.path "cross-ica-classical.pem")
      (config.path "cross-root-classical.pem") INPUT_LIMIT)
  let rootHash ← mapErr .pem (certificateHash sys config "cross-root-classical.pem")
  let valid := builder.observation.verdict
  let intermediateOutcome := outcome valid controls.invalidIntermediatePath.observation.verdict
    (controls.intermediateSignature.observation.verdict == .accept
      && controls.invalidIntermediateSignature.observation.verdict == .reject)
  let rootOutcome := outcome valid controls.invalidRootPath.observation.verdict
    (controls.rootSignature.observation.verdict == .accept
      && controls.invalidRootSignature.observation.verdict == .reject)
  let intermediateValidity ← mapErr .pem (checkCertificateValidity sys.toLibrary
    (config.path "cross-ica-classical.pem") config.validationTime INPUT_LIMIT)
  let rootValidity ← mapErr .pem (checkCertificateValidity sys.toLibrary
    (config.path "cross-root-classical.pem") config.validationTime INPUT_LIMIT)
  mapErr .oracle (evaluateScopes sys config builder
    [node "leaf" .endEntity .classical .hybrid .atomicComposite (some leafHash)
      (some leafEdgeHash),
      node "intermediate" .intermediate .classical .classical .none (some intermediateHash)
        (some intermediateEdgeHash),
      node "root" .trustAnchor .classical .classical .none (some rootHash) none]
    (leafEvidence.map (rerouted builder controls.icaCrl leafHash leafEdgeHash) ++
      [signatureEvidence "intermediate-ecdsa-signature" "intermediate" .intermediate
        intermediateHash (some intermediateEdgeHash) builder controls.intermediateSignature
        controls.rootCrl intermediateValidity intermediateOutcome,
      signatureEvidence "root-ecdsa-signature" "root" .trustAnchor rootHash none builder
        controls.rootSignature controls.rootCrl rootValidity rootOutcome])
    (.certificateDerSha256 rootHash))

/-! ## The report -/

def SelectedPath.withReport (selected : SelectedPath) (adapter : AdapterReport) :
    SelectedPathReport :=
  ⟨adapter, selected.selectedPathSha256, selected.route⟩

def writeReport (executions : Builders AdapterExecution) (paths : Builders SelectedPath)
    (controls : ClassicalControls) (atomic : AtomicPathScopeReport)
    (selectedScopes fallbackScopes : List ScopedVerificationResult) :
    Except AdapterSupportError CrossSignedPathReport := do
  let selected ← executions.selected.report sys
  let forcedClassical ← executions.forcedClassical.report sys
  let forcedAtomic ← executions.forcedAtomic.report sys
  let classicalFallback ← executions.classicalFallback.report sys
  let atomicFallback ← executions.atomicFallback.report sys
  let invalidClassicalIntermediatePath ← controls.invalidIntermediatePath.report sys
  let invalidClassicalRootPath ← controls.invalidRootPath.report sys
  let invalidLeafEcdsaPath ← controls.invalidLeafEcdsaPath.report sys
  let invalidLeafMldsaPath ← controls.invalidLeafMldsaPath.report sys
  let classicalIntermediateSignature ← controls.intermediateSignature.report sys
  let invalidClassicalIntermediateSignature ← controls.invalidIntermediateSignature.report sys
  let classicalRootSignature ← controls.rootSignature.report sys
  let invalidClassicalRootSignature ← controls.invalidRootSignature.report sys
  let classicalRootCrlStatus ← controls.rootCrl.report sys
  let sharedIcaCrlStatus ← controls.icaCrl.report sys
  return {
    apiVersion := API_VERSION
    selectedPath := paths.selected.withReport selected
    forcedClassicalPath := paths.forcedClassical.withReport forcedClassical
    forcedAtomicPath := paths.forcedAtomic.withReport forcedAtomic
    classicalFallbackPath := paths.classicalFallback.withReport classicalFallback
    atomicFallbackPath := paths.atomicFallback.withReport atomicFallback
    invalidClassicalIntermediatePath := invalidClassicalIntermediatePath
    invalidClassicalRootPath := invalidClassicalRootPath
    invalidClassicalLeafComponentPaths := [invalidLeafEcdsaPath, invalidLeafMldsaPath]
    classicalIntermediateSignature := classicalIntermediateSignature
    invalidClassicalIntermediateSignature := invalidClassicalIntermediateSignature
    classicalRootSignature := classicalRootSignature
    invalidClassicalRootSignature := invalidClassicalRootSignature
    classicalRootCrlStatus := classicalRootCrlStatus
    sharedIcaCrlStatus := sharedIcaCrlStatus
    atomicRoute := atomic
    selectedScopes := selectedScopes
    classicalFallbackScopes := fallbackScopes }

def analyze : Except CrossSignedPathError CrossSignedPathReport := do
  let hashes ← mapErr .pem (routeHashes sys config)
  let executions ← mapErr .bouncyCastle (builderExecutions sys config)
  let paths ← selectedPaths sys executions hashes
  let controls ← mapErr .bouncyCastle (classicalControls sys config)
  let atomic ← mapErr .atomic (AtomicPathScope.analyze sys config.atomicConfig)
  let atomicScopes ← mapErr .oracle (evaluateAtomicRoute sys config executions.selected atomic)
  let fallbackScopes ←
    evaluateClassicalRoute sys config executions.classicalFallback atomic controls
  let selectedScopes :=
    match paths.selected.route with
    | .atomic => atomicScopes
    | .classical => fallbackScopes
  mapErr .adapter
    (writeReport sys executions paths controls atomic selectedScopes fallbackScopes)

end Routes

end HybridX509.Analysis.CrossSignedPath
