import HybridX509.Analysis.PathPositions

/-! # The Related path analysis

`analysis/related_path_scope.rs`: a classical path whose certificates name post-quantum
certificates of a second path. Each position contributes an item for either certificate,
joined by an authentication operation that the two paths are known not to share.
-/

namespace HybridX509.Analysis.RelatedPathScope

open Lib X509 Oracle Adapters Adapters.BouncyCastle Revocation.Ocsp PathRuns PathPositions

structure RelatedPathScopeConfig where
  docker : String
  image : String
  classicalRoot : String
  classicalIntermediate : String
  classicalLeaf : String
  postQuantumRoot : String
  postQuantumIntermediate : String
  postQuantumLeaf : String
  invalidBindingRoot : String
  invalidBindingIntermediate : String
  invalidBindingLeaf : String
  invalidClassicalRoot : String
  invalidClassicalIntermediate : String
  invalidClassicalLeaf : String
  invalidPostQuantumRoot : String
  invalidPostQuantumIntermediate : String
  invalidPostQuantumLeaf : String
  classicalRootCrl : String
  classicalIntermediateCrl : String
  postQuantumRootCrl : String
  postQuantumIntermediateCrl : String
  validationTime : String
  policy : Policy
  previousAuthentication : Option AuthenticationLevel
  timeout : Duration
  maxOutputBytes : Nat
  deriving Repr, DecidableEq

structure RelatedPathPositionReport where
  position : PathPosition
  conformance : RelatedConformanceResult
  binding : RelatedBindingResult
  invalidBinding : RelatedBindingResult
  classicalValidity : CheckResult
  postQuantumValidity : CheckResult
  classicalCrlStatus : AdapterReport
  postQuantumCrlStatus : AdapterReport
  classicalSignature : AdapterReport
  invalidClassicalSignature : AdapterReport
  postQuantumSignature : AdapterReport
  invalidPostQuantumSignature : AdapterReport
  invalidClassicalDefaultPath : AdapterReport
  invalidBindingDefaultPath : AdapterReport
  invalidPostQuantumPath : AdapterReport
  classicalDecisionSensitiveForFixture : CheckResult
  postQuantumDecisionSensitiveForFixture : CheckResult
  deriving Repr, DecidableEq

structure RelatedPathScopeReport where
  apiVersion : String
  classicalDefaultPath : AdapterReport
  postQuantumPathControl : AdapterReport
  positions : List RelatedPathPositionReport
  scopes : List ScopedVerificationResult
  deriving Repr, DecidableEq

structure PositionAnalysis extends Located where
  postQuantumCertificateDerSha256 : String
  conformance : RelatedConformanceResult
  binding : RelatedBindingResult
  invalidBinding : RelatedBindingResult
  classicalValidity : CheckResult
  postQuantumValidity : CheckResult
  classicalCrl : AdapterExecution
  postQuantumCrl : AdapterExecution
  classicalSignature : AdapterExecution
  invalidClassicalSignature : AdapterExecution
  postQuantumSignature : AdapterExecution
  invalidPostQuantumSignature : AdapterExecution
  invalidClassicalPath : AdapterExecution
  invalidBindingPath : AdapterExecution
  invalidPostQuantumPath : AdapterExecution
  classicalOutcome : CheckResult
  postQuantumOutcome : CheckResult
  deriving Repr, DecidableEq

structure PositionInputs where
  classical : String
  postQuantum : String
  invalidBinding : String
  invalidClassical : String
  invalidPostQuantum : String
  classicalIssuer : String
  postQuantumIssuer : String
  classicalCrl : String
  postQuantumCrl : String
  deriving Repr, DecidableEq

namespace RelatedPathScopeConfig

variable (config : RelatedPathScopeConfig)

def settings : ScopeSettings :=
  ⟨config.policy, config.validationTime, config.previousAuthentication⟩

def runSettings : RunSettings :=
  ⟨config.docker, config.image, config.validationTime, config.timeout, config.maxOutputBytes⟩

def classicalFiles : PathFiles :=
  ⟨config.classicalRoot, config.classicalIntermediate, config.classicalLeaf⟩

def postQuantumFiles : PathFiles :=
  ⟨config.postQuantumRoot, config.postQuantumIntermediate, config.postQuantumLeaf⟩

def classicalControls : List String :=
  [config.classicalRoot, config.classicalIntermediate, config.classicalLeaf,
    config.invalidBindingRoot, config.invalidBindingIntermediate, config.invalidBindingLeaf,
    config.invalidClassicalRoot, config.invalidClassicalIntermediate, config.invalidClassicalLeaf]

def postQuantumControls : List String :=
  [config.postQuantumRoot, config.postQuantumIntermediate, config.postQuantumLeaf,
    config.invalidPostQuantumRoot, config.invalidPostQuantumIntermediate,
    config.invalidPostQuantumLeaf]

def positionInputs : PathPosition → PositionInputs
  | .endEntity => {
      classical := config.classicalLeaf
      postQuantum := config.postQuantumLeaf
      invalidBinding := config.invalidBindingLeaf
      invalidClassical := config.invalidClassicalLeaf
      invalidPostQuantum := config.invalidPostQuantumLeaf
      classicalIssuer := config.classicalIntermediate
      postQuantumIssuer := config.postQuantumIntermediate
      classicalCrl := config.classicalIntermediateCrl
      postQuantumCrl := config.postQuantumIntermediateCrl }
  | .intermediate => {
      classical := config.classicalIntermediate
      postQuantum := config.postQuantumIntermediate
      invalidBinding := config.invalidBindingIntermediate
      invalidClassical := config.invalidClassicalIntermediate
      invalidPostQuantum := config.invalidPostQuantumIntermediate
      classicalIssuer := config.classicalRoot
      postQuantumIssuer := config.postQuantumRoot
      classicalCrl := config.classicalRootCrl
      postQuantumCrl := config.postQuantumRootCrl }
  | .trustAnchor => {
      classical := config.classicalRoot
      postQuantum := config.postQuantumRoot
      invalidBinding := config.invalidBindingRoot
      invalidClassical := config.invalidClassicalRoot
      invalidPostQuantum := config.invalidPostQuantumRoot
      classicalIssuer := config.classicalRoot
      postQuantumIssuer := config.postQuantumRoot
      classicalCrl := config.classicalRootCrl
      postQuantumCrl := config.postQuantumRootCrl }

end RelatedPathScopeConfig

section Analyze

variable (sys : System BouncyCastleConfig) (config : RelatedPathScopeConfig)

def runDirect (issuer certificate : String) : Except BouncyCastleError AdapterExecution :=
  run sys config.runSettings issuer issuer certificate .certificateSignature none

def runCrl (issuer certificate crl : String) : Except BouncyCastleError AdapterExecution :=
  run sys config.runSettings issuer issuer certificate .crlStatus (some crl)

def classicalPathWithReplacement (position : PathPosition) (replacement : String) :
    Except BouncyCastleError AdapterExecution :=
  runPath sys config.runSettings (config.classicalFiles.withReplacement position replacement)

def postQuantumPathWithReplacement (position : PathPosition) (replacement : String) :
    Except BouncyCastleError AdapterExecution :=
  runPath sys config.runSettings (config.postQuantumFiles.withReplacement position replacement)

def analyzePosition (classicalValid : StackVerdict) (position : PathPosition) :
    Except PathScopeError PositionAnalysis := do
  let inputs := config.positionInputs position
  let conformance ← mapErr .pem (verifyRelatedCertificateConformance sys.toLibrary
    inputs.classical inputs.postQuantum INPUT_LIMIT)
  let invalidBinding ← mapErr .pem
    (verifyRelatedBinding sys.toLibrary inputs.invalidBinding inputs.postQuantum INPUT_LIMIT)
  let classicalSignature ←
    mapErr .bouncyCastle (runDirect sys config inputs.classicalIssuer inputs.classical)
  let invalidClassicalSignature ←
    mapErr .bouncyCastle (runDirect sys config inputs.classicalIssuer inputs.invalidClassical)
  let postQuantumSignature ←
    mapErr .bouncyCastle (runDirect sys config inputs.postQuantumIssuer inputs.postQuantum)
  let invalidPostQuantumSignature ←
    mapErr .bouncyCastle (runDirect sys config inputs.postQuantumIssuer inputs.invalidPostQuantum)
  let invalidClassicalPath ←
    mapErr .bouncyCastle (classicalPathWithReplacement sys config position inputs.invalidClassical)
  let invalidBindingPath ←
    mapErr .bouncyCastle (classicalPathWithReplacement sys config position inputs.invalidBinding)
  let invalidPostQuantumPath ← mapErr .bouncyCastle
    (postQuantumPathWithReplacement sys config position inputs.invalidPostQuantum)
  let certificateDerSha256 ←
    mapErr .pem (certificateDerHash sys.toLibrary inputs.classical INPUT_LIMIT)
  let postQuantumCertificateDerSha256 ←
    mapErr .pem (certificateDerHash sys.toLibrary inputs.postQuantum INPUT_LIMIT)
  let issuerEdgeSha256 ←
    mapErr .pem (positionEdge sys.toLibrary position inputs.classical inputs.classicalIssuer)
  let classicalValidity ← mapErr .pem
    (checkCertificateValidity sys.toLibrary inputs.classical config.validationTime INPUT_LIMIT)
  let postQuantumValidity ← mapErr .pem
    (checkCertificateValidity sys.toLibrary inputs.postQuantum config.validationTime INPUT_LIMIT)
  let classicalCrl ← mapErr .bouncyCastle
    (runCrl sys config inputs.classicalIssuer inputs.classical inputs.classicalCrl)
  let postQuantumCrl ← mapErr .bouncyCastle
    (runCrl sys config inputs.postQuantumIssuer inputs.postQuantum inputs.postQuantumCrl)
  let postQuantumControls := (relatedConformanceCheck conformance).state == .pass
    && invalidBinding.check.state == .fail
    && invalidBindingPath.observation.verdict == .accept
    && postQuantumSignature.observation.verdict == .accept
    && invalidPostQuantumSignature.observation.verdict == .reject
  return {
    position := position
    certificateDerSha256 := certificateDerSha256
    issuerEdgeSha256 := issuerEdgeSha256
    postQuantumCertificateDerSha256 := postQuantumCertificateDerSha256
    conformance := conformance
    binding := conformance.rfc9763.binding
    invalidBinding := invalidBinding
    classicalValidity := classicalValidity
    postQuantumValidity := postQuantumValidity
    classicalCrl := classicalCrl
    postQuantumCrl := postQuantumCrl
    classicalSignature := classicalSignature
    invalidClassicalSignature := invalidClassicalSignature
    postQuantumSignature := postQuantumSignature
    invalidPostQuantumSignature := invalidPostQuantumSignature
    invalidClassicalPath := invalidClassicalPath
    invalidBindingPath := invalidBindingPath
    invalidPostQuantumPath := invalidPostQuantumPath
    classicalOutcome := outcomeCheck classicalValid invalidClassicalPath.observation.verdict
      (classicalSignature.observation.verdict == .accept
        && invalidClassicalSignature.observation.verdict == .reject)
    postQuantumOutcome :=
      behavioralCheck (classicalValid == .accept && postQuantumControls) .fail }

def operationId (position : PathPosition) : String :=
  positionId position ++ "-related-authentication"

/-- The items of a position: one for the certificate, one for the certificate it names. -/
def positionEvidence (classicalPath postQuantumPath : StackVerdict)
    (analysis : PositionAnalysis) : List Evidence :=
  [analysis.itemFor analysis.certificateDerSha256 (some (operationId analysis.position)) {
      name := "-classical-certificate"
      kind := .classical
      signature := checkFromVerdict analysis.classicalSignature.observation.verdict
      binding := .observed .notApplicable
      path := checkFromVerdict classicalPath
      validity := analysis.classicalValidity
      revocation := checkFromVerdict analysis.classicalCrl.observation.verdict
      decisionSensitiveForFixture := analysis.classicalOutcome },
    analysis.itemFor analysis.postQuantumCertificateDerSha256
      (some (operationId analysis.position)) {
      name := "-post-quantum-certificate"
      kind := .postQuantum
      signature := checkFromVerdict analysis.postQuantumSignature.observation.verdict
      binding := relatedConformanceCheck analysis.conformance
      path := checkFromVerdict postQuantumPath
      validity := analysis.postQuantumValidity
      revocation := checkFromVerdict analysis.postQuantumCrl.observation.verdict
      decisionSensitiveForFixture := analysis.postQuantumOutcome }]

def certificateNode (analysis : PositionAnalysis) : CertificateNode :=
  analysis.node .classical .classical .relatedCertificate

def pairedAuthentication (analysis : PositionAnalysis) : PairedAuthentication where
  operationId := operationId analysis.position
  classicalCertificateId := positionId analysis.position
  postQuantumCertificateDerSha256 := analysis.postQuantumCertificateDerSha256
  sameAuthenticationOperation := .observed .fail

def positionReport (analysis : PositionAnalysis) :
    Except AdapterSupportError RelatedPathPositionReport := do
  let classicalCrlStatus ← analysis.classicalCrl.report sys
  let postQuantumCrlStatus ← analysis.postQuantumCrl.report sys
  let classicalSignature ← analysis.classicalSignature.report sys
  let invalidClassicalSignature ← analysis.invalidClassicalSignature.report sys
  let postQuantumSignature ← analysis.postQuantumSignature.report sys
  let invalidPostQuantumSignature ← analysis.invalidPostQuantumSignature.report sys
  let invalidClassicalDefaultPath ← analysis.invalidClassicalPath.report sys
  let invalidBindingDefaultPath ← analysis.invalidBindingPath.report sys
  let invalidPostQuantumPath ← analysis.invalidPostQuantumPath.report sys
  return {
    position := analysis.position
    conformance := analysis.conformance
    binding := analysis.binding
    invalidBinding := analysis.invalidBinding
    classicalValidity := analysis.classicalValidity
    postQuantumValidity := analysis.postQuantumValidity
    classicalCrlStatus := classicalCrlStatus
    postQuantumCrlStatus := postQuantumCrlStatus
    classicalSignature := classicalSignature
    invalidClassicalSignature := invalidClassicalSignature
    postQuantumSignature := postQuantumSignature
    invalidPostQuantumSignature := invalidPostQuantumSignature
    invalidClassicalDefaultPath := invalidClassicalDefaultPath
    invalidBindingDefaultPath := invalidBindingDefaultPath
    invalidPostQuantumPath := invalidPostQuantumPath
    classicalDecisionSensitiveForFixture := analysis.classicalOutcome
    postQuantumDecisionSensitiveForFixture := analysis.postQuantumOutcome }

def checkClassicalControl (certificate : String) : Except PathScopeError Unit :=
  checkBindingDesign .pem sys.toLibrary .wrongScheme .relatedCertificate certificate

def checkPostQuantumControl (certificate : String) : Except PathScopeError Unit := do
  let profile ← mapErr .pem (inspectCertificate sys.toLibrary certificate INPUT_LIMIT)
  failIf (profile.subjectPublicKeyScheme ≠ .postQuantum) .wrongScheme

/-- The requests about the classical path, with a pairing for each position. -/
def requests (classicalPath postQuantumPath : AdapterExecution) (expectedTrustAnchor : TrustAnchor)
    (analyses : List PositionAnalysis) (scope : PathScope) : VerificationRequest :=
  let below := belowAnchor PositionAnalysis.toLocated analyses
  { scopeRequest config.settings classicalPath.observation expectedTrustAnchor
      (below.map certificateNode) (below.flatMap (positionEvidence classicalPath.observation.verdict
        postQuantumPath.observation.verdict)) scope with
    pairedAuthentications := below.map pairedAuthentication }

def analyze : Except PathScopeError RelatedPathScopeReport := do
  config.classicalControls.forM (checkClassicalControl sys)
  config.postQuantumControls.forM (checkPostQuantumControl sys)
  let classicalPath ← mapErr .bouncyCastle (runPath sys config.runSettings config.classicalFiles)
  let postQuantumPath ←
    mapErr .bouncyCastle (runPath sys config.runSettings config.postQuantumFiles)
  let analyses ← eachPosition (analyzePosition sys config classicalPath.observation.verdict)
  let expectedTrustAnchor ←
    mapErr .pem (certificateTrustAnchor sys.toLibrary config.classicalRoot INPUT_LIMIT)
  let scopes ← mapErr .oracle (evaluateEach sys.toLibrary
    (requests config classicalPath postQuantumPath expectedTrustAnchor analyses))
  let positions ← mapErr .support (analyses.mapM (positionReport sys))
  let classicalDefaultPath ← mapErr .support (classicalPath.report sys)
  let postQuantumPathControl ← mapErr .support (postQuantumPath.report sys)
  return ⟨API_VERSION, classicalDefaultPath, postQuantumPathControl, positions, scopes⟩

end Analyze

/-! ## The requests are accepted -/

section Accepted

variable {sys : System BouncyCastleConfig} {config : RelatedPathScopeConfig}

theorem placed_of_ok {classicalValid : StackVerdict} {position : PathPosition}
    {analysis : PositionAnalysis}
    (analyzed : analyzePosition sys config classicalValid position = .ok analysis) :
    Placed sys.toLibrary config.classicalFiles position analysis.toLocated ∧
      certificateDerHash sys.toLibrary (config.positionInputs position).postQuantum INPUT_LIMIT =
        .ok analysis.postQuantumCertificateDerSha256 ∧
      readsTime sys.toLibrary config.validationTime = true := by
  simp only [analyzePosition, bind_ok_iff, mapErr_ok_iff, pure_ok_iff] at analyzed
  obtain ⟨_, _, _, _, _, _, _, _, _, _, _, _, _, _, _, _, _, _, der, hashed, postQuantum,
    postQuantumHashed, edge, joined, _, checked, _, _, _, _, _, _, rfl⟩ := analyzed
  refine ⟨⟨rfl, ?_, ?_⟩, postQuantumHashed, (read_of_checkCertificateValidity checked).2⟩
  · cases position <;> exact hashed
  · cases position <;> exact joined

/-- An item of a position, against the node and the pairing of the position. -/
theorem itemFor_wellFormed (digest : ∀ bytes, (sys.sha256 bytes).length = 32)
    {position : PathPosition} {analysis : PositionAnalysis}
    (placed : Placed sys.toLibrary config.classicalFiles position analysis.toLocated)
    {request : VerificationRequest} (policy : request.revocationPolicy = .crlHardFail)
    (listed : pairedAuthentication analysis ∈ request.pairedAuthentications)
    (alone : ∀ pair ∈ request.pairedAuthentications,
      pair.operationId = operationId analysis.position → pair = pairedAuthentication analysis)
    {artifact : String} (hex : IsSha256Hex artifact) {part : Part}
    (classical : part.kind = .classical → artifact = analysis.certificateDerSha256)
    (postQuantum : part.kind = .postQuantum →
      artifact = analysis.postQuantumCertificateDerSha256) :
    EvidenceWellFormed request (certificateNode analysis)
      (analysis.itemFor artifact (some (operationId analysis.position)) part) where
  named := rfl
  certificateDerHash := hashWellFormed_some (isSha256Hex_of_certificateDerHash digest placed.der)
  issuerEdgeHash := isSha256Hex_of_positionEdge digest placed.edge
  artifactHash := hashWellFormed_some hex
  position := rfl
  der := compatible_refl _
  issuerEdge := compatible_refl _
  carriesOperation := iff_of_true rfl rfl
  paired := by
    rintro _ ⟨⟩
    exact ⟨_, listed, rfl, rfl⟩
  ownArtifact := by
    intro own
    rcases own with absent | kind
    · cases absent
    · obtain rfl := classical kind
      exact compatible_refl _
  pairedArtifact := by
    intro kind pair member carried
    obtain rfl := alone pair member (Option.some.inj carried).symm
    obtain rfl := postQuantum kind
    exact compatible_refl _
  revocationPolicy := policy.symm
  revocationMethod := fun _ same => by cases same
  revocationNotRequired := by
    rw [policy]
    intro same
    cases same

section Pair

variable {leaf intermediate : PositionAnalysis}
  (leafPlaced : Placed sys.toLibrary config.classicalFiles .endEntity leaf.toLocated)
  (intermediatePlaced : Placed sys.toLibrary config.classicalFiles .intermediate
    intermediate.toLocated)

include leafPlaced intermediatePlaced

/-- A pairing is known by its operation. -/
theorem pairs_alone :
    ∀ analysis ∈ [leaf, intermediate], ∀ pair ∈
      [pairedAuthentication leaf, pairedAuthentication intermediate],
      pair.operationId = operationId analysis.position → pair = pairedAuthentication analysis := by
  have apart : operationId leaf.position ≠ operationId intermediate.position := by
    rw [leafPlaced.placedAt, intermediatePlaced.placedAt]
    decide
  intro analysis inside pair member same
  rcases List.mem_pair.mp inside with rfl | rfl <;> rcases List.mem_pair.mp member with rfl | rfl
  · rfl
  · exact absurd same.symm apart
  · exact absurd same apart
  · rfl

/-- The names, kinds and operations of the items of both positions. -/
theorem positionEvidence_distinct (classicalPath postQuantumPath : StackVerdict) :
    (([leaf, intermediate].flatMap (positionEvidence classicalPath postQuantumPath)).map
        (·.id)).Nodup ∧
      (([leaf, intermediate].flatMap (positionEvidence classicalPath postQuantumPath)).map
        fun item => (item.certificateId, item.kind)).Nodup := by
  constructor
  · change [positionId leaf.position ++ "-classical-certificate",
      positionId leaf.position ++ "-post-quantum-certificate",
      positionId intermediate.position ++ "-classical-certificate",
      positionId intermediate.position ++ "-post-quantum-certificate"].Nodup
    rw [leafPlaced.placedAt, intermediatePlaced.placedAt]
    decide
  · change [(positionId leaf.position, EvidenceKind.classical),
      (positionId leaf.position, .postQuantum), (positionId intermediate.position, .classical),
      (positionId intermediate.position, .postQuantum)].Nodup
    rw [leafPlaced.placedAt, intermediatePlaced.placedAt]
    decide

omit leafPlaced intermediatePlaced in
/-- An item carries the operation of the position it belongs to. -/
theorem carries_of_mem {analyses : List PositionAnalysis}
    {classicalPath postQuantumPath : StackVerdict} {item : Evidence}
    (member : item ∈ analyses.flatMap (positionEvidence classicalPath postQuantumPath)) :
    item.authenticationOperationId = some (item.certificateId ++ "-related-authentication") := by
  obtain ⟨analysis, _, inside⟩ := List.mem_flatMap.mp member
  rcases List.mem_pair.mp inside with rfl | rfl <;> rfl

theorem requests_wellFormed (digest : ∀ bytes, (sys.sha256 bytes).length = 32)
    {classicalPath postQuantumPath : AdapterExecution} {leafHash intermediateHash root : String}
    (observed : Observed sys.toLibrary config.classicalFiles config.settings.validationTime
      classicalPath.observation leafHash intermediateHash root)
    (time : readsTime sys.toLibrary config.settings.validationTime = true)
    (postQuantum : ∀ analysis ∈ [leaf, intermediate],
      IsSha256Hex analysis.postQuantumCertificateDerSha256) (scope : PathScope) :
    WellFormed (readsTime sys.toLibrary) {
      scopeRequest config.settings classicalPath.observation (.certificateDerSha256 root)
        ([leaf, intermediate].map certificateNode) ([leaf, intermediate].flatMap
          (positionEvidence classicalPath.observation.verdict postQuantumPath.observation.verdict))
        scope with
      pairedAuthentications := [leaf, intermediate].map pairedAuthentication } := by
  have related : BindingDesign.relatedCertificate ≠ .atomicComposite := by decide
  have shown := shows_of_placed digest observed leafPlaced intermediatePlaced .classical .classical
    related
  have apart := positionEvidence_distinct leafPlaced intermediatePlaced
    classicalPath.observation.verdict postQuantumPath.observation.verdict
  have alone := pairs_alone leafPlaced intermediatePlaced
  have located : ∀ analysis ∈ [leaf, intermediate], ∃ position,
      Placed sys.toLibrary config.classicalFiles position analysis.toLocated := by
    intro analysis inside
    rcases List.mem_pair.mp inside with rfl | rfl
    · exact ⟨_, leafPlaced⟩
    · exact ⟨_, intermediatePlaced⟩
  exact {
    apiVersion := rfl
    validationTime := time
    evidenceIds := apart.1
    evidenceKinds := apart.2
    certificateIds := shown.certificateIds
    pathOrder := shown.order
    pathCertificates := shown.certificates
    selectedPath := shown.selectedPath
    trustAnchor := shown.anchorHash
    sameTrustAnchor := shown.sameAnchor
    operationIds := by
      change [operationId leaf.position, operationId intermediate.position].Nodup
      rw [leafPlaced.placedAt, intermediatePlaced.placedAt]
      decide
    pairs := by
      intro pair member
      obtain ⟨analysis, inside, rfl⟩ := List.mem_map.mp member
      refine ⟨?_, postQuantum analysis inside, _, List.mem_map_of_mem inside, rfl, rfl⟩
      simp [pairedAuthentication, operationId]
    evidence := by
      intro item member
      obtain ⟨analysis, inside, found⟩ := List.mem_flatMap.mp member
      obtain ⟨position, placed⟩ := located analysis inside
      refine ⟨_, List.mem_map_of_mem inside, ?_⟩
      rcases List.mem_pair.mp found with rfl | rfl
      · exact itemFor_wellFormed digest placed rfl (List.mem_map_of_mem inside)
          (alone analysis inside) (isSha256Hex_of_certificateDerHash digest placed.der)
          (fun _ => rfl) (fun kind => by cases kind)
      · exact itemFor_wellFormed digest placed rfl (List.mem_map_of_mem inside)
          (alone analysis inside) (postQuantum analysis inside)
          (fun kind => by cases kind) (fun _ => rfl)
    sameOperation := by
      intro item member other otherMember same
      rw [carries_of_mem member, carries_of_mem otherMember, same]
    appliedTime := fun _ => shown.appliedTime }

end Pair

/-! ## What the analysis returns -/

theorem analyzePosition_raises (classicalValid : StackVerdict) (position : PathPosition) :
    Raises PathScopeError.NotOracle (analyzePosition sys config classicalValid position) := by
  unfold analyzePosition
  refine raises_bind (raises_other _ (by simp)) fun _ _ => ?_
  refine raises_bind (raises_other _ (by simp)) fun _ _ => ?_
  refine raises_bind (raises_other _ (by simp)) fun _ _ => ?_
  refine raises_bind (raises_other _ (by simp)) fun _ _ => ?_
  refine raises_bind (raises_other _ (by simp)) fun _ _ => ?_
  refine raises_bind (raises_other _ (by simp)) fun _ _ => ?_
  refine raises_bind (raises_other _ (by simp)) fun _ _ => ?_
  refine raises_bind (raises_other _ (by simp)) fun _ _ => ?_
  refine raises_bind (raises_other _ (by simp)) fun _ _ => ?_
  refine raises_bind (raises_other _ (by simp)) fun _ _ => ?_
  refine raises_bind (raises_other _ (by simp)) fun _ _ => ?_
  refine raises_bind (raises_other _ (by simp)) fun _ _ => ?_
  refine raises_bind (raises_other _ (by simp)) fun _ _ => ?_
  refine raises_bind (raises_other _ (by simp)) fun _ _ => ?_
  refine raises_bind (raises_other _ (by simp)) fun _ _ => ?_
  exact raises_bind (raises_other _ (by simp)) fun _ _ => raises_ok _

theorem checkClassicalControl_raises (certificate : String) :
    Raises PathScopeError.NotOracle (checkClassicalControl sys certificate) :=
  checkBindingDesign_raises (by simp) (by simp) _ certificate

theorem checkPostQuantumControl_raises (certificate : String) :
    Raises PathScopeError.NotOracle (checkPostQuantumControl sys certificate) := by
  refine raises_bind (raises_other _ (by simp)) fun _ _ => raises_failIf fun _ abort same => ?_
  cases same

theorem analyze_yields (digest : ∀ bytes, (sys.sha256 bytes).length = 32) :
    Yields (fun report => Scoped report.scopes) PathScopeError.NotOracle (analyze sys config) := by
  refine yields_bind (raises_forM checkClassicalControl_raises) fun _ _ => ?_
  refine yields_bind (raises_forM checkPostQuantumControl_raises) fun _ _ => ?_
  refine yields_bind (raises_other _ (by simp)) fun classicalPath ran => ?_
  refine yields_bind (raises_other _ (by simp)) fun postQuantumPath _ => ?_
  refine yields_bind (raises_mapM (analyzePosition_raises _)) fun analyses analyzed => ?_
  refine yields_bind (raises_other _ (by simp)) fun anchor anchored => ?_
  obtain ⟨leaf, intermediate, root, leafOk, intermediateOk, rootOk, rfl⟩ := eachPosition_ok analyzed
  obtain ⟨leafPlaced, leafPaired, time⟩ := placed_of_ok leafOk
  obtain ⟨intermediatePlaced, intermediatePaired, -⟩ := placed_of_ok intermediateOk
  obtain ⟨rootPlaced, -, -⟩ := placed_of_ok rootOk
  obtain ⟨leafHash, intermediateHash, rootHash, observed⟩ :=
    observed_of_runPath (mapErr_ok_iff.mp ran)
  obtain rfl := anchor_of_observed observed (mapErr_ok_iff.mp anchored)
  have paired : ∀ analysis ∈ [leaf, intermediate],
      IsSha256Hex analysis.postQuantumCertificateDerSha256 := by
    intro analysis inside
    rcases List.mem_pair.mp inside with rfl | rfl
    · exact isSha256Hex_of_certificateDerHash digest leafPaired
    · exact isSha256Hex_of_certificateDerHash digest intermediatePaired
  have requested : ∃ scopes, evaluateEach sys.toLibrary (requests config classicalPath
      postQuantumPath (.certificateDerSha256 rootHash) [leaf, intermediate, root]) = .ok scopes ∧
      Scoped scopes := by
    refine evaluateEach_scoped (fun scope => ?_) fun _ => observed.source
    rw [requests, belowAnchor_placed PositionAnalysis.toLocated leafPlaced intermediatePlaced
      rootPlaced]
    exact requests_wellFormed leafPlaced intermediatePlaced digest observed time paired scope
  obtain ⟨scopes, evaluated, accepted⟩ := requested
  simp only [evaluated, mapErr_ok, ok_bind]
  refine yields_bind (raises_other _ (by simp)) fun positions _ => ?_
  refine yields_bind (raises_other _ (by simp)) fun classicalDefaultPath _ => ?_
  exact yields_bind (raises_other _ (by simp)) fun postQuantumPathControl _ => yields_ok accepted

end Accepted

end HybridX509.Analysis.RelatedPathScope
