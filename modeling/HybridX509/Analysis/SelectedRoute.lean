import HybridX509.Analysis.CrossSignedPath
import HybridX509.Lib.Ascii

/-! # Which route the cross-signed analysis reports

The atomic route is evaluated against the selected execution whatever route that
execution took. So a builder that selects the classical route makes the oracle refuse
the atomic request, and the analysis ends there; when it selects the atomic route, the
analysis returns and its selected scopes evaluate that route.
-/

namespace HybridX509.Analysis.CrossSignedPath

open Lib X509 Oracle Adapters Adapters.BouncyCastle AtomicPathScope PathRuns

/-- The intermediate and the root of a route. -/
def RouteHashes.pair (hashes : RouteHashes) : SelectedRoute → String × String
  | .classical => (hashes.classicalIca, hashes.classicalRoot)
  | .atomic => (hashes.atomicIca, hashes.atomicRoot)

/-- A reported pair is of a route; what could be either is of the classical one. -/
def RouteHashes.Takes (hashes : RouteHashes) (route : SelectedRoute) (reported : String × String) :
    Prop :=
  reported = hashes.pair route ∧ (route = .atomic → reported ≠ hashes.pair .classical)

/-- A builder run that was accepted and reports the leaf, then a route. -/
structure Built (sys : System BouncyCastleConfig) (config : CrossSignedPathConfig)
    (hashes : RouteHashes) (leaf roots intermediates : String) (route : SelectedRoute)
    (execution : AdapterExecution) : Prop where
  ran : runBuilder sys config roots intermediates "cross-leaf.pem" = .ok execution
  accepted : execution.observation.verdict = .accept
  reported : ∃ ica root, sys.selectedPathFromSlice execution.verificationOutput.stdout.bytes =
    .ok [leaf, ica, root] ∧ hashes.Takes route (ica, root)

def Reports (sys : System BouncyCastleConfig) (config : CrossSignedPathConfig)
    (hashes : RouteHashes) (leaf roots intermediates : String) (route : SelectedRoute) : Prop :=
  ∃ execution, Built sys config hashes leaf roots intermediates route execution

theorem reports_iff {sys : System BouncyCastleConfig} {config : CrossSignedPathConfig}
    {hashes : RouteHashes} {leaf roots intermediates : String} {route : SelectedRoute} :
    Reports sys config hashes leaf roots intermediates route ↔
      ∃ execution, runBuilder sys config roots intermediates "cross-leaf.pem" = .ok execution ∧
        execution.observation.verdict = .accept ∧
        ∃ path, sys.selectedPathFromSlice execution.verificationOutput.stdout.bytes = .ok path ∧
          path = [leaf, (hashes.pair route).1, (hashes.pair route).2] ∧
          (route = .atomic → hashes.pair .atomic ≠ hashes.pair .classical) := by
  constructor
  · intro ⟨execution, ran, accepted, ica, root, reported, same, other⟩
    refine ⟨execution, ran, accepted, _, reported, by rw [← same], ?_⟩
    rintro rfl
    exact same ▸ other rfl
  · rintro ⟨execution, ran, accepted, _, reported, rfl, other⟩
    refine ⟨execution, ran, accepted, _, _, reported, rfl, ?_⟩
    rintro rfl
    exact other rfl

/-- The files of the builder runs: roots, intermediates, leaf. -/
def builderFiles : List (String × String × String) :=
  [("cross-roots.pem", "cross-icas.pem", "cross-leaf.pem"),
    ("cross-root-classical.pem", "cross-icas.pem", "cross-leaf.pem"),
    ("cross-root-atomic.pem", "cross-icas.pem", "cross-leaf.pem"),
    ("cross-roots.pem", "cross-icas-classical-fallback.pem", "cross-leaf.pem"),
    ("cross-roots.pem", "cross-icas-atomic-fallback.pem", "cross-leaf.pem"),
    ("cross-root-classical.pem", "cross-ica-classical-bad-signature.pem", "cross-leaf.pem"),
    ("cross-root-classical-bad-signature.pem", "cross-ica-classical.pem", "cross-leaf.pem"),
    ("cross-root-classical.pem", "cross-ica-classical.pem", "cross-leaf-bad-ecdsa.pem"),
    ("cross-root-classical.pem", "cross-ica-classical.pem", "cross-leaf-bad-mldsa.pem")]

/-- The files of the signature runs: issuer, certificate. -/
def directFiles : List (String × String) :=
  [("cross-root-classical.pem", "cross-ica-classical.pem"),
    ("cross-root-classical.pem", "cross-ica-classical-bad-signature.pem"),
    ("cross-root-classical.pem", "cross-root-classical.pem"),
    ("cross-root-classical.pem", "cross-root-classical-bad-signature.pem")]

/-- The files of the status runs: issuer, certificate, list. -/
def crlFiles : List (String × String × String) :=
  [("cross-root-classical.pem", "cross-ica-classical.pem", "cross-root-classical-crl.pem"),
    ("cross-ica-classical.pem", "cross-leaf.pem", "cross-ica-crl.pem")]

/-- The outcomes of the calls: the five builder runs report routes, the forced and the
    fallback runs the required ones, and everything else returns a value. That the
    validation time is read is part of the validity checks. -/
structure Outcomes (sys : System BouncyCastleConfig) (config : CrossSignedPathConfig)
    (hashes : RouteHashes) (leaf : String) (route : SelectedRoute) : Prop where
  hashed : routeHashes sys config = .ok hashes
  leafHashed : certificateHash sys config "cross-leaf.pem" = .ok leaf
  selected : Reports sys config hashes leaf "cross-roots.pem" "cross-icas.pem" route
  forcedClassical :
    Reports sys config hashes leaf "cross-root-classical.pem" "cross-icas.pem" .classical
  forcedAtomic : Reports sys config hashes leaf "cross-root-atomic.pem" "cross-icas.pem" .atomic
  classicalFallback : Reports sys config hashes leaf "cross-roots.pem"
    "cross-icas-classical-fallback.pem" .classical
  atomicFallback : Reports sys config hashes leaf "cross-roots.pem"
    "cross-icas-atomic-fallback.pem" .atomic
  builders : ∀ files ∈ builderFiles,
    RunReturns sys (runBuilder sys config files.1 files.2.1 files.2.2)
  directs : ∀ files ∈ directFiles, RunReturns sys (runDirect sys config files.1 files.2)
  crls : ∀ files ∈ crlFiles, RunReturns sys (runCrl sys config files.1 files.2.1 files.2.2)
  validities : ∀ name ∈ ["cross-ica-classical.pem", "cross-root-classical.pem"],
    ∃ check, checkCertificateValidity sys.toLibrary (config.path name) config.validationTime
      INPUT_LIMIT = .ok check
  atomic : AtomicPathScope.Returns sys config.atomicConfig

/-- A scope whose result evaluates the certificate path of a route. -/
def EvaluatesRoute (sys : System BouncyCastleConfig) (hashes : RouteHashes) (leaf : String)
    (route : SelectedRoute) (entry : ScopedVerificationResult) : Prop :=
  ∃ request, evaluate (readsTime sys.toLibrary) request = .ok entry.result ∧
    request.pathScope = entry.scope ∧
    request.certificatePath.map (·.derSha256) = [some leaf, some (hashes.pair route).1] ∧
    request.expectedTrustAnchor = .certificateDerSha256 (hashes.pair route).2

/-- The analysis returns, names the route, and evaluates it for both scopes. -/
def ReportsRoute (sys : System BouncyCastleConfig) (config : CrossSignedPathConfig)
    (hashes : RouteHashes) (leaf : String) (route : SelectedRoute) : Prop :=
  ∃ report, analyze sys config = .ok report ∧ report.selectedPath.route = route ∧
    report.selectedScopes.map (·.scope) = [.endEntity, .certificationPath] ∧
    ∀ entry ∈ report.selectedScopes, EvaluatesRoute sys hashes leaf route entry

/-! ## Builder runs -/

section Runs

variable {sys : System BouncyCastleConfig} {config : CrossSignedPathConfig} {hashes : RouteHashes}
  {leaf roots intermediates : String} {route : SelectedRoute} {execution : AdapterExecution}

/-- The source recognizes the route of a run. -/
theorem Built.selectedPath
    (built : Built sys config hashes leaf roots intermediates route execution) :
    ∃ path, selectedPath sys execution hashes = .ok ⟨path, route⟩ := by
  obtain ⟨ica, root, reported, same, other⟩ := built.reported
  refine ⟨[leaf, ica, root], ?_⟩
  simp only [CrossSignedPath.selectedPath, built.accepted, reported, mapErr, ne_eq,
    not_true_eq_false, failIf, if_false, ok_bind]
  cases route with
  | classical =>
      obtain ⟨rfl, rfl⟩ := Prod.mk.inj same
      simp only [and_self, if_true]
  | atomic =>
      have recognized : ¬ (ica = hashes.classicalIca ∧ root = hashes.classicalRoot) := by
        rintro ⟨rfl, rfl⟩
        exact other rfl rfl
      obtain ⟨rfl, rfl⟩ := Prod.mk.inj same
      simp only [recognized, if_false, and_self, if_true]

/-- What the oracle is given of a run. -/
theorem Built.observed
    (built : Built sys config hashes leaf roots intermediates route execution) :
    execution.observation.certificationPathDerSha256 = [leaf, (hashes.pair route).1] ∧
      execution.observation.trustAnchor = .certificateDerSha256 (hashes.pair route).2 ∧
      execution.observation.appliedValidationTime = config.validationTime := by
  obtain ⟨ica, root, reported, same, -⟩ := built.reported
  obtain rfl : (hashes.pair route).1 = ica := by rw [← same]
  obtain rfl : (hashes.pair route).2 = root := by rw [← same]
  have observes := observes_of_verify built.ran
  have split : sys.selectedPathFromSlice execution.verificationOutput.stdout.bytes =
      .ok ([leaf, (hashes.pair route).1] ++ [(hashes.pair route).2]) := reported
  obtain ⟨path, anchor⟩ := observes.reported rfl built.accepted split
  exact ⟨path, anchor, observes.appliedTime⟩

/-- The two routes can be told apart. -/
theorem Outcomes.routes_ne (outcomes : Outcomes sys config hashes leaf route) :
    hashes.pair .atomic ≠ hashes.pair .classical := by
  obtain ⟨_, built⟩ := outcomes.forcedAtomic
  obtain ⟨ica, root, _, same, other⟩ := built.reported
  exact same ▸ other rfl

theorem Outcomes.certificateHashes (outcomes : Outcomes sys config hashes leaf route) :
    certificateHash sys config "cross-ica-classical.pem" = .ok hashes.classicalIca ∧
      certificateHash sys config "cross-root-classical.pem" = .ok hashes.classicalRoot ∧
      certificateHash sys config "cross-ica-atomic.pem" = .ok hashes.atomicIca ∧
      certificateHash sys config "cross-root-atomic.pem" = .ok hashes.atomicRoot := by
  have hashed := outcomes.hashed
  simp only [routeHashes, bind_ok_iff, pure_ok_iff] at hashed
  obtain ⟨_, classicalIca, _, classicalRoot, _, atomicIca, _, atomicRoot, rfl⟩ := hashed
  exact ⟨classicalIca, classicalRoot, atomicIca, atomicRoot⟩

/-- The material of the atomic analysis, under the hashes of the analysis. -/
theorem Outcomes.described_hashes (outcomes : Outcomes sys config hashes leaf route)
    {first second : PositionAnalysis} {root : String} {verdict : StackVerdict}
    {answer : VerificationResult}
    (described : Described sys config.atomicConfig first second root verdict answer) :
    first.certificateDerSha256 = leaf ∧ second.certificateDerSha256 = hashes.atomicIca ∧
      root = hashes.atomicRoot := by
  obtain ⟨-, -, atomicIca, atomicRoot⟩ := outcomes.certificateHashes
  exact ⟨ok_unique described.leafAnalyzed.der outcomes.leafHashed,
    ok_unique described.intermediateAnalyzed.der atomicIca,
    ok_unique described.rootHashed atomicRoot⟩

/-- Evaluations of a path and an anchor of a route, one for each scope. -/
theorem evaluatesRoute_of_evaluateEach {settings : ScopeSettings} {stack : StackObservation}
    {path : List CertificateNode} {evidence : List Evidence}
    {scopes : List ScopedVerificationResult}
    (evaluated : evaluateEach sys.toLibrary (scopeRequest settings stack
      (.certificateDerSha256 (hashes.pair route).2) path evidence) = .ok scopes)
    (ofRoute : path.map (·.derSha256) = [some leaf, some (hashes.pair route).1]) :
    scopes.map (·.scope) = [.endEntity, .certificationPath] ∧
      ∀ entry ∈ scopes, EvaluatesRoute sys hashes leaf route entry := by
  obtain ⟨endEntity, certificationPath, first, second, rfl⟩ := evaluateEach_ok_iff.mp evaluated
  refine ⟨rfl, ?_⟩
  intro entry member
  rcases List.mem_pair.mp member with rfl | rfl
  · exact ⟨_, first, rfl, ofRoute, rfl⟩
  · exact ⟨_, second, rfl, ofRoute, rfl⟩

/-- The request for the atomic route, read off the report of the atomic analysis. -/
theorem evaluateAtomicRoute_eq {first second : PositionAnalysis} {root : String}
    {verdict : StackVerdict} {entry : ScopedVerificationResult}
    {rest : List ScopedVerificationResult} {atomic : AtomicPathScopeReport}
    (listed : atomic.scopes = entry :: rest)
    (described : Described sys config.atomicConfig first second root verdict entry.result) :
    evaluateAtomicRoute sys config execution atomic =
      evaluateEach sys.toLibrary (scopeRequest config.settings execution.observation
        (.certificateDerSha256 root) [certificateNode first, certificateNode second]
        (positionEvidence first verdict ++ positionEvidence second verdict)) := by
  have firstAt : first.position = .endEntity := described.leafAnalyzed.located
  have secondAt : second.position = .intermediate := described.intermediateAnalyzed.located
  have path : [certificateNode first, certificateNode second].filter
      (·.position != .trustAnchor) = [certificateNode first, certificateNode second] := by
    simp [certificateNode, firstAt, secondAt]
  have evidence : (positionEvidence first verdict ++ positionEvidence second verdict).filter
      (·.position != .trustAnchor) =
        positionEvidence first verdict ++ positionEvidence second verdict := by
    simp [positionEvidence, componentEvidence, firstAt, secondAt]
  simp only [evaluateAtomicRoute, firstScope, listed, List.head?_cons, orFail, ok_bind,
    evaluateScopes, described.path, described.evidence, described.anchor, path, evidence]

/-- The atomic route is accepted for a builder that took it. -/
theorem evaluateAtomicRoute_returns (digest : ∀ bytes, (sys.sha256 bytes).length = 32)
    (outcomes : Outcomes sys config hashes leaf route)
    (built : Built sys config hashes leaf roots intermediates .atomic execution)
    {atomic : AtomicPathScopeReport}
    (analyzed : AtomicPathScope.analyze sys config.atomicConfig = .ok atomic) :
    ∃ scopes, evaluateAtomicRoute sys config execution atomic = .ok scopes ∧
      scopes.map (·.scope) = [.endEntity, .certificationPath] ∧
      ∀ entry ∈ scopes, EvaluatesRoute sys hashes leaf .atomic entry := by
  obtain ⟨first, second, root, verdict, entry, rest, listed, described⟩ :=
    described_of_analyze analyzed
  obtain ⟨rfl, secondHash, rfl⟩ := outcomes.described_hashes described
  obtain ⟨path, anchor, applied⟩ := built.observed
  have observed : execution.observation.certificationPathDerSha256 =
      [first.certificateDerSha256, second.certificateDerSha256] := by rw [path, secondHash]; rfl
  have presentable := presentable_of_analyzed digest described.leafAnalyzed
    described.intermediateAnalyzed (isSha256Hex_of_certificateDerHash digest described.rootHashed)
    observed anchor (show _ = config.settings.validationTime from applied) verdict
  obtain ⟨scopes, evaluated⟩ := presentable.evaluated outcomes.atomic.readsTime
  refine ⟨scopes, (evaluateAtomicRoute_eq listed described).trans evaluated, ?_⟩
  exact evaluatesRoute_of_evaluateEach evaluated (by simp [certificateNode, secondHash,
    RouteHashes.pair])

/-- It is refused for a builder that took the other route. -/
theorem evaluateAtomicRoute_refused (outcomes : Outcomes sys config hashes leaf route)
    (built : Built sys config hashes leaf roots intermediates .classical execution)
    {atomic : AtomicPathScopeReport}
    (analyzed : AtomicPathScope.analyze sys config.atomicConfig = .ok atomic)
    (scopes : List ScopedVerificationResult) :
    evaluateAtomicRoute sys config execution atomic ≠ .ok scopes := by
  intro evaluated
  obtain ⟨first, second, root, verdict, entry, rest, listed, described⟩ :=
    described_of_analyze analyzed
  obtain ⟨-, secondHash, rfl⟩ := outcomes.described_hashes described
  obtain ⟨path, anchor, -⟩ := built.observed
  rw [evaluateAtomicRoute_eq listed described] at evaluated
  obtain ⟨endEntity, _, returned, _, _⟩ := evaluateEach_ok_iff.mp evaluated
  have wf := (evaluate_ok_iff.mp returned).1
  have sameIca : hashes.atomicIca = hashes.classicalIca := by
    have selected := wf.selectedPath
    simp only [scopeRequest, path, List.map_cons, certificateNode, List.cons.injEq,
      Option.some.injEq, RouteHashes.pair] at selected
    rw [← secondHash]
    exact selected.2.1
  have sameRoot : hashes.atomicRoot = hashes.classicalRoot := by
    have same := wf.sameTrustAnchor
    simp only [scopeRequest, anchor, TrustAnchor.certificateDerSha256.injEq,
      RouteHashes.pair] at same
    exact same
  exact outcomes.routes_ne (Prod.ext sameIca sameRoot)

/-! ## The classical route -/

/-- The leaf as the classical route presents it. -/
def classicalLeaf (leaf edge : String) : CertificateNode :=
  node "leaf" .endEntity .classical .hybrid .atomicComposite (some leaf) (some edge)

def classicalIntermediate (intermediate edge : String) : CertificateNode :=
  node "intermediate" .intermediate .classical .classical .none (some intermediate) (some edge)

theorem itemOf_rerouted {builder icaCrl : AdapterExecution} {analysis : PositionAnalysis}
    (located : analysis.position = .endEntity) {edge : String} {verdict : StackVerdict}
    {item : Evidence} (member : item ∈ (positionEvidence analysis verdict).map
      (rerouted builder icaCrl analysis.certificateDerSha256 edge)) :
    ItemOf (classicalLeaf analysis.certificateDerSha256 edge) item := by
  obtain ⟨original, inside, rfl⟩ := List.mem_map.mp member
  have itemOf := itemOf_of_mem inside
  exact {
    certificateId := by rw [rerouted, itemOf.certificateId, certificateNode, located]; rfl
    position := itemOf.position.trans located
    der := rfl
    artifact := itemOf.artifact
    edge := rfl
    operation := itemOf.operation
    method := itemOf.method
    policy := itemOf.policy }

theorem presentable_classical {analysis : PositionAnalysis}
    (located : analysis.position = .endEntity) {leafEdge intermediate intermediateEdge root : String}
    (hex : ∀ hash ∈ [analysis.certificateDerSha256, leafEdge, intermediate, intermediateEdge, root],
      IsSha256Hex hash)
    {settings : ScopeSettings} {stack : StackObservation}
    (path : stack.certificationPathDerSha256 = [analysis.certificateDerSha256, intermediate])
    (anchor : stack.trustAnchor = .certificateDerSha256 root)
    (time : stack.appliedValidationTime = settings.validationTime)
    {builder icaCrl signature crl : AdapterExecution} {verdict : StackVerdict}
    {validity outcome : CheckResult} :
    Presentable settings stack (.certificateDerSha256 root)
      [classicalLeaf analysis.certificateDerSha256 leafEdge,
        classicalIntermediate intermediate intermediateEdge]
      ((positionEvidence analysis verdict).map
          (rerouted builder icaCrl analysis.certificateDerSha256 leafEdge) ++
        [signatureEvidence "intermediate-ecdsa-signature" "intermediate" .intermediate intermediate
          (some intermediateEdge) builder signature crl validity outcome]) where
  order := ⟨_, _, rfl, rfl, by simp [classicalIntermediate, node]⟩
  certificateIds := by simp [classicalLeaf, classicalIntermediate, node]
  certificates := by
    have hashed {hash : String} (known : hash ∈ [analysis.certificateDerSha256, leafEdge,
        intermediate, intermediateEdge, root]) : HashWellFormed (some hash) :=
      hashWellFormed_some (hex hash known)
    intro certificate member
    rcases List.mem_pair.mp member with rfl | rfl
    · exact ⟨rfl, hashed (by simp), hashed (by simp), fun _ => rfl⟩
    · exact ⟨rfl, hashed (by simp), hashed (by simp), by simp [classicalIntermediate, node]⟩
  unrelated := by simp [classicalLeaf, classicalIntermediate, node]
  items := by
    intro item member
    rcases List.mem_append.mp member with ofLeaf | ofIntermediate
    · exact ⟨_, List.mem_cons_self, itemOf_rerouted located ofLeaf⟩
    · obtain rfl := List.mem_singleton.mp ofIntermediate
      exact ⟨_, List.mem_cons_of_mem _ List.mem_cons_self, rfl, rfl, rfl, rfl, rfl, rfl, rfl, rfl⟩
  evidenceIds := by
    change [positionId analysis.position ++ "-ecdsa-component",
      positionId analysis.position ++ "-mldsa-component", "intermediate-ecdsa-signature"].Nodup
    rw [located]
    decide
  evidenceKinds := by
    change [(positionId analysis.position, EvidenceKind.classical),
      (positionId analysis.position, .postQuantum), ("intermediate", .classical)].Nodup
    rw [located]
    decide
  selectedPath := by simp [classicalLeaf, classicalIntermediate, node, path]
  anchorHash := hex root (by simp)
  sameAnchor := anchor.symm
  appliedTime := time

theorem filter_classicalEvidence {builder icaCrl : AdapterExecution} {analysis : PositionAnalysis}
    (located : analysis.position = .endEntity) {leaf edge : String} {verdict : StackVerdict}
    {kept dropped : Evidence} (keptAt : kept.position = .intermediate)
    (droppedAt : dropped.position = .trustAnchor) :
    ((positionEvidence analysis verdict).map (rerouted builder icaCrl leaf edge) ++
        [kept, dropped]).filter (·.position != .trustAnchor) =
      (positionEvidence analysis verdict).map (rerouted builder icaCrl leaf edge) ++ [kept] := by
  simp [positionEvidence, componentEvidence, rerouted, located, keptAt, droppedAt]

/-- The classical route is accepted for a builder that took it. -/
theorem evaluateClassicalRoute_returns (digest : ∀ bytes, (sys.sha256 bytes).length = 32)
    (outcomes : Outcomes sys config hashes leaf route)
    (built : Built sys config hashes leaf roots intermediates .classical execution)
    {atomic : AtomicPathScopeReport}
    (analyzed : AtomicPathScope.analyze sys config.atomicConfig = .ok atomic)
    (controls : ClassicalControls) :
    ∃ scopes, evaluateClassicalRoute sys config execution atomic controls = .ok scopes := by
  obtain ⟨first, second, root, verdict, entry, rest, listed, described⟩ :=
    described_of_analyze analyzed
  obtain ⟨rfl, -, -⟩ := outcomes.described_hashes described
  have firstAt : first.position = .endEntity := described.leafAnalyzed.located
  have secondAt : second.position = .intermediate := described.intermediateAnalyzed.located
  obtain ⟨classicalIca, classicalRoot, -, -⟩ := outcomes.certificateHashes
  have icaRead := read_of_certificateDerHash classicalIca
  obtain ⟨leafEdge, leafJoined⟩ :=
    issuerEdgeHash_returns (read_of_certificateDerHash outcomes.leafHashed) icaRead
  obtain ⟨icaEdge, icaJoined⟩ :=
    issuerEdgeHash_returns icaRead (read_of_certificateDerHash classicalRoot)
  obtain ⟨icaValidity, icaChecked⟩ := outcomes.validities "cross-ica-classical.pem" (by simp)
  obtain ⟨rootValidity, rootChecked⟩ := outcomes.validities "cross-root-classical.pem" (by simp)
  obtain ⟨path, anchor, applied⟩ := built.observed
  have hex : ∀ hash ∈ [first.certificateDerSha256, leafEdge, hashes.classicalIca, icaEdge,
      hashes.classicalRoot], IsSha256Hex hash := by
    simp only [List.forall_mem_cons]
    exact ⟨isSha256Hex_of_certificateDerHash digest outcomes.leafHashed,
      isSha256Hex_of_issuerEdgeHash digest leafJoined,
      isSha256Hex_of_certificateDerHash digest classicalIca,
      isSha256Hex_of_issuerEdgeHash digest icaJoined,
      isSha256Hex_of_certificateDerHash digest classicalRoot, by simp⟩
  have leafItems : (positionEvidence first verdict ++ positionEvidence second verdict).filter
      (·.position == .endEntity) = positionEvidence first verdict := by
    simp [positionEvidence, componentEvidence, firstAt, secondAt]
  obtain ⟨scopes, evaluated⟩ := (presentable_classical firstAt hex path anchor
    (show _ = config.settings.validationTime from applied)).evaluated outcomes.atomic.readsTime
  refine ⟨scopes, ?_⟩
  simp only [evaluateClassicalRoute, firstScope, listed, List.head?_cons, orFail, mapErr_ok,
    ok_bind, described.evidence, leafItems, outcomes.leafHashed, leafJoined, classicalIca, icaJoined,
    classicalRoot, icaChecked, rootChecked]
  rw [mapErr_ok_iff, evaluateScopes, filter_classicalEvidence firstAt rfl rfl]
  exact evaluated

/-! ## The whole analysis -/

def ClassicalControls.executions (controls : ClassicalControls) : List AdapterExecution :=
  [controls.invalidIntermediatePath, controls.invalidRootPath, controls.invalidLeafEcdsaPath,
    controls.invalidLeafMldsaPath, controls.intermediateSignature,
    controls.invalidIntermediateSignature, controls.rootSignature, controls.invalidRootSignature,
    controls.rootCrl, controls.icaCrl]

def Builders.executions (executions : Builders AdapterExecution) : List AdapterExecution :=
  [executions.selected, executions.forcedClassical, executions.forcedAtomic,
    executions.classicalFallback, executions.atomicFallback]

theorem classicalControls_returns (outcomes : Outcomes sys config hashes leaf route) :
    ∃ controls, classicalControls sys config = .ok controls ∧
      ∀ execution ∈ controls.executions, ∃ report, execution.report sys = .ok report := by
  obtain ⟨_, badIca, _, badIcaReport⟩ := outcomes.builders ("cross-root-classical.pem",
    "cross-ica-classical-bad-signature.pem", "cross-leaf.pem") (by decide)
  obtain ⟨_, badRoot, _, badRootReport⟩ := outcomes.builders
    ("cross-root-classical-bad-signature.pem", "cross-ica-classical.pem", "cross-leaf.pem")
    (by decide)
  obtain ⟨_, badEcdsa, _, badEcdsaReport⟩ := outcomes.builders ("cross-root-classical.pem",
    "cross-ica-classical.pem", "cross-leaf-bad-ecdsa.pem") (by decide)
  obtain ⟨_, badMldsa, _, badMldsaReport⟩ := outcomes.builders ("cross-root-classical.pem",
    "cross-ica-classical.pem", "cross-leaf-bad-mldsa.pem") (by decide)
  obtain ⟨_, icaSigned, _, icaSignedReport⟩ := outcomes.directs
    ("cross-root-classical.pem", "cross-ica-classical.pem") (by decide)
  obtain ⟨_, icaForged, _, icaForgedReport⟩ := outcomes.directs
    ("cross-root-classical.pem", "cross-ica-classical-bad-signature.pem") (by decide)
  obtain ⟨_, rootSigned, _, rootSignedReport⟩ := outcomes.directs
    ("cross-root-classical.pem", "cross-root-classical.pem") (by decide)
  obtain ⟨_, rootForged, _, rootForgedReport⟩ := outcomes.directs
    ("cross-root-classical.pem", "cross-root-classical-bad-signature.pem") (by decide)
  obtain ⟨_, rootCrl, _, rootCrlReport⟩ := outcomes.crls ("cross-root-classical.pem",
    "cross-ica-classical.pem", "cross-root-classical-crl.pem") (by decide)
  obtain ⟨_, icaCrl, _, icaCrlReport⟩ := outcomes.crls
    ("cross-ica-classical.pem", "cross-leaf.pem", "cross-ica-crl.pem") (by decide)
  simp only [classicalControls, badIca, badRoot, badEcdsa, badMldsa, icaSigned, icaForged,
    rootSigned, rootForged, rootCrl, icaCrl, ok_bind]
  refine ⟨_, rfl, ?_⟩
  simp only [ClassicalControls.executions, List.forall_mem_cons]
  exact ⟨⟨_, badIcaReport⟩, ⟨_, badRootReport⟩, ⟨_, badEcdsaReport⟩, ⟨_, badMldsaReport⟩,
    ⟨_, icaSignedReport⟩, ⟨_, icaForgedReport⟩, ⟨_, rootSignedReport⟩, ⟨_, rootForgedReport⟩,
    ⟨_, rootCrlReport⟩, ⟨_, icaCrlReport⟩, by simp⟩

/-- The builder runs of the analysis, with the routes they are known to take. -/
structure AllBuilt (sys : System BouncyCastleConfig) (config : CrossSignedPathConfig)
    (hashes : RouteHashes) (leaf : String) (route : SelectedRoute)
    (executions : Builders AdapterExecution) : Prop where
  selected : Built sys config hashes leaf "cross-roots.pem" "cross-icas.pem" route
    executions.selected
  forcedClassical : Built sys config hashes leaf "cross-root-classical.pem" "cross-icas.pem"
    .classical executions.forcedClassical
  forcedAtomic : Built sys config hashes leaf "cross-root-atomic.pem" "cross-icas.pem" .atomic
    executions.forcedAtomic
  classicalFallback : Built sys config hashes leaf "cross-roots.pem"
    "cross-icas-classical-fallback.pem" .classical executions.classicalFallback
  atomicFallback : Built sys config hashes leaf "cross-roots.pem"
    "cross-icas-atomic-fallback.pem" .atomic executions.atomicFallback

theorem builderExecutions_returns (outcomes : Outcomes sys config hashes leaf route) :
    ∃ executions, builderExecutions sys config = .ok executions ∧
      AllBuilt sys config hashes leaf route executions ∧
      ∀ execution ∈ executions.executions, ∃ report, execution.report sys = .ok report := by
  obtain ⟨_, selected⟩ := outcomes.selected
  obtain ⟨_, forcedClassical⟩ := outcomes.forcedClassical
  obtain ⟨_, forcedAtomic⟩ := outcomes.forcedAtomic
  obtain ⟨_, classicalFallback⟩ := outcomes.classicalFallback
  obtain ⟨_, atomicFallback⟩ := outcomes.atomicFallback
  have reported {roots intermediates : String} {route : SelectedRoute}
      {execution : AdapterExecution}
      (built : Built sys config hashes leaf roots intermediates route execution)
      (listed : (roots, intermediates, "cross-leaf.pem") ∈ builderFiles) :
      ∃ report, execution.report sys = .ok report :=
    (outcomes.builders _ listed).report built.ran
  simp only [builderExecutions, selected.ran, forcedClassical.ran, forcedAtomic.ran,
    classicalFallback.ran, atomicFallback.ran, ok_bind]
  refine ⟨_, rfl, ⟨selected, forcedClassical, forcedAtomic, classicalFallback, atomicFallback⟩, ?_⟩
  simp only [Builders.executions, List.forall_mem_cons]
  exact ⟨reported selected (by decide), reported forcedClassical (by decide),
    reported forcedAtomic (by decide), reported classicalFallback (by decide),
    reported atomicFallback (by decide), by simp⟩

theorem AllBuilt.selectedPaths {executions : Builders AdapterExecution}
    (built : AllBuilt sys config hashes leaf route executions) :
    ∃ paths, selectedPaths sys executions hashes = .ok paths ∧ paths.selected.route = route := by
  obtain ⟨_, selected⟩ := built.selected.selectedPath
  obtain ⟨_, forcedClassical⟩ := built.forcedClassical.selectedPath
  obtain ⟨_, forcedAtomic⟩ := built.forcedAtomic.selectedPath
  obtain ⟨_, classicalFallback⟩ := built.classicalFallback.selectedPath
  obtain ⟨_, atomicFallback⟩ := built.atomicFallback.selectedPath
  simp only [CrossSignedPath.selectedPaths, selected, forcedClassical, forcedAtomic,
    classicalFallback, atomicFallback, ok_bind]
  exact ⟨_, rfl, rfl⟩

theorem writeReport_returns {executions : Builders AdapterExecution}
    {controls : ClassicalControls}
    (built : ∀ execution ∈ executions.executions, ∃ report, execution.report sys = .ok report)
    (controlled : ∀ execution ∈ controls.executions, ∃ report, execution.report sys = .ok report)
    (paths : Builders SelectedPath) (atomic : AtomicPathScopeReport)
    (selectedScopes fallbackScopes : List ScopedVerificationResult) :
    ∃ report, writeReport sys executions paths controls atomic selectedScopes fallbackScopes =
        .ok report ∧ report.selectedPath.route = paths.selected.route ∧
      report.selectedScopes = selectedScopes := by
  simp only [Builders.executions, ClassicalControls.executions, List.forall_mem_cons]
    at built controlled
  obtain ⟨⟨_, selected⟩, ⟨_, forcedClassical⟩, ⟨_, forcedAtomic⟩, ⟨_, classicalFallback⟩,
    ⟨_, atomicFallback⟩, -⟩ := built
  obtain ⟨⟨_, badIca⟩, ⟨_, badRoot⟩, ⟨_, badEcdsa⟩, ⟨_, badMldsa⟩, ⟨_, icaSigned⟩, ⟨_, icaForged⟩,
    ⟨_, rootSigned⟩, ⟨_, rootForged⟩, ⟨_, rootCrl⟩, ⟨_, icaCrl⟩, -⟩ := controlled
  simp only [writeReport, selected, forcedClassical, forcedAtomic, classicalFallback,
    atomicFallback, badIca, badRoot, badEcdsa, badMldsa, icaSigned, icaForged, rootSigned,
    rootForged, rootCrl, icaCrl, ok_bind]
  exact ⟨_, rfl, rfl, rfl⟩

/-- A builder that selects the atomic route is reported on. -/
theorem reportsRoute_atomic (digest : ∀ bytes, (sys.sha256 bytes).length = 32)
    (outcomes : Outcomes sys config hashes leaf .atomic) :
    ReportsRoute sys config hashes leaf .atomic := by
  obtain ⟨executions, ran, built, reported⟩ := builderExecutions_returns outcomes
  obtain ⟨paths, selected, route⟩ := built.selectedPaths
  obtain ⟨controls, controlled, controlsReported⟩ := classicalControls_returns outcomes
  obtain ⟨atomic, analyzed⟩ := AtomicPathScope.analyze_returns digest outcomes.atomic
  obtain ⟨scopes, evaluated, both, ofRoute⟩ :=
    evaluateAtomicRoute_returns digest outcomes built.selected analyzed
  obtain ⟨fallbackScopes, fallback⟩ :=
    evaluateClassicalRoute_returns digest outcomes built.classicalFallback analyzed controls
  obtain ⟨report, written, sameRoute, sameScopes⟩ :=
    writeReport_returns reported controlsReported paths atomic scopes fallbackScopes
  refine ⟨report, ?_, sameRoute.trans route, by rw [sameScopes, both], sameScopes ▸ ofRoute⟩
  simp only [analyze, outcomes.hashed, ran, selected, controlled, analyzed, evaluated, fallback,
    route, written, mapErr_ok, ok_bind]

/-- A builder that selects the classical route is not: no report is returned. -/
theorem not_reportsRoute_classical (outcomes : Outcomes sys config hashes leaf .classical) :
    ¬ ReportsRoute sys config hashes leaf .classical := by
  intro ⟨report, returned, _⟩
  obtain ⟨executions, ran, built, _⟩ := builderExecutions_returns outcomes
  simp only [analyze, ran, bind_ok_iff, mapErr_ok_iff] at returned
  obtain ⟨_, _, _, ⟨⟩, _, _, _, _, atomic, analyzed, scopes, evaluated, _⟩ := returned
  exact evaluateAtomicRoute_refused outcomes built.selected analyzed scopes evaluated

/-- The selected route is reported exactly when it is the atomic one. -/
theorem analyze_reports_selected_route_iff (digest : ∀ bytes, (sys.sha256 bytes).length = 32)
    (outcomes : Outcomes sys config hashes leaf route) :
    ReportsRoute sys config hashes leaf route ↔ route = .atomic := by
  cases route with
  | classical => simp [not_reportsRoute_classical outcomes]
  | atomic => simp [reportsRoute_atomic digest outcomes]

end Runs

/-! ## Two systems

A directory of one-byte certificates, digests padded to 32 bytes, and an adapter that
accepts everything. The two systems differ in the route of the first builder run. -/

namespace Fixture

def config : CrossSignedPathConfig where
  controls := "controls"
  docker := "docker"
  image := "hybrid-x509-bouncycastle:1.84"
  validationTime := "2026-06-20T00:00:00Z"
  policy := .p2RequiredHybrid
  previousAuthentication := none
  timeout := ⟨5, 0⟩
  maxOutputBytes := 64 * 1024

def digest (bytes : List UInt8) : List UInt8 := (bytes ++ List.replicate 32 0).take 32

/-- The bytes of the certificates; every other file holds a zero. -/
def certificates : List (String × UInt8) :=
  [("controls/cross-leaf.pem", 1), ("controls/cross-ica-classical.pem", 2),
    ("controls/cross-root-classical.pem", 3), ("controls/cross-ica-atomic.pem", 4),
    ("controls/cross-root-atomic.pem", 5)]

/-- The classical certificates are signed with ECDSA, all others with a composite. -/
def certificate (der : List UInt8) : X509Certificate :=
  if der = [2] ∨ der = [3] then X509.Fixture.caCertificate
  else { X509.Fixture.caCertificate with signatureAlgorithm := ⟨"1.3.6.1.5.5.7.6.45", none⟩ }

def hashes : RouteHashes :=
  ⟨hexLower (digest [2]), hexLower (digest [3]), hexLower (digest [4]), hexLower (digest [5])⟩

def leaf : String := hexLower (digest [1])

/-- The line of a builder that took a route. -/
def builderLine (route : SelectedRoute) : String :=
  "\x7b\"verdict\":\"accept\",\"selected_path_sha256\":[\"" ++ leaf ++ "\",\""
    ++ (hashes.pair route).1 ++ "\",\"" ++ (hashes.pair route).2 ++ "\"]\x7d"

def acceptLine : String := "\x7b\"verdict\":\"accept\"\x7d"

/-- The route of a builder run; damaged controls are found on the classical one. -/
def routeOf (selected : SelectedRoute) (call : BouncyCastleConfig) : SelectedRoute :=
  if call.trustStore = "controls/cross-root-atomic.pem"
      ∨ call.intermediate = "controls/cross-icas-atomic-fallback.pem" then .atomic
  else if call.trustStore = "controls/cross-roots.pem"
      ∧ call.intermediate = "controls/cross-icas.pem" then selected
  else .classical

def line (selected : SelectedRoute) (call : BouncyCastleConfig) : String :=
  if call.mode = .pathBuilder then builderLine (routeOf selected call) else acceptLine

def output (text : String) : ProcessOutput :=
  ⟨some 0, false, ⟨0, 0⟩, ⟨bytes text, false⟩, ⟨[], false⟩⟩

def system (selected : SelectedRoute) : System BouncyCastleConfig where
  toLibrary := { X509.Fixture.library X509.Fixture.leafCertificate X509.Fixture.crl
      X509.Fixture.tryLater X509.Fixture.emptyResponse with
    openFile := fun path => .ok ⟨true, 1, .ok [(certificates.lookup path).getD 0]⟩
    parseX509Pem := fun text => some ([], ⟨"CERTIFICATE", text⟩)
    certificateFromDer := fun der => some ([], certificate der)
    sha256 := digest }
  resolveExecutable := fun name => .ok (.utf8 ("/usr/bin/" ++ name))
  canonicalize := fun path => .ok (.utf8 ("/" ++ path))
  cachedVersionOutput := fun _ => .ok (output "1.84")
  runProgram := fun call => .ok (output (line selected call))
  base64Encode := hexLower
  verdictFromSlice := fun text =>
    if text = bytes acceptLine ∨ text = bytes (builderLine .classical)
        ∨ text = bytes (builderLine .atomic) then some "accept" else none
  selectedPathFromSlice := fun text =>
    if text = bytes (builderLine .classical) then
      .ok [leaf, hashes.classicalIca, hashes.classicalRoot]
    else if text = bytes (builderLine .atomic) then
      .ok [leaf, hashes.atomicIca, hashes.atomicRoot]
    else .error "missing field"
  instrumentedFromSlice := fun _ => none

theorem length_digest (selected : SelectedRoute) (bytes : List UInt8) :
    ((system selected).sha256 bytes).length = 32 := by
  simp [system, digest]

theorem positionReturns_system (selected : SelectedRoute) (position : PathPosition) :
    PositionReturns (system selected) config.atomicConfig position where
  signatures := by cases selected <;> cases position <;> decide +kernel
  paths := by cases selected <;> cases position <;> decide +kernel
  crl := by cases selected <;> cases position <;> decide +kernel
  validity := by cases selected <;> cases position <;> decide +kernel

theorem outcomes_system (selected : SelectedRoute) :
    Outcomes (system selected) config hashes leaf selected where
  hashed := by cases selected <;> decide +kernel
  leafHashed := by cases selected <;> decide +kernel
  selected := reports_iff.mpr (by cases selected <;> decide +kernel)
  forcedClassical := reports_iff.mpr (by cases selected <;> decide +kernel)
  forcedAtomic := reports_iff.mpr (by cases selected <;> decide +kernel)
  classicalFallback := reports_iff.mpr (by cases selected <;> decide +kernel)
  atomicFallback := reports_iff.mpr (by cases selected <;> decide +kernel)
  builders := by cases selected <;> decide +kernel
  directs := by cases selected <;> decide +kernel
  crls := by cases selected <;> decide +kernel
  validities := by cases selected <;> decide +kernel
  atomic := {
    controls := by cases selected <;> decide +kernel
    validPath := by cases selected <;> decide +kernel
    positions := positionReturns_system selected }

end Fixture

theorem analyze_reports_atomic_route :
    ReportsRoute (Fixture.system .atomic) Fixture.config Fixture.hashes Fixture.leaf .atomic :=
  (analyze_reports_selected_route_iff (Fixture.length_digest .atomic)
    (Fixture.outcomes_system .atomic)).mpr rfl

theorem classical_route_not_reported :
    Outcomes (Fixture.system .classical) Fixture.config Fixture.hashes Fixture.leaf .classical ∧
      ¬ ReportsRoute (Fixture.system .classical) Fixture.config Fixture.hashes Fixture.leaf
        .classical :=
  ⟨Fixture.outcomes_system .classical, not_reportsRoute_classical (Fixture.outcomes_system .classical)⟩

end HybridX509.Analysis.CrossSignedPath
