import HybridX509.Analysis.CatalystPathScope
import HybridX509.Analysis.ChameleonPathScope
import HybridX509.Analysis.PurePathScope
import HybridX509.Analysis.RelatedPathScope
import HybridX509.Analysis.SelectedRoute

/-! # The path analyses together

Whatever its adapter runs answer, a path analysis builds requests that the oracle
evaluates, for both scopes, and never reports hybrid acceptance: the stack was shown
the path and did not select it.
-/

namespace HybridX509.Analysis

open Lib X509 Oracle Adapters Adapters.BouncyCastle Revocation.Ocsp PathRuns PathPositions

namespace AtomicPathScope

def AtomicPathScopeError.NotOracle : AtomicPathScopeError → Prop := PathRuns.NotOracle .oracle

section Accepted

variable {sys : System BouncyCastleConfig} {config : AtomicPathScopeConfig}

theorem analyzePosition_raises (position : PathPosition) (validVerdict : StackVerdict) :
    Raises AtomicPathScopeError.NotOracle (analyzePosition sys config position validVerdict) := by
  unfold analyzePosition
  refine raises_bind (raises_other _ (by simp)) fun _ _ => ?_
  refine raises_bind (raises_other _ (by simp)) fun _ _ => ?_
  refine raises_bind (raises_other _ (by simp)) fun _ _ => ?_
  refine raises_bind (raises_other _ (by simp)) fun _ _ => ?_
  refine raises_bind (raises_other _ (by simp)) fun _ _ => ?_
  refine raises_bind (raises_other _ (by simp)) fun _ _ => ?_
  refine raises_bind (raises_other _ (by simp)) fun _ _ => ?_
  refine raises_bind (raises_other _ (by simp)) fun _ _ => ?_
  exact raises_bind (raises_other _ (by simp)) fun _ _ => raises_ok _

theorem checkControl_raises (certificate : String) :
    Raises AtomicPathScopeError.NotOracle (checkControl sys certificate) :=
  checkBindingDesign_raises (by simp) (by simp) _ certificate

/-- The validity of an analyzed position was decided at a time that was read. -/
theorem readsTime_of_ok {position : PathPosition} {verdict : StackVerdict}
    {analysis : PositionAnalysis}
    (analyzed : analyzePosition sys config position verdict = .ok analysis) :
    readsTime sys.toLibrary config.validationTime = true := by
  simp only [analyzePosition, bind_ok_iff, mapErr_ok_iff] at analyzed
  obtain ⟨_, _, _, _, _, _, _, _, _, _, _, _, _, _, _, checked, _⟩ := analyzed
  exact (read_of_checkCertificateValidity checked).2

theorem analyze_yields (digest : ∀ bytes, (sys.sha256 bytes).length = 32) :
    Yields (fun report => Scoped report.scopes) AtomicPathScopeError.NotOracle
      (analyze sys config) := by
  refine yields_bind (raises_forM checkControl_raises) fun _ _ => ?_
  refine yields_bind (raises_other _ (by simp)) fun validPath ran => ?_
  refine yields_bind (raises_mapM fun position => analyzePosition_raises position _)
    fun analyses analyzed => ?_
  refine yields_bind (raises_other _ (by simp)) fun anchor anchored => ?_
  simp only [List.mapM_cons, List.mapM_nil, bind_ok_iff, pure_ok_iff] at analyzed
  obtain ⟨leaf, leafOk, _, ⟨intermediate, intermediateOk, _, ⟨root, rootOk, _, rfl, rfl⟩, rfl⟩,
    rfl⟩ := analyzed
  have leafAnalyzed := analyzed_of_ok leafOk
  have intermediateAnalyzed := analyzed_of_ok intermediateOk
  obtain ⟨leafHash, intermediateHash, rootHash, observed⟩ :=
    observed_of_runPath (mapErr_ok_iff.mp ran)
  obtain rfl := anchor_of_observed observed (mapErr_ok_iff.mp anchored)
  obtain rfl : leaf.certificateDerSha256 = leafHash :=
    ok_unique leafAnalyzed.der observed.leafHash
  obtain rfl : intermediate.certificateDerSha256 = intermediateHash :=
    ok_unique intermediateAnalyzed.der observed.intermediateHash
  have presentable := presentable_of_analyzed digest leafAnalyzed intermediateAnalyzed
    (isSha256Hex_of_certificateDerHash digest observed.rootHash) observed.path observed.anchor
    (show _ = config.settings.validationTime from observed.time) validPath.observation.verdict
  obtain ⟨scopes, evaluated, accepted⟩ := evaluateEach_scoped
    (presentable.wellFormed (readsTime_of_ok leafOk)) fun _ => observed.source
  have kept := filter_analyzed leafAnalyzed intermediateAnalyzed (analyzed_of_ok rootOk)
  simp only [kept, List.map_cons, List.map_nil, List.flatMap_cons, List.flatMap_nil,
    List.append_nil, evaluated, mapErr_ok, ok_bind]
  refine yields_bind (raises_other _ (by simp)) fun positions _ => ?_
  exact yields_bind (raises_other _ (by simp)) fun validDefaultPath _ => yields_ok accepted

end Accepted

end AtomicPathScope

/-- No path analysis fails because the oracle refused its requests, and a report holds the
    results of both scopes, neither of them a hybrid acceptance. -/
theorem pathScopes_evaluated_never_hybrid (sys : CatalystPathScope.Surroundings)
    (digest : ∀ bytes, (sys.sha256 bytes).length = 32) :
    (∀ config, Yields (fun report => Scoped report.scopes)
      AtomicPathScope.AtomicPathScopeError.NotOracle
      (AtomicPathScope.analyze sys.toSystem config)) ∧
    (∀ config, Yields (fun report => Scoped report.scopes) PathScopeError.NotOracle
      (PurePathScope.analyze sys.toSystem config)) ∧
    (∀ config, Yields (fun report => Scoped report.scopes) PathScopeError.NotOracle
      (CatalystPathScope.analyze sys config)) ∧
    (∀ config, Yields (fun report => Scoped report.scopes) PathScopeError.NotOracle
      (ChameleonPathScope.analyze sys.toSystem config)) ∧
    (∀ config, Yields (fun report => Scoped report.scopes) PathScopeError.NotOracle
      (RelatedPathScope.analyze sys.toSystem config)) :=
  ⟨fun _ => AtomicPathScope.analyze_yields digest, fun _ => PurePathScope.analyze_yields digest,
    fun _ => CatalystPathScope.analyze_yields digest,
    fun _ => ChameleonPathScope.analyze_yields digest,
    fun _ => RelatedPathScope.analyze_yields digest⟩

/-! ## Reports

A directory with a certificate of each design and an adapter that accepts everything. -/

namespace PathScopes.Fixture

/-- The files of a design: a certificate for each position with two damaged copies, told
    apart by the last byte. -/
def filesOf (design : String) (first : UInt8) : List (String × List UInt8) :=
  [("-root", 1), ("-intermediate", 2), ("-leaf", 3)].flatMap fun (position, second) =>
    [(design ++ position ++ ".pem", [first, second, 0x7F]),
      (design ++ position ++ "-bad-classical.pem", [first, second, 0x7E]),
      (design ++ position ++ "-bad-pq.pem", [first, second, 0x7D])]

def files : List (String × List UInt8) :=
  filesOf "atomic" 1 ++ filesOf "pure" 2 ++ filesOf "catalyst" 3 ++ filesOf "base" 4
    ++ filesOf "delta" 5 ++ filesOf "related" 6
    ++ [("damaged.pem", [3, 0, 0x7E]), ("root-crl.pem", [7, 1]), ("intermediate-crl.pem", [7, 2])]

def extensionOf (oid : String) : X509Extension := ⟨oid, false, [], .unsupportedExtension⟩

/-- The first byte tells the design, the rest is the signature. -/
def certificate (der : List UInt8) : X509Certificate :=
  let plain := { X509.Fixture.caCertificate with
    signatureValue := .new (der.drop 1), signatureStart := 1 }
  match der.head? with
  | some 1 => { plain with signatureAlgorithm := ⟨"1.3.6.1.5.5.7.6.45", none⟩ }
  | some 2 => { plain with
      signatureAlgorithm := X509.Fixture.mlDsa44
      publicKey := ⟨X509.Fixture.mlDsa44, .new [4, 2]⟩ }
  | some 3 => { plain with extensions := [extensionOf "2.5.29.74"] }
  | some 4 => { plain with extensions := [extensionOf "2.16.840.1.114027.80.6.1"] }
  | some 6 => { plain with extensions := [extensionOf "1.3.6.1.5.5.7.1.36"] }
  | _ => plain

def system : CatalystPathScope.Surroundings where
  toSystem := { CrossSignedPath.Fixture.system .atomic with
    openFile := fun path =>
      orFail ((files.lookup path).map fun bytes => ⟨true, bytes.length, .ok bytes⟩) "no such file"
    parseX509Pem := fun text =>
      some ([], ⟨if text.head? = some 7 then "X509 CRL" else "CERTIFICATE", text⟩)
    certificateFromDer := fun der => some ([], certificate der)
    crlFromDer := fun _ => some ([], X509.Fixture.crl)
    parseDerSequence := fun _ =>
      some ([], .sequence [.sequence [.oid "2.16.840.1.101.3.4.2.1"], .octetString [2]]) }
  readableTempfile := fun _ => .ok "damaged.pem"
  rerun := fun _ => .ok (CrossSignedPath.Fixture.output CrossSignedPath.Fixture.acceptLine)

def atomicConfig : AtomicPathScope.AtomicPathScopeConfig where
  docker := "docker"
  image := "hybrid-x509-bouncycastle:1.84"
  root := "atomic-root.pem"
  intermediate := "atomic-intermediate.pem"
  leaf := "atomic-leaf.pem"
  invalidClassicalRoot := "atomic-root-bad-classical.pem"
  invalidPostQuantumRoot := "atomic-root-bad-pq.pem"
  invalidClassicalIntermediate := "atomic-intermediate-bad-classical.pem"
  invalidPostQuantumIntermediate := "atomic-intermediate-bad-pq.pem"
  invalidClassicalLeaf := "atomic-leaf-bad-classical.pem"
  invalidPostQuantumLeaf := "atomic-leaf-bad-pq.pem"
  rootCrl := "root-crl.pem"
  intermediateCrl := "intermediate-crl.pem"
  validationTime := "2026-06-20T00:00:00Z"
  policy := .p2RequiredHybrid
  previousAuthentication := none
  timeout := ⟨5, 0⟩
  maxOutputBytes := 64 * 1024

def pureConfig : PurePathScope.PurePathScopeConfig where
  docker := "docker"
  image := "hybrid-x509-bouncycastle:1.84"
  root := "pure-root.pem"
  intermediate := "pure-intermediate.pem"
  leaf := "pure-leaf.pem"
  invalidRoot := "pure-root-bad-pq.pem"
  invalidIntermediate := "pure-intermediate-bad-pq.pem"
  invalidLeaf := "pure-leaf-bad-pq.pem"
  rootCrl := "root-crl.pem"
  intermediateCrl := "intermediate-crl.pem"
  validationTime := "2026-06-20T00:00:00Z"
  policy := .p2RequiredHybrid
  previousAuthentication := none
  timeout := ⟨5, 0⟩
  maxOutputBytes := 64 * 1024

def catalystConfig : CatalystPathScope.CatalystPathScopeConfig where
  docker := "docker"
  image := "hybrid-x509-bouncycastle:1.84"
  root := "catalyst-root.pem"
  intermediate := "catalyst-intermediate.pem"
  leaf := "catalyst-leaf.pem"
  invalidAlternativeRoot := "catalyst-root-bad-pq.pem"
  invalidAlternativeIntermediate := "catalyst-intermediate-bad-pq.pem"
  invalidAlternativeLeaf := "catalyst-leaf-bad-pq.pem"
  rootCrl := "root-crl.pem"
  intermediateCrl := "intermediate-crl.pem"
  validationTime := "2026-06-20T00:00:00Z"
  policy := .p2RequiredHybrid
  previousAuthentication := none
  timeout := ⟨5, 0⟩
  maxOutputBytes := 64 * 1024

def chameleonConfig : ChameleonPathScope.ChameleonPathScopeConfig where
  docker := "docker"
  image := "hybrid-x509-bouncycastle:1.84"
  rootBase := "base-root.pem"
  intermediateBase := "base-intermediate.pem"
  leafBase := "base-leaf.pem"
  rootDelta := "delta-root.pem"
  intermediateDelta := "delta-intermediate.pem"
  leafDelta := "delta-leaf.pem"
  invalidDeltaRootBase := "base-root-bad-classical.pem"
  invalidDeltaIntermediateBase := "base-intermediate-bad-classical.pem"
  invalidDeltaLeafBase := "base-leaf-bad-classical.pem"
  invalidBaseRoot := "base-root-bad-pq.pem"
  invalidBaseIntermediate := "base-intermediate-bad-pq.pem"
  invalidBaseLeaf := "base-leaf-bad-pq.pem"
  rootBaseCrl := "root-crl.pem"
  intermediateBaseCrl := "intermediate-crl.pem"
  rootDeltaCrl := "root-crl.pem"
  intermediateDeltaCrl := "intermediate-crl.pem"
  validationTime := "2026-06-20T00:00:00Z"
  policy := .p2RequiredHybrid
  previousAuthentication := none
  timeout := ⟨5, 0⟩
  maxOutputBytes := 64 * 1024

def relatedConfig : RelatedPathScope.RelatedPathScopeConfig where
  docker := "docker"
  image := "hybrid-x509-bouncycastle:1.84"
  classicalRoot := "related-root.pem"
  classicalIntermediate := "related-intermediate.pem"
  classicalLeaf := "related-leaf.pem"
  postQuantumRoot := "pure-root.pem"
  postQuantumIntermediate := "pure-intermediate.pem"
  postQuantumLeaf := "pure-leaf.pem"
  invalidBindingRoot := "related-root-bad-pq.pem"
  invalidBindingIntermediate := "related-intermediate-bad-pq.pem"
  invalidBindingLeaf := "related-leaf-bad-pq.pem"
  invalidClassicalRoot := "related-root-bad-classical.pem"
  invalidClassicalIntermediate := "related-intermediate-bad-classical.pem"
  invalidClassicalLeaf := "related-leaf-bad-classical.pem"
  invalidPostQuantumRoot := "pure-root-bad-pq.pem"
  invalidPostQuantumIntermediate := "pure-intermediate-bad-pq.pem"
  invalidPostQuantumLeaf := "pure-leaf-bad-pq.pem"
  classicalRootCrl := "root-crl.pem"
  classicalIntermediateCrl := "intermediate-crl.pem"
  postQuantumRootCrl := "root-crl.pem"
  postQuantumIntermediateCrl := "intermediate-crl.pem"
  validationTime := "2026-06-20T00:00:00Z"
  policy := .p2RequiredHybrid
  previousAuthentication := none
  timeout := ⟨5, 0⟩
  maxOutputBytes := 64 * 1024

end PathScopes.Fixture

/-- Each analysis returns a report where every certificate is read and every run accepts. -/
theorem pathScopes_evaluated_never_hybrid_accepting :
    (∃ report, AtomicPathScope.analyze PathScopes.Fixture.system.toSystem
      PathScopes.Fixture.atomicConfig = .ok report ∧ Scoped report.scopes) ∧
    (∃ report, PurePathScope.analyze PathScopes.Fixture.system.toSystem
      PathScopes.Fixture.pureConfig = .ok report ∧ Scoped report.scopes) ∧
    (∃ report, CatalystPathScope.analyze PathScopes.Fixture.system
      PathScopes.Fixture.catalystConfig = .ok report ∧ Scoped report.scopes) ∧
    (∃ report, ChameleonPathScope.analyze PathScopes.Fixture.system.toSystem
      PathScopes.Fixture.chameleonConfig = .ok report ∧ Scoped report.scopes) ∧
    (∃ report, RelatedPathScope.analyze PathScopes.Fixture.system.toSystem
      PathScopes.Fixture.relatedConfig = .ok report ∧ Scoped report.scopes) := by
  obtain ⟨atomic, pure, catalyst, chameleon, related⟩ :=
    pathScopes_evaluated_never_hybrid PathScopes.Fixture.system
      (CrossSignedPath.Fixture.length_digest .atomic)
  have atomicReturns : ∃ report, AtomicPathScope.analyze PathScopes.Fixture.system.toSystem
      PathScopes.Fixture.atomicConfig = .ok report := by decide +kernel
  have pureReturns : ∃ report, PurePathScope.analyze PathScopes.Fixture.system.toSystem
      PathScopes.Fixture.pureConfig = .ok report := by decide +kernel
  have catalystReturns : ∃ report, CatalystPathScope.analyze PathScopes.Fixture.system
      PathScopes.Fixture.catalystConfig = .ok report := by decide +kernel
  have chameleonReturns : ∃ report, ChameleonPathScope.analyze PathScopes.Fixture.system.toSystem
      PathScopes.Fixture.chameleonConfig = .ok report := by decide +kernel
  have relatedReturns : ∃ report, RelatedPathScope.analyze PathScopes.Fixture.system.toSystem
      PathScopes.Fixture.relatedConfig = .ok report := by decide +kernel
  refine ⟨?_, ?_, ?_, ?_, ?_⟩
  · exact atomicReturns.imp fun report returned => ⟨returned, (atomic _).1 report returned⟩
  · exact pureReturns.imp fun report returned => ⟨returned, (pure _).1 report returned⟩
  · exact catalystReturns.imp fun report returned => ⟨returned, (catalyst _).1 report returned⟩
  · exact chameleonReturns.imp fun report returned => ⟨returned, (chameleon _).1 report returned⟩
  · exact relatedReturns.imp fun report returned => ⟨returned, (related _).1 report returned⟩

end HybridX509.Analysis
