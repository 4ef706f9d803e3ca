import HybridX509.Analysis.PathRuns
import HybridX509.Oracle.Related

/-! # Path analyses

What the analyses of a certification path have in common, apart from the atomic one: the
node and the items they build for a position, and the requests that follow. The stack of
such a request was shown the path and did not select it, so the oracle accepts the request
and never answers with hybrid acceptance.
-/

namespace HybridX509.Analysis.PathPositions

open Lib X509 Oracle Adapters Adapters.BouncyCastle Revocation.Ocsp PathRuns

/-- The error enumerations of the path analyses; only the Catalyst one has `mutation` and
    `io`. -/
inductive PathScopeError where
  | wrongScheme
  | bouncyCastle (error : BouncyCastleError)
  | support (error : AdapterSupportError)
  | pem (error : PemError)
  | mutation (error : MutationError)
  | oracle (abort : Abort)
  | io (source : String)
  deriving Repr, DecidableEq

def PathScopeError.NotOracle : PathScopeError → Prop := PathRuns.NotOracle .oracle

/-! ## Positions -/

/-- The hashes of a position. -/
structure Located where
  position : PathPosition
  certificateDerSha256 : String
  issuerEdgeSha256 : Option String
  deriving Repr, DecidableEq

/-- What the items of a position differ in. -/
structure Part where
  name : String
  kind : EvidenceKind
  signature : CheckResult
  binding : CheckResult
  path : CheckResult
  validity : CheckResult
  revocation : CheckResult
  decisionSensitiveForFixture : CheckResult
  deriving Repr, DecidableEq

namespace Located

variable (located : Located)

def node (subjectPublicKeyScheme certificateSignatureScheme : AlgorithmSecurity)
    (bindingDesign : BindingDesign) : CertificateNode where
  id := positionId located.position
  position := located.position
  subjectPublicKeyScheme := subjectPublicKeyScheme
  certificateSignatureScheme := certificateSignatureScheme
  bindingDesign := bindingDesign
  derSha256 := some located.certificateDerSha256
  issuerEdgeSha256 := located.issuerEdgeSha256

/-- An item of the certificate, for an artifact and an operation. -/
def itemFor (artifact : String) (operationId : Option String) (part : Part) : Evidence where
  id := positionId located.position ++ part.name
  certificateId := positionId located.position
  position := located.position
  certificateDerSha256 := some located.certificateDerSha256
  evidenceArtifactDerSha256 := some artifact
  issuerEdgeSha256 := located.issuerEdgeSha256
  authenticationOperationId := operationId
  kind := part.kind
  present := .observed .pass
  recognized := .observed .pass
  signature := part.signature
  binding := part.binding
  path := part.path
  validity := part.validity
  revocation := part.revocation
  revocationMethod := .crl
  appliedRevocationPolicy := .crlHardFail
  decisionSensitiveForFixture := part.decisionSensitiveForFixture

/-- An item of the certificate itself. -/
def item (part : Part) : Evidence := located.itemFor located.certificateDerSha256 none part

end Located

/-- The positions that a request is about. -/
def belowAnchor {α : Type} (located : α → Located) (analyses : List α) : List α :=
  analyses.filter fun analysis => (located analysis).position != .trustAnchor

/-! ## What a position computed -/

/-- The hashes of a position, from its certificate and issuer. -/
structure Placed (lib : Library) (files : PathFiles) (position : PathPosition)
    (located : Located) : Prop where
  placedAt : located.position = position
  der : certificateDerHash lib (files.certificateAndIssuer position).1 INPUT_LIMIT =
    .ok located.certificateDerSha256
  edge : positionEdge lib position (files.certificateAndIssuer position).1
    (files.certificateAndIssuer position).2 = .ok located.issuerEdgeSha256

/-- The three positions of a path, each analyzed. -/
def eachPosition {α : Type} (analyze : PathPosition → Except PathScopeError α) :
    Except PathScopeError (List α) :=
  [PathPosition.endEntity, .intermediate, .trustAnchor].mapM analyze

theorem eachPosition_ok {α : Type} {analyze : PathPosition → Except PathScopeError α}
    {analyses : List α} (analyzed : eachPosition analyze = .ok analyses) :
    ∃ leaf intermediate root, analyze .endEntity = .ok leaf ∧
      analyze .intermediate = .ok intermediate ∧ analyze .trustAnchor = .ok root ∧
      analyses = [leaf, intermediate, root] := by
  simp only [eachPosition, List.mapM_cons, List.mapM_nil, bind_ok_iff, pure_ok_iff] at analyzed
  obtain ⟨leaf, leafOk, _, ⟨intermediate, intermediateOk, _, ⟨root, rootOk, _, rfl, rfl⟩, rfl⟩,
    rfl⟩ := analyzed
  exact ⟨leaf, intermediate, root, leafOk, intermediateOk, rootOk, rfl⟩

/-- Where every position that is analyzed keeps its hashes, all three of a path do. -/
theorem eachPosition_placed {α : Type} {analyze : PathPosition → Except PathScopeError α}
    {analyses : List α} {lib : Library} {files : PathFiles} {located : α → Located} {time : Prop}
    (placed : ∀ {position analysis}, analyze position = .ok analysis →
      Placed lib files position (located analysis) ∧ time)
    (analyzed : eachPosition analyze = .ok analyses) :
    ∃ leaf intermediate root, analyses = [leaf, intermediate, root] ∧
      Placed lib files .endEntity (located leaf) ∧
      Placed lib files .intermediate (located intermediate) ∧
      Placed lib files .trustAnchor (located root) ∧ time := by
  obtain ⟨leaf, intermediate, root, leafOk, intermediateOk, rootOk, rfl⟩ := eachPosition_ok analyzed
  obtain ⟨leafPlaced, time⟩ := placed leafOk
  exact ⟨leaf, intermediate, root, rfl, leafPlaced, (placed intermediateOk).1, (placed rootOk).1,
    time⟩

/-! ## Requests -/

/-- Both scopes were evaluated, and neither is a hybrid acceptance. -/
def Scoped (scopes : List ScopedVerificationResult) : Prop :=
  scopes.map (·.scope) = [.endEntity, .certificationPath] ∧
    ∀ entry ∈ scopes, entry.result.policyVerdict ≠ .hybridClaimSetSatisfied

/-- Hybrid acceptance needs a path that the stack selected. -/
theorem verdict_ne_hybrid {parseFromRfc3339 : String → Bool} {request : VerificationRequest}
    {answer : VerificationResult} (returned : evaluate parseFromRfc3339 request = .ok answer)
    (source : request.stack.selectedPathSource = .presentedInput) :
    answer.policyVerdict ≠ .hybridClaimSetSatisfied := by
  intro hybrid
  have selected := (fullyShown_of_hybrid returned hybrid).selected
  rw [source] at selected
  cases selected

theorem evaluateEach_scoped {lib : Library} {request : PathScope → VerificationRequest}
    (wf : ∀ scope, WellFormed (readsTime lib) (request scope))
    (source : ∀ scope, (request scope).stack.selectedPathSource = .presentedInput) :
    ∃ scopes, evaluateEach lib request = .ok scopes ∧ Scoped scopes := by
  obtain ⟨endEntity, evaluated⟩ := (wf .endEntity).answered
  obtain ⟨certificationPath, evaluated'⟩ := (wf .certificationPath).answered
  refine ⟨_, evaluateEach_ok_iff.mpr ⟨_, _, evaluated, evaluated', rfl⟩, rfl, ?_⟩
  intro entry member
  rcases List.mem_pair.mp member with rfl | rfl
  · exact verdict_ne_hybrid evaluated (source .endEntity)
  · exact verdict_ne_hybrid evaluated' (source .certificationPath)

theorem anchor_of_observed {lib : Library} {files : PathFiles} {validationTime : String}
    {stack : StackObservation} {leaf intermediate root : String} {anchor : TrustAnchor}
    (observed : Observed lib files validationTime stack leaf intermediate root)
    (anchored : certificateTrustAnchor lib files.root INPUT_LIMIT = .ok anchor) :
    anchor = .certificateDerSha256 root := by
  obtain ⟨hash, hashed, same⟩ := bind_ok_iff.mp anchored
  rw [← pure_ok_iff.mp same, ok_unique hashed observed.rootHash]

section Positions

variable {lib : Library} {files : PathFiles} {position : PathPosition} {located : Located}

theorem itemOf_of_mem {parts : List Part} {item : Evidence}
    (member : item ∈ parts.map located.item) (keys signatures : AlgorithmSecurity)
    (design : BindingDesign) : ItemOf (located.node keys signatures design) item := by
  obtain ⟨part, -, rfl⟩ := List.mem_map.mp member
  exact ⟨rfl, rfl, rfl, rfl, rfl, rfl, rfl, rfl⟩

theorem map_id_items (located : Located) (parts : List Part) :
    (parts.map located.item).map (·.id) =
      (parts.map fun part => (part.name, part.kind)).map
        (positionId located.position ++ ·.1) := by
  simp only [List.map_map]
  rfl

theorem map_kind_items (located : Located) (parts : List Part) :
    (parts.map located.item).map (fun item => (item.certificateId, item.kind)) =
      (parts.map fun part => (part.name, part.kind)).map ((positionId located.position, ·.2)) := by
  simp only [List.map_map]
  rfl

theorem belowAnchor_placed {α : Type} (located : α → Located) {leaf intermediate root : α}
    (leafPlaced : Placed lib files .endEntity (located leaf))
    (intermediatePlaced : Placed lib files .intermediate (located intermediate))
    (rootPlaced : Placed lib files .trustAnchor (located root)) :
    belowAnchor located [leaf, intermediate, root] = [leaf, intermediate] := by
  simp [belowAnchor, leafPlaced.placedAt, intermediatePlaced.placedAt, rootPlaced.placedAt]

variable (digest : ∀ bytes, (lib.sha256 bytes).length = 32)

include digest

theorem isSha256Hex_of_positionEdge {certificate issuer : String} {edge : Option String}
    (joined : positionEdge lib position certificate issuer = .ok edge) : HashWellFormed edge := by
  simp only [positionEdge] at joined
  split at joined
  · obtain rfl := Except.ok.inj joined
    intro hash absent
    cases absent
  · obtain ⟨hash, joint, rfl⟩ := map_ok_iff.mp joined
    exact hashWellFormed_some (isSha256Hex_of_issuerEdgeHash digest joint)

theorem Placed.certificateWellFormed (placed : Placed lib files position located)
    {keys signatures : AlgorithmSecurity} {design : BindingDesign}
    (plain : design ≠ .atomicComposite) :
    CertificateWellFormed (located.node keys signatures design) where
  derPresent := rfl
  derHash := hashWellFormed_some (isSha256Hex_of_certificateDerHash digest placed.der)
  edgeHash := isSha256Hex_of_positionEdge digest placed.edge
  atomicComposite := fun atomic => absurd atomic plain

/-- A path against the stack that was shown it. -/
structure Shows (validationTime : String) (stack : StackObservation) (anchor : TrustAnchor)
    (path : List CertificateNode) : Prop where
  order : ∃ leaf intermediates, path = leaf :: intermediates ∧ leaf.position = .endEntity ∧
    ∀ certificate ∈ intermediates, certificate.position = .intermediate
  certificateIds : (path.map (·.id)).Nodup
  certificates : ∀ certificate ∈ path, CertificateWellFormed certificate
  selectedPath : path.map (·.derSha256) = stack.certificationPathDerSha256.map some
  anchorHash : TrustAnchorWellFormed anchor
  sameAnchor : anchor = stack.trustAnchor
  appliedTime : stack.appliedValidationTime = validationTime

theorem shows_of_placed {stack : StackObservation} {validationTime : String}
    {leaf intermediate : Located} {leafHash intermediateHash root : String}
    (observed : Observed lib files validationTime stack leafHash intermediateHash root)
    (leafPlaced : Placed lib files .endEntity leaf)
    (intermediatePlaced : Placed lib files .intermediate intermediate)
    (keys signatures : AlgorithmSecurity) {design : BindingDesign}
    (plain : design ≠ .atomicComposite) :
    Shows validationTime stack (.certificateDerSha256 root)
      [leaf.node keys signatures design, intermediate.node keys signatures design] where
  order := ⟨_, _, rfl, leafPlaced.placedAt, by simp [Located.node, intermediatePlaced.placedAt]⟩
  certificateIds := by
    simp [Located.node, leafPlaced.placedAt, intermediatePlaced.placedAt, positionId]
  certificates := by
    intro certificate member
    rcases List.mem_pair.mp member with rfl | rfl
    · exact leafPlaced.certificateWellFormed digest plain
    · exact intermediatePlaced.certificateWellFormed digest plain
  selectedPath := by
    rw [observed.path, ok_unique observed.leafHash leafPlaced.der,
      ok_unique observed.intermediateHash intermediatePlaced.der]
    rfl
  anchorHash := isSha256Hex_of_certificateDerHash digest observed.rootHash
  sameAnchor := observed.anchor.symm
  appliedTime := observed.time

/-- The names and kinds of the items of a position keep the items of a leaf and of an
    intermediate apart. -/
structure Distinct (names : List (String × EvidenceKind)) : Prop where
  ids : (names.map ("leaf" ++ ·.1) ++ names.map ("intermediate" ++ ·.1)).Nodup
  kinds : (names.map (("leaf", ·.2)) ++ names.map (("intermediate", ·.2))).Nodup

omit digest in
/-- The items of two positions are kept apart by their names and kinds. -/
theorem Distinct.items {names : List (String × EvidenceKind)} (distinct : Distinct names)
    {leaf intermediate : Located} (leafPlaced : Placed lib files .endEntity leaf)
    (intermediatePlaced : Placed lib files .intermediate intermediate)
    {leafParts intermediateParts : List Part}
    (leafNames : leafParts.map (fun part => (part.name, part.kind)) = names)
    (intermediateNames : intermediateParts.map (fun part => (part.name, part.kind)) = names) :
    ((leafParts.map leaf.item ++ intermediateParts.map intermediate.item).map (·.id)).Nodup ∧
      ((leafParts.map leaf.item ++ intermediateParts.map intermediate.item).map
        fun item => (item.certificateId, item.kind)).Nodup := by
  constructor
  · rw [List.map_append, map_id_items, map_id_items, leafNames, intermediateNames,
      leafPlaced.placedAt, intermediatePlaced.placedAt]
    exact distinct.ids
  · rw [List.map_append, map_kind_items, map_kind_items, leafNames, intermediateNames,
      leafPlaced.placedAt, intermediatePlaced.placedAt]
    exact distinct.kinds

/-- The analyses of the three positions are evaluated for both scopes. -/
theorem evaluateEach_analyses {α : Type} (located : α → Located) (parts : α → List Part)
    {names : List (String × EvidenceKind)} (distinct : Distinct names)
    (named : ∀ analysis, (parts analysis).map (fun part => (part.name, part.kind)) = names)
    (keys signatures : AlgorithmSecurity) (design : BindingDesign)
    (plain : design ≠ .atomicComposite) (unrelated : design ≠ .relatedCertificate)
    {stack : StackObservation} (settings : ScopeSettings)
    {leafHash intermediateHash anchor : String}
    (observed : Observed lib files settings.validationTime stack leafHash intermediateHash anchor)
    (time : readsTime lib settings.validationTime = true) {leaf intermediate root : α}
    (leafPlaced : Placed lib files .endEntity (located leaf))
    (intermediatePlaced : Placed lib files .intermediate (located intermediate))
    (rootPlaced : Placed lib files .trustAnchor (located root)) :
    ∃ scopes, evaluateEach lib (scopeRequest settings stack (.certificateDerSha256 anchor)
        ((belowAnchor located [leaf, intermediate, root]).map fun analysis =>
          (located analysis).node keys signatures design)
        ((belowAnchor located [leaf, intermediate, root]).flatMap fun analysis =>
          (parts analysis).map (located analysis).item)) = .ok scopes ∧ Scoped scopes := by
  have shown := shows_of_placed digest observed leafPlaced intermediatePlaced keys signatures plain
  have apart := distinct.items leafPlaced intermediatePlaced (named leaf) (named intermediate)
  have presentable : Presentable settings stack (.certificateDerSha256 anchor)
      [(located leaf).node keys signatures design, (located intermediate).node keys signatures design]
      ((parts leaf).map (located leaf).item ++ (parts intermediate).map (located intermediate).item) :=
    { shown with
      unrelated := by simp [Located.node, unrelated]
      items := by
        intro item member
        rcases List.mem_append.mp member with inLeaf | inIntermediate
        · exact ⟨_, List.mem_cons_self, itemOf_of_mem inLeaf ..⟩
        · exact ⟨_, List.mem_cons_of_mem _ List.mem_cons_self, itemOf_of_mem inIntermediate ..⟩
      evidenceIds := apart.1
      evidenceKinds := apart.2 }
  rw [belowAnchor_placed located leafPlaced intermediatePlaced rootPlaced]
  simp only [List.map_cons, List.map_nil, List.flatMap_cons, List.flatMap_nil, List.append_nil]
  exact evaluateEach_scoped (presentable.wellFormed time) fun _ => observed.source

end Positions

end HybridX509.Analysis.PathPositions
