import HybridX509.Adapters.StackReports
import HybridX509.Analysis.PathScopes
import HybridX509.Analysis.Transcripts
import HybridX509.Oracle.Fallback
import HybridX509.Revocation.Crl

/-! # Analyses of a fallback

What `catalyst_tls.rs`, `related_openssl.rs` and `catalyst_bouncy_castle.rs` share: their
surroundings, the runs that are shown a path, and the request about an end entity with one
item of each kind. Whether the classical part of such a request succeeds is a matter of
the stack and of the classical item alone.
-/

namespace HybridX509.Analysis.Fallbacks

open Lib X509 Oracle Adapters Adapters.Stacks Adapters.BouncyCastle Revocation PathRuns PathPositions
open Adapters.ValidationTime (ContainerError OpenSslContainerConfig verifyContainer openSslRun)
open Transcripts (EndEntity TlsTranscriptOutput TlsObservationError TlsSystem)

/-- The surroundings: every adapter, `readable_tempfile`, which gives the path of the written
    file, and `from_slice::<TlsTranscriptOutput>`. -/
structure FallbackSystem extends StackSystem where
  readableTempfile : List UInt8 → Except String String
  transcriptFromSlice : List UInt8 → Option TlsTranscriptOutput

/-- The surroundings of the Bouncy Castle runs alone. -/
def FallbackSystem.toTlsSystem (sys : FallbackSystem) : TlsSystem where
  toSystem := sys.toSystem.comap .bouncyCastle
  readableTempfile := sys.readableTempfile
  transcriptFromSlice := sys.transcriptFromSlice

/-- The errors that `observe` of `tls.rs` can return. -/
inductive HandshakeError where
  | openSsl (error : StackError)
  | support (error : AdapterSupportError)
  | pem (error : PemError)
  deriving Repr, DecidableEq

/-- The cases of the three error enumerations; those of `TlsObservationError` are told apart
    by the function that returns them. -/
inductive FallbackError where
  | wrongScheme
  | handshake (error : HandshakeError)
  | tls (error : TlsObservationError)
  | openSsl (error : ContainerError)
  | bouncyCastle (error : BouncyCastleError)
  | support (error : AdapterSupportError)
  | pem (error : PemError)
  | mutation (error : MutationError)
  | oracle (abort : Abort)
  | io (source : String)
  deriving Repr, DecidableEq

def FallbackError.NotOracle : FallbackError → Prop := PathRuns.NotOracle .oracle

section Controls

variable (sys : FallbackSystem)

def checkDesign (design : BindingDesign) (certificate : String) : Except FallbackError Unit :=
  checkBindingDesign .pem sys.toLibrary .wrongScheme design certificate

/-- A temporary file with the certificate, its outer signature damaged. -/
def damagedFile (certificate : String) : Except FallbackError String :=
  damagedCopy .pem sys.toLibrary .mutation .io sys.base64Encode sys.readableTempfile certificate

variable {sys}

theorem checkDesign_raises (design : BindingDesign) (certificate : String) :
    Raises FallbackError.NotOracle (checkDesign sys design certificate) :=
  checkBindingDesign_raises (by simp) (by simp) design certificate

theorem damagedFile_raises (certificate : String) :
    Raises FallbackError.NotOracle (damagedFile sys certificate) :=
  damagedCopy_raises (by simp) (by simp) (by simp) certificate

end Controls

/-! ## Runs that are shown a path -/

/-- A stack that was shown the path of the files, at the requested time. -/
structure ShownPath (lib : Library) (files : PathFiles) (validationTime : String)
    (stack : StackObservation) : Prop where
  observed : ∃ leaf intermediate root,
    Observed lib files validationTime stack leaf intermediate root
  validationTime : stack.validationTime = .observed .pass
  profile : stack.validationProfile = .x509Path ∨ stack.validationProfile = .webPkiServer

theorem observed_of_hashes {lib : Library} {files : PathFiles} {validationTime : String}
    {stack : StackObservation}
    (hashed : selectedPathHashes lib files.leaf (some files.intermediate) files.root =
      .ok (stack.certificationPathDerSha256, stack.trustAnchor))
    (source : stack.selectedPathSource = .presentedInput)
    (applied : stack.appliedValidationTime = validationTime) :
    ∃ leaf intermediate root,
      Observed lib files validationTime stack leaf intermediate root := by
  simp only [selectedPathHashes, Option.toList_some, List.mapM_cons, List.mapM_nil, bind_ok_iff,
    pure_ok_iff, Prod.mk.injEq] at hashed
  obtain ⟨leaf, leafHash, _, ⟨intermediate, intermediateHash, _, rfl, rfl⟩, root, rootHash, path,
    anchor⟩ := hashed
  exact ⟨leaf, intermediate, root, certificateSha256_ok_iff.mp leafHash,
    certificateSha256_ok_iff.mp intermediateHash, certificateSha256_ok_iff.mp rootHash, path.symm,
    source, anchor.symm, applied⟩

section Runs

variable {sys : StackSystem} {execution : AdapterExecution}

theorem shownPath_of_verifyTls {config : OpenSslTlsConfig}
    (returned : verifyTls sys config = .ok execution) :
    ShownPath sys.toLibrary ⟨config.trustStore, config.intermediate, config.leaf⟩
      config.validationTime execution.observation := by
  simp only [verifyTls, runStack, bind_ok_iff, mapErr_ok_iff, exists_unit_iff, pure_ok_iff,
    Prod.exists] at returned
  obtain ⟨-, _, -, _, -, _, -, path, anchor, hashed, _, -, _, -, _, -, -, _, -, _, -, rfl⟩ := returned
  exact ⟨observed_of_hashes hashed rfl rfl, rfl, .inr rfl⟩

theorem shownPath_of_verifyOpenSslContainer {config : OpenSslContainerConfig}
    (returned : verifyOpenSslContainer sys config = .ok execution) :
    ShownPath sys.toLibrary ⟨config.trustStore, config.intermediate, config.leaf⟩
      config.validationTime execution.observation := by
  have returned : verifyContainer (sys.toSystem.comap .container) sys.chrono _
    (openSslRun config "openssl-current" .current []) = .ok execution := returned
  simp only [verifyContainer, bind_ok_iff, mapErr_ok_iff, exists_unit_iff, pure_ok_iff,
    Prod.exists] at returned
  obtain ⟨_, -, _, -, path, anchor, hashed, _, -, _, -, _, -, _, -, -, _, -, _, -, rfl⟩ := returned
  exact ⟨observed_of_hashes hashed rfl rfl, rfl, .inl rfl⟩

theorem shownPath_of_run {sys : FallbackSystem} {settings : RunSettings}
    {root intermediate leaf : String}
    (ran : run sys.toTlsSystem.toSystem settings root intermediate leaf .path none =
      .ok execution) :
    ShownPath sys.toLibrary ⟨root, intermediate, leaf⟩ settings.validationTime
      execution.observation := by
  have observed := @observed_of_runPath sys.toTlsSystem.toSystem settings
    ⟨root, intermediate, leaf⟩ execution ran
  refine ⟨observed, validationTime_of_verify ran, .inl ?_⟩
  simp only [run, verify, bind_ok_iff, mapErr_ok_iff, exists_unit_iff, pure_ok_iff,
    Prod.exists] at ran
  obtain ⟨_, -, -, -, _, -, _, -, _, -, -, _, -, _, -, _, _, _, -, rfl⟩ := ran
  rfl

end Runs

/-! ## Checks of a run and of a file -/

theorem establishes_checkFromVerdict_iff {verdict : StackVerdict} :
    Establishes (checkFromVerdict verdict) ↔ verdict = .accept := by
  cases verdict <;> simp [Establishes, Strong, checkFromVerdict, CheckResult.observed]

theorem objects_checkFromVerdict_iff {verdict : StackVerdict} :
    Objects (checkFromVerdict verdict) ↔ verdict = .reject := by
  cases verdict <;> simp [Objects, Strong, checkFromVerdict, CheckResult.observed]

theorem establishes_behavioralCheck_iff {established : Bool} :
    Establishes (behavioralCheck established .pass) ↔ established = true := by
  cases established <;> simp [Establishes, Strong, behavioralCheck]

theorem objects_behavioralCheck_iff {established : Bool} :
    Objects (behavioralCheck established .fail) ↔ established = true := by
  cases established <;> simp [Objects, Strong, behavioralCheck]

/-- A sensitivity that was shown is no failure, and an insensitivity no success. -/
theorem behavioralCheck_one_sided (established : Bool) :
    ¬ Objects (behavioralCheck established .pass) ∧
      ¬ Establishes (behavioralCheck established .fail) := by
  cases established <;> simp [Objects, Establishes, Strong, behavioralCheck]

/-- A check that was made by looking at a file, and did not find it inapplicable. -/
structure Read (check : CheckResult) : Prop where
  observed : check.confidence = .observed
  applicable : check.state ≠ .notApplicable

theorem Read.establishes_iff {check : CheckResult} (read : Read check) :
    Establishes check ↔ check.state = .pass := by
  simp [Establishes, Strong, read.observed]

theorem Read.objects_iff {check : CheckResult} (read : Read check) :
    Objects check ↔ check.state = .fail := by
  simp [Objects, Strong, read.observed, read.applicable]

theorem read_checkCertificateValidity {lib : Library} {path validationTime : String}
    {limit : Nat} {check : CheckResult}
    (checked : checkCertificateValidity lib path validationTime limit = .ok check) :
    Read check := by
  simp only [checkCertificateValidity, bind_ok_iff, pure_ok_iff] at checked
  obtain ⟨_, _, _, _, timestamp, _, _, _, rfl⟩ := checked
  refine ⟨rfl, ?_⟩
  unfold CheckResult.observed
  split
  · simp
  · simp

theorem read_observedState (value : Bool) : Read (observedState value) := by
  cases value <;> exact ⟨rfl, by decide⟩

/-- The status by a list was read at a time that was read. -/
theorem read_checkCrlStatus {lib : Library} {certificate issuer crl validationTime : String}
    {limit : Nat} {status : CrlStatusResult}
    (checked : checkCrlStatus lib certificate issuer crl validationTime limit = .ok status) :
    Read status.issuer ∧ Read status.revocation ∧ readsTime lib validationTime = true := by
  simp only [checkCrlStatus, readCrlInput, bind_ok_iff, exists_unit_iff, orFail_ok_iff,
    pure_ok_iff] at checked
  obtain ⟨_, ⟨_, -, _, -, _, -, _, -, _, -, _, -, timestamp, parsed, -⟩, -, rfl⟩ := checked
  refine ⟨read_observedState _, ⟨rfl, ?_⟩, ?_⟩
  · unfold crlStatus CheckResult.observed
    split
    · split
      · simp
      · simp
    · simp
  · rw [readsTime, parsed]
    rfl

/-! ## Requests about an end entity -/

/-- The request about an end entity under `RevocationPolicy::crl_hard_fail()`. -/
def endEntityRequest (settings : ScopeSettings) (stack : StackObservation) (endEntity : EndEntity)
    (pairs : List PairedAuthentication) (evidence : List Evidence) : VerificationRequest :=
  { scopeRequest settings stack endEntity.expectedTrustAnchor endEntity.certificatePath evidence
      .endEntity with
    pairedAuthentications := pairs }

/-- What was read about the end entity, against the stack that was shown its path. -/
structure Joined (lib : Library) (files : PathFiles) (settings : ScopeSettings)
    (properties : LeafPathProperties) (stack : StackObservation) (endEntity : EndEntity) :
    Prop where
  shown : ShownPath lib files settings.validationTime stack
  der : certificateDerHash lib files.leaf INPUT_LIMIT = .ok endEntity.certificateDerSha256
  edge : issuerEdgeHash lib files.leaf files.intermediate INPUT_LIMIT =
    .ok endEntity.issuerEdgeSha256
  anchor : certificateTrustAnchor lib files.root INPUT_LIMIT = .ok endEntity.expectedTrustAnchor
  path : endEntityCertificationPath lib files.leaf files.intermediate files.root properties
    INPUT_LIMIT = .ok endEntity.certificatePath
  time : readsTime lib settings.validationTime = true

section EndEntities

variable {lib : Library} {files : PathFiles} {settings : ScopeSettings}
  {properties : LeafPathProperties} {stack : StackObservation} {endEntity : EndEntity}
  {pairs : List PairedAuthentication} {evidence : List Evidence}

/-- The path of the end entity: its node, and the node of its issuer. -/
theorem Joined.path_eq (joined : Joined lib files settings properties stack endEntity) :
    ∃ issuer edge, certificateDerHash lib files.intermediate INPUT_LIMIT = .ok issuer ∧
      issuerEdgeHash lib files.intermediate files.root INPUT_LIMIT = .ok edge ∧
      endEntity.certificatePath = [endEntity.node properties,
        ⟨"issuer", .intermediate, .classical, .classical, .none, some issuer, some edge⟩] := by
  have path := joined.path
  simp only [endEntityCertificationPath, joined.der, joined.edge, ok_bind, bind_ok_iff,
    pure_ok_iff] at path
  obtain ⟨issuer, issuerHashed, edge, issuerJoined, path⟩ := path
  exact ⟨issuer, edge, issuerHashed, issuerJoined, path.symm⟩

/-- Only the end entity is in the scope of the request. -/
theorem Joined.certificates_eq (joined : Joined lib files settings properties stack endEntity) :
    certificates (endEntityRequest settings stack endEntity pairs evidence) =
      [endEntity.node properties] := by
  obtain ⟨issuer, edge, -, -, path⟩ := joined.path_eq
  simp [certificates, endEntityRequest, scopeRequest, path, EndEntity.node, PathScope.includes]

theorem Joined.node_wellFormed (digest : ∀ bytes, (lib.sha256 bytes).length = 32)
    (joined : Joined lib files settings properties stack endEntity)
    (plain : properties.bindingDesign ≠ .atomicComposite) :
    CertificateWellFormed (endEntity.node properties) where
  derPresent := rfl
  derHash := hashWellFormed_some (isSha256Hex_of_certificateDerHash digest joined.der)
  edgeHash := hashWellFormed_some (isSha256Hex_of_issuerEdgeHash digest joined.edge)
  atomicComposite := fun atomic => absurd atomic plain

theorem Joined.shows (digest : ∀ bytes, (lib.sha256 bytes).length = 32)
    (joined : Joined lib files settings properties stack endEntity)
    (plain : properties.bindingDesign ≠ .atomicComposite) :
    Shows settings.validationTime stack endEntity.expectedTrustAnchor
      endEntity.certificatePath := by
  obtain ⟨leafHash, issuerHash, root, observed⟩ := joined.shown.observed
  obtain ⟨issuer, edge, issuerHashed, issuerJoined, path⟩ := joined.path_eq
  have anchored := anchor_of_observed observed joined.anchor
  obtain rfl : endEntity.certificateDerSha256 = leafHash := ok_unique joined.der observed.leafHash
  obtain rfl : issuer = issuerHash := ok_unique issuerHashed observed.intermediateHash
  rw [path, anchored]
  exact {
    order := ⟨_, _, rfl, rfl, by simp⟩
    certificateIds := by simp [EndEntity.node]
    certificates := by
      intro certificate member
      rcases List.mem_pair.mp member with rfl | rfl
      · exact joined.node_wellFormed digest plain
      · exact ⟨rfl, hashWellFormed_some (isSha256Hex_of_certificateDerHash digest issuerHashed),
          hashWellFormed_some (isSha256Hex_of_issuerEdgeHash digest issuerJoined), by simp⟩
    selectedPath := by simp [EndEntity.node, observed.path]
    anchorHash := isSha256Hex_of_certificateDerHash digest observed.rootHash
    sameAnchor := observed.anchor.symm
    appliedTime := observed.time }

/-- A request with one item of each kind is accepted when its items and pairs are. -/
theorem Joined.wellFormed (digest : ∀ bytes, (lib.sha256 bytes).length = 32)
    (joined : Joined lib files settings properties stack endEntity)
    (plain : properties.bindingDesign ≠ .atomicComposite) {classical postQuantum : Evidence}
    (operationIds : (pairs.map (·.operationId)).Nodup)
    (ids : classical.id ≠ postQuantum.id) (kinds : classical.kind ≠ postQuantum.kind)
    (operations : classical.authenticationOperationId = postQuantum.authenticationOperationId)
    (paired : ∀ pair ∈ pairs, PairWellFormed (endEntityRequest settings stack endEntity pairs
      [classical, postQuantum]) pair)
    (items : ∀ item ∈ [classical, postQuantum], EvidenceWellFormed (endEntityRequest settings stack
      endEntity pairs [classical, postQuantum]) (endEntity.node properties) item) :
    WellFormed (readsTime lib)
      (endEntityRequest settings stack endEntity pairs [classical, postQuantum]) := by
  have shown := joined.shows digest plain
  obtain ⟨issuer, edge, -, -, path⟩ := joined.path_eq
  have inPath : endEntity.node properties ∈ endEntity.certificatePath := by simp [path]
  exact {
    apiVersion := rfl
    validationTime := joined.time
    evidenceIds := by simpa [endEntityRequest, scopeRequest] using ids
    evidenceKinds := by simp [endEntityRequest, scopeRequest, kinds]
    certificateIds := shown.certificateIds
    pathOrder := shown.order
    pathCertificates := shown.certificates
    selectedPath := shown.selectedPath
    trustAnchor := shown.anchorHash
    sameTrustAnchor := shown.sameAnchor
    operationIds := operationIds
    pairs := paired
    evidence := fun item member => ⟨_, inPath, items item member⟩
    sameOperation := by
      intro item member other otherMember _
      rcases List.mem_pair.mp member with rfl | rfl <;>
        rcases List.mem_pair.mp otherMember with rfl | rfl <;> simp [operations]
    appliedTime := fun _ => shown.appliedTime }

/-- An item that belongs to no operation, with a list for its status. -/
theorem Joined.item_wellFormed (digest : ∀ bytes, (lib.sha256 bytes).length = 32)
    (joined : Joined lib files settings properties stack endEntity)
    (plain : properties.bindingDesign ≠ .atomicComposite)
    (unrelated : properties.bindingDesign ≠ .relatedCertificate) {request : VerificationRequest}
    (policy : request.revocationPolicy = .crlHardFail) {part : Part} :
    EvidenceWellFormed request (endEntity.node properties)
      (endEntity.item endEntity.certificateDerSha256 none .crl part) := by
  have itemOf : ItemOf (endEntity.node properties)
      (endEntity.item endEntity.certificateDerSha256 none .crl part) :=
    ⟨rfl, rfl, rfl, rfl, rfl, rfl, rfl, rfl⟩
  exact itemOf.wellFormed (joined.node_wellFormed digest plain) unrelated policy

/-! ## What the answer depends on -/

/-- A check that the required hybrid policy rejects an item for. -/
def Fails (item : Evidence) : Prop :=
  ∃ check ∈ item.checks, Strong check.2 ∧ (check.2.state = .fail ∨
    check.2.state = .notApplicable ∧ ¬ MayBeNotApplicable .hardFail check.1)

/-- Every check of an item that is present and recognized establishes what it is about; the
    binding need not apply. -/
theorem checksPass_iff {item : Evidence} (present : item.present = .observed .pass)
    (recognized : item.recognized = .observed .pass) :
    ChecksPass .hardFail item ↔ Establishes item.signature ∧ (Strong item.binding ∧
        (item.binding.state = .pass ∨ item.binding.state = .notApplicable)) ∧
      Establishes item.path ∧ Establishes item.validity ∧ Establishes item.revocation ∧
      Establishes item.decisionSensitiveForFixture := by
  simp [ChecksPass, Evidence.checks, present, recognized, Establishes, Strong,
    MayBeNotApplicable, CheckResult.observed]

theorem fails_iff {item : Evidence} (present : item.present = .observed .pass)
    (recognized : item.recognized = .observed .pass) :
    Fails item ↔ Objects item.signature ∨ (Strong item.binding ∧ item.binding.state = .fail) ∨
      Objects item.path ∨ Objects item.validity ∨ Objects item.revocation ∨
      Objects item.decisionSensitiveForFixture := by
  simp [Fails, Evidence.checks, present, recognized, Objects, Strong, MayBeNotApplicable,
    CheckResult.observed]

variable (joined : Joined lib files settings properties stack endEntity)
  {classicalPart postQuantumPart : Part} {artifact : String} {operationId : Option String}
  {method : RevocationMethod}
  (kinds : classicalPart.kind = .classical ∧ postQuantumPart.kind = .postQuantum)

/-- The items of the request. -/
def items (endEntity : EndEntity) (artifact : String) (operationId : Option String)
    (method : RevocationMethod) (classicalPart postQuantumPart : Part) : List Evidence :=
  [endEntity.item endEntity.certificateDerSha256 operationId method classicalPart,
    endEntity.item artifact operationId method postQuantumPart]

include joined kinds

/-- The classical part passes with the checks of its item. -/
theorem Joined.kindPasses_classical_iff
    (required : (endEntity.node properties).requires .classical = true) :
    KindPasses (endEntityRequest settings stack endEntity pairs
      (items endEntity artifact operationId method classicalPart postQuantumPart)) .classical ↔
      ChecksPass .hardFail (endEntity.item endEntity.certificateDerSha256 operationId method
        classicalPart) := by
  simp only [KindPasses, joined.certificates_eq, List.mem_singleton, forall_eq, required,
    forall_true_left]
  constructor
  · rintro ⟨-, item, member, -, kind, -, -, -, passes⟩
    rcases List.mem_pair.mp member with rfl | rfl
    · exact passes
    · exact absurd (kinds.2.symm.trans kind) (by decide)
  · intro passes
    exact ⟨rfl, _, List.mem_cons_self, rfl, kinds.1, rfl, rfl, rfl, passes⟩

/-- The post-quantum part passes with the checks of its item. -/
theorem Joined.kindPasses_postQuantum_iff
    (required : (endEntity.node properties).requires .postQuantum = true) :
    KindPasses (endEntityRequest settings stack endEntity pairs
      (items endEntity artifact operationId method classicalPart postQuantumPart)) .postQuantum ↔
      ChecksPass .hardFail (endEntity.item artifact operationId method postQuantumPart) := by
  simp only [KindPasses, joined.certificates_eq, List.mem_singleton, forall_eq, required,
    forall_true_left]
  constructor
  · rintro ⟨-, item, member, -, kind, -, -, -, passes⟩
    rcases List.mem_pair.mp member with rfl | rfl
    · exact absurd (kinds.1.symm.trans kind) (by decide)
    · exact passes
  · intro passes
    exact ⟨rfl, _, List.mem_cons_of_mem _ List.mem_cons_self, rfl, kinds.2, rfl, rfl, rfl, passes⟩

theorem Joined.classicalSucceeds_iff
    (required : (endEntity.node properties).requires .classical = true) :
    ClassicalSucceeds (endEntityRequest settings stack endEntity pairs
      (items endEntity artifact operationId method classicalPart postQuantumPart)) ↔
      stack.verdict = .accept ∧ ChecksPass .hardFail (endEntity.item
        endEntity.certificateDerSha256 operationId method classicalPart) := by
  have passes_iff : KindPasses (endEntityRequest settings stack endEntity pairs
      (items endEntity artifact operationId method classicalPart postQuantumPart)) .classical ↔ _ :=
    joined.kindPasses_classical_iff kinds required
  rw [← passes_iff]
  obtain ⟨_, _, _, observed⟩ := joined.shown.observed
  constructor
  · intro succeeds
    exact ⟨succeeds.stackAccepts, succeeds.classical⟩
  · intro ⟨accepts, passes⟩
    refine ⟨accepts, observed.time, ?_, joined.shown.profile, ?_, passes⟩
    · show Establishes stack.validationTime
      rw [joined.shown.validationTime]
      exact ⟨.inl rfl, rfl⟩
    · rw [joined.certificates_eq]
      exact ⟨_, List.mem_singleton_self _, required⟩

/-- Against an end entity that is signed both ways there is what the stack says, and the
    failures of its two items. -/
theorem Joined.objection_iff
    (hybrid : (endEntity.node properties).hasHybridCertificateSignatureDesign = true)
    (unrelated : properties.bindingDesign ≠ .relatedCertificate)
    (required : ∀ kind, (endEntity.node properties).requires kind = true) :
    Objection (endEntityRequest settings stack endEntity pairs
      (items endEntity artifact operationId method classicalPart postQuantumPart)) ↔
      stack.verdict = .reject ∨
        Fails (endEntity.item endEntity.certificateDerSha256 operationId method classicalPart) ∨
        Fails (endEntity.item artifact operationId method postQuantumPart) := by
  have only {certificate : CertificateNode} (inside : certificate ∈ certificates
      (endEntityRequest settings stack endEntity pairs
        (items endEntity artifact operationId method classicalPart postQuantumPart))) :
      certificate = endEntity.node properties := by
    rw [joined.certificates_eq] at inside
    exact List.mem_singleton.mp inside
  constructor
  · intro objection
    cases objection with
    | stackRejects rejects => exact .inl rejects
    | validationTime _ _ objects =>
        have objects : Objects stack.validationTime := objects
        rw [joined.shown.validationTime] at objects
        obtain ⟨-, failed | absent⟩ := objects
        · cases failed
        · cases absent
    | notHybrid inside signature _ =>
        obtain rfl := only inside
        exact absurd (hybrid.symm.trans signature) (by decide)
    | noOperation inside related _ _ =>
        obtain rfl := only inside
        exact absurd related unrelated
    | pairing inside related _ _ _ _ _ _ =>
        obtain rfl := only inside
        exact absurd related unrelated
    | @missing certificate kind inside _ absent =>
        obtain rfl := only inside
        cases kind with
        | classical => exact absurd kinds.1 (absent _ List.mem_cons_self rfl)
        | postQuantum =>
            exact absurd kinds.2 (absent _ (List.mem_cons_of_mem _ List.mem_cons_self) rfl)
    | @check certificate item check _ _ member _ performed strong objects =>
        rcases List.mem_pair.mp member with rfl | rfl
        · exact .inr (.inl ⟨check, performed, strong, objects⟩)
        · exact .inr (.inr ⟨check, performed, strong, objects⟩)
  · have inside : endEntity.node properties ∈ certificates (endEntityRequest settings stack
        endEntity pairs (items endEntity artifact operationId method classicalPart
          postQuantumPart)) := by
      rw [joined.certificates_eq]
      exact List.mem_singleton_self _
    rintro (rejects | ⟨check, performed, strong, objects⟩ | ⟨check, performed, strong, objects⟩)
    · exact .stackRejects rejects
    · exact .check inside (required _) List.mem_cons_self rfl performed strong objects
    · exact .check inside (required _) (List.mem_cons_of_mem _ List.mem_cons_self) rfl performed
        strong objects

omit joined in
theorem lapsed_iff :
    Lapsed (endEntityRequest settings stack endEntity pairs
      (items endEntity artifact operationId method classicalPart postQuantumPart)) ↔
      postQuantumPart.validity.state = .fail ∨ postQuantumPart.revocation.state = .fail := by
  simp [Lapsed, evidenceOfKind, inScope, endEntityRequest, scopeRequest, items, EndEntity.item,
    PathScope.includes, kinds]

end EndEntities

/-! ## A directory

The first byte of a certificate tells its design, the rest is its signature. Every program
looks at the signature of the leaf, the direct check also at the alternative one, and the
post-quantum certificate of the Related pair is refused. -/

namespace Fixture

def files : List (String × List UInt8) :=
  [("root.pem", [5, 4, 1, 2]), ("issuer.pem", [5, 4, 1, 4]), ("catalyst.pem", [3, 4, 1, 2]),
    ("altered.pem", [3, 4, 1, 2, 0]), ("damaged.pem", [3, 4, 1, 3]),
    ("related.pem", [6, 4, 1, 2]), ("pure.pem", [2, 4, 1, 2]), ("expired.pem", [2, 4, 1, 5]),
    ("key.pem", [8]), ("crl.pem", [7])]

def refuses : StackCall → Bool
  | .bouncyCastle config => config.leaf == "damaged.pem"
      || config.leaf == "altered.pem" && config.mode == .alternativeSignature
      || config.intermediate == "damaged.pem"
  | .openSslTls config => config.leaf == "damaged.pem"
  | .container (.openSsl config ..) => ["damaged.pem", "pure.pem", "expired.pem"].contains config.leaf
  | _ => false

def rejectLine : String := "\x7b\"verdict\":\"reject\"\x7d"

/-- Bouncy Castle prints its verdict, OpenSSL fails with a message. -/
def output (call : StackCall) : ProcessOutput :=
  match call, refuses call with
  | .bouncyCastle _, true => CrossSignedPath.Fixture.output rejectLine
  | _, true => { CrossSignedPath.Fixture.output "verification failed" with statusCode := some 1 }
  | _, false => CrossSignedPath.Fixture.output CrossSignedPath.Fixture.acceptLine

def library : Library :=
  { PathScopes.Fixture.system.toLibrary with
    openFile := fun path =>
      orFail ((files.lookup path).map fun bytes => ⟨true, bytes.length, .ok bytes⟩) "no such file" }

def system : FallbackSystem where
  toLibrary := library
  resolveExecutable := fun name => .ok (.utf8 ("/usr/bin/" ++ name))
  canonicalize := fun path => .ok (.utf8 ("/" ++ path))
  cachedVersionOutput := fun _ => .ok (CrossSignedPath.Fixture.output "1.84")
  runProgram := fun call => .ok (output call)
  base64Encode := hexLower
  verdictFromSlice := fun text =>
    if text = bytes CrossSignedPath.Fixture.acceptLine then some "accept"
    else if text = bytes rejectLine then some "reject" else none
  selectedPathFromSlice := fun _ => .error "no path"
  instrumentedFromSlice := fun _ => none
  chrono := { ValidationTime.Fixture.chrono with
    parseFromRfc3339 := fun text =>
      (library.parseFromRfc3339 text).map (⟨·, 0, Nat.zero_lt_succ _⟩) }
  newTempFile := .error "read-only file system"
  writeAll := fun _ _ => .ok ()
  flush := fun _ => .ok ()
  readableTempfile := fun _ => .ok "damaged.pem"
  transcriptFromSlice := fun _ => none

theorem length_digest (bytes : List UInt8) : (system.sha256 bytes).length = 32 :=
  CrossSignedPath.Fixture.length_digest .atomic bytes

end Fixture

end HybridX509.Analysis.Fallbacks
