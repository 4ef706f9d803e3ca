import HybridX509.Analysis.PathPositions

/-! # TLS transcripts

`observe_transcript` of `analysis/tls.rs`, the requests that the TLS analyses build about
an end entity, and what it means that such a request tells an inconclusive run from a
failed one.
-/

namespace HybridX509.Analysis.Transcripts

open Lib X509 Oracle Adapters Adapters.BouncyCastle Revocation.Ocsp PathRuns PathPositions

structure TlsTranscriptConfig where
  docker : String
  image : String
  trustStore : String
  intermediate : String
  leaf : String
  privateKey : String
  validationTime : String
  timeout : Duration
  maxOutputBytes : Nat
  deriving Repr, DecidableEq

structure TlsTranscriptOutput where
  verdict : String
  validHandshake : String
  alteredTranscriptHandshake : String
  incompatibleSignatureHandshake : String
  signature : String
  deriving Repr, DecidableEq

structure TlsTranscriptEvidence where
  report : AdapterReport
  validHandshake : CheckResult
  alteredTranscriptRejected : CheckResult
  incompatibleSignatureRejected : CheckResult
  signature : Option String
  binding : CheckResult
  deriving Repr, DecidableEq

def TlsTranscriptEvidence.verdict (evidence : TlsTranscriptEvidence) : StackVerdict :=
  evidence.report.observation.verdict

/-- The errors that `observe_transcript` can return. -/
inductive TlsObservationError where
  | bouncyCastle (error : BouncyCastleError)
  | support (error : AdapterSupportError)
  deriving Repr, DecidableEq

/-- The surroundings of the TLS analyses: `readable_tempfile`, which gives the path of the
    written file, and `from_slice::<TlsTranscriptOutput>`. -/
structure TlsSystem extends System BouncyCastleConfig where
  readableTempfile : List UInt8 → Except String String
  transcriptFromSlice : List UInt8 → Option TlsTranscriptOutput

def observeTranscript (sys : TlsSystem) (config : TlsTranscriptConfig) :
    Except TlsObservationError TlsTranscriptEvidence := do
  let execution ← mapErr .bouncyCastle (verify sys.toSystem {
    docker := config.docker
    image := config.image
    trustStore := config.trustStore
    intermediate := config.intermediate
    leaf := config.leaf
    validationTime := config.validationTime
    timeout := config.timeout
    maxOutputBytes := config.maxOutputBytes
    mode := .tlsTranscript
    privateKey := some config.privateKey
    crl := none })
  let parsed := sys.transcriptFromSlice execution.verificationOutput.stdout.bytes
  let established := execution.observation.verdict == .accept && parsed.any fun output =>
    output.verdict == "accept" && output.validHandshake == "accept"
      && output.alteredTranscriptHandshake == "reject"
      && output.incompatibleSignatureHandshake == "reject"
  let report ← mapErr .support (execution.report sys.toSystem)
  return {
    report := report
    validHandshake := behavioralCheck established .pass
    alteredTranscriptRejected := behavioralCheck established .pass
    incompatibleSignatureRejected := behavioralCheck established .pass
    signature := parsed.map (·.signature)
    binding := behavioralCheck established .pass }

/-- The error enumerations of the TLS analyses; only the Chameleon one has `bouncyCastle`
    and `support`. -/
inductive TlsAnalysisError where
  | wrongScheme
  | tls (error : TlsObservationError)
  | bouncyCastle (error : BouncyCastleError)
  | support (error : AdapterSupportError)
  | pem (error : PemError)
  | mutation (error : MutationError)
  | oracle (abort : Abort)
  | io (source : String)
  deriving Repr, DecidableEq

/-- The parts of a configuration that every handshake is made with. -/
structure HandshakeSettings where
  docker : String
  image : String
  trustStore : String
  issuer : String
  validationTime : String
  timeout : Duration
  maxOutputBytes : Nat
  deriving Repr, DecidableEq

section Gathering

variable (sys : TlsSystem) (settings : HandshakeSettings)

def runTls (leaf privateKey : String) : Except TlsObservationError TlsTranscriptEvidence :=
  observeTranscript sys {
    docker := settings.docker
    image := settings.image
    trustStore := settings.trustStore
    intermediate := settings.issuer
    leaf := leaf
    privateKey := privateKey
    validationTime := settings.validationTime
    timeout := settings.timeout
    maxOutputBytes := settings.maxOutputBytes }

/-- A temporary file with the certificate, its outer signature damaged. -/
def damagedFile (certificate : String) : Except TlsAnalysisError String :=
  damagedCopy .pem sys.toLibrary .mutation .io sys.base64Encode sys.readableTempfile certificate

def checkDesign (design : BindingDesign) (certificate : String) : Except TlsAnalysisError Unit :=
  checkBindingDesign .pem sys.toLibrary .wrongScheme design certificate

end Gathering

/-! ## Requests -/

/-- The hashes of an end entity, its trust anchor and its path. -/
structure EndEntity where
  certificateDerSha256 : String
  issuerEdgeSha256 : String
  expectedTrustAnchor : TrustAnchor
  certificatePath : List CertificateNode
  deriving Repr, DecidableEq

/-- An item of the end entity. -/
def EndEntity.item (endEntity : EndEntity) (artifact : String) (operationId : Option String)
    (revocationMethod : RevocationMethod) (part : Part) : Evidence where
  id := part.name
  certificateId := "end-entity"
  position := .endEntity
  certificateDerSha256 := some endEntity.certificateDerSha256
  evidenceArtifactDerSha256 := some artifact
  issuerEdgeSha256 := some endEntity.issuerEdgeSha256
  authenticationOperationId := operationId
  kind := part.kind
  present := .observed .pass
  recognized := .observed .pass
  signature := part.signature
  binding := part.binding
  path := part.path
  validity := part.validity
  revocation := part.revocation
  revocationMethod := revocationMethod
  appliedRevocationPolicy := .crlHardFail
  decisionSensitiveForFixture := part.decisionSensitiveForFixture

/-- The request of a TLS analysis: required hybrid acceptance of the end entity. -/
def tlsRequest (validationTime : String) (stack : StackObservation) (endEntity : EndEntity)
    (pairs : List PairedAuthentication) (evidence : List Evidence) : VerificationRequest where
  apiVersion := API_VERSION
  policy := .p2RequiredHybrid
  pathScope := .endEntity
  validationTime := validationTime
  previousAuthentication := none
  revocationPolicy := .crlHardFail
  stack := stack
  expectedTrustAnchor := endEntity.expectedTrustAnchor
  certificatePath := endEntity.certificatePath
  pairedAuthentications := pairs
  evidence := evidence

/-- A check that only acceptance passes; anything else is recorded as an observed failure. -/
def acceptanceCheck (verdict : StackVerdict) : CheckResult :=
  .observed (if verdict = .accept then .pass else .fail)

/-! ## Where the checks come from -/

def Conclusive (verdict : StackVerdict) : Prop := verdict = .accept ∨ verdict = .reject

instance : DecidablePred Conclusive := fun _ => inferInstanceAs (Decidable (_ ∨ _))

theorem acceptanceCheck_honest_iff {verdict : StackVerdict} :
    ((acceptanceCheck verdict).state = .fail → verdict = .reject) ↔ Conclusive verdict := by
  cases verdict <;> decide

theorem acceptanceCheck_ne_notApplicable (verdict : StackVerdict) :
    (acceptanceCheck verdict).state ≠ .notApplicable := by
  cases verdict <;> decide

theorem behavioralCheck_ne {established : Bool} {state other : CheckState} (apart : state ≠ other)
    (open_ : other ≠ .indeterminate) : (behavioralCheck established state).state ≠ other := by
  cases established with
  | false => exact open_.symm
  | true => exact apart

/-- The adapter runs behind a check: the one whose verdict it repeats, or the controls that
    establish it together. -/
inductive Source where
  | run (verdict : StackVerdict)
  | controls (verdicts : List StackVerdict)
  deriving Repr, DecidableEq

/-- A check of this source may be a known failure. -/
def Source.Permits : Source → Prop
  | .run verdict => verdict = .reject
  | .controls verdicts => ∀ verdict ∈ verdicts, Conclusive verdict

/-- A run of the source ended without an answer. -/
def Source.Inconclusive : Source → Prop
  | .run verdict => ¬ Conclusive verdict
  | .controls verdicts => ∃ verdict ∈ verdicts, ¬ Conclusive verdict

theorem Source.Permits.not_inconclusive {source : Source} (permits : source.Permits) :
    ¬ source.Inconclusive := by
  cases source with
  | run verdict => exact fun inconclusive => inconclusive (.inr permits)
  | controls verdicts =>
      rintro ⟨verdict, listed, inconclusive⟩
      exact inconclusive (permits verdict listed)

/-- How an analysis used its runs: the verdicts of its handshakes, and the source of each
    check that comes from a verdict, by the item and the name of the check. -/
structure Account where
  handshakes : List StackVerdict
  sources : List ((String × String) × Source)
  deriving Repr, DecidableEq

namespace Account

variable (account : Account) (request : VerificationRequest)

/-- No check of the request is a failure that its runs do not show. -/
def NeverInvents : Prop :=
  ∀ item ∈ request.evidence, ∀ check ∈ item.checks, ∀ source,
    ((item.id, check.1), source) ∈ account.sources → check.2.state = .fail → source.Permits

/-- Nothing in the request is known to fail, apart from checks of inconclusive runs. -/
structure NoOtherFailure : Prop where
  stack : request.stack.verdict ≠ .reject
  pairs : ∀ pair ∈ request.pairedAuthentications, pair.sameAuthenticationOperation.state ≠ .fail
  checks : ∀ item ∈ request.evidence, ∀ check ∈ item.checks, check.2.state = .fail →
    ∃ source, ((item.id, check.1), source) ∈ account.sources ∧ source.Inconclusive

/-- An inconclusive run is never taken for a failure, neither in a check nor, where nothing
    else fails, in the verdict. -/
structure Honest (verdict : PolicyVerdict) : Prop where
  neverInvents : account.NeverInvents request
  indeterminate : .indeterminate ∈ account.handshakes → account.NoOtherFailure request →
    verdict = .indeterminate

variable {account} {request}

theorem no_failure (neverInvents : account.NeverInvents request)
    (noOther : account.NoOtherFailure request) {item : Evidence} (member : item ∈ request.evidence)
    {check : String × CheckResult} (performed : check ∈ item.checks) : check.2.state ≠ .fail := by
  intro failed
  obtain ⟨source, listed, inconclusive⟩ := noOther.checks item member check performed failed
  exact (neverInvents item member check performed source listed failed).not_inconclusive
    inconclusive

end Account

/-! ## The requests are accepted -/

section Accepted

variable {sys : TlsSystem} {settings : HandshakeSettings}

/-- The node of the end entity. -/
def EndEntity.node (endEntity : EndEntity) (properties : LeafPathProperties) : CertificateNode where
  id := "end-entity"
  position := .endEntity
  subjectPublicKeyScheme := properties.subjectPublicKeyScheme
  certificateSignatureScheme := properties.certificateSignatureScheme
  bindingDesign := properties.bindingDesign
  derSha256 := some endEntity.certificateDerSha256
  issuerEdgeSha256 := some endEntity.issuerEdgeSha256

/-- What an analysis gathered about its end entity, against the stack of the handshake. -/
structure Gathered (sys : TlsSystem) (settings : HandshakeSettings)
    (properties : LeafPathProperties) (leaf privateKey : String) (tls : TlsTranscriptEvidence)
    (endEntity : EndEntity) : Prop where
  ran : runTls sys settings leaf privateKey = .ok tls
  der : certificateDerHash sys.toLibrary leaf INPUT_LIMIT = .ok endEntity.certificateDerSha256
  edge : issuerEdgeHash sys.toLibrary leaf settings.issuer INPUT_LIMIT =
    .ok endEntity.issuerEdgeSha256
  anchor : certificateTrustAnchor sys.toLibrary settings.trustStore INPUT_LIMIT =
    .ok endEntity.expectedTrustAnchor
  path : endEntityCertificationPath sys.toLibrary leaf settings.issuer settings.trustStore
    properties INPUT_LIMIT = .ok endEntity.certificatePath
  time : readsTime sys.toLibrary settings.validationTime = true

theorem observed_of_runTls {leaf privateKey : String} {tls : TlsTranscriptEvidence}
    (ran : runTls sys settings leaf privateKey = .ok tls) :
    (∃ leafHash issuerHash root, Observed sys.toLibrary
      ⟨settings.trustStore, settings.issuer, leaf⟩ settings.validationTime tls.report.observation
      leafHash issuerHash root) ∧
      tls.report.observation.validationTime = .observed .pass := by
  simp only [runTls, observeTranscript, bind_ok_iff, mapErr_ok_iff, pure_ok_iff] at ran
  obtain ⟨execution, verified, report, reported, rfl⟩ := ran
  have same : report.observation = execution.observation := by
    simp only [AdapterExecution.report, bind_ok_iff, pure_ok_iff] at reported
    obtain ⟨_, _, _, _, rfl⟩ := reported
    rfl
  have observes := observes_of_verify verified
  obtain ⟨leafHash, issuerHash, root, leafHashed, issuerHashed, rootHashed, path, source, anchor⟩ :=
    observes.presented (by simp)
  refine ⟨⟨leafHash, issuerHash, root, ?_⟩, ?_⟩
  · rw [same]
    exact ⟨certificateSha256_ok_iff.mp leafHashed, certificateSha256_ok_iff.mp issuerHashed,
      certificateSha256_ok_iff.mp rootHashed, path, source, anchor, observes.appliedTime⟩
  · rw [same]
    exact validationTime_of_verify verified

variable {properties : LeafPathProperties} {leaf privateKey : String} {tls : TlsTranscriptEvidence}
  {endEntity : EndEntity}

/-- The path of the end entity: its node, and the node of its issuer. -/
theorem Gathered.path_eq (gathered : Gathered sys settings properties leaf privateKey tls endEntity) :
    ∃ issuer edge, certificateDerHash sys.toLibrary settings.issuer INPUT_LIMIT = .ok issuer ∧
      issuerEdgeHash sys.toLibrary settings.issuer settings.trustStore INPUT_LIMIT = .ok edge ∧
      endEntity.certificatePath = [endEntity.node properties,
        ⟨"issuer", .intermediate, .classical, .classical, .none, some issuer, some edge⟩] := by
  have path := gathered.path
  simp only [endEntityCertificationPath, gathered.der, gathered.edge, ok_bind, bind_ok_iff,
    pure_ok_iff] at path
  obtain ⟨issuer, issuerHashed, edge, issuerJoined, path⟩ := path
  exact ⟨issuer, edge, issuerHashed, issuerJoined, path.symm⟩

section Digests

variable (digest : ∀ bytes, (sys.sha256 bytes).length = 32)
  (gathered : Gathered sys settings properties leaf privateKey tls endEntity)

include digest gathered

theorem Gathered.shows (scheme : properties.bindingDesign = .atomicComposite →
      properties.certificateSignatureScheme = .hybrid) :
    Shows settings.validationTime tls.report.observation endEntity.expectedTrustAnchor
      endEntity.certificatePath := by
  obtain ⟨⟨leafHash, issuerHash, root, observed⟩, -⟩ := observed_of_runTls gathered.ran
  obtain ⟨issuer, edge, issuerHashed, issuerJoined, path⟩ := gathered.path_eq
  have anchored := anchor_of_observed observed gathered.anchor
  obtain rfl : endEntity.certificateDerSha256 = leafHash := ok_unique gathered.der observed.leafHash
  obtain rfl : issuer = issuerHash := ok_unique issuerHashed observed.intermediateHash
  rw [path, anchored]
  exact {
    order := ⟨_, _, rfl, rfl, by simp⟩
    certificateIds := by simp [EndEntity.node]
    certificates := by
      intro certificate member
      rcases List.mem_pair.mp member with rfl | rfl
      · exact ⟨rfl, hashWellFormed_some (isSha256Hex_of_certificateDerHash digest gathered.der),
          hashWellFormed_some (isSha256Hex_of_issuerEdgeHash digest gathered.edge), scheme⟩
      · exact ⟨rfl, hashWellFormed_some (isSha256Hex_of_certificateDerHash digest issuerHashed),
          hashWellFormed_some (isSha256Hex_of_issuerEdgeHash digest issuerJoined), by simp⟩
    selectedPath := by simp [EndEntity.node, observed.path]
    anchorHash := isSha256Hex_of_certificateDerHash digest observed.rootHash
    sameAnchor := observed.anchor.symm
    appliedTime := observed.time }

/-- An item that belongs to no operation. -/
theorem Gathered.item_wellFormed (unrelated : properties.bindingDesign ≠ .relatedCertificate)
    {request : VerificationRequest} (policy : request.revocationPolicy = .crlHardFail)
    {part : Part} (unchecked : part.revocation.state ≠ .pass) :
    EvidenceWellFormed request (endEntity.node properties)
      (endEntity.item endEntity.certificateDerSha256 none .none part) where
  named := rfl
  certificateDerHash := hashWellFormed_some (isSha256Hex_of_certificateDerHash digest gathered.der)
  issuerEdgeHash := hashWellFormed_some (isSha256Hex_of_issuerEdgeHash digest gathered.edge)
  artifactHash := hashWellFormed_some (isSha256Hex_of_certificateDerHash digest gathered.der)
  position := rfl
  der := compatible_refl _
  issuerEdge := compatible_refl _
  carriesOperation := iff_of_false (by simp [EndEntity.item]) unrelated
  paired := by simp [EndEntity.item]
  ownArtifact := fun _ => compatible_refl _
  pairedArtifact := by simp [EndEntity.item]
  revocationPolicy := policy.symm
  revocationMethod := fun passed => absurd passed unchecked
  revocationNotRequired := by
    rw [policy]
    intro same
    cases same

/-- A request about the end entity alone, with one item of each kind. -/
theorem Gathered.wellFormed (scheme : properties.bindingDesign = .atomicComposite →
      properties.certificateSignatureScheme = .hybrid)
    {pairs : List PairedAuthentication} {classical postQuantum : Evidence}
    (operationIds : (pairs.map (·.operationId)).Nodup)
    (ids : classical.id ≠ postQuantum.id) (kinds : classical.kind ≠ postQuantum.kind)
    (operations : classical.authenticationOperationId = postQuantum.authenticationOperationId)
    (paired : ∀ pair ∈ pairs, PairWellFormed (tlsRequest settings.validationTime
      tls.report.observation endEntity pairs [classical, postQuantum]) pair)
    (items : ∀ item ∈ [classical, postQuantum], EvidenceWellFormed (tlsRequest
      settings.validationTime tls.report.observation endEntity pairs [classical, postQuantum])
      (endEntity.node properties) item) :
    WellFormed (readsTime sys.toLibrary) (tlsRequest settings.validationTime
      tls.report.observation endEntity pairs [classical, postQuantum]) := by
  have shown := gathered.shows digest scheme
  obtain ⟨issuer, edge, -, -, path⟩ := gathered.path_eq
  have inPath : endEntity.node properties ∈ endEntity.certificatePath := by simp [path]
  exact {
    apiVersion := rfl
    validationTime := gathered.time
    evidenceIds := by simpa [tlsRequest] using ids
    evidenceKinds := by simp [tlsRequest, kinds]
    certificateIds := shown.certificateIds
    pathOrder := shown.order
    pathCertificates := shown.certificates
    selectedPath := shown.selectedPath
    trustAnchor := shown.anchorHash
    sameTrustAnchor := shown.sameAnchor
    operationIds := operationIds
    pairs := paired
    evidence := fun item member => ⟨_, inPath, items item member⟩
    sameOperation := by
      intro item member other otherMember _
      rcases List.mem_pair.mp member with rfl | rfl <;>
        rcases List.mem_pair.mp otherMember with rfl | rfl <;> simp [operations]
    appliedTime := fun _ => shown.appliedTime }

end Digests

/-- Only the end entity is in the scope of the request. -/
theorem Gathered.eq_endEntity_of_mem
    (gathered : Gathered sys settings properties leaf privateKey tls endEntity)
    {pairs : List PairedAuthentication} {evidence : List Evidence} {certificate : CertificateNode}
    (inside : certificate ∈ certificates (tlsRequest settings.validationTime
      tls.report.observation endEntity pairs evidence)) :
    certificate = endEntity.node properties := by
  obtain ⟨issuer, edge, -, -, path⟩ := gathered.path_eq
  simpa [certificates, tlsRequest, path, EndEntity.node, PathScope.includes] using inside

/-- The design of an end entity that has to be signed both ways and is not paired. -/
structure SignedBothWays (properties : LeafPathProperties) : Prop where
  subjectPublicKey : properties.subjectPublicKeyScheme ≠ .unknown
  certificateSignature : properties.certificateSignatureScheme ≠ .unknown
  design : properties.bindingDesign.isHybridCertificateSignatureDesign = true

theorem SignedBothWays.ne (signed : SignedBothWays properties) {design : BindingDesign}
    (other : design.isHybridCertificateSignatureDesign = false) :
    properties.bindingDesign ≠ design := by
  rintro rfl
  exact absurd (signed.design.symm.trans other) (by decide)

theorem Gathered.supported
    (gathered : Gathered sys settings properties leaf privateKey tls endEntity)
    (signed : SignedBothWays properties) (accepted : tls.verdict = .accept)
    (pairs : List PairedAuthentication) (evidence : List Evidence) :
    ¬ UnsupportedInput (tlsRequest settings.validationTime tls.report.observation endEntity pairs
      evidence) := by
  have accepted : tls.report.observation.verdict = .accept := accepted
  rintro (refused | ⟨certificate, inside, unknown⟩)
  · exact absurd (refused.symm.trans accepted) (by decide)
  · obtain rfl := gathered.eq_endEntity_of_mem inside
    rcases unknown with keys | signatures | design
    · exact signed.subjectPublicKey keys
    · exact signed.certificateSignature signatures
    · exact signed.ne rfl design

/-- Nothing is held against a handshake that was accepted, with items of both kinds none of
    which fails. -/
theorem Gathered.no_objection
    (gathered : Gathered sys settings properties leaf privateKey tls endEntity)
    (signed : SignedBothWays properties) {pairs : List PairedAuthentication}
    {classical postQuantum : Evidence}
    (kinds : classical.kind = .classical ∧ postQuantum.kind = .postQuantum)
    (named : ∀ item ∈ [classical, postQuantum], item.certificateId = "end-entity")
    (accepted : tls.verdict = .accept)
    (noFailure : ∀ item ∈ [classical, postQuantum], ∀ check ∈ item.checks,
      check.2.state ≠ .fail ∧ (check.2.state = .notApplicable → check.1 = "binding")) :
    ¬ Objection (tlsRequest settings.validationTime tls.report.observation endEntity pairs
      [classical, postQuantum]) := by
  have passed := (observed_of_runTls gathered.ran).2
  have accepted : tls.report.observation.verdict = .accept := accepted
  intro objection
  cases objection with
  | stackRejects rejects => exact absurd (accepted.symm.trans rejects) (by decide)
  | validationTime _ _ objects =>
      obtain ⟨_, failed⟩ := objects
      simp [tlsRequest, passed, CheckResult.observed] at failed
  | notHybrid inside signature _ =>
      obtain rfl := gathered.eq_endEntity_of_mem inside
      simp [CertificateNode.hasHybridCertificateSignatureDesign, EndEntity.node, signed.design]
        at signature
  | noOperation inside related _ _ =>
      obtain rfl := gathered.eq_endEntity_of_mem inside
      exact signed.ne rfl related
  | pairing inside related _ _ _ _ _ _ =>
      obtain rfl := gathered.eq_endEntity_of_mem inside
      exact signed.ne rfl related
  | @missing certificate kind inside _ absent =>
      obtain rfl := gathered.eq_endEntity_of_mem inside
      cases kind with
      | classical => exact absent classical (by simp [tlsRequest]) (named _ (by simp)) kinds.1
      | postQuantum => exact absent postQuantum (by simp [tlsRequest]) (named _ (by simp)) kinds.2
  | @check certificate item check _ _ member _ performed _ objects =>
      obtain ⟨unfailed, applicable⟩ := noFailure item member check performed
      rcases objects with failed | ⟨absent, required⟩
      · exact unfailed failed
      · exact required (.inl (applicable absent))

/-- Such a handshake leaves the verdict open: the stack did not select the path. -/
theorem Gathered.indeterminate_of_noFailure
    (gathered : Gathered sys settings properties leaf privateKey tls endEntity)
    (signed : SignedBothWays properties) {pairs : List PairedAuthentication}
    {classical postQuantum : Evidence}
    (kinds : classical.kind = .classical ∧ postQuantum.kind = .postQuantum)
    (named : ∀ item ∈ [classical, postQuantum], item.certificateId = "end-entity")
    (accepted : tls.verdict = .accept)
    (noFailure : ∀ item ∈ [classical, postQuantum], ∀ check ∈ item.checks,
      check.2.state ≠ .fail ∧ (check.2.state = .notApplicable → check.1 = "binding"))
    {answer : VerificationResult}
    (returned : evaluate (readsTime sys.toLibrary) (tlsRequest settings.validationTime
      tls.report.observation endEntity pairs [classical, postQuantum]) = .ok answer) :
    answer.policyVerdict = .indeterminate := by
  obtain ⟨⟨_, _, _, observed⟩, _⟩ := observed_of_runTls gathered.ran
  obtain ⟨wf, outcome⟩ := evaluate_ok_iff.mp returned
  refine (wf.p2_answer rfl outcome).2.2.2.mpr ⟨gathered.supported signed accepted _ _,
    gathered.no_objection signed kinds named accepted noFailure, ?_⟩
  intro shown
  exact absurd (observed.source.symm.trans shown.selected) (by decide)

/-- A request that takes no inconclusive run for a failure keeps the verdict open. -/
theorem Gathered.honest
    (gathered : Gathered sys settings properties leaf privateKey tls endEntity)
    (signed : SignedBothWays properties) {account : Account} {pairs : List PairedAuthentication}
    {classical postQuantum : Evidence}
    (kinds : classical.kind = .classical ∧ postQuantum.kind = .postQuantum)
    (named : ∀ item ∈ [classical, postQuantum], item.certificateId = "end-entity")
    (applicable : ∀ item ∈ [classical, postQuantum], ∀ check ∈ item.checks,
      check.2.state = .notApplicable → check.1 = "binding")
    (conclusive : Conclusive tls.verdict)
    (neverInvents : account.NeverInvents (tlsRequest settings.validationTime
      tls.report.observation endEntity pairs [classical, postQuantum]))
    {answer : VerificationResult}
    (returned : evaluate (readsTime sys.toLibrary) (tlsRequest settings.validationTime
      tls.report.observation endEntity pairs [classical, postQuantum]) = .ok answer) :
    account.Honest (tlsRequest settings.validationTime tls.report.observation endEntity pairs
      [classical, postQuantum]) answer.policyVerdict where
  neverInvents := neverInvents
  indeterminate := by
    intro _ noOther
    have accepted : tls.verdict = .accept := conclusive.resolve_right noOther.stack
    refine gathered.indeterminate_of_noFailure signed kinds named accepted ?_ returned
    intro item member check performed
    exact ⟨Account.no_failure neverInvents noOther member performed,
      applicable item member check performed⟩

end Accepted

end HybridX509.Analysis.Transcripts
