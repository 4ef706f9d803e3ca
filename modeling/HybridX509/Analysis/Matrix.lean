import HybridX509.Adapters.StackReports
import HybridX509.Lib.LexicalPath
import HybridX509.X509.Mutation
import HybridX509.X509.PemText
import Mathlib.Data.List.Sort
import Mathlib.Data.String.Basic

/-! # The fixture matrix

`analysis/matrix.rs`: every case of the corpus, with its damaged variants, through every
adapter. A temporary file of a damaged leaf exists for one row of the matrix only, so a row
is run over the file system with that file in it.
-/

namespace HybridX509.Analysis.Matrix

open Lib X509 Adapters Adapters.Stacks Adapters.BouncyCastle Adapters.ValidationTime
open Revocation.Ocsp

structure AvailableMatrixConfig where
  fixtures : String
  controls : String
  opensslCurrentImage : String
  opensslStudyImage : String
  gnutlsCurrentImage : String
  gnutlsStudyImage : String
  goStudyImage : String
  goCurrentImage : String
  pycaStudyImage : String
  pycaCurrentImage : String
  docker : String
  bouncyCastleStudyImage : String
  bouncyCastleCurrentImage : String
  nssStudyImage : String
  nssCurrentImage : String
  oqsProviderImage : String
  wolfsslImage : String
  validationTime : String
  timeout : Duration
  maxOutputBytes : Nat
  publication : Bool
  deriving Repr, DecidableEq

inductive MatrixSupport where
  | supported
  | unsupported
  deriving Repr, DecidableEq

structure MatrixProcessExecution where
  version : CheckResult
  verification : CheckResult
  deriving Repr, DecidableEq

inductive MatrixVariant where
  | valid
  | invalidCertificateSignature
  | invalidPostQuantumSignature
  | missingHybridEvidence
  | brokenBinding
  | unknownHybridAlgorithm
  | malformedHybridEvidence
  | criticalHybridExtension
  | publishedStudyFixture
  | invalidHybridEvidenceSignature
  deriving Repr, DecidableEq

/-- `{variant:?}`. -/
def MatrixVariant.debug : MatrixVariant → String
  | .valid => "Valid"
  | .invalidCertificateSignature => "InvalidCertificateSignature"
  | .invalidPostQuantumSignature => "InvalidPostQuantumSignature"
  | .missingHybridEvidence => "MissingHybridEvidence"
  | .brokenBinding => "BrokenBinding"
  | .unknownHybridAlgorithm => "UnknownHybridAlgorithm"
  | .malformedHybridEvidence => "MalformedHybridEvidence"
  | .criticalHybridExtension => "CriticalHybridExtension"
  | .publishedStudyFixture => "PublishedStudyFixture"
  | .invalidHybridEvidenceSignature => "InvalidHybridEvidenceSignature"

/-- `{operation:?}`. -/
def operationDebug : ValidationProfile → String
  | .x509Path => "X509Path"
  | .webPkiServer => "WebPkiServer"
  | .evidenceSignature => "EvidenceSignature"

structure MatrixEntry where
  caseId : String
  subjectPublicKeyScheme : AlgorithmSecurity
  certificateSignatureScheme : AlgorithmSecurity
  bindingDesign : BindingDesign
  variant : MatrixVariant
  operation : ValidationProfile
  expectedSupport : MatrixSupport
  expectedStackVerdict : StackVerdict
  processExecution : MatrixProcessExecution
  claimId : String
  specification : String
  specificationRevision : String
  report : AdapterReport
  deriving Repr, DecidableEq

structure AdapterImageProvenance where
  image : String
  contentDigest : String
  deriving Repr, DecidableEq

structure MatrixProvenance where
  sourceCommit : String
  sourceTree : String
  sourceClean : Bool
  platform : String
  adapterImages : List AdapterImageProvenance
  deriving Repr, DecidableEq

structure MatrixReport where
  apiVersion : String
  requestedValidationTime : String
  provenance : MatrixProvenance
  entries : List MatrixEntry
  deriving Repr, DecidableEq

/-- The errors of the runs keep the adapter they come from. -/
inductive MatrixError where
  | openSsl (error : ContainerError)
  | gnuTls (error : ContainerError)
  | go (error : StackError)
  | pyca (error : StackError)
  | bouncyCastle (error : BouncyCastleError)
  | nss (error : ContainerError)
  | oqsProvider (error : ContainerError)
  | wolfSsl (error : ContainerError)
  | support (error : AdapterSupportError)
  | pem (error : PemError)
  | mutation (error : MutationError)
  | io (source : String)
  | dirtySourceTree
  | provenance (message : String)
  deriving Repr, DecidableEq

/-! ## Cases -/

structure Case where
  id : String
  subjectPublicKeyScheme : AlgorithmSecurity
  certificateSignatureScheme : AlgorithmSecurity
  bindingDesign : BindingDesign
  leaf : String
  issuer : String
  dns : String
  extensionOid : Option String
  deriving Repr, DecidableEq

def purePqKey : Case :=
  ⟨"pure-pq-key", .postQuantum, .classical, .none, "pure-leaf.pem", "ica.pem",
    "pure.pqc-probe.test", none⟩

def purePqSignature : Case :=
  ⟨"pure-pq-signature", .classical, .postQuantum, .none, "pure-mldsa-signed-leaf.pem",
    "pure-mldsa-ica.pem", "mldsa-signed.pqc-probe.test", none⟩

def atomicComposite : Case :=
  ⟨"atomic-composite", .classical, .hybrid, .atomicComposite, "composite-leaf.pem",
    "composite-ica.pem", "composite.pqc-probe.test", none⟩

def catalyst : Case :=
  ⟨"catalyst", .classical, .classical, .catalyst, "catalyst-leaf.pem", "catalyst-ica.pem",
    "catalyst.pqc-probe.test", some "2.5.29.74"⟩

def chameleon : Case :=
  ⟨"chameleon", .classical, .classical, .chameleon, "chameleon-base.pem", "ica.pem",
    "chameleon.pqc-probe.test", some "2.16.840.1.114027.80.6.1"⟩

def related : Case :=
  ⟨"related", .classical, .classical, .relatedCertificate, "related-certA.pem", "ica.pem",
    "related-a.pqc-probe.test", some "1.3.6.1.5.5.7.1.36"⟩

def classical : Case :=
  ⟨"classical", .classical, .classical, .none, "related-certA-missing.pem", "ica.pem",
    "related-a.pqc-probe.test", none⟩

def CASES : List Case :=
  [purePqKey, purePqSignature, atomicComposite, catalyst, chameleon, related, classical]

/-! ## Expectations -/

def expectedSupport (case : Case) (variant : MatrixVariant) (adapter : String) : MatrixSupport :=
  let unsupported :=
    (case.id == "atomic-composite" && !"bouncycastle-java".toList.isPrefixOf adapter.toList)
    || (case.id == "pure-pq-key" && adapter == "mozilla-nss-study")
    || (case.id == "pure-pq-signature" && ["mozilla-nss-study", "gnutls-study",
      "go-crypto-x509-study", "go-crypto-x509-current", "pyca-cryptography-study"].contains adapter)
    || (case.id == "chameleon" && adapter == "mozilla-nss-study")
    || (case.id == "related" && variant == .criticalHybridExtension && ["mozilla-nss-study",
      "mozilla-nss-current", "bouncycastle-java-study", "bouncycastle-java-current"].contains adapter)
  if unsupported then .unsupported else .supported

def expectedStackVerdict (case : Case) (variant : MatrixVariant) (adapter : String) :
    StackVerdict :=
  if expectedSupport case variant adapter = .unsupported then .unsupported
  else if variant = .valid
      ∧ ((case.id = "pure-pq-signature"
          ∧ (adapter = "mozilla-nss-current" ∨ adapter = "gnutls-current"))
        ∨ (case.id = "catalyst" ∧ adapter = "wolfssl-mode2")) then .reject
  else
    match variant with
    | .valid | .publishedStudyFixture => .accept
    | .missingHybridEvidence | .brokenBinding | .unknownHybridAlgorithm
    | .malformedHybridEvidence => .accept
    | .invalidCertificateSignature | .criticalHybridExtension => .reject
    | .invalidPostQuantumSignature =>
        if case.bindingDesign = .catalyst ∧ adapter ≠ "wolfssl-mode2" then .accept else .reject
    | .invalidHybridEvidenceSignature => .accept

def specification : BindingDesign → String
  | .relatedCertificate => "RFC 9763"
  | .atomicComposite => "draft-ietf-lamps-pq-composite-sigs"
  | .catalyst => "local Catalyst fixture design"
  | .chameleon => "draft-bonnell-lamps-chameleon-certs"
  | .none => "RFC 5280"
  | .unknown => "unknown"

def specificationRevision : BindingDesign → String
  | .relatedCertificate => "RFC 9763"
  | .atomicComposite => "draft-ietf-lamps-pq-composite-sigs-19"
  | .catalyst => "local experiment"
  | .chameleon => "draft-bonnell-lamps-chameleon-certs-07 expired"
  | .none => "RFC 5280"
  | .unknown => "unknown"

def processRecordCheck (record : ProcessRecord) (verdict : StackVerdict) : CheckResult :=
  let completed := record.statusCode.isSome && !record.timedOut && !record.stdout.truncated
    && !record.stderr.truncated
  let hasSemanticResult := record.statusCode == some 0 || verdict != .indeterminate
  ⟨if completed && hasSemanticResult then .pass else .fail, .observed⟩

def claimId (caseId : String) (variant : MatrixVariant) (operation : ValidationProfile)
    (adapter : String) : String :=
  "fixture-matrix:" ++ caseId ++ ":" ++ variant.debug ++ ":" ++ operationDebug operation ++ ":"
    ++ adapter

def entry (case : Case) (variant : MatrixVariant) (report : AdapterReport) : MatrixEntry where
  caseId := case.id
  subjectPublicKeyScheme := case.subjectPublicKeyScheme
  certificateSignatureScheme := case.certificateSignatureScheme
  bindingDesign := case.bindingDesign
  variant := variant
  operation := report.observation.validationProfile
  expectedSupport := Matrix.expectedSupport case variant report.observation.adapter
  expectedStackVerdict := Matrix.expectedStackVerdict case variant report.observation.adapter
  processExecution := {
    version := processRecordCheck report.version .accept
    verification := processRecordCheck report.verification report.observation.verdict }
  claimId := Matrix.claimId case.id variant report.observation.validationProfile
    report.observation.adapter
  specification := Matrix.specification case.bindingDesign
  specificationRevision := Matrix.specificationRevision case.bindingDesign
  report := report

def push (entries : List MatrixEntry) (case : Case) (variant : MatrixVariant)
    (report : AdapterReport) : List MatrixEntry :=
  entries ++ [entry case variant report]

/-! ## The surroundings -/

/-- `std::process::Output`, its status reduced to whether it is a success. -/
structure CommandOutput where
  success : Bool
  stdout : List UInt8
  stderr : List UInt8
  deriving Repr, DecidableEq

/-- The surroundings of the adapters, with `readable_tempfile`, which gives the path of the
    written file, and with `Command`, by its program and its arguments. A row can repeat the
    calls of another one, and runs its programs again. -/
structure MatrixSystem extends StackSystem where
  readableTempfile : List UInt8 → Except String String
  command : String → List String → Except String CommandOutput
  platform : String
  rerun : Case → MatrixVariant → StackCall → Except String ProcessOutput

/-- The runs of a row. -/
def MatrixSystem.inRow (sys : MatrixSystem) (case : Case) (variant : MatrixVariant) :
    MatrixSystem :=
  { sys with runProgram := sys.rerun case variant }

/-- The file system with one more file. -/
def MatrixSystem.withFile (sys : MatrixSystem) (path : String) (contents : List UInt8) :
    MatrixSystem :=
  { sys with openFile := fun name =>
      if name = path then .ok ⟨true, contents.length, .ok contents⟩ else sys.openFile name }

/-! ## Provenance -/

def ensurePublicationSourceClean (publication sourceClean : Bool) : Except MatrixError Unit :=
  failIf (publication = true ∧ sourceClean = false) .dirtySourceTree

/-- The configured images, in the order they are listed. -/
def images (config : AvailableMatrixConfig) : List String :=
  [config.opensslCurrentImage, config.opensslStudyImage, config.gnutlsCurrentImage,
    config.gnutlsStudyImage, config.goStudyImage, config.goCurrentImage, config.pycaStudyImage,
    config.pycaCurrentImage, config.bouncyCastleStudyImage, config.bouncyCastleCurrentImage,
    config.nssStudyImage, config.nssCurrentImage, config.oqsProviderImage, config.wolfsslImage]

section Run

variable (sys : MatrixSystem) (config : AvailableMatrixConfig)

def trimmed (output : List UInt8) : String := .ofList (trim (fromUtf8Lossy output))

def git (arguments : List String) : Except MatrixError String := do
  let output ← mapErr .io (sys.command "git" arguments)
  failIf (output.success = false) (.provenance (trimmed output.stderr))
  return trimmed output.stdout

def inspectImage (image : String) : Except MatrixError AdapterImageProvenance := do
  let output ← mapErr .io (sys.command config.docker
    ["image", "inspect", "--format", "\x7b\x7b.Id\x7d\x7d", image])
  failIf (output.success = false)
    (.provenance ("cannot inspect image " ++ image ++ ": " ++ trimmed output.stderr))
  return ⟨image, trimmed output.stdout⟩

def collectProvenance : Except MatrixError MatrixProvenance := do
  let sourceCommit ← git sys ["rev-parse", "HEAD"]
  let sourceTree ← git sys ["rev-parse", "HEAD^\x7btree\x7d"]
  let status ← git sys ["status", "--porcelain"]
  let sourceClean := status == ""
  ensurePublicationSourceClean config.publication sourceClean
  let images := ((images config).insertionSort (· ≤ ·)).destutter (· ≠ ·)
  let adapterImages ← images.mapM (inspectImage sys config)
  return ⟨sourceCommit, sourceTree, sourceClean, sys.platform, adapterImages⟩

/-! ## Rows -/

/-- `verify(..)?.report()?`. -/
def reported {ε : Type} (wrap : ε → MatrixError) (ran : Except ε AdapterExecution) :
    Except MatrixError AdapterReport := do
  let execution ← mapErr wrap ran
  mapErr .support (execution.report sys.toSystem)

section Stacks

variable (case : Case) (root issuer leaf : String)

def openSslConfig (image : String) : OpenSslContainerConfig where
  docker := config.docker
  image := image
  trustStore := root
  intermediate := issuer
  leaf := leaf
  crl := none
  validationTime := config.validationTime
  timeout := config.timeout
  maxOutputBytes := config.maxOutputBytes

def oqsProviderConfig : OqsProviderConfig where
  docker := config.docker
  image := config.oqsProviderImage
  trustStore := root
  intermediate := issuer
  leaf := leaf
  validationTime := config.validationTime
  timeout := config.timeout
  maxOutputBytes := config.maxOutputBytes

def nssConfig (release : NssRelease) (image : String) : NssConfig where
  docker := config.docker
  image := image
  release := release
  trustStore := root
  intermediate := issuer
  leaf := leaf
  validationTime := config.validationTime
  timeout := config.timeout
  maxOutputBytes := config.maxOutputBytes

def bouncyCastleConfig (image : String) : BouncyCastleConfig where
  docker := config.docker
  image := image
  trustStore := root
  intermediate := issuer
  leaf := leaf
  validationTime := config.validationTime
  timeout := config.timeout
  maxOutputBytes := config.maxOutputBytes
  mode := .path
  privateKey := none
  crl := none

def wolfSslConfig (mode : WolfSslMode) : WolfSslConfig where
  docker := config.docker
  image := config.wolfsslImage
  mode := mode
  scheme := case.id
  trustStore := root
  intermediate := some issuer
  leaf := leaf
  validationTime := config.validationTime
  timeout := config.timeout
  maxOutputBytes := config.maxOutputBytes

def gnuTlsConfig (image : String) : GnuTlsContainerConfig where
  docker := config.docker
  image := image
  trustStore := root
  intermediate := issuer
  leaf := leaf
  validationTime := config.validationTime
  timeout := config.timeout
  maxOutputBytes := config.maxOutputBytes

def goConfig (release : GoX509Release) (image : String) : GoX509ContainerConfig where
  docker := config.docker
  image := image
  trustStore := root
  intermediate := issuer
  leaf := leaf
  dnsName := case.dns
  validationTime := config.validationTime
  timeout := config.timeout
  maxOutputBytes := config.maxOutputBytes
  release := release

def pycaConfig (release : PycaRelease) (image : String) : PycaContainerConfig where
  docker := config.docker
  image := image
  release := release
  trustStore := root
  intermediate := issuer
  leaf := leaf
  dnsName := case.dns
  validationTime := config.validationTime
  hybridExtensionOid := case.extensionOid
  timeout := config.timeout
  maxOutputBytes := config.maxOutputBytes

/-- The runs of `run_case`, in their order. -/
def stackReports : List (Except MatrixError AdapterReport) :=
  [reported sys .openSsl (verifyOpenSslStudy sys.toStackSystem
      (openSslConfig config root issuer leaf config.opensslStudyImage)),
    reported sys .openSsl (verifyOpenSslContainer sys.toStackSystem
      (openSslConfig config root issuer leaf config.opensslCurrentImage)),
    reported sys .oqsProvider (verifyOqsProvider sys.toStackSystem
      (oqsProviderConfig config root issuer leaf))]
  ++ ([(.study98, config.nssStudyImage), (.current126, config.nssCurrentImage)].map
    fun (release, image) => reported sys .nss (verifyContainerCall sys.toStackSystem
      (.nss (nssConfig config root issuer leaf release image))))
  ++ ([config.bouncyCastleStudyImage, config.bouncyCastleCurrentImage].map
    fun image => reported sys .bouncyCastle (verifyBouncyCastle sys.toStackSystem
      (bouncyCastleConfig config root issuer leaf image)))
  ++ ([.default, .dualAlgorithm].map
    fun mode => reported sys .wolfSsl (verifyContainerCall sys.toStackSystem
      (.wolfSsl (wolfSslConfig config case root issuer leaf mode))))
  ++ [reported sys .gnuTls (verifyGnuTlsContainer sys.toStackSystem
      (gnuTlsConfig config root issuer leaf config.gnutlsCurrentImage)),
    reported sys .gnuTls (verifyGnuTlsStudy sys.toStackSystem
      (gnuTlsConfig config root issuer leaf config.gnutlsStudyImage))]
  ++ ([(.study1264, config.goStudyImage), (.current1266, config.goCurrentImage)].map
    fun (release, image) => reported sys .go (verifyGoContainer sys.toStackSystem
      (goConfig config case root issuer leaf release image)))
  ++ ([(.study49, config.pycaStudyImage), (.current50, config.pycaCurrentImage)].map
    fun (release, image) => reported sys .pyca (verifyPycaContainer sys.toStackSystem
      (pycaConfig config case root issuer leaf release image)))

def runCase (entries : List MatrixEntry) (variant : MatrixVariant) :
    Except MatrixError (List MatrixEntry) :=
  (stackReports (sys.inRow case variant) config case root issuer leaf).foldlM (fun entries ran => do
    let report ← ran
    return push entries case variant report) entries

end Stacks

/-! ## The run -/

def root : String := join config.fixtures "root.pem"

/-- The leaf of a case as it was published, apart from the Chameleon one. -/
def validLeaf (case : Case) : String :=
  if case.id = "chameleon" then join config.controls "chameleon-base-valid-delta.pem"
  else if case.id = "classical" then join config.controls case.leaf
  else join config.fixtures case.leaf

/-- One pass over `CASES`. -/
def runValidAndDamaged (entries : List MatrixEntry) (case : Case) :
    Except MatrixError (List MatrixEntry) := do
  let leaf := validLeaf config case
  let issuer := join config.fixtures case.issuer
  let entries ← runCase sys config case (root config) issuer leaf entries .valid
  let der ← mapErr .pem (readDer sys.toLibrary leaf .certificate (16 * 1024 * 1024))
  let damaged ← mapErr .mutation (corruptOuterSignature sys.toLibrary der)
  let contents := bytes (encodeCertificatePem sys.base64Encode damaged)
  let invalidLeaf ← mapErr .io (sys.readableTempfile contents)
  runCase (sys.withFile invalidLeaf contents) config case (root config) issuer invalidLeaf entries
    .invalidCertificateSignature

/-- The controlled variants with a file of their own. -/
def CONTROLS : List (Case × MatrixVariant × String) :=
  [(catalyst, .invalidPostQuantumSignature, "catalyst-leaf-bad-alt.pem"),
    (atomicComposite, .invalidPostQuantumSignature, "composite-leaf-bad-mldsa.pem"),
    (related, .missingHybridEvidence, "related-certA-missing.pem"),
    (related, .brokenBinding, "related-certA-broken-binding.pem"),
    (related, .unknownHybridAlgorithm, "related-certA-unknown-digest.pem"),
    (related, .malformedHybridEvidence, "related-certA-malformed.pem"),
    (related, .criticalHybridExtension, "related-certA-critical.pem")]

def runControl (entries : List MatrixEntry) (control : Case × MatrixVariant × String) :
    Except MatrixError (List MatrixEntry) :=
  runCase sys config control.1 (root config) (join config.fixtures control.1.issuer)
    (join config.controls control.2.2) entries control.2.1

def chameleonLeaves : List (MatrixVariant × String) :=
  [(.publishedStudyFixture, join config.fixtures "chameleon-base.pem"),
    (.invalidHybridEvidenceSignature, join config.controls "chameleon-base-bad-delta.pem")]

def runChameleon (entries : List MatrixEntry) (variant : MatrixVariant × String) :
    Except MatrixError (List MatrixEntry) :=
  runCase sys config chameleon (root config) (join config.fixtures chameleon.issuer) variant.2
    entries variant.1

def runAvailableMatrix : Except MatrixError MatrixReport := do
  let provenance ← collectProvenance sys config
  let entries ← CASES.foldlM (runValidAndDamaged sys config) []
  let entries ← CONTROLS.foldlM (runControl sys config) entries
  let entries ← (chameleonLeaves config).foldlM (runChameleon sys config) entries
  return ⟨API_VERSION, config.validationTime, provenance, entries⟩

end Run

end HybridX509.Analysis.Matrix
