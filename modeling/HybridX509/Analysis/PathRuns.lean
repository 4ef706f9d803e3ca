import HybridX509.Adapters.BouncyCastle
import HybridX509.Analysis.Scopes
import HybridX509.X509.Mutation
import HybridX509.X509.PemText

/-! # Path runs

What the analyses repeat from file to file: the Bouncy Castle runs they make, what a run of
a path observes, and the first steps they take with a certificate. Each analysis has errors
of its own, and is given its cases of them.
-/

namespace HybridX509.Analysis.PathRuns

open Lib X509 Oracle Adapters Adapters.BouncyCastle Revocation.Ocsp

def INPUT_LIMIT : Nat := 16 * 1024 * 1024

/-! ## Runs -/

/-- The parts of a configuration that every run is made with. -/
structure RunSettings where
  docker : String
  image : String
  validationTime : String
  timeout : Duration
  maxOutputBytes : Nat
  deriving Repr, DecidableEq

structure PathFiles where
  root : String
  intermediate : String
  leaf : String
  deriving Repr, DecidableEq

/-- The certificate of a position and its issuer. -/
def PathFiles.certificateAndIssuer (files : PathFiles) : PathPosition → String × String
  | .endEntity => (files.leaf, files.intermediate)
  | .intermediate => (files.intermediate, files.root)
  | .trustAnchor => (files.root, files.root)

def PathFiles.withReplacement (files : PathFiles) (position : PathPosition)
    (replacement : String) : PathFiles where
  root := if position = .trustAnchor then replacement else files.root
  intermediate := if position = .intermediate then replacement else files.intermediate
  leaf := if position = .endEntity then replacement else files.leaf

section Runs

variable (sys : System BouncyCastleConfig) (settings : RunSettings)

def run (root intermediate leaf : String) (mode : BouncyCastleMode) (crl : Option String) :
    Except BouncyCastleError AdapterExecution :=
  verify sys {
    docker := settings.docker
    image := settings.image
    trustStore := root
    intermediate := intermediate
    leaf := leaf
    validationTime := settings.validationTime
    timeout := settings.timeout
    maxOutputBytes := settings.maxOutputBytes
    mode := mode
    privateKey := none
    crl := crl }

def runPath (files : PathFiles) : Except BouncyCastleError AdapterExecution :=
  run sys settings files.root files.intermediate files.leaf .path none

end Runs

/-! ## Positions -/

def positionId : PathPosition → String
  | .endEntity => "leaf"
  | .intermediate => "intermediate"
  | .trustAnchor => "root"

/-- A trust anchor has no edge. -/
def positionEdge (lib : Library) (position : PathPosition) (certificate issuer : String) :
    Except PemError (Option String) :=
  if position = .trustAnchor then .ok none
  else (issuerEdgeHash lib certificate issuer INPUT_LIMIT).map some

/-! ## What a run observes -/

theorem certificateSha256_ok_iff {lib : Library} {path hash : String} :
    certificateSha256 lib path = .ok hash ↔ certificateDerHash lib path INPUT_LIMIT = .ok hash := by
  simp only [certificateSha256, certificateDerHash, bind_ok_iff, mapErr_ok_iff, pure_ok_iff]
  rfl

/-- What the run of a path observed. -/
structure Observed (lib : Library) (files : PathFiles) (validationTime : String)
    (stack : StackObservation) (leaf intermediate root : String) : Prop where
  leafHash : certificateDerHash lib files.leaf INPUT_LIMIT = .ok leaf
  intermediateHash : certificateDerHash lib files.intermediate INPUT_LIMIT = .ok intermediate
  rootHash : certificateDerHash lib files.root INPUT_LIMIT = .ok root
  path : stack.certificationPathDerSha256 = [leaf, intermediate]
  source : stack.selectedPathSource = .presentedInput
  anchor : stack.trustAnchor = .certificateDerSha256 root
  time : stack.appliedValidationTime = validationTime

theorem observed_of_runPath {sys : System BouncyCastleConfig} {settings : RunSettings}
    {files : PathFiles} {execution : AdapterExecution}
    (ran : runPath sys settings files = .ok execution) :
    ∃ leaf intermediate root, Observed sys.toLibrary files settings.validationTime
      execution.observation leaf intermediate root := by
  have observes := observes_of_verify ran
  obtain ⟨leaf, intermediate, root, leafHash, intermediateHash, rootHash, path, source, anchor⟩ :=
    observes.presented (by simp)
  exact ⟨leaf, intermediate, root, certificateSha256_ok_iff.mp leafHash,
    certificateSha256_ok_iff.mp intermediateHash, certificateSha256_ok_iff.mp rootHash, path,
    source, anchor, observes.appliedTime⟩

/-! ## Certificates -/

section Certificates

variable {ε : Type} (pem : PemError → ε) (lib : Library)

def checkBindingDesign (wrongScheme : ε) (design : BindingDesign) (certificate : String) :
    Except ε Unit := do
  let profile ← mapErr pem (inspectCertificate lib certificate INPUT_LIMIT)
  failIf (profile.bindingDesign ≠ design) wrongScheme

/-- A temporary file with the certificate, its outer signature damaged. -/
def damagedCopy (mutation : MutationError → ε) (io : String → ε)
    (base64Encode : List UInt8 → String) (readableTempfile : List UInt8 → Except String String)
    (certificate : String) : Except ε String := do
  let der ← mapErr pem (readDer lib certificate .certificate INPUT_LIMIT)
  let damaged ← mapErr mutation (corruptOuterSignature lib der)
  mapErr io (readableTempfile (bytes (encodeCertificatePem base64Encode damaged)))

end Certificates

/-! ## Errors -/

/-- The oracle did not refuse a request. -/
def NotOracle {ε : Type} (oracle : Abort → ε) (error : ε) : Prop := ∀ abort, error ≠ oracle abort

section Raised

variable {ε ε' α : Type} {oracle : Abort → ε'}

/-- Every other translation of an error keeps away from the oracle. -/
theorem raises_other {f : ε → ε'} (x : Except ε α) (other : ∀ error abort, f error ≠ oracle abort) :
    Raises (NotOracle oracle) (mapErr f x) :=
  raises_mapErr other x

theorem checkBindingDesign_raises {lib : Library} {pem : PemError → ε'} {wrongScheme : ε'}
    (pemOther : ∀ error abort, pem error ≠ oracle abort)
    (schemeOther : ∀ abort, wrongScheme ≠ oracle abort) (design : BindingDesign)
    (certificate : String) :
    Raises (NotOracle oracle) (checkBindingDesign pem lib wrongScheme design certificate) :=
  raises_bind (raises_other _ pemOther) fun _ _ => raises_failIf fun _ => schemeOther

theorem damagedCopy_raises {lib : Library} {pem : PemError → ε'} {mutation : MutationError → ε'}
    {io : String → ε'} (pemOther : ∀ error abort, pem error ≠ oracle abort)
    (mutationOther : ∀ error abort, mutation error ≠ oracle abort)
    (ioOther : ∀ error abort, io error ≠ oracle abort) {base64Encode : List UInt8 → String}
    {readableTempfile : List UInt8 → Except String String} (certificate : String) :
    Raises (NotOracle oracle)
      (damagedCopy pem lib mutation io base64Encode readableTempfile certificate) := by
  refine raises_bind (raises_other _ pemOther) fun _ _ => ?_
  exact raises_bind (raises_other _ mutationOther) fun _ _ => raises_other _ ioOther

end Raised

end HybridX509.Analysis.PathRuns
