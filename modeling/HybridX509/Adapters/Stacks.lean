import HybridX509.Adapters.BouncyCastle
import HybridX509.Adapters.ValidationTime

/-! # Every adapter

The adapters of `openssl.rs`, `gnutls.rs`, `go_x509.rs`, `pyca.rs` and `oqs_provider.rs`
that are not of the container family of `ValidationTime`, and a call of any adapter. The
remaining ones take the same steps too, with other commands, and with or without a
reading of the time.
-/

namespace HybridX509.Adapters.Stacks

open Lib X509 Revocation.Ocsp BouncyCastle ValidationTime

/-! ## Configurations -/

structure OpenSslConfig where
  executable : String
  trustStore : String
  untrustedChain : Option String
  leaf : String
  crl : Option String
  validationTime : String
  timeout : Duration
  maxOutputBytes : Nat
  deriving Repr, DecidableEq

structure OpenSslTlsConfig where
  docker : String
  image : String
  trustStore : String
  intermediate : String
  leaf : String
  privateKey : String
  hostname : String
  validationTime : String
  timeout : Duration
  maxOutputBytes : Nat
  deriving Repr, DecidableEq

structure GnuTlsConfig where
  executable : String
  trustStore : String
  untrustedChain : Option String
  leaf : String
  timeout : Duration
  maxOutputBytes : Nat
  deriving Repr, DecidableEq

structure GoX509Config where
  executable : String
  trustStore : String
  intermediate : String
  leaf : String
  dnsName : String
  validationTime : String
  timeout : Duration
  maxOutputBytes : Nat
  deriving Repr, DecidableEq

inductive GoX509Release where
  | study1264
  | current1266
  deriving Repr, DecidableEq

structure GoX509ContainerConfig where
  docker : String
  image : String
  trustStore : String
  intermediate : String
  leaf : String
  dnsName : String
  validationTime : String
  timeout : Duration
  maxOutputBytes : Nat
  release : GoX509Release
  deriving Repr, DecidableEq

structure PycaConfig where
  python : String
  script : String
  trustStore : String
  intermediate : String
  leaf : String
  dnsName : String
  validationTime : String
  hybridExtensionOid : Option String
  timeout : Duration
  maxOutputBytes : Nat
  deriving Repr, DecidableEq

inductive PycaRelease where
  | study49
  | current50
  deriving Repr, DecidableEq

structure PycaContainerConfig where
  docker : String
  image : String
  release : PycaRelease
  trustStore : String
  intermediate : String
  leaf : String
  dnsName : String
  validationTime : String
  hybridExtensionOid : Option String
  timeout : Duration
  maxOutputBytes : Nat
  deriving Repr, DecidableEq

structure OqsProviderConfig where
  docker : String
  image : String
  trustStore : String
  intermediate : String
  leaf : String
  validationTime : String
  timeout : Duration
  maxOutputBytes : Nat
  deriving Repr, DecidableEq

/-- The cases of the error enumerations of the adapters below. -/
inductive StackError where
  | invalidValidationTime (text : String)
  | emptyHostname
  | versionFailed
  | support (error : AdapterSupportError)
  | input (error : BoundedInputError)
  | io (source : String)
  deriving Repr, DecidableEq

/-- A call of any adapter. -/
inductive StackCall where
  | container (call : ContainerCall)
  | bouncyCastle (config : BouncyCastleConfig)
  | openSsl (config : OpenSslConfig)
  | openSslTls (config : OpenSslTlsConfig)
  | gnuTls (config : GnuTlsConfig)
  | go (config : GoX509Config)
  | goContainer (config : GoX509ContainerConfig)
  | pyca (config : PycaConfig)
  | pycaContainer (config : PycaContainerConfig)
  deriving Repr, DecidableEq

end HybridX509.Adapters.Stacks

namespace HybridX509.Adapters

/-- The same surroundings, for calls that are calls of another kind. -/
def System.comap {Call Call' : Type} (sys : System Call) (f : Call' → Call) : System Call' where
  toLibrary := sys.toLibrary
  resolveExecutable := sys.resolveExecutable
  canonicalize := sys.canonicalize
  cachedVersionOutput := fun call => sys.cachedVersionOutput (f call)
  runProgram := fun call => sys.runProgram (f call)
  base64Encode := sys.base64Encode
  verdictFromSlice := sys.verdictFromSlice
  selectedPathFromSlice := sys.selectedPathFromSlice
  instrumentedFromSlice := sys.instrumentedFromSlice

end HybridX509.Adapters

namespace HybridX509.Adapters.Stacks

open Lib X509 Revocation.Ocsp BouncyCastle ValidationTime

/-- The surroundings of all adapters, with `NamedTempFile` and `DateTime`. -/
structure StackSystem extends System StackCall where
  chrono : Chrono
  newTempFile : Except String OsString
  writeAll : OsString → List UInt8 → Except String Unit
  flush : OsString → Except String Unit

/-! ## The steps of a call -/

/-- What the calls differ in. -/
structure StackRun where
  program : String
  inputPaths : List String
  leaf : String
  intermediate : Option String
  trustStore : String
  timeArgument : Except StackError String
  versionArguments : Except StackError (List OsString)
  arguments : String → Except StackError (List OsString)
  version : ProcessOutput → String
  classify : ProcessOutput → StackVerdict
  adapter : String
  versionTrack : VersionTrack
  validationProfile : ValidationProfile
  executionIsolation : ExecutionIsolation
  appliedValidationTime : String
  validationTime : CheckResult

section Verify

variable (sys : StackSystem)

def runStack (call : StackCall) (run : StackRun) : Except StackError AdapterExecution := do
  let executable ← mapErr .support (sys.resolveExecutable run.program)
  let inputs ← mapErr .support (recordInputs sys.toLibrary run.inputPaths)
  let (path, trustAnchor) ← mapErr .support
    (selectedPathHashes sys.toLibrary run.leaf run.intermediate run.trustStore)
  let timeArgument ← run.timeArgument
  let _ ← run.versionArguments
  let versionOutput ← mapErr .io (sys.cachedVersionOutput call)
  failIf (versionOutput.timedOut = true ∨ versionOutput.statusCode ≠ some 0) .versionFailed
  let arguments ← run.arguments timeArgument
  let verificationOutput ← mapErr .io (sys.runProgram call)
  return {
    observation := {
      adapter := run.adapter
      version := run.version versionOutput
      verdict := run.classify verificationOutput
      versionTrack := run.versionTrack
      validationProfile := run.validationProfile
      executionIsolation := run.executionIsolation
      certificationPathDerSha256 := path
      selectedPathSource := .presentedInput
      trustAnchor := trustAnchor
      appliedValidationTime := run.appliedValidationTime
      validationTime := run.validationTime }
    inputs := inputs
    executable := executable
    arguments := arguments
    versionOutput := versionOutput
    verificationOutput := verificationOutput }

def parseTime (validationTime : String) : Except StackError DateTime :=
  orFail (sys.chrono.parseFromRfc3339 validationTime) (.invalidValidationTime validationTime)

/-- `isolated_arguments`, with its error as an I/O error. -/
def isolated (image : String) (mounts : List (String × String)) (command : List OsString) :
    Except StackError (List OsString) :=
  mapErr .io (isolatedArguments sys.canonicalize image mounts command)

/-- `openssl::verify`. -/
def openSslLocalRun (config : OpenSslConfig) : StackRun where
  program := config.executable
  inputPaths := [config.trustStore, config.leaf] ++ config.untrustedChain.toList
    ++ config.crl.toList
  leaf := config.leaf
  intermediate := config.untrustedChain
  trustStore := config.trustStore
  timeArgument := do
    let time ← parseTime sys config.validationTime
    return time.timestamp.toInt.repr
  versionArguments := .ok [.utf8 "version"]
  arguments := fun time => .ok
    (["verify", "-attime", time, "-CAfile", config.trustStore].map .utf8
      ++ (config.untrustedChain.toList.flatMap fun path => [.utf8 "-untrusted", .utf8 path])
      ++ (config.crl.toList.flatMap fun path =>
        [.utf8 "-crl_check", .utf8 "-CRLfile", .utf8 path])
      ++ [.utf8 config.leaf])
  version := trimmedOutput
  classify := classifyOpenSsl
  adapter := "openssl"
  versionTrack := .userSupplied
  validationProfile := .x509Path
  executionIsolation := .processOnly
  appliedValidationTime := config.validationTime
  validationTime := .observed .pass

def verifyOpenSsl (config : OpenSslConfig) : Except StackError AdapterExecution :=
  runStack sys (.openSsl config) (openSslLocalRun sys config)

def openSslTlsMounts (config : OpenSslTlsConfig) : List (String × String) :=
  [(config.trustStore, "/input/root.pem"), (config.intermediate, "/input/intermediate.pem"),
    (config.leaf, "/input/leaf.pem"), (config.privateKey, "/input/key.pem")]

def openSslTlsRun (config : OpenSslTlsConfig) (validationTime : DateTime) : StackRun where
  program := config.docker
  inputPaths := [config.trustStore, config.intermediate, config.leaf, config.privateKey]
  leaf := config.leaf
  intermediate := some config.intermediate
  trustStore := config.trustStore
  timeArgument := .ok validationTime.timestamp.toInt.repr
  versionArguments := isolated sys config.image [] [.utf8 "--version"]
  arguments := fun time => isolated sys config.image (openSslTlsMounts config)
    (["--tls-server-client", "/input/root.pem", "/input/intermediate.pem", "/input/leaf.pem",
      "/input/key.pem", config.hostname, time].map .utf8)
  version := trimmedOutput
  classify := classifyOpenSsl
  adapter := "openssl-current-tls"
  versionTrack := .current
  validationProfile := .webPkiServer
  executionIsolation := .container
  appliedValidationTime := config.validationTime
  validationTime := .observed .pass

/-- `openssl::verify_tls`: the name and the time are looked at before the program. -/
def verifyTls (config : OpenSslTlsConfig) : Except StackError AdapterExecution := do
  failIf (config.hostname = "") .emptyHostname
  let validationTime ← parseTime sys config.validationTime
  runStack sys (.openSslTls config) (openSslTlsRun sys config validationTime)

/-- The temporary file with the trust store and the untrusted certificates. -/
def authorities (config : GnuTlsConfig) : Except StackError OsString := do
  let file ← mapErr .io sys.newTempFile
  let trustStore ← mapErr .input (readBoundedFile sys.toLibrary config.trustStore MAX_INPUT_BYTES)
  let _ ← mapErr .io (sys.writeAll file trustStore)
  let _ ← config.untrustedChain.toList.forM fun path => do
    let _ ← mapErr .io (sys.writeAll file (bytes "\n"))
    let chain ← mapErr .input (readBoundedFile sys.toLibrary path MAX_INPUT_BYTES)
    mapErr .io (sys.writeAll file chain)
  let _ ← mapErr .io (sys.flush file)
  return file

def gnuTlsLocalRun (config : GnuTlsConfig) : StackRun where
  program := config.executable
  inputPaths := [config.trustStore, config.leaf] ++ config.untrustedChain.toList
  leaf := config.leaf
  intermediate := config.untrustedChain
  trustStore := config.trustStore
  timeArgument := .ok ""
  versionArguments := .ok [.utf8 "--version"]
  arguments := fun _ => do
    let file ← authorities sys config
    return [.utf8 "--verify", .utf8 "--load-ca-certificate", file, .utf8 "--infile",
      .utf8 config.leaf]
  version := firstLine
  classify := classifyGnuTls
  adapter := "gnutls"
  versionTrack := .userSupplied
  validationProfile := .x509Path
  executionIsolation := .processOnly
  -- `certtool` takes no time: none is recorded, and the check says so.
  appliedValidationTime := ""
  validationTime := ⟨.notChecked, .observed⟩

/-- `gnutls::verify`. -/
def verifyGnuTls (config : GnuTlsConfig) : Except StackError AdapterExecution :=
  runStack sys (.gnuTls config) (gnuTlsLocalRun sys config)

/-- The options of the Go and Python programs. -/
def serverOptions (root intermediate leaf dnsName validationTime : String) : List OsString :=
  ["--root", root, "--intermediate", intermediate, "--leaf", leaf, "--dns", dnsName,
    "--time", validationTime].map .utf8

def certificateMounts (trustStore intermediate leaf : String) : List (String × String) :=
  [(trustStore, "/input/root.pem"), (intermediate, "/input/intermediate.pem"),
    (leaf, "/input/leaf.pem")]

def goRun (config : GoX509Config) : StackRun where
  program := config.executable
  inputPaths := [config.trustStore, config.intermediate, config.leaf]
  leaf := config.leaf
  intermediate := some config.intermediate
  trustStore := config.trustStore
  timeArgument := .ok config.validationTime
  versionArguments := .ok [.utf8 "--version"]
  arguments := fun time => .ok
    (serverOptions config.trustStore config.intermediate config.leaf config.dnsName time)
  version := trimmedOutput
  classify := classifyJsonVerdict sys.toSystem
  adapter := "go-crypto-x509"
  versionTrack := .userSupplied
  validationProfile := .webPkiServer
  executionIsolation := .processOnly
  appliedValidationTime := config.validationTime
  validationTime := .observed .pass

/-- `go_x509::verify`. -/
def verifyGo (config : GoX509Config) : Except StackError AdapterExecution :=
  runStack sys (.go config) (goRun sys config)

def goContainerRun (config : GoX509ContainerConfig) : StackRun where
  program := config.docker
  inputPaths := [config.trustStore, config.intermediate, config.leaf]
  leaf := config.leaf
  intermediate := some config.intermediate
  trustStore := config.trustStore
  timeArgument := .ok config.validationTime
  versionArguments := isolated sys config.image [] [.utf8 "--version"]
  arguments := fun time => isolated sys config.image
    (certificateMounts config.trustStore config.intermediate config.leaf)
    (serverOptions "/input/root.pem" "/input/intermediate.pem" "/input/leaf.pem" config.dnsName time)
  version := trimmedOutput
  classify := classifyJsonVerdict sys.toSystem
  adapter := match config.release with
    | .study1264 => "go-crypto-x509-study"
    | .current1266 => "go-crypto-x509-current"
  versionTrack := match config.release with
    | .study1264 => .study
    | .current1266 => .current
  validationProfile := .webPkiServer
  executionIsolation := .container
  appliedValidationTime := config.validationTime
  validationTime := .observed .pass

/-- `go_x509::verify_container`. -/
def verifyGoContainer (config : GoX509ContainerConfig) : Except StackError AdapterExecution :=
  runStack sys (.goContainer config) (goContainerRun sys config)

def extensionOption (oid : Option String) : List OsString :=
  oid.toList.flatMap fun oid => [.utf8 "--hybrid-extension-oid", .utf8 oid]

def pycaRun (config : PycaConfig) : StackRun where
  program := config.python
  inputPaths := [config.script, config.trustStore, config.intermediate, config.leaf]
  leaf := config.leaf
  intermediate := some config.intermediate
  trustStore := config.trustStore
  timeArgument := .ok config.validationTime
  versionArguments := .ok [.utf8 config.script, .utf8 "--version"]
  arguments := fun time => .ok ([.utf8 config.script]
    ++ serverOptions config.trustStore config.intermediate config.leaf config.dnsName time
    ++ extensionOption config.hybridExtensionOid)
  version := trimmedOutput
  classify := classifyJsonVerdict sys.toSystem
  adapter := "pyca-cryptography"
  versionTrack := .userSupplied
  validationProfile := .webPkiServer
  executionIsolation := .processOnly
  appliedValidationTime := config.validationTime
  validationTime := .observed .pass

/-- `pyca::verify`. -/
def verifyPyca (config : PycaConfig) : Except StackError AdapterExecution :=
  runStack sys (.pyca config) (pycaRun sys config)

def pycaContainerRun (config : PycaContainerConfig) : StackRun where
  program := config.docker
  inputPaths := [config.trustStore, config.intermediate, config.leaf]
  leaf := config.leaf
  intermediate := some config.intermediate
  trustStore := config.trustStore
  -- The time is read only to be refused: the program is given the text.
  timeArgument := do
    let _ ← parseTime sys config.validationTime
    return config.validationTime
  versionArguments := isolated sys config.image [] [.utf8 "--version"]
  arguments := fun time => isolated sys config.image
    (certificateMounts config.trustStore config.intermediate config.leaf)
    (serverOptions "/input/root.pem" "/input/intermediate.pem" "/input/leaf.pem" config.dnsName time
      ++ extensionOption config.hybridExtensionOid)
  version := trimmedOutput
  classify := classifyJsonVerdict sys.toSystem
  adapter := match config.release with
    | .study49 => "pyca-cryptography-study"
    | .current50 => "pyca-cryptography-current"
  versionTrack := match config.release with
    | .study49 => .study
    | .current50 => .current
  validationProfile := .webPkiServer
  executionIsolation := .container
  appliedValidationTime := config.validationTime
  validationTime := .observed .pass

/-- `pyca::verify_container`. -/
def verifyPycaContainer (config : PycaContainerConfig) : Except StackError AdapterExecution :=
  runStack sys (.pycaContainer config) (pycaContainerRun sys config)

/-! ## The container family under its public names -/

/-- A call of the container family. -/
def verifyContainerCall (call : ContainerCall) : Except ContainerError AdapterExecution :=
  call.verify (sys.toSystem.comap .container) sys.chrono

/-- `openssl::verify_container`. -/
def verifyOpenSslContainer (config : OpenSslContainerConfig) :
    Except ContainerError AdapterExecution :=
  verifyContainerCall sys (.openSsl config "openssl-current" .current [])

/-- `openssl::verify_study`. -/
def verifyOpenSslStudy (config : OpenSslContainerConfig) :
    Except ContainerError AdapterExecution :=
  verifyContainerCall sys (.openSsl config "openssl-study" .study [.utf8 "--default-only"])

/-- `oqs_provider::verify`. -/
def verifyOqsProvider (config : OqsProviderConfig) : Except ContainerError AdapterExecution :=
  verifyContainerCall sys (.openSsl {
    docker := config.docker
    image := config.image
    trustStore := config.trustStore
    intermediate := config.intermediate
    leaf := config.leaf
    crl := none
    validationTime := config.validationTime
    timeout := config.timeout
    maxOutputBytes := config.maxOutputBytes } "oqs-provider" .currentAndStudy [])

/-- `gnutls::verify_container`. -/
def verifyGnuTlsContainer (config : GnuTlsContainerConfig) :
    Except ContainerError AdapterExecution :=
  verifyContainerCall sys (.gnuTls config "gnutls-current" .current)

/-- `gnutls::verify_study`. -/
def verifyGnuTlsStudy (config : GnuTlsContainerConfig) : Except ContainerError AdapterExecution :=
  verifyContainerCall sys (.gnuTls config "gnutls-study" .study)

/-- `bouncy_castle::verify`. -/
def verifyBouncyCastle (config : BouncyCastleConfig) : Except BouncyCastleError AdapterExecution :=
  verify (sys.toSystem.comap .bouncyCastle) config

/-- The errors of a call, by the enumeration they belong to. -/
inductive AdapterError where
  | container (error : ContainerError)
  | bouncyCastle (error : BouncyCastleError)
  | stack (error : StackError)
  deriving Repr, DecidableEq

def StackCall.verify : StackCall → Except AdapterError AdapterExecution
  | .container call => mapErr .container (verifyContainerCall sys call)
  | .bouncyCastle config => mapErr .bouncyCastle (verifyBouncyCastle sys config)
  | .openSsl config => mapErr .stack (verifyOpenSsl sys config)
  | .openSslTls config => mapErr .stack (verifyTls sys config)
  | .gnuTls config => mapErr .stack (verifyGnuTls sys config)
  | .go config => mapErr .stack (verifyGo sys config)
  | .goContainer config => mapErr .stack (verifyGoContainer sys config)
  | .pyca config => mapErr .stack (verifyPyca sys config)
  | .pycaContainer config => mapErr .stack (verifyPycaContainer sys config)

end Verify

end HybridX509.Adapters.Stacks
