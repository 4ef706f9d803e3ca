import HybridX509.Adapters.Container

/-! # The Bouncy Castle adapter

`adapters/bouncy_castle.rs`. The path in the observation is the one the builder
reported, when it accepted, and the presented files otherwise; everything later
results need about an execution is in `Observes`.
-/

namespace HybridX509.Adapters.BouncyCastle

open Lib X509 Revocation.Ocsp

inductive BouncyCastleMode where
  | path
  | pathBuilder
  | alternativeSignature
  | deltaSignature
  | tlsTranscript
  | crlStatus
  | certificateSignature
  deriving Repr, DecidableEq

namespace BouncyCastleMode

/-- The word after `--mode`. -/
def argument : BouncyCastleMode → String
  | .path => "path"
  | .pathBuilder => "path-builder"
  | .alternativeSignature => "alternative-signature"
  | .deltaSignature => "delta-signature"
  | .tlsTranscript => "tls-transcript"
  | .crlStatus => "crl-status"
  | .certificateSignature => "certificate-signature"

def validationProfile : BouncyCastleMode → ValidationProfile
  | .path | .pathBuilder => .x509Path
  | .alternativeSignature | .deltaSignature => .evidenceSignature
  | .tlsTranscript => .webPkiServer
  | .crlStatus => .x509Path
  | .certificateSignature => .evidenceSignature

def validationTime : BouncyCastleMode → CheckState
  | .path | .pathBuilder => .pass
  | .alternativeSignature | .deltaSignature => .notApplicable
  | .tlsTranscript => .pass
  | .crlStatus => .pass
  | .certificateSignature => .notApplicable

end BouncyCastleMode

structure BouncyCastleConfig where
  docker : String
  image : String
  trustStore : String
  intermediate : String
  leaf : String
  validationTime : String
  timeout : Duration
  maxOutputBytes : Nat
  mode : BouncyCastleMode
  privateKey : Option String
  crl : Option String
  deriving Repr, DecidableEq

inductive BouncyCastleError where
  | versionFailed (output : ProcessRecord)
  | missingPrivateKey
  | missingCrl
  | support (error : AdapterSupportError)
  | io (source : String)
  deriving Repr, DecidableEq

variable (sys : System BouncyCastleConfig)

def adapterArguments (config : BouncyCastleConfig) : List OsString :=
  ["--root", "/input/root.pem", "--intermediate", "/input/intermediate.pem",
    "--leaf", "/input/leaf.pem", "--time", config.validationTime,
    "--mode", config.mode.argument].map .utf8
    ++ (if config.mode = .tlsTranscript then [.utf8 "--key", .utf8 "/input/key.pem"] else [])
    ++ (if config.mode = .crlStatus then [.utf8 "--crl", .utf8 "/input/crl.pem"] else [])

def containerArguments (config : BouncyCastleConfig) (adapterArguments : List OsString) :
    Except String (List OsString) :=
  isolatedArguments sys.canonicalize config.image
    ([(config.trustStore, "/input/root.pem"), (config.intermediate, "/input/intermediate.pem"),
      (config.leaf, "/input/leaf.pem")]
      ++ (config.privateKey.map (·, "/input/key.pem")).toList
      ++ (config.crl.map (·, "/input/crl.pem")).toList)
    adapterArguments

/-- The adapter name and the track of a version. -/
def adapterTrack (version : String) : String × VersionTrack :=
  if version = "1.84" then ("bouncycastle-java-study", .study)
  else if version = "1.85" then ("bouncycastle-java-current", .current)
  else ("bouncycastle-java", .userSupplied)

/-- The path, its source and the trust anchor of the observation. -/
def observedPath (config : BouncyCastleConfig) (verdict : StackVerdict)
    (verificationOutput : ProcessOutput) :
    Except BouncyCastleError (List String × PathObservationSource × TrustAnchor) :=
  if config.mode = .pathBuilder ∧ verdict = .accept then do
    let certificationPath ←
      mapErr .io (sys.selectedPathFromSlice verificationOutput.stdout.bytes)
    let trustAnchor ← orFail certificationPath.getLast?
      (.io "path-builder did not report a selected path")
    return (certificationPath.dropLast, .adapterSelected, .certificateDerSha256 trustAnchor)
  else if config.mode = .pathBuilder then
    .ok ([], .notReported, .localIdentifier "not-reported")
  else do
    let (path, anchor) ← mapErr .support
      (selectedPathHashes sys.toLibrary config.leaf (some config.intermediate) config.trustStore)
    return (path, .presentedInput, anchor)

def verify (config : BouncyCastleConfig) : Except BouncyCastleError AdapterExecution := do
  let executable ← mapErr .support (sys.resolveExecutable config.docker)
  failIf (config.privateKey = none ∧ config.mode = .tlsTranscript) .missingPrivateKey
  failIf (config.crl = none ∧ config.mode = .crlStatus) .missingCrl
  let inputs ← mapErr .support (recordInputs sys.toLibrary
    ([config.trustStore, config.intermediate, config.leaf] ++ config.privateKey.toList
      ++ config.crl.toList))
  let _ ← mapErr .io (isolatedArguments sys.canonicalize config.image [] [.utf8 "--version"])
  let versionOutput ← mapErr .io (sys.cachedVersionOutput config)
  failIf (versionOutput.timedOut = true ∨ versionOutput.statusCode ≠ some 0)
    (.versionFailed (.from sys versionOutput))
  let version := String.ofList (trim (fromUtf8Lossy versionOutput.stdout.bytes))
  let arguments ← mapErr .io (containerArguments sys config (adapterArguments config))
  let verificationOutput ← mapErr .io (sys.runProgram config)
  let verdict := classifyJsonVerdict sys verificationOutput
  let (path, source, trustAnchor) ← observedPath sys config verdict verificationOutput
  return {
    observation := {
      adapter := (adapterTrack version).1
      version := version
      verdict := verdict
      versionTrack := (adapterTrack version).2
      validationProfile := config.mode.validationProfile
      executionIsolation := .container
      certificationPathDerSha256 := path
      selectedPathSource := source
      trustAnchor := trustAnchor
      appliedValidationTime := config.validationTime
      validationTime := .observed config.mode.validationTime }
    inputs := inputs
    executable := executable
    arguments := arguments
    versionOutput := versionOutput
    verificationOutput := verificationOutput }

/-- A run that returned, and whose report can be written. -/
def RunReturns (ran : Except BouncyCastleError AdapterExecution) : Prop :=
  ∃ execution, ran = .ok execution ∧ ∃ report, execution.report sys = .ok report

instance (ran : Except BouncyCastleError AdapterExecution) : Decidable (RunReturns sys ran) :=
  inferInstanceAs (Decidable (∃ execution, ran = .ok execution ∧
    ∃ report, execution.report sys = .ok report))

variable {sys} in
theorem RunReturns.report {ran : Except BouncyCastleError AdapterExecution}
    (returns : RunReturns sys ran) {execution : AdapterExecution} (same : ran = .ok execution) :
    ∃ report, execution.report sys = .ok report := by
  obtain ⟨other, ran, report, reported⟩ := returns
  obtain rfl : other = execution := ok_unique ran same
  exact ⟨report, reported⟩

/-! ## What a run observes -/

/-- The facts about an execution that do not depend on how its path was found. -/
structure Observes (config : BouncyCastleConfig) (execution : AdapterExecution) : Prop where
  appliedTime : execution.observation.appliedValidationTime = config.validationTime
  path : observedPath sys config execution.observation.verdict execution.verificationOutput =
    .ok (execution.observation.certificationPathDerSha256,
      execution.observation.selectedPathSource, execution.observation.trustAnchor)

variable {sys} {config : BouncyCastleConfig} {execution : AdapterExecution}

theorem observes_of_verify (ran : verify sys config = .ok execution) :
    Observes sys config execution := by
  simp only [verify, bind_ok_iff, mapErr_ok_iff, exists_unit_iff, pure_ok_iff, Prod.exists] at ran
  obtain ⟨_, _, _, _, inputs, _, _, _, versionOutput, _, _, arguments, _, output, _, path, source,
    anchor, observed, rfl⟩ := ran
  exact ⟨rfl, observed⟩

/-- What a run says about the time it applied depends on its mode alone. -/
theorem validationTime_of_verify (ran : verify sys config = .ok execution) :
    execution.observation.validationTime = .observed config.mode.validationTime := by
  simp only [verify, bind_ok_iff, mapErr_ok_iff, exists_unit_iff, pure_ok_iff, Prod.exists] at ran
  obtain ⟨_, _, _, _, inputs, _, _, _, versionOutput, _, _, arguments, _, output, _, path, source,
    anchor, observed, rfl⟩ := ran
  rfl

/-- A builder that accepts is recorded with the path it reported. -/
theorem Observes.reported (observes : Observes sys config execution)
    (mode : config.mode = .pathBuilder) (accepted : execution.observation.verdict = .accept)
    {path : List String} {root : String}
    (output : sys.selectedPathFromSlice execution.verificationOutput.stdout.bytes =
      .ok (path ++ [root])) :
    execution.observation.certificationPathDerSha256 = path ∧
      execution.observation.trustAnchor = .certificateDerSha256 root := by
  have observed := observes.path
  simp only [observedPath, mode, accepted, and_self, if_true, output, mapErr, bind_ok_iff,
    Except.ok.injEq, orFail_ok_iff, pure_ok_iff, Prod.mk.injEq] at observed
  obtain ⟨_, rfl, anchor, last, rest, -, same⟩ := observed
  simp only [List.getLast?_append, List.getLast?_singleton, Option.some_or,
    Option.some.injEq] at last
  exact ⟨by simpa using rest.symm, by rw [← same, ← last]⟩

/-- Any other run is recorded with the files it was given. -/
theorem Observes.presented (observes : Observes sys config execution)
    (mode : config.mode ≠ .pathBuilder) :
    ∃ leaf intermediate root, certificateSha256 sys.toLibrary config.leaf = .ok leaf ∧
      certificateSha256 sys.toLibrary config.intermediate = .ok intermediate ∧
      certificateSha256 sys.toLibrary config.trustStore = .ok root ∧
      execution.observation.certificationPathDerSha256 = [leaf, intermediate] ∧
      execution.observation.selectedPathSource = .presentedInput ∧
      execution.observation.trustAnchor = .certificateDerSha256 root := by
  have observed := observes.path
  simp only [observedPath, mode, false_and, if_false, selectedPathHashes, Option.toList_some,
    List.mapM_cons, List.mapM_nil, bind_ok_iff, mapErr_ok_iff, pure_ok_iff, Prod.exists,
    Prod.mk.injEq] at observed
  obtain ⟨path, anchor, ⟨leaf, leafHash, _, ⟨intermediate, intermediateHash, _, rfl, rfl⟩, root,
    rootHash, rfl, rfl⟩, same, source, sameAnchor⟩ := observed
  exact ⟨leaf, intermediate, root, leafHash, intermediateHash, rootHash, same.symm, source.symm,
    sameAnchor.symm⟩

end HybridX509.Adapters.BouncyCastle
