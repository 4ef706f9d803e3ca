import HybridX509.Adapters.Container
import HybridX509.Lib.Calendar

/-! # The time given to a container

The container adapters of `adapters/openssl.rs`, `gnutls.rs`, `wolfssl.rs` and
`nss.rs`. They run the same steps and differ in their commands, in the reading of the
output, and in the format of the time: every run records the requested time as applied,
whatever the format can hold.
-/

namespace HybridX509.Adapters.ValidationTime

open Lib X509 Revocation.Ocsp

/-! ## `chrono` -/

/-- `DateTime<Utc>`. A leap second has the timestamp of the second before it, and
    nanoseconds from `10 ^ 9` on. -/
structure DateTime where
  timestamp : Int64
  nanosecond : Nat
  bounded : nanosecond < 2 * 10 ^ 9
  deriving Repr, DecidableEq

namespace DateTime

/-- The whole seconds of the instant. -/
def wholeSeconds (time : DateTime) : Int := time.timestamp.toInt + time.nanosecond / 10 ^ 9

/-- The date and time of day in UTC. -/
def civil (time : DateTime) : Calendar.Civil := Calendar.fromSeconds time.timestamp.toInt

/-- The fields that are printed: a leap second is `:60`. -/
def shown (time : DateTime) : Calendar.Civil :=
  { time.civil with second := time.civil.second + time.nanosecond / 10 ^ 9 }

end DateTime

/-- What the adapters call: the parser, and two formats of an instant. -/
structure Chrono where
  parseFromRfc3339 : String → Option DateTime
  /-- `%Y-%m-%d %H:%M:%S`. -/
  formatIso : DateTime → String
  /-- `%y%m%d%H%MZ`. -/
  formatUtcTime : DateTime → String

/-- The formats print the fields of the instant in UTC. -/
structure Chrono.Formats (chrono : Chrono) : Prop where
  iso : ∀ time, chrono.formatIso time = Calendar.isoText time.shown
  utcTime : ∀ time, chrono.formatUtcTime time = Calendar.utcTimeText time.shown

/-! ## Reading of outputs -/

/-- `str::to_lowercase`, as far as ASCII text can be found in it: no other character has
    an ASCII character in its lowercase. -/
def toLowercase (text : List Char) : List Char :=
  text.flatMap fun c =>
    if c = '\u212A' then ['k'] else if c = '\u0130' then ['i', '\u0307'] else [c.toLower]

def contains (message : List Char) (marker : String) : Bool :=
  message.tails.any marker.toList.isPrefixOf

/-- The message of a run: both of its streams. -/
def message (output : ProcessOutput) : List Char :=
  fromUtf8Lossy output.stdout.bytes ++ fromUtf8Lossy output.stderr.bytes

/-- `openssl::classify`. -/
def classifyOpenSsl (output : ProcessOutput) : StackVerdict :=
  if output.timedOut || output.stdout.truncated || output.stderr.truncated then .indeterminate
  else if output.statusCode = some 0 then .accept
  else if ["unsupported", "unknown signature algorithm", "decode error",
      "unknown public key type"].any (contains (toLowercase (message output))) then .unsupported
  else if ["verification failed", "certificate signature failure", "certificate revoked",
      "certificate has expired", "unable to get", "self-signed certificate",
      "invalid ca certificate", "path length constraint exceeded", "permitted subtree violation",
      "excluded subtree violation", "unhandled critical extension"].any
        (contains (toLowercase (message output))) then .reject
  else .indeterminate

/-- `gnutls::classify`. -/
def classifyGnuTls (output : ProcessOutput) : StackVerdict :=
  if output.timedOut || output.stdout.truncated || output.stderr.truncated then .indeterminate
  else if output.statusCode = some 0 ∧ contains (message output)
      "Chain verification output: Verified. The certificate is trusted." then .accept
  else if contains (toLowercase (message output)) "unsupported"
      || ["2.16.840.1.101.3.4.3.17", "1.3.6.1.5.5.7.6.40"].any fun oid =>
        contains (message output) ("Signature algorithm: " ++ oid) then .unsupported
  else if ["not verified", "not trusted", "signature in the certificate is invalid",
      "certificate is revoked", "certificate has expired", "issuer is unknown",
      "error parsing"].any (contains (toLowercase (message output))) then .reject
  else .indeterminate

/-- `gnutls::first_line`. -/
def firstLine (output : ProcessOutput) : String :=
  .ofList (trim ((fromUtf8Lossy output.stdout.bytes).takeWhile (· ≠ '\n')))

def trimmedOutput (output : ProcessOutput) : String :=
  .ofList (trim (fromUtf8Lossy output.stdout.bytes))

/-! ## Configurations -/

structure OpenSslContainerConfig where
  docker : String
  image : String
  trustStore : String
  intermediate : String
  leaf : String
  crl : Option String
  validationTime : String
  timeout : Duration
  maxOutputBytes : Nat
  deriving Repr, DecidableEq

structure GnuTlsContainerConfig where
  docker : String
  image : String
  trustStore : String
  intermediate : String
  leaf : String
  validationTime : String
  timeout : Duration
  maxOutputBytes : Nat
  deriving Repr, DecidableEq

inductive WolfSslMode where
  | default
  | dualAlgorithm
  deriving Repr, DecidableEq

def WolfSslMode.argument : WolfSslMode → String
  | .default => "mode1"
  | .dualAlgorithm => "mode2"

structure WolfSslConfig where
  docker : String
  image : String
  mode : WolfSslMode
  scheme : String
  trustStore : String
  intermediate : Option String
  leaf : String
  validationTime : String
  timeout : Duration
  maxOutputBytes : Nat
  deriving Repr, DecidableEq

inductive NssRelease where
  | study98
  | current126
  deriving Repr, DecidableEq

structure NssConfig where
  docker : String
  image : String
  release : NssRelease
  trustStore : String
  intermediate : String
  leaf : String
  validationTime : String
  timeout : Duration
  maxOutputBytes : Nat
  deriving Repr, DecidableEq

/-- The four error enumerations, which share these cases. -/
inductive ContainerError where
  | invalidValidationTime (text : String)
  | invalidTimePrecision
  | versionFailed
  | support (error : AdapterSupportError)
  | io (source : String)
  deriving Repr, DecidableEq

/-- A call of one of the adapters. -/
inductive ContainerCall where
  | openSsl (config : OpenSslContainerConfig) (adapter : String) (versionTrack : VersionTrack)
      (commandPrefix : List OsString)
  | gnuTls (config : GnuTlsContainerConfig) (adapter : String) (versionTrack : VersionTrack)
  | wolfSsl (config : WolfSslConfig)
  | nss (config : NssConfig)
  deriving Repr, DecidableEq

/-! ## The steps of a call -/

/-- What the calls differ in. -/
structure ContainerRun where
  docker : String
  image : String
  inputPaths : List String
  leaf : String
  intermediate : Option String
  trustStore : String
  validationTime : String
  timeArgument : DateTime → Except ContainerError String
  mounts : List (String × String)
  versionCommand : List OsString
  command : String → List OsString
  version : ProcessOutput → String
  classify : ProcessOutput → StackVerdict
  adapter : String
  versionTrack : VersionTrack
  validationProfile : ValidationProfile

section Verify

variable (sys : System ContainerCall) (chrono : Chrono)

def verifyContainer (call : ContainerCall) (run : ContainerRun) :
    Except ContainerError AdapterExecution := do
  let executable ← mapErr .support (sys.resolveExecutable run.docker)
  let inputs ← mapErr .support (recordInputs sys.toLibrary run.inputPaths)
  let (path, trustAnchor) ← mapErr .support
    (selectedPathHashes sys.toLibrary run.leaf run.intermediate run.trustStore)
  let validationTime ← orFail (chrono.parseFromRfc3339 run.validationTime)
    (.invalidValidationTime run.validationTime)
  let timeArgument ← run.timeArgument validationTime
  let _ ← mapErr .io (isolatedArguments sys.canonicalize run.image [] run.versionCommand)
  let versionOutput ← mapErr .io (sys.cachedVersionOutput call)
  failIf (versionOutput.timedOut = true ∨ versionOutput.statusCode ≠ some 0) .versionFailed
  let arguments ← mapErr .io
    (isolatedArguments sys.canonicalize run.image run.mounts (run.command timeArgument))
  let verificationOutput ← mapErr .io (sys.runProgram call)
  return {
    observation := {
      adapter := run.adapter
      version := run.version versionOutput
      verdict := run.classify verificationOutput
      versionTrack := run.versionTrack
      validationProfile := run.validationProfile
      executionIsolation := .container
      certificationPathDerSha256 := path
      selectedPathSource := .presentedInput
      trustAnchor := trustAnchor
      appliedValidationTime := run.validationTime
      validationTime := .observed .pass }
    inputs := inputs
    executable := executable
    arguments := arguments
    versionOutput := versionOutput
    verificationOutput := verificationOutput }

def openSslRun (config : OpenSslContainerConfig) (adapter : String) (versionTrack : VersionTrack)
    (commandPrefix : List OsString) : ContainerRun where
  docker := config.docker
  image := config.image
  inputPaths := [config.trustStore, config.intermediate, config.leaf] ++ config.crl.toList
  leaf := config.leaf
  intermediate := some config.intermediate
  trustStore := config.trustStore
  validationTime := config.validationTime
  timeArgument := fun time => .ok time.timestamp.toInt.repr
  mounts := [(config.trustStore, "/input/root.pem"),
      (config.intermediate, "/input/intermediate.pem"), (config.leaf, "/input/leaf.pem")]
    ++ (config.crl.map (·, "/input/crl.pem")).toList
  versionCommand := commandPrefix ++ [.utf8 "--version"]
  command := fun time => commandPrefix
    ++ ["-attime", time, "-CAfile", "/input/root.pem", "-untrusted",
      "/input/intermediate.pem"].map .utf8
    ++ (if config.crl.isSome then
      ["-crl_check", "-CRLfile", "/input/crl.pem"].map OsString.utf8 else [])
    ++ [.utf8 "/input/leaf.pem"]
  version := trimmedOutput
  classify := classifyOpenSsl
  adapter := adapter
  versionTrack := versionTrack
  validationProfile := .x509Path

def gnuTlsRun (config : GnuTlsContainerConfig) (adapter : String) (versionTrack : VersionTrack) :
    ContainerRun where
  docker := config.docker
  image := config.image
  inputPaths := [config.trustStore, config.intermediate, config.leaf]
  leaf := config.leaf
  intermediate := some config.intermediate
  trustStore := config.trustStore
  validationTime := config.validationTime
  timeArgument := fun time => .ok (chrono.formatIso time)
  mounts := [(config.trustStore, "/input/root.pem"),
    (config.intermediate, "/input/intermediate.pem"), (config.leaf, "/input/leaf.pem")]
  versionCommand := [.utf8 "--version"]
  command := fun time => ["--root", "/input/root.pem", "--intermediate",
    "/input/intermediate.pem", "--leaf", "/input/leaf.pem", "--time", time].map .utf8
  version := firstLine
  classify := classifyGnuTls
  adapter := adapter
  versionTrack := versionTrack
  validationProfile := .x509Path

def wolfSslRun (config : WolfSslConfig) : ContainerRun where
  docker := config.docker
  image := config.image
  inputPaths := [config.trustStore, config.leaf] ++ config.intermediate.toList
  leaf := config.leaf
  intermediate := config.intermediate
  trustStore := config.trustStore
  validationTime := config.validationTime
  timeArgument := fun time => .ok (chrono.formatIso time)
  mounts := [(config.trustStore, "/input/root.pem"), (config.leaf, "/input/leaf.pem")]
    ++ (config.intermediate.map (·, "/input/intermediate.pem")).toList
  versionCommand := [.utf8 config.mode.argument, .utf8 "--version"]
  command := fun time =>
    [config.mode.argument, time, "--scheme", config.scheme, "--root", "/input/root.pem"].map .utf8
    ++ (if config.intermediate.isSome then
      ["--ca", "/input/intermediate.pem"].map OsString.utf8 else [])
    ++ ["--leaf", "/input/leaf.pem"].map .utf8
  version := trimmedOutput
  classify := classifyJsonVerdict sys
  adapter := "wolfssl-" ++ config.mode.argument
  versionTrack := .currentAndStudy
  validationProfile := .x509Path

def nssRun (config : NssConfig) : ContainerRun where
  docker := config.docker
  image := config.image
  inputPaths := [config.trustStore, config.intermediate, config.leaf]
  leaf := config.leaf
  intermediate := some config.intermediate
  trustStore := config.trustStore
  validationTime := config.validationTime
  timeArgument := fun time => do
    failIf (time.civil.second ≠ 0 ∨ time.nanosecond ≠ 0) .invalidTimePrecision
    return chrono.formatUtcTime time
  mounts := [(config.trustStore, "/input/root.pem"),
    (config.intermediate, "/input/intermediate.pem"), (config.leaf, "/input/leaf.pem")]
  versionCommand := [.utf8 "--version"]
  command := fun time => ["--root", "/input/root.pem", "--intermediate",
    "/input/intermediate.pem", "--leaf", "/input/leaf.pem", "--time", time].map .utf8
  version := trimmedOutput
  classify := classifyJsonVerdict sys
  adapter := match config.release with
    | .study98 => "mozilla-nss-study"
    | .current126 => "mozilla-nss-current"
  versionTrack := match config.release with
    | .study98 => .study
    | .current126 => .current
  validationProfile := .webPkiServer

/-- `openssl::verify_container_with_prefix`. -/
def verifyContainerWithPrefix (config : OpenSslContainerConfig) (adapter : String)
    (versionTrack : VersionTrack) (commandPrefix : List OsString) :
    Except ContainerError AdapterExecution :=
  verifyContainer sys chrono (.openSsl config adapter versionTrack commandPrefix)
    (openSslRun config adapter versionTrack commandPrefix)

/-- `gnutls::verify_container_as`. -/
def verifyContainerAs (config : GnuTlsContainerConfig) (adapter : String)
    (versionTrack : VersionTrack) : Except ContainerError AdapterExecution :=
  verifyContainer sys chrono (.gnuTls config adapter versionTrack)
    (gnuTlsRun chrono config adapter versionTrack)

/-- `wolfssl::verify`. -/
def verifyWolfSsl (config : WolfSslConfig) : Except ContainerError AdapterExecution :=
  verifyContainer sys chrono (.wolfSsl config) (wolfSslRun sys chrono config)

/-- `nss::verify`. -/
def verifyNss (config : NssConfig) : Except ContainerError AdapterExecution :=
  verifyContainer sys chrono (.nss config) (nssRun sys chrono config)

def ContainerCall.verify : ContainerCall → Except ContainerError AdapterExecution
  | .openSsl config adapter versionTrack commandPrefix =>
      verifyContainerWithPrefix sys chrono config adapter versionTrack commandPrefix
  | .gnuTls config adapter versionTrack =>
      verifyContainerAs sys chrono config adapter versionTrack
  | .wolfSsl config => verifyWolfSsl sys chrono config
  | .nss config => verifyNss sys chrono config

def ContainerCall.run : ContainerCall → ContainerRun
  | .openSsl config adapter versionTrack commandPrefix =>
      openSslRun config adapter versionTrack commandPrefix
  | .gnuTls config adapter versionTrack => gnuTlsRun chrono config adapter versionTrack
  | .wolfSsl config => wolfSslRun sys chrono config
  | .nss config => nssRun sys chrono config

end Verify

/-! ## What the argument denotes -/

/-- The formats of a time argument. -/
inductive TimeFormat where
  | unixSeconds
  | iso
  | utcTime
  deriving Repr, DecidableEq

/-- The seconds since 1970 that an argument denotes. -/
def TimeFormat.read : TimeFormat → String → Option Int
  | .unixSeconds => Calendar.readSeconds
  | .iso => Calendar.readIso
  | .utcTime => Calendar.readUtcTime

/-- The times a format can hold. -/
def TimeFormat.Holds (time : DateTime) : TimeFormat → Prop
  | .unixSeconds => time.nanosecond < 10 ^ 9
  | .iso => 0 ≤ time.civil.year ∧ time.civil.year ≤ 9999
  | .utcTime => 1950 ≤ time.civil.year ∧ time.civil.year ≤ 2049

/-- The format a stack reads its time in. -/
def ContainerCall.timeFormat : ContainerCall → TimeFormat
  | .openSsl .. => .unixSeconds
  | .gnuTls .. | .wolfSsl .. => .iso
  | .nss .. => .utcTime

theorem read_timestamp (time : DateTime) :
    TimeFormat.unixSeconds.read time.timestamp.toInt.repr = some time.wholeSeconds ↔
      time.nanosecond < 10 ^ 9 := by
  simp only [TimeFormat.read, Calendar.readSeconds_repr, Option.some.injEq, DateTime.wholeSeconds]
  omega

theorem inRange_shown (time : DateTime) : time.shown.InRange := by
  obtain ⟨⟨month, day, hour, minute, -⟩, second⟩ :=
    Calendar.inRange_fromSeconds time.timestamp.toInt
  have leap : time.nanosecond / 10 ^ 9 ≤ 1 := by
    have bound := time.bounded
    omega
  exact ⟨month, day, hour, minute, Nat.add_le_add second leap⟩

theorem toSeconds_shown (time : DateTime) : time.shown.toSeconds = time.wholeSeconds := by
  have back := Calendar.toSeconds_fromSeconds time.timestamp.toInt
  simp only [Calendar.Civil.toSeconds] at back
  simp only [Calendar.Civil.toSeconds, DateTime.shown, DateTime.civil, DateTime.wholeSeconds]
  omega

theorem read_isoText (time : DateTime) :
    TimeFormat.iso.read (Calendar.isoText time.shown) = some time.wholeSeconds ↔
      0 ≤ time.civil.year ∧ time.civil.year ≤ 9999 := by
  by_cases fourDigits : 0 ≤ time.civil.year ∧ time.civil.year ≤ 9999
  · refine iff_of_true ?_ fourDigits
    rw [← toSeconds_shown, TimeFormat.read]
    exact Calendar.readIso_isoText (inRange_shown time) fourDigits.1 fourDigits.2
  · refine iff_of_false ?_ fourDigits
    have outside : ¬ (0 ≤ time.shown.year ∧ time.shown.year ≤ 9999) := fourDigits
    rw [TimeFormat.read, Calendar.readIso_isoText_none outside]
    exact Option.some_ne_none _ |>.symm

theorem read_utcTimeText {time : DateTime} (second : time.civil.second = 0)
    (nanosecond : time.nanosecond = 0) :
    TimeFormat.utcTime.read (Calendar.utcTimeText time.shown) = some time.wholeSeconds ↔
      1950 ≤ time.civil.year ∧ time.civil.year ≤ 2049 := by
  have onMinute : time.shown.second = 0 := by
    simp only [DateTime.shown, second, nanosecond, Nat.zero_div]
  rw [← Calendar.pivotYear_mod_eq_iff, ← toSeconds_shown, TimeFormat.read,
    Calendar.readUtcTime_utcTimeText (inRange_shown time), ← onMinute, Option.some.injEq,
    Calendar.toSeconds_year_eq_iff]
  rfl

/-- The argument of a call that goes ahead denotes the requested second exactly when its
    format can hold it. -/
theorem read_timeArgument {sys : System ContainerCall} {chrono : Chrono} (formats : chrono.Formats)
    {call : ContainerCall} {time : DateTime} {argument : String}
    (given : (call.run sys chrono).timeArgument time = .ok argument) :
    call.timeFormat.read argument = some time.wholeSeconds ↔ call.timeFormat.Holds time := by
  cases call with
  | openSsl config adapter versionTrack commandPrefix =>
      obtain rfl := Except.ok.inj given
      exact read_timestamp time
  | gnuTls config adapter versionTrack =>
      obtain rfl := Except.ok.inj given
      rw [formats.iso]
      exact read_isoText time
  | wolfSsl config =>
      obtain rfl := Except.ok.inj given
      rw [formats.iso]
      exact read_isoText time
  | nss config =>
      simp only [ContainerCall.run, nssRun, bind_ok_iff, exists_unit_iff, failIf_ok_iff,
        pure_ok_iff, not_or, not_not] at given
      obtain ⟨⟨second, nanosecond⟩, rfl⟩ := given
      rw [formats.utcTime]
      exact read_utcTimeText second nanosecond

/-! ## Runs -/

section Runs

variable {sys : System ContainerCall} {chrono : Chrono} {call : ContainerCall} {run : ContainerRun}
  {execution : AdapterExecution}

theorem verify_eq (call : ContainerCall) :
    call.verify sys chrono = verifyContainer sys chrono call (call.run sys chrono) := by
  cases call <;> rfl

theorem isolatedArguments_command {image : String} {mounts : List (String × String)}
    {command arguments : List OsString}
    (isolated : isolatedArguments sys.canonicalize image mounts command = .ok arguments) :
    ∃ confinement, arguments = confinement ++ [.utf8 "--", .utf8 image] ++ command := by
  simp only [isolatedArguments, bind_ok_iff, exists_unit_iff, failIf_ok_iff, pure_ok_iff,
    Prod.exists] at isolated
  obtain ⟨-, confinement, _, -, same⟩ := isolated
  exact ⟨confinement, same.symm⟩

theorem verifyContainer_ok (returned : verifyContainer sys chrono call run = .ok execution) :
    ∃ requested argument confinement, chrono.parseFromRfc3339 run.validationTime = some requested ∧
      run.timeArgument requested = .ok argument ∧
      execution.arguments = confinement ++ [.utf8 "--", .utf8 run.image] ++ run.command argument ∧
      execution.observation.validationTime = .observed .pass ∧
      execution.observation.appliedValidationTime = run.validationTime := by
  simp only [verifyContainer, bind_ok_iff, mapErr_ok_iff, exists_unit_iff, orFail_ok_iff,
    pure_ok_iff, Prod.exists] at returned
  obtain ⟨_, _, _, _, _, _, _, requested, parsed, argument, given, _, _, _, _, _, _, isolated, _, _,
    rfl⟩ := returned
  obtain ⟨confinement, same⟩ := isolatedArguments_command isolated
  exact ⟨requested, argument, confinement, parsed, given, same, rfl, rfl⟩

/-- Every run records the requested time as applied. The time on its command line is that
    time exactly when the format of the stack can hold it: no leap second for OpenSSL, a
    year of four digits in UTC for GnuTLS and wolfSSL, and a year from 1950 to 2049 in UTC
    for NSS. -/
theorem validationTime_given_iff (formats : chrono.Formats)
    (returned : call.verify sys chrono = .ok execution) :
    ∃ requested argument confinement,
      chrono.parseFromRfc3339 (call.run sys chrono).validationTime = some requested ∧
      execution.arguments = confinement ++ [.utf8 "--", .utf8 (call.run sys chrono).image]
        ++ (call.run sys chrono).command argument ∧
      execution.observation.validationTime = .observed .pass ∧
      execution.observation.appliedValidationTime = (call.run sys chrono).validationTime ∧
      (call.timeFormat.read argument = some requested.wholeSeconds ↔
        call.timeFormat.Holds requested) := by
  rw [verify_eq] at returned
  obtain ⟨requested, argument, confinement, parsed, given, arguments, passed, applied⟩ :=
    verifyContainer_ok returned
  exact ⟨requested, argument, confinement, parsed, arguments, passed, applied,
    read_timeArgument formats given⟩

end Runs

namespace Fixture

def output (text : String) : ProcessOutput := ⟨some 0, false, ⟨1, 0⟩, ⟨bytes text, false⟩, ⟨[], false⟩⟩

def system : System ContainerCall where
  toLibrary := X509.Fixture.library X509.Fixture.leafCertificate X509.Fixture.crl
    X509.Fixture.tryLater X509.Fixture.emptyResponse
  resolveExecutable := fun name => .ok (.utf8 ("/usr/bin/" ++ name))
  canonicalize := fun path => .ok (.utf8 ("/" ++ path))
  cachedVersionOutput := fun _ => .ok (output "3.98")
  runProgram := fun _ => .ok (output "accept")
  base64Encode := hexLower
  verdictFromSlice := fun slice => if slice = bytes "accept" then some "accept" else none
  selectedPathFromSlice := fun _ => .error "no path"
  instrumentedFromSlice := fun _ => none

def chrono : Chrono where
  parseFromRfc3339 := fun text =>
    [("2026-06-20T02:00:00+02:00", ⟨1781913600, 0, by decide⟩),
      ("2051-01-01T00:00:00Z", ⟨2556144000, 0, by decide⟩)].lookup text
  formatIso := fun time => Calendar.isoText time.shown
  formatUtcTime := fun time => Calendar.utcTimeText time.shown

theorem formats : chrono.Formats := ⟨fun _ => rfl, fun _ => rfl⟩

def nssConfig (validationTime : String) : NssConfig where
  docker := "docker"
  image := "nss"
  release := .study98
  trustStore := "ca.pem"
  intermediate := "ca.pem"
  leaf := "leaf.pem"
  validationTime := validationTime
  timeout := ⟨5, 0⟩
  maxOutputBytes := 65536

end Fixture

/-- A time of 2026, with an offset. -/
theorem validationTime_given_iff_offset :
    ∃ execution requested argument confinement,
      ContainerCall.verify Fixture.system Fixture.chrono
        (.nss (Fixture.nssConfig "2026-06-20T02:00:00+02:00")) = .ok execution ∧
      Fixture.chrono.parseFromRfc3339 "2026-06-20T02:00:00+02:00" = some requested ∧
      execution.arguments = confinement ++ [.utf8 "--", .utf8 "nss"]
        ++ (nssRun Fixture.system Fixture.chrono (Fixture.nssConfig "2026-06-20T02:00:00+02:00")).command argument ∧
      Calendar.readUtcTime argument = some requested.wholeSeconds := by
  have returns : ∃ execution, ContainerCall.verify Fixture.system Fixture.chrono
      (.nss (Fixture.nssConfig "2026-06-20T02:00:00+02:00")) = .ok execution := by
    decide +kernel
  obtain ⟨execution, returned⟩ := returns
  obtain ⟨requested, argument, confinement, parsed, arguments, -, -, exact⟩ :=
    validationTime_given_iff Fixture.formats returned
  refine ⟨execution, requested, argument, confinement, returned, parsed, arguments, exact.mpr ?_⟩
  obtain rfl := Option.some.inj parsed
  exact (by decide +kernel : 1950 ≤ (Calendar.fromSeconds 1781913600).year ∧
    (Calendar.fromSeconds 1781913600).year ≤ 2049)

/-- NSS is given 1951 for a time of 2051, and the run records 2051 as applied. -/
theorem validationTime_nss_century :
    ∃ execution, ContainerCall.verify Fixture.system Fixture.chrono
        (.nss (Fixture.nssConfig "2051-01-01T00:00:00Z")) = .ok execution ∧
      execution.arguments.getLast? = some (.utf8 "5101010000Z") ∧
      execution.observation.validationTime = .observed .pass ∧
      execution.observation.appliedValidationTime = "2051-01-01T00:00:00Z" ∧
      (Fixture.chrono.parseFromRfc3339 "2051-01-01T00:00:00Z").map DateTime.wholeSeconds =
        some 2556144000 ∧
      Calendar.readUtcTime "5101010000Z" = some (-599616000) := by
  decide +kernel

end HybridX509.Adapters.ValidationTime
