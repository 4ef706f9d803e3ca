import HybridX509.Lib.Text
import HybridX509.Model
import HybridX509.Revocation.Ocsp
import HybridX509.X509.Pem

/-! # Adapter executions

`adapters/mod.rs` and the record half of `process.rs`: what a run of a validation
stack leaves behind, how its output becomes a verdict and a check, and the report of
it. Running a program is outside the model: a `System` gives, for every call of an
adapter, what its two processes returned.
-/

namespace HybridX509.Adapters

open Lib X509 Revocation.Ocsp

/-- A string of the operating system, which need not be text. -/
inductive OsString where
  | utf8 (text : String)
  | other (bytes : List UInt8)
  deriving Repr, DecidableEq

def OsString.toStr : OsString → Option String
  | .utf8 text => some text
  | .other _ => none

/-! ## Processes -/

structure CapturedStream where
  bytes : List UInt8
  truncated : Bool
  deriving Repr, DecidableEq

structure ProcessOutput where
  statusCode : Option Int32
  timedOut : Bool
  elapsed : Duration
  stdout : CapturedStream
  stderr : CapturedStream
  deriving Repr, DecidableEq

structure EncodedStream where
  encoding : String
  data : String
  sha256 : String
  capturedBytes : Nat
  truncated : Bool
  deriving Repr, DecidableEq

structure ProcessRecord where
  statusCode : Option Int32
  timedOut : Bool
  elapsedMilliseconds : UInt64
  stdout : EncodedStream
  stderr : EncodedStream
  deriving Repr, DecidableEq

structure SourceTraceEvent where
  operation : String
  target : String
  algorithm : Option String
  outcome : String
  deriving Repr, DecidableEq

structure ObservedExtension where
  oid : String
  critical : Bool
  deriving Repr, DecidableEq

inductive InstrumentationScope where
  | adapter
  | librarySource
  deriving Repr, DecidableEq

structure SourceInstrumentation where
  confidence : Confidence
  instrumentationScope : InstrumentationScope
  events : List SourceTraceEvent
  extensions : List ObservedExtension
  deriving Repr, DecidableEq

inductive AdapterSupportError where
  | executableNotFound (path : String)
  | nonUtf8Command
  | input (error : BoundedInputError)
  | pem (error : PemError)
  | io (source : String)
  deriving Repr, DecidableEq

/-- The libraries with the surroundings of the adapters. The version command and the
    verification of a call are given by what running them returned. -/
structure System (Call : Type) extends Library where
  resolveExecutable : String → Except AdapterSupportError OsString
  canonicalize : String → Except String OsString
  cachedVersionOutput : Call → Except String ProcessOutput
  runProgram : Call → Except String ProcessOutput
  base64Encode : List UInt8 → String
  /-- `from_slice::<JsonVerdict>`. -/
  verdictFromSlice : List UInt8 → Option String
  /-- `from_slice::<PathBuilderOutput>`. -/
  selectedPathFromSlice : List UInt8 → Except String (List String)
  /-- `from_slice::<InstrumentedOutput>`. -/
  instrumentedFromSlice : List UInt8 → Option (List SourceTraceEvent × List ObservedExtension)

section Reports

variable {Call : Type} (sys : System Call)

/-- `elapsed.as_millis().try_into().unwrap_or(u64::MAX)`. -/
def elapsedMilliseconds (elapsed : Duration) : UInt64 :=
  let millis := elapsed.asSecs.toNat * 1000 + elapsed.subsecNanos.toNat / 1000000
  .ofNat (min millis (2 ^ 64 - 1))

def encodeStream (stream : CapturedStream) : EncodedStream where
  encoding := "base64"
  data := sys.base64Encode stream.bytes
  sha256 := hexLower (sys.sha256 stream.bytes)
  capturedBytes := stream.bytes.length
  truncated := stream.truncated

/-- `ProcessRecord::from`. -/
def ProcessRecord.from (output : ProcessOutput) : ProcessRecord where
  statusCode := output.statusCode
  timedOut := output.timedOut
  elapsedMilliseconds := Adapters.elapsedMilliseconds output.elapsed
  stdout := encodeStream sys output.stdout
  stderr := encodeStream sys output.stderr

/-- A run that was stopped, lost output or failed says nothing. -/
def ProcessOutput.inconclusive (output : ProcessOutput) : Bool :=
  output.timedOut || output.stdout.truncated || output.stderr.truncated
    || output.statusCode != some 0

def adapterTrace (output : ProcessOutput) : Option SourceInstrumentation :=
  if output.inconclusive then none
  else (sys.instrumentedFromSlice output.stdout.bytes).map fun (trace, extensions) =>
    ⟨.observed, .adapter, trace, extensions⟩

def classifyJsonVerdict (output : ProcessOutput) : StackVerdict :=
  if output.inconclusive then .indeterminate
  else
    match sys.verdictFromSlice output.stdout.bytes with
    | some "accept" => .accept
    | some "reject" => .reject
    | some "unsupported" => .unsupported
    | _ => .indeterminate

structure InputArtifact where
  path : String
  bytes : Nat
  sha256 : String
  deriving Repr, DecidableEq

structure AdapterReport where
  apiVersion : String
  observation : StackObservation
  inputs : List InputArtifact
  executable : String
  arguments : List String
  version : ProcessRecord
  verification : ProcessRecord
  adapterTrace : Option SourceInstrumentation
  deriving Repr, DecidableEq

structure AdapterExecution where
  observation : StackObservation
  inputs : List InputArtifact
  executable : OsString
  arguments : List OsString
  versionOutput : ProcessOutput
  verificationOutput : ProcessOutput
  deriving Repr, DecidableEq

def AdapterExecution.report (execution : AdapterExecution) :
    Except AdapterSupportError AdapterReport := do
  let executable ← orFail execution.executable.toStr .nonUtf8Command
  let arguments ← execution.arguments.mapM fun argument =>
    orFail argument.toStr AdapterSupportError.nonUtf8Command
  return {
    apiVersion := API_VERSION
    observation := execution.observation
    inputs := execution.inputs
    executable := executable
    arguments := arguments
    version := .from sys execution.versionOutput
    verification := .from sys execution.verificationOutput
    adapterTrace := Adapters.adapterTrace sys execution.verificationOutput }

end Reports

def checkFromVerdict : StackVerdict → CheckResult
  | .accept => .observed .pass
  | .reject => .observed .fail
  | .indeterminate | .unsupported => ⟨.indeterminate, .observed⟩

/-! ## Inputs -/

section Inputs

variable (lib : Library)

def MAX_INPUT_BYTES : Nat := 16 * 1024 * 1024

def recordInputs (paths : List String) : Except AdapterSupportError (List InputArtifact) :=
  paths.mapM fun path => do
    let bytes ← mapErr .input (readBoundedFile lib path MAX_INPUT_BYTES)
    return ⟨path, bytes.length, hexLower (lib.sha256 bytes)⟩

def certificateSha256 (path : String) : Except AdapterSupportError String := do
  let bytes ← mapErr .pem (readDer lib path .certificate MAX_INPUT_BYTES)
  return hexLower (lib.sha256 bytes)

def selectedPathHashes (leaf : String) (intermediate : Option String) (trustAnchor : String) :
    Except AdapterSupportError (List String × TrustAnchor) := do
  let leaf ← certificateSha256 lib leaf
  let intermediate ← intermediate.toList.mapM (certificateSha256 lib)
  let trustAnchor ← certificateSha256 lib trustAnchor
  return (leaf :: intermediate, .certificateDerSha256 trustAnchor)

end Inputs

end HybridX509.Adapters
