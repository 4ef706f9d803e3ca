import HybridX509.Adapters.Stacks
import HybridX509.Adapters.VersionCache

/-! # What a report of any adapter can be trusted for

One specification holds for the executions of all adapters, `Ran`. From it: a verdict is
backed by a process that ended by itself with all of its output, and the files a program
could read are the recorded inputs, among them the certificates of the presented path. Where
the processes are run by `run_program`, the records are of what their children wrote.
-/

namespace HybridX509.Adapters

/-- The process ended by itself, and both streams were captured whole. -/
def ProcessOutput.Complete (output : ProcessOutput) : Prop :=
  output.timedOut = false ∧ output.stdout.truncated = false ∧ output.stderr.truncated = false

theorem ProcessOutput.Complete.eq_whole {output : ProcessOutput} (complete : output.Complete) :
    output = ⟨output.statusCode, false, output.elapsed, ⟨output.stdout.bytes, false⟩,
      ⟨output.stderr.bytes, false⟩⟩ := by
  obtain ⟨status, timedOut, elapsed, ⟨out, outTruncated⟩, ⟨err, errTruncated⟩⟩ := output
  obtain ⟨rfl, rfl, rfl⟩ := complete
  rfl

/-- The same of a record. -/
def ProcessRecord.Complete (record : ProcessRecord) : Prop :=
  record.timedOut = false ∧ record.stdout.truncated = false ∧ record.stderr.truncated = false

instance : DecidablePred ProcessRecord.Complete := fun _ => inferInstanceAs (Decidable (_ ∧ _))

theorem inconclusive_eq_false_iff {output : ProcessOutput} :
    output.inconclusive = false ↔ output.Complete ∧ output.statusCode = some 0 := by
  simp [ProcessOutput.inconclusive, ProcessOutput.Complete, and_assoc]

/-- A reading of outputs that concludes only from a complete run, and accepts only with
    status 0. -/
structure Careful (classify : ProcessOutput → StackVerdict) : Prop where
  conclusive : ∀ output, classify output ≠ .indeterminate → output.Complete
  accepted : ∀ output, classify output = .accept → output.statusCode = some 0

namespace Stacks

open Lib X509 BouncyCastle ValidationTime

/-! ## Readings -/

theorem careful_classifyOpenSsl : Careful classifyOpenSsl where
  conclusive := by
    intro output concluded
    unfold classifyOpenSsl at concluded
    split at concluded
    · exact absurd rfl concluded
    · next complete => simpa [ProcessOutput.Complete, and_assoc] using complete
  accepted := by
    intro output accepted
    unfold classifyOpenSsl at accepted
    split at accepted
    · cases accepted
    · split at accepted
      · assumption
      · split at accepted
        · cases accepted
        · split at accepted <;> cases accepted

theorem careful_classifyGnuTls : Careful classifyGnuTls where
  conclusive := by
    intro output concluded
    unfold classifyGnuTls at concluded
    split at concluded
    · exact absurd rfl concluded
    · next complete => simpa [ProcessOutput.Complete, and_assoc] using complete
  accepted := by
    intro output accepted
    unfold classifyGnuTls at accepted
    split at accepted
    · cases accepted
    · split at accepted
      · next verified => exact verified.1
      · split at accepted
        · cases accepted
        · split at accepted <;> cases accepted

section Json

variable {Call : Type} {sys : System Call}

/-- A verdict that was read comes from a program that ended with status 0. -/
theorem classifyJsonVerdict_conclusive {output : ProcessOutput}
    (concluded : classifyJsonVerdict sys output ≠ .indeterminate) :
    output.Complete ∧ output.statusCode = some 0 := by
  rw [← inconclusive_eq_false_iff]
  cases inconclusive : output.inconclusive with
  | false => rfl
  | true => exact absurd (by simp [classifyJsonVerdict, inconclusive]) concluded

theorem careful_classifyJsonVerdict : Careful (classifyJsonVerdict sys) where
  conclusive := fun _ concluded => (classifyJsonVerdict_conclusive concluded).1
  accepted := by
    intro output accepted
    have concluded : classifyJsonVerdict sys output ≠ .indeterminate := by
      rw [accepted]
      decide
    exact (classifyJsonVerdict_conclusive concluded).2

end Json

/-! ## What a call is made with -/

section Calls

variable (sys : StackSystem)

/-- The container runs, over the surroundings of all adapters. -/
def containerRun (call : ContainerCall) : ContainerRun :=
  call.run (sys.toSystem.comap .container) sys.chrono

namespace StackCall

def classify : StackCall → ProcessOutput → StackVerdict
  | .container call => (containerRun sys call).classify
  | .openSsl _ | .openSslTls _ => classifyOpenSsl
  | .gnuTls _ => classifyGnuTls
  | .bouncyCastle _ | .go _ | .goContainer _ | .pyca _ | .pycaContainer _ =>
      classifyJsonVerdict sys.toSystem

/-- The limits of both processes. -/
def limits : StackCall → ProcessLimits
  | .container (.openSsl config _ _ _) => ⟨config.timeout, config.maxOutputBytes⟩
  | .container (.gnuTls config _ _) => ⟨config.timeout, config.maxOutputBytes⟩
  | .container (.wolfSsl config) => ⟨config.timeout, config.maxOutputBytes⟩
  | .container (.nss config) => ⟨config.timeout, config.maxOutputBytes⟩
  | .bouncyCastle config => ⟨config.timeout, config.maxOutputBytes⟩
  | .openSsl config => ⟨config.timeout, config.maxOutputBytes⟩
  | .openSslTls config => ⟨config.timeout, config.maxOutputBytes⟩
  | .gnuTls config => ⟨config.timeout, config.maxOutputBytes⟩
  | .go config => ⟨config.timeout, config.maxOutputBytes⟩
  | .goContainer config => ⟨config.timeout, config.maxOutputBytes⟩
  | .pyca config => ⟨config.timeout, config.maxOutputBytes⟩
  | .pycaContainer config => ⟨config.timeout, config.maxOutputBytes⟩

def leaf : StackCall → String
  | .container call => (containerRun sys call).leaf
  | .bouncyCastle config => config.leaf
  | .openSsl config => config.leaf
  | .openSslTls config => config.leaf
  | .gnuTls config => config.leaf
  | .go config => config.leaf
  | .goContainer config => config.leaf
  | .pyca config => config.leaf
  | .pycaContainer config => config.leaf

def intermediate : StackCall → Option String
  | .container call => (containerRun sys call).intermediate
  | .bouncyCastle config => some config.intermediate
  | .openSsl config => config.untrustedChain
  | .openSslTls config => some config.intermediate
  | .gnuTls config => config.untrustedChain
  | .go config => some config.intermediate
  | .goContainer config => some config.intermediate
  | .pyca config => some config.intermediate
  | .pycaContainer config => some config.intermediate

def trustStore : StackCall → String
  | .container call => (containerRun sys call).trustStore
  | .bouncyCastle config => config.trustStore
  | .openSsl config => config.trustStore
  | .openSslTls config => config.trustStore
  | .gnuTls config => config.trustStore
  | .go config => config.trustStore
  | .goContainer config => config.trustStore
  | .pyca config => config.trustStore
  | .pycaContainer config => config.trustStore

def inputPaths : StackCall → List String
  | .container call => (containerRun sys call).inputPaths
  | .bouncyCastle config => [config.trustStore, config.intermediate, config.leaf]
      ++ config.privateKey.toList ++ config.crl.toList
  | .openSsl config => (openSslLocalRun sys config).inputPaths
  | .openSslTls config =>
      [config.trustStore, config.intermediate, config.leaf, config.privateKey]
  | .gnuTls config => (gnuTlsLocalRun sys config).inputPaths
  | .go config => (goRun sys config).inputPaths
  | .goContainer config => (goContainerRun sys config).inputPaths
  | .pyca config => (pycaRun sys config).inputPaths
  | .pycaContainer config => (pycaContainerRun sys config).inputPaths

/-- The image and the mounts of a call that runs a container. -/
def isolation : StackCall → Option (String × List (String × String))
  | .container call => some ((containerRun sys call).image, (containerRun sys call).mounts)
  | .bouncyCastle config => some (config.image,
      [(config.trustStore, "/input/root.pem"), (config.intermediate, "/input/intermediate.pem"),
        (config.leaf, "/input/leaf.pem")]
        ++ (config.privateKey.map (·, "/input/key.pem")).toList
        ++ (config.crl.map (·, "/input/crl.pem")).toList)
  | .openSslTls config => some (config.image, openSslTlsMounts config)
  | .goContainer config => some (config.image,
      certificateMounts config.trustStore config.intermediate config.leaf)
  | .pycaContainer config => some (config.image,
      certificateMounts config.trustStore config.intermediate config.leaf)
  | .openSsl _ | .gnuTls _ | .go _ | .pyca _ => none

/-- The name in the observation: that of Bouncy Castle depends on its version. -/
def adapter : StackCall → ProcessOutput → String
  | .container call, _ => (containerRun sys call).adapter
  | .bouncyCastle _, versionOutput => (adapterTrack (trimmedOutput versionOutput)).1
  | .openSsl _, _ => "openssl"
  | .openSslTls _, _ => "openssl-current-tls"
  | .gnuTls _, _ => "gnutls"
  | .go _, _ => "go-crypto-x509"
  | .goContainer config, _ => (goContainerRun sys config).adapter
  | .pyca _, _ => "pyca-cryptography"
  | .pycaContainer config, _ => (pycaContainerRun sys config).adapter

def validationProfile : StackCall → ValidationProfile
  | .container call => (containerRun sys call).validationProfile
  | .bouncyCastle config => config.mode.validationProfile
  | .openSsl _ | .gnuTls _ => .x509Path
  | .openSslTls _ | .go _ | .goContainer _ | .pyca _ | .pycaContainer _ => .webPkiServer

/-- The calls that are recorded with the path they were given. -/
def PresentsPath : StackCall → Prop
  | .bouncyCastle config => config.mode ≠ .pathBuilder
  | _ => True

/-- The programs that print a verdict; the others are read by status and message. -/
def PrintsVerdict : StackCall → Prop
  | .container (.wolfSsl _) | .container (.nss _) => True
  | .bouncyCastle _ | .go _ | .goContainer _ | .pyca _ | .pycaContainer _ => True
  | .container _ | .openSsl _ | .openSslTls _ | .gnuTls _ => False

variable {sys}

theorem careful_classify (call : StackCall) : Careful (call.classify sys) := by
  cases call with
  | container call =>
      cases call with
      | openSsl config adapter versionTrack commandPrefix => exact careful_classifyOpenSsl
      | gnuTls config adapter versionTrack => exact careful_classifyGnuTls
      | wolfSsl config => exact careful_classifyJsonVerdict
      | nss config => exact careful_classifyJsonVerdict
  | openSsl config => exact careful_classifyOpenSsl
  | openSslTls config => exact careful_classifyOpenSsl
  | gnuTls config => exact careful_classifyGnuTls
  | bouncyCastle config => exact careful_classifyJsonVerdict
  | go config => exact careful_classifyJsonVerdict
  | goContainer config => exact careful_classifyJsonVerdict
  | pyca config => exact careful_classifyJsonVerdict
  | pycaContainer config => exact careful_classifyJsonVerdict

theorem classify_of_printsVerdict {call : StackCall} (prints : call.PrintsVerdict) :
    call.classify sys = classifyJsonVerdict sys.toSystem := by
  cases call with
  | container call =>
      cases call with
      | openSsl config adapter versionTrack commandPrefix => exact prints.elim
      | gnuTls config adapter versionTrack => exact prints.elim
      | wolfSsl config => rfl
      | nss config => rfl
  | openSsl config => exact prints.elim
  | openSslTls config => exact prints.elim
  | gnuTls config => exact prints.elim
  | bouncyCastle config => rfl
  | go config => rfl
  | goContainer config => rfl
  | pyca config => rfl
  | pycaContainer config => rfl

/-- The certificates of the presented path are among the inputs. -/
theorem certificates_subset_inputPaths (call : StackCall) :
    call.leaf sys :: (call.intermediate sys).toList ++ [call.trustStore sys] ⊆
      call.inputPaths sys := by
  intro path member
  cases call with
  | container call => cases call <;> revert member <;> simp [leaf, intermediate, trustStore,
      inputPaths, containerRun, ContainerCall.run, openSslRun, gnuTlsRun, wolfSslRun, nssRun] <;> grind
  | bouncyCastle config | openSsl config | openSslTls config | gnuTls config | go config
  | goContainer config | pyca config | pycaContainer config =>
      revert member
      simp [leaf, intermediate, trustStore, inputPaths, openSslLocalRun, gnuTlsLocalRun, goRun,
        goContainerRun, pycaRun, pycaContainerRun]
      grind

/-- A container is given the inputs and nothing else. -/
theorem mounts_eq_inputPaths {call : StackCall} {image : String} {mounts : List (String × String)}
    (isolated : call.isolation sys = some (image, mounts)) :
    mounts.map Prod.fst = call.inputPaths sys := by
  cases call with
  | container call =>
      obtain ⟨-, rfl⟩ := Prod.mk.inj (Option.some.inj isolated)
      cases call with
      | openSsl config adapter versionTrack commandPrefix =>
          cases crl : config.crl <;>
            simp [containerRun, ContainerCall.run, openSslRun, inputPaths, crl]
      | gnuTls config adapter versionTrack => rfl
      | wolfSsl config =>
          cases given : config.intermediate <;>
            simp [containerRun, ContainerCall.run, wolfSslRun, inputPaths, given]
      | nss config => rfl
  | bouncyCastle config =>
      obtain ⟨-, rfl⟩ := Prod.mk.inj (Option.some.inj isolated)
      cases key : config.privateKey <;> cases crl : config.crl <;> simp [inputPaths, key, crl]
  | openSslTls config =>
      obtain ⟨-, rfl⟩ := Prod.mk.inj (Option.some.inj isolated)
      rfl
  | goContainer config =>
      obtain ⟨-, rfl⟩ := Prod.mk.inj (Option.some.inj isolated)
      rfl
  | pycaContainer config =>
      obtain ⟨-, rfl⟩ := Prod.mk.inj (Option.some.inj isolated)
      rfl
  | openSsl config => cases isolated
  | gnuTls config => cases isolated
  | go config => cases isolated
  | pyca config => cases isolated

end StackCall

end Calls

/-! ## One specification for all adapters -/

/-- What an execution of any adapter did. -/
structure Ran (sys : StackSystem) (call : StackCall) (execution : AdapterExecution) : Prop where
  versionOutput : sys.cachedVersionOutput call = .ok execution.versionOutput
  versionEnded : execution.versionOutput.timedOut = false ∧
    execution.versionOutput.statusCode = some 0
  verificationOutput : sys.runProgram call = .ok execution.verificationOutput
  verdict : execution.observation.verdict = call.classify sys execution.verificationOutput
  adapter : execution.observation.adapter = call.adapter sys execution.versionOutput
  profile : execution.observation.validationProfile = call.validationProfile sys
  inputs : recordInputs sys.toLibrary (call.inputPaths sys) = .ok execution.inputs
  presented : call.PresentsPath → execution.observation.selectedPathSource = .presentedInput
  path : execution.observation.selectedPathSource = .presentedInput →
    selectedPathHashes sys.toLibrary (call.leaf sys) (call.intermediate sys) (call.trustStore sys) =
      .ok (execution.observation.certificationPathDerSha256, execution.observation.trustAnchor)
  isolation : execution.observation.executionIsolation = .container ↔
    (call.isolation sys).isSome = true
  isolated : ∀ image mounts, call.isolation sys = some (image, mounts) →
    ∃ command, isolatedArguments sys.canonicalize image mounts command = .ok execution.arguments

/-- A run that belongs to a call. -/
structure RunOf (sys : StackSystem) (call : StackCall) (run : StackRun) : Prop where
  inputPaths : run.inputPaths = call.inputPaths sys
  leaf : run.leaf = call.leaf sys
  intermediate : run.intermediate = call.intermediate sys
  trustStore : run.trustStore = call.trustStore sys
  classify : run.classify = call.classify sys
  adapter : ∀ versionOutput, run.adapter = call.adapter sys versionOutput
  profile : run.validationProfile = call.validationProfile sys

section Specification

variable {sys : StackSystem} {execution : AdapterExecution}

theorem ran_of_runStack {call : StackCall} {run : StackRun} (runOf : RunOf sys call run)
    (isolation : run.executionIsolation = .container ↔ (call.isolation sys).isSome = true)
    (isolated : ∀ image mounts, call.isolation sys = some (image, mounts) →
      ∃ command : String → List OsString,
        ∀ time, run.arguments time = Stacks.isolated sys image mounts (command time))
    (returned : runStack sys call run = .ok execution) : Ran sys call execution := by
  simp only [runStack, bind_ok_iff, mapErr_ok_iff, exists_unit_iff, failIf_ok_iff, pure_ok_iff,
    Prod.exists, not_or, Bool.not_eq_true, not_not] at returned
  obtain ⟨executable, -, inputs, recorded, path, anchor, hashed, time, -, -, -, versionOutput,
    versionRan, ended, arguments, given, output, ran, rfl⟩ := returned
  rw [runOf.inputPaths] at recorded
  rw [runOf.leaf, runOf.intermediate, runOf.trustStore] at hashed
  refine ⟨versionRan, ended, ran, congrFun runOf.classify output, runOf.adapter versionOutput,
    runOf.profile, recorded, fun _ => rfl, fun _ => hashed, isolation, ?_⟩
  intro image mounts isolation
  obtain ⟨command, same⟩ := isolated image mounts isolation
  rw [same, Stacks.isolated, mapErr_ok_iff] at given
  exact ⟨command time, given⟩

theorem ran_of_verifyContainerCall {call : ContainerCall}
    (returned : verifyContainerCall sys call = .ok execution) :
    Ran sys (.container call) execution := by
  rw [verifyContainerCall, verify_eq] at returned
  simp only [verifyContainer, bind_ok_iff, mapErr_ok_iff, exists_unit_iff, failIf_ok_iff,
    orFail_ok_iff, pure_ok_iff, Prod.exists, not_or, Bool.not_eq_true, not_not] at returned
  obtain ⟨executable, -, inputs, recorded, path, anchor, hashed, time, -, argument, -, -, -,
    versionOutput, versionRan, ended, arguments, given, output, ran, rfl⟩ := returned
  refine ⟨versionRan, ended, ran, rfl, rfl, rfl, recorded, fun _ => rfl, fun _ => hashed,
    iff_of_true rfl rfl, ?_⟩
  intro image mounts isolation
  obtain ⟨rfl, rfl⟩ := Prod.mk.inj (Option.some.inj isolation)
  exact ⟨_, given⟩

theorem ran_of_verifyBouncyCastle {config : BouncyCastleConfig}
    (returned : verifyBouncyCastle sys config = .ok execution) :
    Ran sys (.bouncyCastle config) execution := by
  simp only [verifyBouncyCastle, verify, bind_ok_iff, mapErr_ok_iff, exists_unit_iff,
    failIf_ok_iff, pure_ok_iff, Prod.exists, not_or, Bool.not_eq_true, not_not] at returned
  obtain ⟨executable, -, -, -, inputs, recorded, -, -, versionOutput, versionRan, ended, arguments,
    given, output, ran, path, source, anchor, observed, rfl⟩ := returned
  refine ⟨versionRan, ended, ran, rfl, rfl, rfl, recorded, ?_, ?_, iff_of_true rfl rfl, ?_⟩
  · intro presents
    have mode : config.mode ≠ .pathBuilder := presents
    simp only [observedPath, mode, false_and, if_false, bind_ok_iff, mapErr_ok_iff, pure_ok_iff,
      Prod.exists, Prod.mk.injEq] at observed
    obtain ⟨_, _, -, -, same, -⟩ := observed
    exact same.symm
  · rintro rfl
    unfold observedPath at observed
    split at observed
    · simp only [bind_ok_iff, mapErr_ok_iff, orFail_ok_iff, pure_ok_iff, Prod.mk.injEq] at observed
      obtain ⟨-, -, -, -, -, selected, -⟩ := observed
      cases selected
    · split at observed
      · cases observed
      · simp only [bind_ok_iff, mapErr_ok_iff, pure_ok_iff, Prod.exists, Prod.mk.injEq] at observed
        obtain ⟨_, _, hashed, rfl, -, rfl⟩ := observed
        exact hashed
  · intro image mounts isolation
    obtain ⟨rfl, rfl⟩ := Prod.mk.inj (Option.some.inj isolation)
    exact ⟨_, given⟩

theorem ran_of_hostRun {call : StackCall} {run : StackRun} (runOf : RunOf sys call run)
    (host : run.executionIsolation ≠ .container) (none : call.isolation sys = none)
    (returned : runStack sys call run = .ok execution) : Ran sys call execution :=
  ran_of_runStack runOf (by simp [host, none]) (by simp [none]) returned

theorem ran_of_containerRun {call : StackCall} {run : StackRun} {image : String}
    {mounts : List (String × String)} {command : String → List OsString}
    (runOf : RunOf sys call run) (container : run.executionIsolation = .container)
    (isolation : call.isolation sys = some (image, mounts))
    (arguments : ∀ time, run.arguments time = Stacks.isolated sys image mounts (command time))
    (returned : runStack sys call run = .ok execution) : Ran sys call execution := by
  refine ran_of_runStack runOf (by simp [container, isolation]) ?_ returned
  intro image' mounts' isolation'
  obtain ⟨rfl, rfl⟩ := Prod.mk.inj (Option.some.inj (isolation.symm.trans isolation'))
  exact ⟨command, arguments⟩

/-- The specification holds of every call that returns. -/
theorem ran_of_verify {call : StackCall} (returned : call.verify sys = .ok execution) :
    Ran sys call execution := by
  cases call with
  | container call => exact ran_of_verifyContainerCall (mapErr_ok_iff.mp returned)
  | bouncyCastle config => exact ran_of_verifyBouncyCastle (mapErr_ok_iff.mp returned)
  | openSsl config =>
      exact ran_of_hostRun ⟨rfl, rfl, rfl, rfl, rfl, fun _ => rfl, rfl⟩ (by simp [openSslLocalRun]) rfl
        (mapErr_ok_iff.mp returned)
  | openSslTls config =>
      have returned := mapErr_ok_iff.mp returned
      simp only [verifyTls, bind_ok_iff, exists_unit_iff] at returned
      obtain ⟨-, time, -, returned⟩ := returned
      exact ran_of_containerRun ⟨rfl, rfl, rfl, rfl, rfl, fun _ => rfl, rfl⟩ rfl rfl
        (fun _ => rfl) returned
  | gnuTls config =>
      exact ran_of_hostRun ⟨rfl, rfl, rfl, rfl, rfl, fun _ => rfl, rfl⟩ (by simp [gnuTlsLocalRun]) rfl
        (mapErr_ok_iff.mp returned)
  | go config =>
      exact ran_of_hostRun ⟨rfl, rfl, rfl, rfl, rfl, fun _ => rfl, rfl⟩ (by simp [goRun]) rfl
        (mapErr_ok_iff.mp returned)
  | goContainer config =>
      exact ran_of_containerRun ⟨rfl, rfl, rfl, rfl, rfl, fun _ => rfl, rfl⟩ rfl rfl
        (fun _ => rfl) (mapErr_ok_iff.mp returned)
  | pyca config =>
      exact ran_of_hostRun ⟨rfl, rfl, rfl, rfl, rfl, fun _ => rfl, rfl⟩ (by simp [pycaRun]) rfl
        (mapErr_ok_iff.mp returned)
  | pycaContainer config =>
      exact ran_of_containerRun ⟨rfl, rfl, rfl, rfl, rfl, fun _ => rfl, rfl⟩ rfl rfl
        (fun _ => rfl) (mapErr_ok_iff.mp returned)

/-- The arguments of a container, up to the command inside it. -/
theorem Ran.arguments {call : StackCall} (ran : Ran sys call execution) {image : String}
    {mounts : List (String × String)} (isolation : call.isolation sys = some (image, mounts)) :
    ∃ sources command, execution.arguments =
        runFlags ++ mountOptions mounts sources ++ [.utf8 "--", .utf8 image] ++ command ∧
      List.Forall₂ (fun mount source => sys.canonicalize mount.1 = .ok (.utf8 source))
        mounts sources := by
  obtain ⟨command, isolated⟩ := ran.isolated image mounts isolation
  simp only [isolatedArguments, bind_ok_iff, exists_unit_iff, pure_ok_iff, Prod.exists]
    at isolated
  obtain ⟨-, options, _, looped, same⟩ := isolated
  obtain ⟨sources, mounted, appended⟩ := mounts_ok looped
  refine ⟨sources, command, ?_, mounted.imp fun _ _ mountedFrom => mountedFrom.canonical⟩
  rw [← same, ← appended]

end Specification

/-! ## Reports -/

section Reports

/-- What a report repeats of its execution. -/
theorem report_eq {Call : Type} {sys : System Call} {execution : AdapterExecution}
    {report : AdapterReport} (reported : execution.report sys = .ok report) :
    report.observation = execution.observation ∧ report.inputs = execution.inputs ∧
      execution.arguments = report.arguments.map .utf8 ∧
      report.version = .from sys execution.versionOutput ∧
      report.verification = .from sys execution.verificationOutput ∧
      report.adapterTrace = adapterTrace sys execution.verificationOutput := by
  simp only [AdapterExecution.report, bind_ok_iff, pure_ok_iff] at reported
  obtain ⟨executable, -, arguments, texts, rfl⟩ := reported
  refine ⟨rfl, rfl, ?_, rfl, rfl, rfl⟩
  show execution.arguments = arguments.map .utf8
  generalize execution.arguments = given at texts
  induction given generalizing arguments with
  | nil =>
      obtain rfl := pure_ok_iff.mp texts
      rfl
  | cons argument rest ih =>
      simp only [List.mapM_cons, bind_ok_iff, orFail_ok_iff, pure_ok_iff] at texts
      obtain ⟨text, same, others, texts, rfl⟩ := texts
      cases argument with
      | utf8 text' =>
          obtain rfl := Option.some.inj same
          rw [List.map_cons, ← ih others texts]
      | other bytes => cases same

theorem recordInputs_paths {lib : Library} {paths : List String} {inputs : List InputArtifact}
    (recorded : recordInputs lib paths = .ok inputs) : inputs.map (·.path) = paths := by
  induction paths generalizing inputs with
  | nil =>
      obtain rfl := pure_ok_iff.mp recorded
      rfl
  | cons path rest ih =>
      simp only [recordInputs, List.mapM_cons, bind_ok_iff, pure_ok_iff] at recorded
      obtain ⟨_, ⟨contents, -, rfl⟩, others, recorded, rfl⟩ := recorded
      rw [List.map_cons, ih recorded]

/-- The hashes of a presented path are those of its files. -/
theorem mem_selectedPathHashes {lib : Library} {leaf trustStore : String}
    {intermediate : Option String} {path : List String} {anchor : TrustAnchor}
    (hashed : selectedPathHashes lib leaf intermediate trustStore = .ok (path, anchor))
    {hash : String} (shown : hash ∈ path ∨ anchor = .certificateDerSha256 hash) :
    ∃ file ∈ leaf :: intermediate.toList ++ [trustStore], certificateSha256 lib file = .ok hash := by
  simp only [selectedPathHashes, bind_ok_iff, pure_ok_iff, Prod.mk.injEq] at hashed
  obtain ⟨leafHash, leafHashed, hashes, intermediateHashed, root, rootHashed, rfl, rfl⟩ := hashed
  rcases shown with inPath | same
  · rcases List.mem_cons.mp inPath with rfl | inHashes
    · exact ⟨leaf, by simp, leafHashed⟩
    · cases intermediate with
      | none =>
          obtain rfl := pure_ok_iff.mp intermediateHashed
          cases inHashes
      | some file =>
          simp only [Option.toList_some, List.mapM_cons, List.mapM_nil, bind_ok_iff,
            pure_ok_iff] at intermediateHashed
          obtain ⟨fileHash, fileHashed, _, rfl, rfl⟩ := intermediateHashed
          obtain rfl := List.mem_singleton.mp inHashes
          exact ⟨file, by simp, fileHashed⟩
  · obtain rfl := TrustAnchor.certificateDerSha256.inj same
    exact ⟨trustStore, by simp, rootHashed⟩

variable {sys : StackSystem} {call : StackCall} {execution : AdapterExecution}
  {report : AdapterReport}

/-- Whatever the adapter: a conclusive verdict stands beside the record of a process that
    ended by itself with all of its output; acceptance, a verdict that a program printed and
    a trace beside the status 0; and the version command ended with status 0. -/
theorem report_verdict_evidenced (returned : call.verify sys = .ok execution)
    (reported : execution.report sys.toSystem = .ok report) :
    (report.observation.verdict ≠ .indeterminate → report.verification.Complete) ∧
      (report.observation.verdict = .accept → report.verification.statusCode = some 0) ∧
      (call.PrintsVerdict → report.observation.verdict ≠ .indeterminate →
        report.verification.statusCode = some 0) ∧
      (report.adapterTrace ≠ none →
        report.verification.Complete ∧ report.verification.statusCode = some 0) ∧
      report.version.timedOut = false ∧ report.version.statusCode = some 0 := by
  have ran := ran_of_verify returned
  obtain ⟨observation, -, -, version, verification, trace⟩ := report_eq reported
  rw [observation, version, verification, trace, ran.verdict]
  have careful : Careful (call.classify sys) := call.careful_classify
  refine ⟨careful.conclusive _, careful.accepted _, ?_, ?_, ran.versionEnded⟩
  · intro prints concluded
    rw [StackCall.classify_of_printsVerdict prints] at concluded
    exact (classifyJsonVerdict_conclusive concluded).2
  · intro traced
    refine inconclusive_eq_false_iff.mp ?_
    cases inconclusive : execution.verificationOutput.inconclusive with
    | false => rfl
    | true => exact absurd (by simp [adapterTrace, inconclusive]) traced

namespace Fixture

def accepting : String := "\x7b\"verdict\":\"accept\"\x7d"

def system : StackSystem where
  toLibrary := ValidationTime.Fixture.system.toLibrary
  resolveExecutable := ValidationTime.Fixture.system.resolveExecutable
  canonicalize := ValidationTime.Fixture.system.canonicalize
  cachedVersionOutput := fun _ => .ok (ValidationTime.Fixture.output "go1.26.6")
  runProgram := fun _ => .ok (ValidationTime.Fixture.output accepting)
  base64Encode := hexLower
  verdictFromSlice := fun slice => if slice = bytes accepting then some "accept" else none
  selectedPathFromSlice := fun _ => .error "no path"
  instrumentedFromSlice := fun _ => none
  chrono := ValidationTime.Fixture.chrono
  newTempFile := .ok (.utf8 "/tmp/authorities")
  writeAll := fun _ _ => .ok ()
  flush := fun _ => .ok ()

def goCall : StackCall := .goContainer {
  docker := "docker"
  image := "go"
  trustStore := "ca.pem"
  intermediate := "ca.pem"
  leaf := "leaf.pem"
  dnsName := "leaf.test"
  validationTime := "2026-06-20T02:00:00+02:00"
  timeout := ⟨5, 0⟩
  maxOutputBytes := 65536
  release := .current1266 }

theorem goCall_returns : ∃ execution, goCall.verify system = .ok execution ∧
    execution.executable = .utf8 "/usr/bin/docker" ∧
    ∃ report, execution.report system.toSystem = .ok report ∧
      report.observation.verdict = .accept ∧
      report.observation.selectedPathSource = .presentedInput ∧
      report.observation.executionIsolation = .container := by
  decide +kernel

end Fixture

/-- An accepted run of the Go program. -/
theorem report_verdict_evidenced_go : ∃ execution report,
    Fixture.goCall.verify Fixture.system = .ok execution ∧
      execution.report Fixture.system.toSystem = .ok report ∧
      report.observation.verdict = .accept ∧ report.verification.Complete ∧
      report.verification.statusCode = some 0 := by
  obtain ⟨execution, returned, -, report, reported, accepted, -⟩ := Fixture.goCall_returns
  obtain ⟨complete, status, -⟩ := report_verdict_evidenced returned reported
  exact ⟨execution, report, returned, reported, accepted, complete (by simp [accepted]),
    status accepted⟩

/-- Whatever the adapter: every certificate of a presented path is a recorded input, and a
    container is given the recorded inputs, one mount for each in their order, and no other
    file. -/
theorem report_inputs_account (returned : call.verify sys = .ok execution)
    (reported : execution.report sys.toSystem = .ok report) :
    (report.observation.selectedPathSource = .presentedInput → ∀ hash,
      hash ∈ report.observation.certificationPathDerSha256 ∨
        report.observation.trustAnchor = .certificateDerSha256 hash →
      ∃ input ∈ report.inputs, certificateSha256 sys.toLibrary input.path = .ok hash) ∧
    (report.observation.executionIsolation = .container → ∃ image mounts sources command,
      call.isolation sys = some (image, mounts) ∧ report.arguments.map .utf8 =
          runFlags ++ mountOptions mounts sources ++ [.utf8 "--", .utf8 image] ++ command ∧
        mounts.map Prod.fst = report.inputs.map (·.path) ∧
        List.Forall₂ (fun mount source => sys.canonicalize mount.1 = .ok (.utf8 source))
          mounts sources) := by
  have ran := ran_of_verify returned
  obtain ⟨observation, inputs, arguments, -⟩ := report_eq reported
  have paths := recordInputs_paths ran.inputs
  rw [observation, inputs, ← arguments]
  constructor
  · intro presented hash shown
    obtain ⟨file, listed, hashed⟩ := mem_selectedPathHashes (ran.path presented) shown
    have recorded := call.certificates_subset_inputPaths listed
    rw [← paths] at recorded
    obtain ⟨input, member, same⟩ := List.mem_map.mp recorded
    exact ⟨input, member, same ▸ hashed⟩
  · intro container
    obtain ⟨⟨image, mounts⟩, isolation⟩ := Option.isSome_iff_exists.mp (ran.isolation.mp container)
    obtain ⟨sources, command, layout, canonical⟩ := ran.arguments isolation
    refine ⟨image, mounts, sources, command, isolation, layout, ?_, canonical⟩
    rw [StackCall.mounts_eq_inputPaths isolation, paths]

/-- The mounts of the Go program. -/
theorem report_inputs_account_go : ∃ execution report sources command,
    Fixture.goCall.verify Fixture.system = .ok execution ∧
      execution.report Fixture.system.toSystem = .ok report ∧
      report.arguments.map .utf8 =
        runFlags ++ mountOptions (certificateMounts "ca.pem" "ca.pem" "leaf.pem") sources ++
          [.utf8 "--", .utf8 "go"] ++ command ∧
      report.inputs.map (·.path) = ["ca.pem", "ca.pem", "leaf.pem"] := by
  obtain ⟨execution, returned, -, report, reported, -, -, container⟩ := Fixture.goCall_returns
  obtain ⟨-, accounted⟩ := report_inputs_account returned reported
  obtain ⟨image, mounts, sources, command, isolation, layout, same, -⟩ := accounted container
  obtain ⟨rfl, rfl⟩ := Prod.mk.inj (Option.some.inj isolation)
  exact ⟨execution, report, sources, command, returned, reported, layout, same.symm⟩

/-! ## What the program wrote -/

/-- The verification process of an execution, as a run of `run_program`. -/
def RunsVerification (sys : StackSystem) (call : StackCall) (execution : AdapterExecution)
    (child : Child) (stdout stderr : List UInt8) : Prop :=
  ∃ spawn, sys.runProgram call =
      Adapters.runProgram spawn execution.executable execution.arguments call.limits ∧
    spawn execution.executable execution.arguments = .ok child ∧
    Carries child.stdout stdout ∧ Carries child.stderr stderr

theorem RunsVerification.runs {child : Child} {stdout stderr : List UInt8}
    (verification : RunsVerification sys call execution child stdout stderr)
    (ran : Ran sys call execution) : ∃ spawn, RunsChild spawn execution.executable
      execution.arguments call.limits child stdout stderr execution.verificationOutput := by
  obtain ⟨spawn, program, spawned, out, err⟩ := verification
  exact ⟨spawn, spawned, out, err, program ▸ ran.verificationOutput⟩

/-- The record of a report holds the two streams of the child up to the limit of the call,
    with the hash of what it holds, and says whether there was more. A conclusive verdict is
    the reading of all that the child wrote, before it ended by itself within the timeout and
    with the recorded status. -/
theorem report_streams_account (returned : call.verify sys = .ok execution)
    (reported : execution.report sys.toSystem = .ok report) {child : Child}
    {stdout stderr : List UInt8}
    (verification : RunsVerification sys call execution child stdout stderr) :
    report.verification.stdout =
        encodeStream sys.toSystem (bounded call.limits.maxOutputBytes stdout) ∧
      report.verification.stderr =
        encodeStream sys.toSystem (bounded call.limits.maxOutputBytes stderr) ∧
      (report.observation.verdict ≠ .indeterminate →
        report.verification.stdout = encodeStream sys.toSystem ⟨stdout, false⟩ ∧
        report.verification.stderr = encodeStream sys.toSystem ⟨stderr, false⟩ ∧
        child.waitTimeout call.limits.timeout = .ok (some report.verification.statusCode) ∧
        report.observation.verdict = call.classify sys ⟨report.verification.statusCode, false,
          execution.verificationOutput.elapsed, ⟨stdout, false⟩, ⟨stderr, false⟩⟩) := by
  have ran := ran_of_verify returned
  obtain ⟨spawn, runs⟩ := verification.runs ran
  obtain ⟨observation, -, -, -, record, -⟩ := report_eq reported
  obtain ⟨out, err, -⟩ := runs.observed
  rw [record, observation, ran.verdict]
  refine ⟨by rw [← out]; rfl, by rw [← err]; rfl, fun concluded => ?_⟩
  have careful : Careful (call.classify sys) := call.careful_classify
  have complete := careful.conclusive _ concluded
  obtain ⟨rfl, rfl, ended⟩ := runs.whole complete.1 complete.2.1 complete.2.2
  have same := complete.eq_whole
  exact ⟨by rw [same]; rfl, by rw [same]; rfl, ended, congrArg (call.classify sys) same⟩

namespace Fixture

/-- The Go program, which writes its verdict at once. -/
def goChild : Child where
  id := 72
  waitTimeout := fun _ => .ok (some (some 0))
  kill := fun _ => .ok ()
  wait := .ok (some 0)
  elapsed := ⟨1, 0⟩
  stdout := [.ok (bytes accepting), .ok []]
  stderr := [.ok []]

theorem runsVerification_goChild (execution : AdapterExecution) :
    RunsVerification system goCall execution goChild (bytes accepting) [] := by
  have output : system.runProgram goCall =
      runProgram (fun _ _ => .ok goChild) (.utf8 "docker") [] goCall.limits := by
    decide +kernel
  refine ⟨fun _ _ => .ok goChild, output, rfl, ⟨[bytes accepting], [], ⟨rfl, ?_⟩, rfl⟩,
    ⟨[], [], ⟨rfl, by decide⟩, rfl⟩⟩
  decide +kernel

end Fixture

theorem report_streams_account_go : ∃ execution report,
    Fixture.goCall.verify Fixture.system = .ok execution ∧
      execution.report Fixture.system.toSystem = .ok report ∧
      report.observation.verdict = .accept ∧
      report.verification.stdout =
        encodeStream Fixture.system.toSystem ⟨bytes Fixture.accepting, false⟩ := by
  obtain ⟨execution, returned, -, report, reported, accepted, -⟩ := Fixture.goCall_returns
  obtain ⟨-, -, whole⟩ :=
    report_streams_account returned reported (Fixture.runsVerification_goChild execution)
  exact ⟨execution, report, returned, reported, accepted, (whole (by simp [accepted])).1⟩

namespace Fixture

end Fixture

end Reports

end Stacks

end HybridX509.Adapters
