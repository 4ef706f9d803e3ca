import HybridX509.Adapters.Process
import HybridX509.Lib.Traces
import Mathlib.Logic.Function.Basic

/-! # The version cache

`cached_version_output` of `adapters/mod.rs`. The lock is held for the lookup and again
for the insertion, but not while the program runs in between, so other callers may do
anything at these two points.
-/

namespace HybridX509.Adapters

open Lib

/-- `to_string_lossy`, which is also how a path is displayed. -/
def OsString.toStringLossy : OsString → String
  | .utf8 text => text
  | .other bytes => String.ofList (fromUtf8Lossy bytes)

def versionCacheKey (executable : OsString) (arguments : List OsString) : String :=
  arguments.foldl (fun key argument => key.push '\x00' ++ argument.toStringLossy)
    executable.toStringLossy

/-- The map behind the lock. -/
structure VersionCache where
  entries : String → Option ProcessOutput
  poisoned : Bool

namespace VersionCache

def empty : VersionCache := ⟨fun _ => none, false⟩

def lock (cache : VersionCache) : Except String (String → Option ProcessOutput) :=
  if cache.poisoned then .error "adapter version cache is poisoned" else .ok cache.entries

def get (cache : VersionCache) (key : String) : Except String (Option ProcessOutput) := do
  let entries ← cache.lock
  return entries key

def insert (cache : VersionCache) (key : String) (output : ProcessOutput) :
    Except String VersionCache := do
  let entries ← cache.lock
  return { cache with entries := Function.update entries key (some output) }

end VersionCache

/-- The runs that are kept. -/
def ProcessOutput.succeeded (output : ProcessOutput) : Bool :=
  output.statusCode == some 0 && !output.timedOut && !output.stdout.truncated
    && !output.stderr.truncated

structure VersionCall where
  executable : OsString
  arguments : List OsString
  limits : ProcessLimits
  deriving Repr, DecidableEq

def VersionCall.key (call : VersionCall) : String := versionCacheKey call.executable call.arguments

/-- The whole function, when no other caller comes in between. -/
def cachedVersionOutput
    (runProgram : OsString → List OsString → ProcessLimits → Except String ProcessOutput)
    (cache : VersionCache) (call : VersionCall) : Except String ProcessOutput × VersionCache :=
  match cache.get call.key with
  | .error error => (.error error, cache)
  | .ok (some output) => (.ok output, cache)
  | .ok none =>
      match runProgram call.executable call.arguments call.limits with
      | .error error => (.error error, cache)
      | .ok output =>
          if output.succeeded then
            match cache.insert call.key output with
            | .error error => (.error error, cache)
            | .ok cache => (.ok output, cache)
          else (.ok output, cache)

namespace VersionCache

/-! ## Callers side by side -/

/-- Where a caller stands. -/
inductive Progress where
  | lookup (call : VersionCall)
  | run (call : VersionCall)
  | insert (call : VersionCall) (output : ProcessOutput)
  deriving DecidableEq

inductive Event where
  /-- The program was run. -/
  | ran (call : VersionCall) (outcome : Except String ProcessOutput)
  /-- The output was returned from the cache, without running the program. -/
  | reused (call : VersionCall) (output : ProcessOutput)
  /-- The call ended in any other way. -/
  | returned (call : VersionCall) (result : Except String ProcessOutput)
  deriving DecidableEq

/-- A caller goes on to where it next takes or leaves the lock. The outcome is that of its
    run, should it be about to run the program. -/
def advance (cache : VersionCache) (outcome : Except String ProcessOutput) :
    Progress → VersionCache × Option Progress × List Event
  | .lookup call =>
      match cache.get call.key with
      | .error error => (cache, none, [.returned call (.error error)])
      | .ok (some output) => (cache, none, [.reused call output])
      | .ok none => (cache, some (.run call), [])
  | .run call =>
      match outcome with
      | .error error => (cache, none, [.ran call outcome, .returned call (.error error)])
      | .ok output =>
          if output.succeeded then (cache, some (.insert call output), [.ran call outcome])
          else (cache, none, [.ran call outcome, .returned call (.ok output)])
  | .insert call output =>
      match cache.insert call.key output with
      | .error error => (cache, none, [.returned call (.error error)])
      | .ok cache => (cache, none, [.returned call (.ok output)])

structure Callers (Thread : Type) where
  cache : VersionCache
  progress : Thread → Option Progress

inductive Choice (Thread : Type) where
  | call (thread : Thread) (call : VersionCall)
  | advance (thread : Thread) (outcome : Except String ProcessOutput)
  /-- The thread panics, at most while it holds the lock. -/
  | panic (thread : Thread)

variable {Thread : Type} [DecidableEq Thread]

def start : Callers Thread := ⟨empty, fun _ => none⟩

def step (callers : Callers Thread) : Choice Thread → Callers Thread × List Event
  | .call thread call =>
      match callers.progress thread with
      | some _ => (callers, [])
      | none =>
          (⟨callers.cache, Function.update callers.progress thread (some (.lookup call))⟩, [])
  | .advance thread outcome =>
      match callers.progress thread with
      | none => (callers, [])
      | some progress =>
          let (cache, progress, events) := advance callers.cache outcome progress
          (⟨cache, Function.update callers.progress thread progress⟩, events)
  | .panic thread =>
      match callers.progress thread with
      | none => (callers, [])
      | some (.run _) => (⟨callers.cache, Function.update callers.progress thread none⟩, [])
      | some _ =>
          (⟨{ callers.cache with poisoned := true },
            Function.update callers.progress thread none⟩, [])

end VersionCache

/-! ## The key -/

/-- Text in which the separator of the key does not occur. -/
def OsString.Plain : OsString → Prop
  | .utf8 text => '\x00' ∉ text.toList
  | .other _ => False

def VersionCall.Plain (call : VersionCall) : Prop :=
  ∀ word ∈ call.executable :: call.arguments, word.Plain

theorem toList_versionCacheKey (executable : OsString) (arguments : List OsString) :
    (versionCacheKey executable arguments).toList = ['\x00'].intercalate
      ((executable :: arguments).map fun word => word.toStringLossy.toList) := by
  rw [versionCacheKey, List.map_cons]
  generalize executable.toStringLossy = key
  induction arguments generalizing key with
  | nil => simp
  | cons argument rest ih =>
      rw [List.foldl_cons, ih]
      cases rest <;> simp [List.intercalate_cons_cons]

/-- Words without the separator are found again in the key. -/
theorem splitOn_versionCacheKey {executable : OsString} {arguments : List OsString}
    (plain : ∀ word ∈ executable :: arguments, word.Plain) :
    (versionCacheKey executable arguments).toList.splitOn '\x00' =
      (executable :: arguments).map fun word => word.toStringLossy.toList := by
  rw [toList_versionCacheKey, List.splitOn_intercalate _ _ (by simp)]
  intro chars member
  obtain ⟨word, inside, rfl⟩ := List.mem_map.mp member
  have words := plain word inside
  cases word with
  | utf8 text => exact words
  | other bytes => exact words.elim

/-- Plain words are given by their characters. -/
theorem map_toStringLossy_inverse {words : List OsString} (plain : ∀ word ∈ words, word.Plain) :
    (words.map fun word => word.toStringLossy.toList).map
      (fun chars => OsString.utf8 (String.ofList chars)) = words := by
  rw [List.map_map]
  calc words.map _ = words.map id := by
        refine List.map_congr_left fun word member => ?_
        have text := plain word member
        cases word with
        | utf8 text => simp [OsString.toStringLossy]
        | other bytes => exact text.elim
    _ = words := List.map_id words

theorem versionCacheKey_inj {executable executable' : OsString}
    {arguments arguments' : List OsString}
    (plain : ∀ word ∈ executable :: arguments, word.Plain)
    (plain' : ∀ word ∈ executable' :: arguments', word.Plain)
    (same : versionCacheKey executable arguments = versionCacheKey executable' arguments') :
    executable = executable' ∧ arguments = arguments' := by
  have words := congrArg (fun key : String => key.toList.splitOn '\x00') same
  simp only [splitOn_versionCacheKey plain, splitOn_versionCacheKey plain'] at words
  have texts := congrArg (List.map fun chars => OsString.utf8 (String.ofList chars)) words
  rw [map_toStringLossy_inverse plain, map_toStringLossy_inverse plain'] at texts
  exact List.cons.inj texts

namespace VersionCache

/-! ## One caller -/

theorem lock_ok {cache : VersionCache} {entries : String → Option ProcessOutput}
    (locked : cache.lock = .ok entries) : entries = cache.entries := by
  unfold lock at locked
  split at locked
  · cases locked
  · exact (Except.ok.inj locked).symm

theorem get_ok {cache : VersionCache} {key : String} {found : Option ProcessOutput}
    (looked : cache.get key = .ok found) : cache.entries key = found := by
  simp only [get, bind_ok_iff, pure_ok_iff] at looked
  obtain ⟨entries, locked, rfl⟩ := looked
  rw [lock_ok locked]

theorem insert_ok {cache cache' : VersionCache} {key : String} {output : ProcessOutput}
    (inserted : cache.insert key output = .ok cache') :
    cache'.entries = Function.update cache.entries key (some output) := by
  simp only [insert, bind_ok_iff, pure_ok_iff] at inserted
  obtain ⟨entries, locked, rfl⟩ := inserted
  rw [lock_ok locked]

/-! ## Every reused output -/

/-- A run in the past that succeeded with the output. -/
structure Produced (past : List Event) (call : VersionCall) (output : ProcessOutput) : Prop where
  ran : .ran call (.ok output) ∈ past
  succeeded : output.succeeded = true

def Progress.Sound (past : List Event) : Progress → Prop
  | .lookup call | .run call => call.Plain
  | .insert call output => call.Plain ∧ Produced past call output

/-- Everything in the map was produced under its key. -/
def Sound (past : List Event) (cache : VersionCache) : Prop :=
  ∀ key output, cache.entries key = some output →
    ∃ call, call.Plain ∧ call.key = key ∧ Produced past call output

/-- The invariant over the events so far. -/
structure Callers.Sound {Thread : Type} (past : List Event) (callers : Callers Thread) : Prop where
  cache : callers.cache.Sound past
  progress : ∀ thread, ∀ progress ∈ callers.progress thread, progress.Sound past

/-- An output from the cache is that of an earlier run of the same command, and any other
    output that of the run of the call. -/
def Accounted (before : List Event) : Event → Prop
  | .reused call output => ∃ earlier, Produced before earlier output ∧
      earlier.executable = call.executable ∧ earlier.arguments = call.arguments
  | .returned call (.ok output) => .ran call (.ok output) ∈ before
  | .ran _ _ | .returned _ (.error _) => True

section Sound

variable {past : List Event} {cache : VersionCache}

theorem Produced.append {call : VersionCall} {output : ProcessOutput}
    (produced : Produced past call output) (more : List Event) :
    Produced (past ++ more) call output :=
  ⟨List.mem_append_left more produced.ran, produced.succeeded⟩

theorem Sound.append (sound : cache.Sound past) (more : List Event) :
    cache.Sound (past ++ more) := by
  intro key output entry
  obtain ⟨call, plain, named, produced⟩ := sound key output entry
  exact ⟨call, plain, named, produced.append more⟩

theorem Progress.Sound.append {progress : Progress} (sound : progress.Sound past)
    (more : List Event) : progress.Sound (past ++ more) := by
  cases progress with
  | lookup call => exact sound
  | run call => exact sound
  | insert call output => exact ⟨sound.1, sound.2.append more⟩

/-- The first lookup of a plain call finds only what the same command printed. -/
theorem Sound.accounted (sound : cache.Sound past) {call : VersionCall} (plain : call.Plain)
    {output : ProcessOutput} (found : cache.entries call.key = some output) :
    Accounted past (.reused call output) := by
  obtain ⟨earlier, plainEarlier, sameKey, produced⟩ := sound call.key output found
  exact ⟨earlier, produced, versionCacheKey_inj plainEarlier plain sameKey⟩

theorem Sound.insert (sound : cache.Sound past) {cache' : VersionCache} {call : VersionCall}
    {output : ProcessOutput} (plain : call.Plain) (produced : Produced past call output)
    (inserted : cache.insert call.key output = .ok cache') : cache'.Sound past := by
  intro key kept entry
  rw [insert_ok inserted] at entry
  by_cases same : key = call.key
  · subst same
    rw [Function.update_self] at entry
    obtain rfl := Option.some.inj entry
    exact ⟨call, plain, rfl, produced⟩
  · rw [Function.update_of_ne same] at entry
    exact sound key kept entry

/-- What a caller leaves behind: the cache, where it stands, and its events. -/
structure SoundAfter (past : List Event) (after : VersionCache × Option Progress × List Event) :
    Prop where
  cache : after.1.Sound (past ++ after.2.2)
  caller : ∀ progress ∈ after.2.1, progress.Sound (past ++ after.2.2)
  justified : Justified Accounted past after.2.2

/-- A call that ends without touching the cache. -/
theorem Sound.ended (sound : cache.Sound past) {new : List Event}
    (justified : Justified Accounted past new) : SoundAfter past (cache, none, new) :=
  ⟨sound.append new, by simp, justified⟩

theorem lookup_sound (sound : cache.Sound past) (outcome : Except String ProcessOutput)
    {call : VersionCall} (plain : call.Plain) :
    SoundAfter past (advance cache outcome (.lookup call)) := by
  cases found : cache.get call.key with
  | error error =>
      simp only [advance, found]
      exact sound.ended ⟨trivial, trivial⟩
  | ok entry =>
      cases entry with
      | none =>
          simp only [advance, found]
          exact ⟨sound.append [], by simpa [Progress.Sound] using plain, trivial⟩
      | some output =>
          simp only [advance, found]
          exact sound.ended ⟨sound.accounted plain (get_ok found), trivial⟩

theorem run_sound (sound : cache.Sound past) (outcome : Except String ProcessOutput)
    {call : VersionCall} (plain : call.Plain) :
    SoundAfter past (advance cache outcome (.run call)) := by
  cases outcome with
  | error error => exact sound.ended ⟨trivial, trivial, trivial⟩
  | ok output =>
      by_cases succeeded : output.succeeded = true
      · simp only [advance, if_pos succeeded]
        refine ⟨sound.append _, ?_, trivial, trivial⟩
        intro progress next
        cases next
        exact ⟨plain, List.mem_append_right past List.mem_cons_self, succeeded⟩
      · simp only [advance, if_neg succeeded]
        exact sound.ended ⟨trivial, List.mem_append_right past List.mem_cons_self, trivial⟩

theorem insert_sound (sound : cache.Sound past) (outcome : Except String ProcessOutput)
    {call : VersionCall} {output : ProcessOutput} (plain : call.Plain)
    (produced : Produced past call output) :
    SoundAfter past (advance cache outcome (.insert call output)) := by
  cases inserted : cache.insert call.key output with
  | error error =>
      simp only [advance, inserted]
      exact sound.ended ⟨trivial, trivial⟩
  | ok cache' =>
      simp only [advance, inserted]
      exact (sound.insert plain produced inserted).ended ⟨produced.ran, trivial⟩

/-- Whatever a caller does next keeps the cache sound and accounts for its own events. -/
theorem advance_sound (sound : cache.Sound past) (outcome : Except String ProcessOutput)
    {progress : Progress} (caller : progress.Sound past) :
    SoundAfter past (advance cache outcome progress) := by
  cases progress with
  | lookup call => exact lookup_sound sound outcome caller
  | run call => exact run_sound sound outcome caller
  | insert call output => exact insert_sound sound outcome caller.1 caller.2

end Sound

section Schedule

variable {Thread : Type}

theorem start_sound : (start : Callers Thread).Sound [] := by
  constructor
  · intro key output entry
    cases entry
  · intro thread progress member
    cases member

/-- The calls that a schedule makes name plain commands. -/
def Choice.Plain : Choice Thread → Prop
  | .call _ command => command.Plain
  | .advance _ _ | .panic _ => True

variable [DecidableEq Thread] {past : List Event} {callers : Callers Thread}

theorem update_sound {standing : Thread → Option Progress} {thread : Thread}
    {next : Option Progress}
    (others : ∀ thread, ∀ progress ∈ standing thread, progress.Sound past)
    (own : ∀ progress ∈ next, progress.Sound past) :
    ∀ thread', ∀ progress ∈ Function.update standing thread next thread',
      progress.Sound past := by
  intro thread'
  by_cases same : thread' = thread
  · subst same
    rwa [Function.update_self]
  · rw [Function.update_of_ne same]
    exact others thread'

/-- One choice of the schedule. -/
theorem step_sound {choice : Choice Thread} (plain : choice.Plain) (sound : callers.Sound past) :
    (step callers choice).1.Sound (past ++ (step callers choice).2) ∧
      Justified Accounted past (step callers choice).2 := by
  cases choice with
  | call thread command =>
      cases found : callers.progress thread with
      | some progress =>
          simp only [step, found, List.append_nil]
          exact ⟨sound, trivial⟩
      | none =>
          have begun : ∀ thread', ∀ progress ∈ Function.update callers.progress thread
              (some (.lookup command)) thread', progress.Sound past :=
            update_sound sound.progress (by simpa [Progress.Sound, Choice.Plain] using plain)
          simp only [step, found, List.append_nil]
          exact ⟨⟨sound.cache, begun⟩, trivial⟩
  | advance thread outcome =>
      cases found : callers.progress thread with
      | none =>
          simp only [step, found, List.append_nil]
          exact ⟨sound, trivial⟩
      | some progress =>
          have after := advance_sound sound.cache outcome (sound.progress thread progress found)
          simp only [step, found]
          refine ⟨⟨after.cache, update_sound ?_ after.caller⟩, after.justified⟩
          intro other standing member
          exact (sound.progress other standing member).append _
  | panic thread =>
      have others : ∀ thread', ∀ progress ∈ Function.update callers.progress thread none thread',
          progress.Sound past := update_sound sound.progress (by simp)
      cases found : callers.progress thread with
      | none =>
          simp only [step, found, List.append_nil]
          exact ⟨sound, trivial⟩
      | some progress =>
          cases progress <;> simp only [step, found, List.append_nil]
          · exact ⟨⟨sound.cache, others⟩, trivial⟩
          · exact ⟨⟨sound.cache, others⟩, trivial⟩
          · exact ⟨⟨sound.cache, others⟩, trivial⟩

end Schedule

theorem succeeded_iff {output : ProcessOutput} :
    output.succeeded = true ↔ output.statusCode = some 0 ∧ output.timedOut = false ∧
      output.stdout.truncated = false ∧ output.stderr.truncated = false := by
  simp [ProcessOutput.succeeded, and_assoc]

/-- Every event of every schedule is accounted for. -/
theorem accounted_of_trace {Thread : Type} [DecidableEq Thread] {schedule : List (Choice Thread)}
    (plain : ∀ choice ∈ schedule, choice.Plain) {before after : List Event} {event : Event}
    (trace : events step start schedule = before ++ event :: after) : Accounted before event := by
  have justified : Justified Accounted [] (events step start schedule) :=
    events_justified (fun _ _ _ => step_sound) plain start_sound
  rw [trace] at justified
  exact justified.between

/-- In every interleaving of callers, an output that is returned without running the
    program comes from an earlier run of the same executable with the same arguments,
    which ended well and lost nothing. The key tells the commands apart. -/
theorem reused_same_command {Thread : Type} [DecidableEq Thread] {schedule : List (Choice Thread)}
    (plain : ∀ choice ∈ schedule, choice.Plain) :
    (∀ before call output after,
      events step start schedule = before ++ .reused call output :: after →
        ∃ earlier, .ran earlier (.ok output) ∈ before ∧
          earlier.executable = call.executable ∧ earlier.arguments = call.arguments ∧
          output.statusCode = some 0 ∧ output.timedOut = false ∧
          output.stdout.truncated = false ∧ output.stderr.truncated = false) ∧
    ∀ executable arguments executable' arguments',
      (∀ word ∈ executable :: arguments, word.Plain) →
      (∀ word ∈ executable' :: arguments', word.Plain) →
      versionCacheKey executable arguments = versionCacheKey executable' arguments' →
      executable = executable' ∧ arguments = arguments' := by
  constructor
  · intro before call output after trace
    obtain ⟨earlier, produced, executable, arguments⟩ := accounted_of_trace plain trace
    exact ⟨earlier, produced.ran, executable, arguments, succeeded_iff.mp produced.succeeded⟩
  · intro executable arguments executable' arguments' plain plain' same
    exact versionCacheKey_inj plain plain' same

/-! A version that is asked for by three threads. The second one looks it up before the
    first one has stored it; the third one does so afterwards. -/

def opensslVersion : VersionCall :=
  ⟨.utf8 "/usr/bin/openssl", [.utf8 "version"], ⟨⟨5, 0⟩, 1024⟩⟩

def printedVersion : ProcessOutput :=
  ⟨some 0, false, ⟨0, 1000⟩, ⟨[51, 46, 53], false⟩, ⟨[], false⟩⟩

def threeThreads : List (Choice Nat) :=
  [.call 0 opensslVersion, .advance 0 (.ok printedVersion), .advance 0 (.ok printedVersion),
    .call 1 opensslVersion, .advance 1 (.error "lost"), .advance 0 (.ok printedVersion),
    .advance 1 (.error "lost"), .call 2 opensslVersion, .advance 2 (.error "lost")]

theorem threeThreads_trace : (∀ choice ∈ threeThreads, choice.Plain) ∧
    events step start threeThreads =
      [.ran opensslVersion (.ok printedVersion), .returned opensslVersion (.ok printedVersion),
        .ran opensslVersion (.error "lost"), .returned opensslVersion (.error "lost")] ++
      [.reused opensslVersion printedVersion] := by
  constructor
  · simp [threeThreads, Choice.Plain, VersionCall.Plain, opensslVersion, OsString.Plain]
  · decide +kernel

theorem reused_same_command_threeThreads :
    ∃ before, events step start threeThreads = before ++ [.reused opensslVersion printedVersion] ∧
      ∃ earlier, .ran earlier (.ok printedVersion) ∈ before ∧
        earlier.executable = opensslVersion.executable ∧
        earlier.arguments = opensslVersion.arguments := by
  obtain ⟨plain, trace⟩ := threeThreads_trace
  obtain ⟨earlier, ran, executable, arguments, _⟩ :=
    (reused_same_command plain).1 _ _ _ _ trace
  exact ⟨_, trace, earlier, ran, executable, arguments⟩

/-! ## What the program wrote -/

namespace Event

def call : Event → VersionCall
  | .ran call _ | .reused call _ | .returned call _ => call

/-- What a call ended with, if the event is the end of a call. -/
def result : Event → Option (Except String ProcessOutput)
  | .ran _ _ => none
  | .reused _ output => some (.ok output)
  | .returned _ result => some result

end Event

/-- The schedule in which a call is not interrupted. -/
def uninterrupted {Thread : Type} (thread : Thread) (call : VersionCall)
    (outcome : Except String ProcessOutput) : List (Choice Thread) :=
  .call thread call :: List.replicate 3 (.advance thread outcome)

/-- A call that is not interrupted returns, and leaves in the cache, what the whole function
    does. -/
theorem uninterrupted_eq {Thread : Type} [DecidableEq Thread] (thread : Thread)
    {runProgram : OsString → List OsString → ProcessLimits → Except String ProcessOutput}
    {call : VersionCall} {outcome : Except String ProcessOutput}
    (ran : runProgram call.executable call.arguments call.limits = outcome)
    (cache : VersionCache) :
    (events step ⟨cache, fun _ => none⟩ (uninterrupted thread call outcome)).filterMap
        Event.result = [(cachedVersionOutput runProgram cache call).1] ∧
      ((uninterrupted thread call outcome).foldl (fun callers choice => (step callers choice).1)
        ⟨cache, fun _ => none⟩).cache = (cachedVersionOutput runProgram cache call).2 := by
  simp only [uninterrupted, List.replicate, events, step, Function.update_self, List.foldl_cons,
    List.foldl_nil, cachedVersionOutput, advance, ran]
  cases found : cache.get call.key with
  | error error => simp [Event.result]
  | ok entry =>
      cases entry with
      | some output => simp [Event.result]
      | none =>
          cases outcome with
          | error error => simp [List.filterMap_cons, Event.result]
          | ok output =>
              by_cases succeeded : output.succeeded = true
              · cases inserted : cache.insert call.key output with
                | error error => simp [List.filterMap_cons, Event.result, succeeded, inserted]
                | ok cache' => simp [List.filterMap_cons, Event.result, succeeded, inserted]
              · simp [List.filterMap_cons, Event.result, succeeded]

end VersionCache

end HybridX509.Adapters
