import HybridX509.Adapters.Execution

/-! # Running a program

The running half of `process.rs`: a child with both streams piped, waited for until a
timeout and killed after it, and the reader that keeps a bounded part of a stream. A
`Child` gives what the operating system answers to each call on it.
-/

namespace HybridX509.Adapters

open Lib Revocation.Ocsp

structure ProcessLimits where
  timeout : Duration
  maxOutputBytes : Nat
  deriving Repr, DecidableEq

/-! ## Bounded capture -/

/-- The length of the buffer that a read fills. -/
def BUFFER_BYTES : Nat := 8192

/-- One pass of the loop of `read_bounded`, after a read that is not empty. -/
def capture (limit : Nat) (captured : CapturedStream) (read : List UInt8) : CapturedStream :=
  let remaining := limit - captured.bytes.length
  { bytes := captured.bytes ++ read.take (min read.length remaining)
    truncated := captured.truncated || decide (remaining < read.length) }

/-- The loop of `read_bounded` over what the calls of `read` return. -/
def readLoop (limit : Nat) (captured : CapturedStream) :
    List (Except String (List UInt8)) → Except String CapturedStream
  | [] | .ok [] :: _ => .ok captured
  | .error error :: _ => .error error
  | .ok (first :: rest) :: reads => readLoop limit (capture limit captured (first :: rest)) reads

def readBounded (limit : Nat) (reads : List (Except String (List UInt8))) :
    Except String CapturedStream :=
  readLoop limit ⟨[], false⟩ reads

/-- What is to be kept of a stream: as much of it as the limit allows, and whether there
    was more. -/
def bounded (limit : Nat) (stream : List UInt8) : CapturedStream :=
  ⟨stream.take (min limit stream.length), decide (limit < stream.length)⟩

/-- A way to hand out a stream: reads that are not empty and that fit the buffer. -/
structure Splits (reads : List (List UInt8)) (stream : List UInt8) : Prop where
  whole : reads.flatten = stream
  sized : ∀ read ∈ reads, 1 ≤ read.length ∧ read.length ≤ BUFFER_BYTES

theorem length_bounded (limit : Nat) (stream : List UInt8) :
    (bounded limit stream).bytes.length = min limit stream.length := by
  simp [bounded]

/-- A read adds to what is kept of the stream before it exactly what the longer stream
    still has room for, and the flag is set by the read that crosses the limit. -/
theorem capture_bounded (limit : Nat) (seen read : List UInt8) :
    capture limit (bounded limit seen) read = bounded limit (seen ++ read) := by
  have bytes : seen.take (min limit seen.length) ++
        read.take (min read.length (limit - min limit seen.length)) =
      (seen ++ read).take (min limit (seen ++ read).length) := by
    rw [List.take_append, List.length_append]
    congr 1
    · exact List.take_eq_take_iff.mpr (by omega)
    · exact List.take_eq_take_iff.mpr (by omega)
  have truncated : (decide (limit < seen.length) ||
        decide (limit - min limit seen.length < read.length)) =
      decide (limit < (seen ++ read).length) := by
    rw [List.length_append, ← Bool.decide_or]
    exact decide_eq_decide.mpr (by omega)
  simp only [capture, length_bounded]
  simp only [bounded, bytes, truncated]

/-- The loop keeps the bounded part of what was read so far, whatever the reads were. -/
theorem readLoop_bounded (limit : Nat) (later : List (Except String (List UInt8)))
    {reads : List (List UInt8)} (sized : ∀ read ∈ reads, 1 ≤ read.length) (seen : List UInt8) :
    readLoop limit (bounded limit seen) (reads.map .ok ++ .ok [] :: later) =
      .ok (bounded limit (seen ++ reads.flatten)) := by
  induction reads generalizing seen with
  | nil => simp [readLoop]
  | cons read rest ih =>
      have others := ih fun read member => sized read (List.mem_cons_of_mem _ member)
      cases read with
      | nil => exact absurd (sized [] List.mem_cons_self) (by simp)
      | cons first further =>
          simp only [List.map_cons, List.cons_append, readLoop, capture_bounded, others,
            List.flatten_cons, List.append_assoc]

theorem readBounded_reads (limit : Nat) (later : List (Except String (List UInt8)))
    {reads : List (List UInt8)} (sized : ∀ read ∈ reads, 1 ≤ read.length) :
    readBounded limit (reads.map .ok ++ .ok [] :: later) = .ok (bounded limit reads.flatten) := by
  have start : (⟨[], false⟩ : CapturedStream) = bounded limit [] := by simp [bounded]
  rw [readBounded, start, readLoop_bounded limit later sized, List.nil_append]

/-- However a stream is cut into reads, `read_bounded` returns its first `limit` bytes, or
    all of it, and says whether there were more. -/
theorem readBounded_splits {limit : Nat} {stream : List UInt8} {reads : List (List UInt8)}
    (splits : Splits reads stream) (later : List (Except String (List UInt8))) :
    readBounded limit (reads.map .ok ++ .ok [] :: later) =
      .ok ⟨stream.take (min limit stream.length), decide (limit < stream.length)⟩ := by
  have sized : ∀ read ∈ reads, 1 ≤ read.length := fun read member => (splits.sized read member).1
  rw [readBounded_reads limit later sized, splits.whole, bounded]

/-- Two reads that end at the limit, and a third one after them. -/
theorem readBounded_splits_atLimit :
    readBounded 3 ([[1, 2], [3]].map .ok ++ [.ok []]) = .ok ⟨[1, 2, 3], false⟩ ∧
      readBounded 3 ([[1, 2], [3], [4, 5]].map .ok ++ [.ok []]) = .ok ⟨[1, 2, 3], true⟩ := by
  have full : Splits [[1, 2], [3]] [1, 2, 3] := ⟨rfl, by decide⟩
  have beyond : Splits [[1, 2], [3], [4, 5]] [1, 2, 3, 4, 5] := ⟨rfl, by decide⟩
  exact ⟨readBounded_splits full [], readBounded_splits beyond []⟩

/-! ## A run -/

structure OsError where
  raw : Int32
  text : String
  deriving Repr, DecidableEq

/-- What the calls on a spawned child return. -/
structure Child where
  id : UInt32
  waitTimeout : Duration → Except String (Option (Option Int32))
  /-- `libc::kill` with `SIGKILL`. -/
  kill : Int → Except OsError Unit
  wait : Except String (Option Int32)
  elapsed : Duration
  stdout : List (Except String (List UInt8))
  stderr : List (Except String (List UInt8))

def ESRCH : Int32 := 3

/-- Kills the process group of the child. A group that is already gone is no error. -/
def terminate (child : Child) : Except String Unit := do
  failIf (2 ^ 31 ≤ child.id.toNat) "child process identifier is out of range"
  match child.kill (-child.id.toNat) with
  | .ok () => .ok ()
  | .error error => if error.raw = ESRCH then .ok () else .error error.text

/-- The status of the child, and whether it had to be killed. -/
def awaitChild (child : Child) (timeout : Duration) : Except String (Option Int32 × Bool) := do
  match ← child.waitTimeout timeout with
  | some status => return (status, false)
  | none =>
      terminate child
      return (← child.wait, true)

def runProgram (spawn : OsString → List OsString → Except String Child) (program : OsString)
    (args : List OsString) (limits : ProcessLimits) : Except String ProcessOutput := do
  failIf (limits.maxOutputBytes = 0) "max_output_bytes must be greater than zero"
  let child ← spawn program args
  let (status, timedOut) ← awaitChild child limits.timeout
  let stdout ← readBounded limits.maxOutputBytes child.stdout
  let stderr ← readBounded limits.maxOutputBytes child.stderr
  return ⟨status, timedOut, child.elapsed, stdout, stderr⟩

/-- A pipe that carries a stream to its end. -/
def Carries (reads : List (Except String (List UInt8))) (stream : List UInt8) : Prop :=
  ∃ chunks later, Splits chunks stream ∧ reads = chunks.map .ok ++ .ok [] :: later

theorem bounded_whole_iff {limit : Nat} {stream : List UInt8} :
    (bounded limit stream).truncated = false ↔ (bounded limit stream).bytes = stream := by
  simp only [bounded, decide_eq_false_iff_not, Nat.not_lt, List.take_eq_self_iff]
  omega

/-- A program that was spawned as a child, with the streams that the child wrote and the
    output of the run. -/
structure RunsChild (spawn : OsString → List OsString → Except String Child) (program : OsString)
    (args : List OsString) (limits : ProcessLimits) (child : Child) (stdout stderr : List UInt8)
    (output : ProcessOutput) : Prop where
  spawned : spawn program args = .ok child
  out : Carries child.stdout stdout
  err : Carries child.stderr stderr
  ran : runProgram spawn program args limits = .ok output

theorem readBounded_carries {reads : List (Except String (List UInt8))} {stream : List UInt8}
    (limit : Nat) (carries : Carries reads stream) :
    readBounded limit reads = .ok (bounded limit stream) := by
  obtain ⟨chunks, later, splits, rfl⟩ := carries
  have sized : ∀ read ∈ chunks, 1 ≤ read.length := fun read member => (splits.sized read member).1
  rw [readBounded_reads limit later sized, splits.whole]

/-- A child that was not killed ended by itself before the timeout. -/
theorem awaitChild_ended {child : Child} {timeout : Duration} {status : Option Int32}
    (awaited : awaitChild child timeout = .ok (status, false)) :
    child.waitTimeout timeout = .ok (some status) := by
  simp only [awaitChild, bind_ok_iff] at awaited
  obtain ⟨waited, ended, rest⟩ := awaited
  cases waited with
  | some status' =>
      obtain rfl := (Prod.mk.inj (pure_ok_iff.mp rest)).1
      exact ended
  | none =>
      simp only [bind_ok_iff, pure_ok_iff, Prod.mk.injEq] at rest
      obtain ⟨_, _, _, _, _, timedOut⟩ := rest
      cases timedOut

section Run

variable {spawn : OsString → List OsString → Except String Child} {program : OsString}
  {args : List OsString} {limits : ProcessLimits} {child : Child} {stdout stderr : List UInt8}
  {output : ProcessOutput}

/-- The streams in the output of a run are those of the child, cut at the limit, and its
    status is that of a child that ended by itself unless the time was over. -/
theorem RunsChild.observed (runs : RunsChild spawn program args limits child stdout stderr output) :
    output.stdout = bounded limits.maxOutputBytes stdout ∧
      output.stderr = bounded limits.maxOutputBytes stderr ∧
      (output.timedOut = false →
        child.waitTimeout limits.timeout = .ok (some output.statusCode)) := by
  have ran := runs.ran
  simp only [runProgram, bind_ok_iff, exists_unit_iff, failIf_ok_iff, pure_ok_iff, runs.spawned,
    Except.ok.injEq, exists_eq_left', readBounded_carries _ runs.out,
    readBounded_carries _ runs.err, Prod.exists] at ran
  obtain ⟨_, status, timedOut, awaited, rfl⟩ := ran
  refine ⟨rfl, rfl, ?_⟩
  rintro rfl
  exact awaitChild_ended awaited

/-- A run that was not stopped and lost nothing kept all that the child wrote. -/
theorem RunsChild.whole (runs : RunsChild spawn program args limits child stdout stderr output)
    (timedOut : output.timedOut = false) (out : output.stdout.truncated = false)
    (err : output.stderr.truncated = false) :
    output.stdout.bytes = stdout ∧ output.stderr.bytes = stderr ∧
      child.waitTimeout limits.timeout = .ok (some output.statusCode) := by
  obtain ⟨outBounded, errBounded, ended⟩ := runs.observed
  rw [outBounded] at out ⊢
  rw [errBounded] at err ⊢
  exact ⟨bounded_whole_iff.mp out, bounded_whole_iff.mp err, ended timedOut⟩

end Run

end HybridX509.Adapters
