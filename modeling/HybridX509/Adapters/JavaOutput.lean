import HybridX509.Adapters.Execution
import HybridX509.Lib.Ascii
import HybridX509.Lib.Json

/-! # The line of the Bouncy Castle program

`BcX509Adapter.result` prints one line of JSON with its own escaping of strings, and
`classify_json_verdict` reads it back. The escaping covers the quotation mark, the
backslash and two control characters; a JSON string may hold no control character at
all, so the line is readable exactly when its texts hold no other one.
-/

namespace HybridX509.Adapters.JavaOutput

open Lib

/-! ## `BcX509Adapter.java` -/

/-- The words a verdict is printed as. -/
inductive Verdict where
  | accept
  | reject
  | unsupported
  deriving Repr, DecidableEq

def Verdict.word : Verdict → String
  | .accept => "accept"
  | .reject => "reject"
  | .unsupported => "unsupported"

/-- The operations `result` is called with. -/
inductive Operation where
  | checkCrlStatus
  | checkCertificateSignature
  | checkAlternativeSignature
  | checkDeltaCertificateSignature
  | validatePkixPath
  | buildPkixPath
  deriving Repr, DecidableEq

def Operation.name : Operation → String
  | .checkCrlStatus => "check-crl-status"
  | .checkCertificateSignature => "check-certificate-signature"
  | .checkAlternativeSignature => "check-alternative-signature"
  | .checkDeltaCertificateSignature => "check-delta-certificate-signature"
  | .validatePkixPath => "validate-pkix-path"
  | .buildPkixPath => "build-pkix-path"

/-- `String.replace` with a target of one character. -/
def replace (target : Char) (replacement chars : List Char) : List Char :=
  chars.flatMap fun c => if c = target then replacement else [c]

def escape (value : String) : String :=
  .ofList (replace '\r' ['\\', 'r'] (replace '\n' ['\\', 'n']
    (replace '"' ['\\', '"'] (replace '\\' ['\\', '\\'] value.toList))))

/-- The line without the separator that `println` adds. -/
def result (verdict : Verdict) (error : Option String) (operation : Operation)
    (algorithm : String) : String :=
  "\x7b\"verdict\":\"" ++ verdict.word ++ "\",\"error\":"
    ++ error.elim "null" (fun error => "\"" ++ escape error ++ "\"")
    ++ ",\"trace\":[\x7b\"operation\":\"" ++ operation.name ++ "\",\"target\":\"leaf\","
    ++ "\"algorithm\":\"" ++ escape algorithm ++ "\",\"outcome\":\"" ++ verdict.word
    ++ "\"\x7d]\x7d"

/-- The image prints UTF-8. -/
def printed (verdict : Verdict) (error : Option String) (operation : Operation)
    (algorithm : String) : List UInt8 :=
  bytes (result verdict error operation algorithm ++ "\n")

/-! ## `JsonVerdict` -/

/-- The deserializer of the one-field structure: other members are ignored, the field is
    given once, and an array stands for the fields in order. -/
def jsonVerdict : Json → Option String
  | .object members =>
      match members.filter fun (key, _) => key = "verdict".toList.map Char.toNat with
      | [(_, .string points)] => Json.text points
      | _ => none
  | .array [.string points] => Json.text points
  | _ => none

/-- `from_slice::<JsonVerdict>`, over a reader of RFC 8259. -/
def verdictFromSlice (slice : List UInt8) : Option String := do
  let text ← String.fromUTF8? ⟨slice.toArray⟩
  let json ← Json.read text.toList
  jsonVerdict json

/-- What a verdict is classified as when its line is read. -/
def Verdict.classified : Verdict → StackVerdict
  | .accept => .accept
  | .reject => .reject
  | .unsupported => .unsupported

/-! ## Escaped strings -/

/-- The control characters that `escape` knows are the only ones of the text. -/
def Covered (text : List Char) : Prop := ∀ c ∈ text, c.toNat < 0x20 → c = '\n' ∨ c = '\r'

instance (text : List Char) : Decidable (Covered text) :=
  List.decidableBAll (fun c : Char => c.toNat < 0x20 → c = '\n' ∨ c = '\r') text

theorem covered_cons {c : Char} {text : List Char} :
    Covered (c :: text) ↔ (c.toNat < 0x20 → c = '\n' ∨ c = '\r') ∧ Covered text :=
  List.forall_mem_cons

/-- The four replacements at one character. -/
def escapeChar (c : Char) : List Char :=
  if c = '\\' then ['\\', '\\']
  else if c = '"' then ['\\', '"']
  else if c = '\n' then ['\\', 'n']
  else if c = '\r' then ['\\', 'r']
  else [c]

theorem toList_escape (value : String) :
    (escape value).toList = value.toList.flatMap escapeChar := by
  simp only [escape, replace, String.toList_ofList, List.flatMap_assoc]
  congr 1
  funext c
  simp only [escapeChar]
  split_ifs <;> simp_all

/-- An escaped character is read as itself, unless it is a control character that was
    left as it is. -/
theorem readString_escapeChar {c : Char} (rest : List Char) :
    Json.readString (escapeChar c ++ rest) =
      if c.toNat < 0x20 → c = '\n' ∨ c = '\r' then
        (Json.readString rest).map fun (points, rest) => (c.toNat :: points, rest)
      else none := by
  by_cases simple : c = '\\' ∨ c = '"' ∨ c = '\n' ∨ c = '\r'
  · obtain rfl | rfl | rfl | rfl := simple
    all_goals exact Json.readString_simpleEscape (by decide)
  · simp only [not_or] at simple
    obtain ⟨notEscape, notQuote, notNewline, notReturn⟩ := simple
    have plain : escapeChar c = [c] := by
      simp only [escapeChar, notEscape, notQuote, notNewline, notReturn, if_false]
    rw [plain, List.singleton_append]
    by_cases control : c.toNat < 0x20
    · have uncovered : ¬ (c.toNat < 0x20 → c = '\n' ∨ c = '\r') :=
        fun covered => (covered control).elim notNewline notReturn
      rw [if_neg uncovered, Json.readString_control control]
    · rw [if_pos fun small => absurd small control,
        Json.readString_unescaped ⟨Nat.le_of_not_lt control, notQuote, notEscape⟩]

theorem readString_escaped (text rest : List Char) :
    Json.readString (text.flatMap escapeChar ++ '"' :: rest) =
      if Covered text then some (text.map Char.toNat, rest) else none := by
  induction text with
  | nil => exact Json.readString_quote
  | cons head tail ih =>
      rw [List.flatMap_cons, List.append_assoc, readString_escapeChar, ih]
      by_cases first : head.toNat < 0x20 → head = '\n' ∨ head = '\r'
      · by_cases others : Covered tail
        · rw [if_pos first, if_pos others, if_pos (covered_cons.mpr ⟨first, others⟩)]
          rfl
        · rw [if_pos first, if_neg others, if_neg fun all => others (covered_cons.mp all).2]
          rfl
      · rw [if_neg first, if_neg fun all => first (covered_cons.mp all).1]

/-! ## The line -/

section Line

variable {verdict : Verdict} {error : Option String} {operation : Operation} {algorithm : String}
  {fuel : Nat} {rest : List Char}

open Json

theorem unescaped_word (verdict : Verdict) : ∀ c ∈ verdict.word.toList, Unescaped c := by
  cases verdict <;> simp [Verdict.word, Unescaped]

theorem unescaped_name (operation : Operation) : ∀ c ∈ operation.name.toList, Unescaped c := by
  cases operation <;> simp [Operation.name, Unescaped]

/-- A word in quotation marks before the rest of a line. -/
def quoted (word : String) (rest : List Char) : List Char := '"' :: word.toList ++ '"' :: rest

theorem readValue_quoted {word : String} (plain : ∀ c ∈ word.toList, Unescaped c) :
    readValue (fuel + 1) (quoted word rest) =
      some (.string (word.toList.map Char.toNat), rest) := by
  rw [quoted, List.cons_append, readValue_string, readString_plain plain]
  rfl

theorem readValue_covered {value : String} (covered : Covered value.toList) :
    readValue (fuel + 1) (quoted (escape value) rest) =
      some (.string (value.toList.map Char.toNat), rest) := by
  rw [quoted, List.cons_append, readValue_string, toList_escape, readString_escaped,
    if_pos covered]
  rfl

theorem readValue_uncovered {value : String} (uncovered : ¬ Covered value.toList) :
    readValue (fuel + 1) (quoted (escape value) rest) = none := by
  rw [quoted, List.cons_append, readValue_string, toList_escape, readString_escaped,
    if_neg uncovered]
  rfl

/-- The object in the list `trace`, before the rest of the line. -/
def traceText (verdict : Verdict) (operation : Operation) (algorithm : String)
    (rest : List Char) : List Char :=
  '{' :: member "operation" (quoted operation.name (',' :: member "target" (quoted "leaf"
    (',' :: member "algorithm" (quoted (escape algorithm) (',' :: member "outcome"
      (quoted verdict.word ('}' :: rest))))))))

/-- What follows the name `error` and its colon, before the rest of the line. -/
def errorText (error : Option String) (rest : List Char) : List Char :=
  match error with
  | none => 'n' :: 'u' :: 'l' :: 'l' :: rest
  | some error => quoted (escape error) rest

theorem toList_line : (result verdict error operation algorithm ++ "\n").toList =
    '{' :: member "verdict" (quoted verdict.word (',' :: member "error" (errorText error
      (',' :: member "trace" ('[' :: traceText verdict operation algorithm
        [']', '}', '\n']))))) := by
  unfold result
  cases error with
  | none => simp [member, quoted, traceText, errorText, String.toList_append]
  | some error => simp [member, quoted, traceText, errorText, String.toList_append]

/-- The object that `traceText` is the text of. -/
def traceValue (verdict : Verdict) (operation : Operation) (algorithm : String) : Json :=
  .object ([("operation", operation.name), ("target", "leaf"), ("algorithm", algorithm),
    ("outcome", verdict.word)].map fun (key, value) =>
      (key.toList.map Char.toNat, .string (value.toList.map Char.toNat)))

theorem readValue_trace (fuel : Nat) (verdict : Verdict) (operation : Operation)
    (algorithm : String) (rest : List Char) :
    readValue (fuel + 6) (traceText verdict operation algorithm rest) =
      if Covered algorithm.toList then some (traceValue verdict operation algorithm, rest)
      else none := by
  rw [traceText, readValue_object,
    readMembers_more "operation" (by simp [Unescaped])
      (readValue_quoted (unescaped_name operation)),
    readMembers_more "target" (by simp [Unescaped]) (readValue_quoted (by simp [Unescaped]))]
  by_cases covered : Covered algorithm.toList
  · rw [if_pos covered,
      readMembers_more "algorithm" (by simp [Unescaped]) (readValue_covered covered),
      readMembers_last "outcome" (by simp [Unescaped]) (readValue_quoted (unescaped_word verdict))]
    rfl
  · rw [if_neg covered,
      readMembers_none "algorithm" (by simp [Unescaped]) (readValue_uncovered covered)]
    rfl

/-- The value of the member `error`. -/
def errorValue (error : Option String) : Json :=
  error.elim .null fun error => .string (error.toList.map Char.toNat)

/-- All texts of a line are covered. -/
def LineCovered (error : Option String) (algorithm : String) : Prop :=
  (∀ text ∈ error, Covered text.toList) ∧ Covered algorithm.toList

instance (error : Option String) (algorithm : String) :
    Decidable (LineCovered error algorithm) :=
  inferInstanceAs (Decidable ((∀ text ∈ error, Covered text.toList) ∧ Covered algorithm.toList))

theorem readValue_error (covered : ∀ text ∈ error, Covered text.toList) :
    readValue (fuel + 1) (errorText error rest) = some (errorValue error, rest) := by
  cases error with
  | none => exact readValue_null
  | some error => exact readValue_covered (covered error rfl)

theorem readValue_error_none (uncovered : ¬ ∀ text ∈ error, Covered text.toList) :
    readValue (fuel + 1) (errorText error rest) = none := by
  cases error with
  | none => exact absurd (by simp) uncovered
  | some error => exact readValue_uncovered fun covered => uncovered (by simpa using covered)

theorem readValue_traces :
    readValue (fuel + 8) ('[' :: traceText verdict operation algorithm (']' :: rest)) =
      if Covered algorithm.toList then some (.array [traceValue verdict operation algorithm], rest)
      else none := by
  have items : readValue (fuel + 8) ('[' :: traceText verdict operation algorithm (']' :: rest)) =
      (readItems (fuel + 7) (traceText verdict operation algorithm (']' :: rest))).map
        fun read => (array read.1, read.2) := readValue_array
  have first := readValue_trace fuel verdict operation algorithm (']' :: rest)
  by_cases covered : Covered algorithm.toList
  · rw [if_pos covered] at first
    rw [if_pos covered, items, readItems_last first]
    rfl
  · rw [if_neg covered] at first
    rw [if_neg covered, items, readItems_none first]
    rfl

/-- The members of the line. -/
def lineMembers (verdict : Verdict) (error : Option String) (operation : Operation)
    (algorithm : String) : List (List Nat × Json) :=
  [("verdict".toList.map Char.toNat, .string (verdict.word.toList.map Char.toNat)),
    ("error".toList.map Char.toNat, errorValue error),
    ("trace".toList.map Char.toNat, .array [traceValue verdict operation algorithm])]

theorem readValue_line (fuel : Nat) :
    readValue (fuel + 12) (result verdict error operation algorithm ++ "\n").toList =
      if LineCovered error algorithm then
        some (.object (lineMembers verdict error operation algorithm), ['\n'])
      else none := by
  rw [toList_line, readValue_object,
    readMembers_more "verdict" (by simp [Unescaped]) (readValue_quoted (unescaped_word verdict))]
  by_cases errorCovered : ∀ text ∈ error, Covered text.toList
  · rw [readMembers_more "error" (by simp [Unescaped]) (readValue_error errorCovered)]
    by_cases algorithmCovered : Covered algorithm.toList
    · rw [if_pos ⟨errorCovered, algorithmCovered⟩,
        readMembers_last "trace" (by simp [Unescaped])
          (readValue_traces.trans (if_pos algorithmCovered))]
      rfl
    · rw [if_neg fun covered => algorithmCovered covered.2,
        readMembers_none "trace" (by simp [Unescaped])
          (readValue_traces.trans (if_neg algorithmCovered))]
      rfl
  · rw [if_neg fun covered => errorCovered covered.1,
      readMembers_none "error" (by simp [Unescaped]) (readValue_error_none errorCovered)]
    rfl

theorem read_line :
    Json.read (result verdict error operation algorithm ++ "\n").toList =
      if LineCovered error algorithm then
        some (.object (lineMembers verdict error operation algorithm))
      else none := by
  have long : 5 ≤ (result verdict error operation algorithm ++ "\n").toList.length := by
    simp only [toList_line, member, quoted, List.length_cons, List.length_append]
    omega
  obtain ⟨extra, enough⟩ := Nat.exists_eq_add_of_le' long
  have fuel : 2 * (result verdict error operation algorithm ++ "\n").toList.length + 2 =
      2 * extra + 12 := by omega
  rw [Json.read, fuel, readValue_line]
  split <;> rfl

theorem jsonVerdict_line :
    jsonVerdict (.object (lineMembers verdict error operation algorithm)) =
      some verdict.word := by
  have fields : (lineMembers verdict error operation algorithm).filter
      (fun (key, _) => key = "verdict".toList.map Char.toNat) =
        [("verdict".toList.map Char.toNat, .string (verdict.word.toList.map Char.toNat))] := by
    rfl
  simp only [jsonVerdict, fields, Json.text_map_toNat]

end Line

/-! ## Classification -/

theorem verdictFromSlice_printed (verdict : Verdict) (error : Option String)
    (operation : Operation) (algorithm : String) :
    verdictFromSlice (printed verdict error operation algorithm) =
      if LineCovered error algorithm then some verdict.word else none := by
  simp only [verdictFromSlice, printed, fromUTF8_bytes, Option.bind_eq_bind, Option.bind_some]
  by_cases covered : LineCovered error algorithm
  · rw [read_line, if_pos covered, if_pos covered, Option.bind_some, jsonVerdict_line]
  · rw [read_line, if_neg covered, if_neg covered, Option.bind_none]

section Classified

variable {Call : Type} {sys : System Call} {output : ProcessOutput} {verdict : Verdict}
  {error : Option String} {operation : Operation} {algorithm : String}

/-- A line that cannot be read leaves the verdict open; it is never taken for another. -/
theorem classifyJsonVerdict_printed (reader : sys.verdictFromSlice = verdictFromSlice)
    (complete : output.inconclusive = false)
    (line : output.stdout.bytes = printed verdict error operation algorithm) :
    classifyJsonVerdict sys output =
      if LineCovered error algorithm then verdict.classified else .indeterminate := by
  simp only [classifyJsonVerdict, complete, reader, line, verdictFromSlice_printed]
  by_cases covered : LineCovered error algorithm
  · cases verdict <;> simp [covered, Verdict.word, Verdict.classified]
  · simp [covered]

/-- The verdict of a complete run is read back exactly when the error text and the
    algorithm name hold no control character but the line feed and the carriage return. -/
theorem classifyJsonVerdict_result (reader : sys.verdictFromSlice = verdictFromSlice)
    (complete : output.timedOut = false ∧ output.stdout.truncated = false ∧
      output.stderr.truncated = false ∧ output.statusCode = some 0)
    (line : output.stdout.bytes = printed verdict error operation algorithm) :
    classifyJsonVerdict sys output = verdict.classified ↔
      (∀ text ∈ error, ∀ c ∈ text.toList, c.toNat < 0x20 → c = '\n' ∨ c = '\r') ∧
        ∀ c ∈ algorithm.toList, c.toNat < 0x20 → c = '\n' ∨ c = '\r' := by
  obtain ⟨notTimedOut, stdoutWhole, stderrWhole, success⟩ := complete
  have conclusive : output.inconclusive = false := by
    simp [ProcessOutput.inconclusive, notTimedOut, stdoutWhole, stderrWhole, success]
  rw [classifyJsonVerdict_printed reader conclusive line]
  by_cases covered : LineCovered error algorithm
  · rw [if_pos covered]
    exact iff_of_true rfl covered
  · rw [if_neg covered]
    refine iff_of_false ?_ covered
    cases verdict <;> simp [Verdict.classified]

end Classified

namespace Fixture

/-- A run that printed `error` with a rejected path. -/
def rejected (error : String) : ProcessOutput where
  statusCode := some 0
  timedOut := false
  elapsed := ⟨1, 0⟩
  stdout := ⟨printed .reject (some error) .validatePkixPath "SHA256WITHECDSA", false⟩
  stderr := ⟨[], false⟩

def system : System Unit where
  toLibrary := X509.Fixture.library X509.Fixture.leafCertificate X509.Fixture.crl
    X509.Fixture.tryLater X509.Fixture.emptyResponse
  resolveExecutable := fun name => .ok (.utf8 ("/usr/bin/" ++ name))
  canonicalize := fun path => .ok (.utf8 ("/" ++ path))
  cachedVersionOutput := fun _ => .error "not run"
  runProgram := fun _ => .ok (rejected "no trust anchor")
  base64Encode := hexLower
  verdictFromSlice := verdictFromSlice
  selectedPathFromSlice := fun _ => .error "no path"
  instrumentedFromSlice := fun _ => none

end Fixture

/-- An error text of two lines with a quotation mark. -/
theorem classifyJsonVerdict_result_twoLines :
    classifyJsonVerdict Fixture.system (Fixture.rejected "no \"CN\"\nin path") = .reject :=
  (@classifyJsonVerdict_result Unit Fixture.system _ .reject _ _ _ rfl ⟨rfl, rfl, rfl, rfl⟩
    rfl).mpr (by simp)

/-- A tab in the error text, as in a distinguished name that holds one, makes the line
    unreadable and the rejection indeterminate. -/
theorem classifyJsonVerdict_tab :
    (Fixture.rejected "CN=a\tb").inconclusive = false ∧
      classifyJsonVerdict Fixture.system (Fixture.rejected "CN=a\tb") = .indeterminate ∧
      classifyJsonVerdict Fixture.system (Fixture.rejected "CN=a\tb") ≠
        Verdict.reject.classified := by
  decide +kernel

end HybridX509.Adapters.JavaOutput
