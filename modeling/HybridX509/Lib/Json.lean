import Mathlib.Data.List.Basic

/-! # JSON texts

A reader for the grammar of RFC 8259 over characters. A string is kept as the code
points it denotes, since an escape can name a surrogate on its own. The rules at the
end read a member of an object from what its parts read.
-/

namespace HybridX509.Lib

inductive Json where
  | null
  | bool (value : Bool)
  | number (text : List Char)
  | string (points : List Nat)
  | array (items : List Json)
  | object (members : List (List Nat × Json))

namespace Json

def isWhitespace (c : Char) : Bool := c = ' ' || c = '\t' || c = '\n' || c = '\r'

def skipWhitespace (chars : List Char) : List Char := chars.dropWhile isWhitespace

/-! ## Strings -/

def hexValue (c : Char) : Option Nat :=
  if '0' ≤ c ∧ c ≤ '9' then some (c.toNat - '0'.toNat)
  else if 'a' ≤ c ∧ c ≤ 'f' then some (c.toNat - 'a'.toNat + 10)
  else if 'A' ≤ c ∧ c ≤ 'F' then some (c.toNat - 'A'.toNat + 10)
  else none

/-- The code unit of `\uXXXX`. -/
def hexUnit (digits : List Char) : Option Nat :=
  digits.foldlM (fun unit digit => (hexValue digit).map (unit * 16 + ·)) 0

/-- A code unit before the code points that follow it: a high surrogate takes a low one. -/
def joinUnit (unit : Nat) (points : List Nat) : List Nat :=
  match points with
  | low :: rest =>
      if 0xD800 ≤ unit ∧ unit < 0xDC00 ∧ 0xDC00 ≤ low ∧ low < 0xE000 then
        (0x10000 + (unit - 0xD800) * 0x400 + (low - 0xDC00)) :: rest
      else unit :: points
  | [] => [unit]

/-- The character after a backslash that stands for one code point. -/
def simpleEscape (c : Char) : Option Nat :=
  if c = '"' ∨ c = '\\' ∨ c = '/' then some c.toNat
  else if c = 'b' then some 0x08
  else if c = 'f' then some 0x0C
  else if c = 'n' then some 0x0A
  else if c = 'r' then some 0x0D
  else if c = 't' then some 0x09
  else none

/-- A character that may stand in a string as itself. -/
def Unescaped (c : Char) : Prop := 0x20 ≤ c.toNat ∧ c ≠ '"' ∧ c ≠ '\\'

instance (c : Char) : Decidable (Unescaped c) :=
  inferInstanceAs (Decidable (0x20 ≤ c.toNat ∧ c ≠ '"' ∧ c ≠ '\\'))

/-- The rest of a string after its opening quotation mark, and what follows the string. -/
def readString : List Char → Option (List Nat × List Char)
  | [] => none
  | c :: rest =>
      if c = '"' then some ([], rest)
      else if c = '\\' then
        match rest with
        | [] => none
        | e :: rest =>
            if e = 'u' then
              match rest with
              | d₁ :: d₂ :: d₃ :: d₄ :: rest => do
                  let unit ← hexUnit [d₁, d₂, d₃, d₄]
                  let (points, rest) ← readString rest
                  return (joinUnit unit points, rest)
              | _ => none
            else do
              let point ← simpleEscape e
              let (points, rest) ← readString rest
              return (point :: points, rest)
      else if Unescaped c then do
        let (points, rest) ← readString rest
        return (c.toNat :: points, rest)
      else none

/-- The text a string denotes, unless it holds a surrogate. -/
def text (points : List Nat) : Option String :=
  if ∀ point ∈ points, point.isValidChar then some (String.ofList (points.map Char.ofNat))
  else none

/-! ## Scalars -/

def readDigits (chars : List Char) : Option (List Char × List Char) :=
  let digits := chars.takeWhile Char.isDigit
  if digits = [] then none else some (digits, chars.drop digits.length)

def readInteger : List Char → Option (List Char × List Char)
  | '0' :: rest => some (['0'], rest)
  | chars => readDigits chars

def readFraction : List Char → Option (List Char × List Char)
  | '.' :: rest => (readDigits rest).map fun (digits, rest) => ('.' :: digits, rest)
  | chars => some ([], chars)

def readExponent : List Char → Option (List Char × List Char)
  | c :: rest =>
      if c = 'e' ∨ c = 'E' then
        match rest with
        | '+' :: rest => (readDigits rest).map fun (digits, rest) => (c :: '+' :: digits, rest)
        | '-' :: rest => (readDigits rest).map fun (digits, rest) => (c :: '-' :: digits, rest)
        | rest => (readDigits rest).map fun (digits, rest) => (c :: digits, rest)
      else some ([], c :: rest)
  | [] => some ([], [])

def readNumber (chars : List Char) : Option (List Char × List Char) := do
  let (sign, rest) := match chars with
    | '-' :: rest => (['-'], rest)
    | rest => ([], rest)
  let (integer, rest) ← readInteger rest
  let (fraction, rest) ← readFraction rest
  let (exponent, rest) ← readExponent rest
  return (sign ++ integer ++ fraction ++ exponent, rest)

def readScalar : List Char → Option (Json × List Char)
  | 'n' :: 'u' :: 'l' :: 'l' :: rest => some (null, rest)
  | 't' :: 'r' :: 'u' :: 'e' :: rest => some (bool true, rest)
  | 'f' :: 'a' :: 'l' :: 's' :: 'e' :: rest => some (bool false, rest)
  | chars => (readNumber chars).map fun (text, rest) => (number text, rest)

/-! ## Values -/

mutual

/-- A value, after whitespace. -/
def readValue : Nat → List Char → Option (Json × List Char)
  | 0, _ => none
  | fuel + 1, chars =>
      match skipWhitespace chars with
      | '"' :: rest => (readString rest).map fun (points, rest) => (string points, rest)
      | '[' :: rest =>
          match skipWhitespace rest with
          | ']' :: rest => some (array [], rest)
          | rest => (readItems fuel rest).map fun (items, rest) => (array items, rest)
      | '{' :: rest =>
          match skipWhitespace rest with
          | '}' :: rest => some (object [], rest)
          | rest => (readMembers fuel rest).map fun (members, rest) => (object members, rest)
      | rest => readScalar rest

/-- The items of an array from one of them on, with the closing bracket. -/
def readItems : Nat → List Char → Option (List Json × List Char)
  | 0, _ => none
  | fuel + 1, chars =>
      (readValue fuel chars).bind fun (item, rest) =>
        match skipWhitespace rest with
        | ',' :: rest => (readItems fuel rest).map fun (items, rest) => (item :: items, rest)
        | ']' :: rest => some ([item], rest)
        | _ => none

/-- The members of an object from one of them on, with the closing brace. -/
def readMembers : Nat → List Char → Option (List (List Nat × Json) × List Char)
  | 0, _ => none
  | fuel + 1, chars =>
      match skipWhitespace chars with
      | '"' :: rest =>
          (readString rest).bind fun (key, rest) =>
            match skipWhitespace rest with
            | ':' :: rest =>
                (readValue fuel rest).bind fun (value, rest) =>
                  match skipWhitespace rest with
                  | ',' :: rest =>
                      (readMembers fuel rest).map fun (members, rest) =>
                        ((key, value) :: members, rest)
                  | '}' :: rest => some ([(key, value)], rest)
                  | _ => none
            | _ => none
      | _ => none

end

/-- A JSON text. Two calls are made for a character at the most, so the reader is never
    cut short. -/
def read (chars : List Char) : Option Json := do
  let (value, rest) ← readValue (2 * chars.length + 2) chars
  if skipWhitespace rest = [] then return value else none

example : (read "\x7b\"a\": [1, -2.5e3, \"\\u0041\\n\"] \x7d".toList).isSome := by decide +kernel
example : (read "[1,]".toList).isSome = false := by decide +kernel
example : (read "\"a\tb\"".toList).isSome = false := by decide +kernel

/-! ## Reading what was printed -/

section Printed

variable {c e : Char} {point fuel : Nat} {key chars rest rest' : List Char} {points : List Nat}
  {value : Json} {items : List Json} {members : List (List Nat × Json)}

theorem text_map_toNat (s : String) : text (s.toList.map Char.toNat) = some s := by
  have valid : ∀ point ∈ s.toList.map Char.toNat, point.isValidChar := by
    intro point member
    obtain ⟨c, -, rfl⟩ := List.mem_map.mp member
    exact c.valid
  have back : (s.toList.map Char.toNat).map Char.ofNat = s.toList := by
    simp only [List.map_map, Function.comp_def, Char.ofNat_toNat, List.map_id']
  rw [text, if_pos valid, back, String.ofList_toList]

theorem skipWhitespace_cons (dark : isWhitespace c = false) :
    skipWhitespace (c :: rest) = c :: rest := by
  rw [skipWhitespace, List.dropWhile_cons_of_neg (by simp [dark])]

theorem readString_quote : readString ('"' :: rest) = some ([], rest) := by
  rw [readString.eq_def]
  rfl

theorem readString_unescaped (plain : Unescaped c) :
    readString (c :: rest) =
      (readString rest).map fun (points, rest) => (c.toNat :: points, rest) := by
  rw [readString.eq_def]
  simp only [plain.2.1, plain.2.2, if_false, plain, if_true]
  cases readString rest <;> rfl

theorem readString_simpleEscape (escape : simpleEscape e = some point) :
    readString ('\\' :: e :: rest) =
      (readString rest).map fun (points, rest) => (point :: points, rest) := by
  have notUnit : e ≠ 'u' := by
    rintro rfl
    simp [simpleEscape] at escape
  rw [readString.eq_def]
  simp only [notUnit, if_false, escape]
  cases readString rest <;> rfl

/-- A control character ends the reading, whatever follows it. -/
theorem readString_control (control : c.toNat < 0x20) : readString (c :: rest) = none := by
  have notQuote : c ≠ '"' := by
    rintro rfl
    exact absurd control (by decide)
  have notEscape : c ≠ '\\' := by
    rintro rfl
    exact absurd control (by decide)
  have notPlain : ¬ Unescaped c := fun plain => absurd plain.1 (by omega)
  rw [readString.eq_def]
  simp only [notQuote, notEscape, notPlain, if_false]

theorem readString_plain (plain : ∀ c ∈ chars, Unescaped c) :
    readString (chars ++ '"' :: rest) = some (chars.map Char.toNat, rest) := by
  induction chars with
  | nil => exact readString_quote
  | cons head tail ih =>
      obtain ⟨first, others⟩ := List.forall_mem_cons.mp plain
      rw [List.cons_append, readString_unescaped first, ih others]
      rfl

theorem readValue_string :
    readValue (fuel + 1) ('"' :: chars) =
      (readString chars).map fun (points, rest) => (string points, rest) := by
  rw [readValue.eq_def]
  simp only [skipWhitespace_cons (c := '"') (by decide)]

theorem readValue_null : readValue (fuel + 1) ('n' :: 'u' :: 'l' :: 'l' :: rest) =
    some (null, rest) := by
  rw [readValue.eq_def]
  simp only [skipWhitespace_cons (c := 'n') (by decide)]
  rfl

/-- The text of a member before its value. -/
def member (key : String) (chars : List Char) : List Char :=
  '"' :: key.toList ++ '"' :: ':' :: chars

/-- An object whose first member follows the brace at once. -/
theorem readValue_object (key : String) :
    readValue (fuel + 1) ('{' :: member key chars) =
      (readMembers fuel (member key chars)).map fun (members, rest) => (object members, rest) := by
  rw [readValue.eq_def]
  simp only [member, List.cons_append, skipWhitespace_cons (c := '{') (by decide),
    skipWhitespace_cons (c := '"') (by decide)]
  rfl

/-- An array whose first item is an object and follows the bracket at once. -/
theorem readValue_array :
    readValue (fuel + 1) ('[' :: '{' :: chars) =
      (readItems fuel ('{' :: chars)).map fun (items, rest) => (array items, rest) := by
  rw [readValue.eq_def]
  simp only [skipWhitespace_cons (c := '[') (by decide), skipWhitespace_cons (c := '{') (by decide)]
  rfl

theorem readItems_last (item : readValue fuel chars = some (value, ']' :: rest)) :
    readItems (fuel + 1) chars = some ([value], rest) := by
  rw [readItems.eq_def]
  simp only [item, Option.bind_some, skipWhitespace_cons (c := ']') (by decide)]

theorem readItems_none (item : readValue fuel chars = none) :
    readItems (fuel + 1) chars = none := by
  rw [readItems.eq_def]
  simp only [item, Option.bind_none]

/-- Reading a member comes down to reading its value. -/
theorem readMembers_member (key : String) (plain : ∀ c ∈ key.toList, Unescaped c) :
    readMembers (fuel + 1) (member key chars) =
      (readValue fuel chars).bind fun (value, rest) =>
        match skipWhitespace rest with
        | ',' :: rest =>
            (readMembers fuel rest).map fun (members, rest) =>
              ((key.toList.map Char.toNat, value) :: members, rest)
        | '}' :: rest => some ([(key.toList.map Char.toNat, value)], rest)
        | _ => none := by
  rw [readMembers.eq_def]
  simp only [member, List.cons_append, skipWhitespace_cons (c := '"') (by decide),
    readString_plain plain, Option.bind_some, skipWhitespace_cons (c := ':') (by decide)]

theorem readMembers_none (key : String) (plain : ∀ c ∈ key.toList, Unescaped c)
    (failed : readValue fuel chars = none) :
    readMembers (fuel + 1) (member key chars) = none := by
  rw [readMembers_member key plain, failed, Option.bind_none]

theorem readMembers_more (key : String) (plain : ∀ c ∈ key.toList, Unescaped c)
    (first : readValue fuel chars = some (value, ',' :: rest)) :
    readMembers (fuel + 1) (member key chars) =
      (readMembers fuel rest).map fun (members, rest) =>
        ((key.toList.map Char.toNat, value) :: members, rest) := by
  simp only [readMembers_member key plain, first, Option.bind_some,
    skipWhitespace_cons (c := ',') (by decide)]

theorem readMembers_last (key : String) (plain : ∀ c ∈ key.toList, Unescaped c)
    (last : readValue fuel chars = some (value, '}' :: rest)) :
    readMembers (fuel + 1) (member key chars) =
      some ([(key.toList.map Char.toNat, value)], rest) := by
  simp only [readMembers_member key plain, last, Option.bind_some,
    skipWhitespace_cons (c := '}') (by decide)]

end Printed

end Json

end HybridX509.Lib
