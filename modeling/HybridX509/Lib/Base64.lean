import Mathlib.Data.List.Basic

/-! # Base64

What an encoder and a decoder of the standard alphabet promise, and a pair that keeps the
promise, three bytes at a time.
-/

namespace HybridX509.Lib.Base64

/-- A character of the standard alphabet, or the padding. -/
def IsBase64 (c : Char) : Prop := c.isAlphanum = true ∨ c = '+' ∨ c = '/' ∨ c = '='

/-- An encoding is ASCII, has no white space and no dash. -/
theorem IsBase64.plain {c : Char} (base64 : IsBase64 c) :
    c.toNat < 128 ∧ 32 < c.toNat ∧ c.toNat ≠ 45 := by
  rcases base64 with alphanumeric | rfl | rfl | rfl
  · rcases (Bool.or_eq_true _ _).mp alphanumeric with letter | digit
    · rcases (Bool.or_eq_true _ _).mp letter with upper | lower
      · obtain ⟨low, high⟩ : 65 ≤ c.toNat ∧ c.toNat ≤ 90 := of_decide_eq_true upper
        omega
      · obtain ⟨low, high⟩ := (Bool.and_eq_true _ _).mp lower
        have low : 97 ≤ c.toNat := of_decide_eq_true low
        have high : c.toNat ≤ 122 := of_decide_eq_true high
        omega
    · obtain ⟨low, high⟩ : 48 ≤ c.toNat ∧ c.toNat ≤ 57 := Char.isDigit_iff_toNat.mp digit
      omega
  · decide
  · decide
  · decide

/-- An encoder into the alphabet, and a decoder that inverts it. -/
structure Standard (encode : List UInt8 → String) (decode : String → Option (List UInt8)) :
    Prop where
  alphabet : ∀ bytes, ∀ c ∈ (encode bytes).toList, IsBase64 c
  decode_encode : ∀ bytes, decode (encode bytes) = some bytes

/-! ## Quanta -/

/-- The character of a six-bit value. -/
def digit (value : Nat) : Char :=
  if value < 26 then Char.ofNat (65 + value)
  else if value < 52 then Char.ofNat (71 + value)
  else if value < 62 then Char.ofNat (value - 4)
  else if value = 62 then '+'
  else '/'

def digitValue (c : Char) : Option Nat :=
  let code := c.toNat
  if 65 ≤ code ∧ code ≤ 90 then some (code - 65)
  else if 97 ≤ code ∧ code ≤ 122 then some (code - 71)
  else if 48 ≤ code ∧ code ≤ 57 then some (code + 4)
  else if code = 43 then some 62
  else if code = 47 then some 63
  else none

def encodeQuanta : List UInt8 → List Char
  | [] => []
  | [a] => [digit (a.toNat / 4), digit (a.toNat % 4 * 16), '=', '=']
  | [a, b] => [digit (a.toNat / 4), digit (a.toNat % 4 * 16 + b.toNat / 16),
      digit (b.toNat % 16 * 4), '=']
  | a :: b :: c :: rest => digit (a.toNat / 4) :: digit (a.toNat % 4 * 16 + b.toNat / 16)
      :: digit (b.toNat % 16 * 4 + c.toNat / 64) :: digit (c.toNat % 64) :: encodeQuanta rest

/-- The bytes of one quantum; only the last one may be padded. -/
def decodeQuantum (w x y z : Char) (last : Bool) : Option (List UInt8) := do
  let w ← digitValue w
  let x ← digitValue x
  if last ∧ y = '=' ∧ z = '=' then
    if x % 16 = 0 then some [.ofNat (w * 4 + x / 16)] else none
  else if last ∧ z = '=' then do
    let y ← digitValue y
    if y % 4 = 0 then some [.ofNat (w * 4 + x / 16), .ofNat (x % 16 * 16 + y / 4)] else none
  else do
    let y ← digitValue y
    let z ← digitValue z
    some [.ofNat (w * 4 + x / 16), .ofNat (x % 16 * 16 + y / 4), .ofNat (y % 4 * 64 + z)]

def decodeQuanta : List Char → Option (List UInt8)
  | [] => some []
  | w :: x :: y :: z :: rest => do
      let front ← decodeQuantum w x y z rest.isEmpty
      let back ← decodeQuanta rest
      some (front ++ back)
  | _ => none

/-! ## The alphabet -/

theorem digitValue_digit : ∀ value < 64, digitValue (digit value) = some value := by
  decide

theorem isBase64_digit {value : Nat} (small : value < 64) : IsBase64 (digit value) := by
  have all : ∀ value < 64, (digit value).isAlphanum = true ∨ digit value = '+' ∨
      digit value = '/' ∨ digit value = '=' := by
    decide
  exact all value small

theorem isBase64_pad : IsBase64 '=' := .inr (.inr (.inr rfl))

theorem digit_ne_pad {value : Nat} (small : value < 64) : digit value ≠ '=' := by
  intro same
  have absent := digitValue_digit value small
  rw [same] at absent
  cases absent

theorem isBase64_of_mem_encodeQuanta {bytes : List UInt8} :
    ∀ c ∈ encodeQuanta bytes, IsBase64 c := by
  induction bytes using encodeQuanta.induct with
  | case1 => simp [encodeQuanta]
  | case2 a =>
      have bound := a.toNat_lt
      simp only [encodeQuanta, List.forall_mem_cons]
      exact ⟨isBase64_digit (by omega), isBase64_digit (by omega), isBase64_pad, isBase64_pad, by simp⟩
  | case3 a b =>
      have bound := a.toNat_lt
      have bound' := b.toNat_lt
      simp only [encodeQuanta, List.forall_mem_cons]
      exact ⟨isBase64_digit (by omega), isBase64_digit (by omega), isBase64_digit (by omega),
        isBase64_pad, by simp⟩
  | case4 a b c rest ih =>
      have bound := a.toNat_lt
      have bound' := b.toNat_lt
      have bound'' := c.toNat_lt
      simp only [encodeQuanta, List.forall_mem_cons]
      exact ⟨isBase64_digit (by omega), isBase64_digit (by omega), isBase64_digit (by omega),
        isBase64_digit (by omega), ih⟩

/-! ## Round trip -/

private theorem byte_eq {value : Nat} {byte : UInt8} (same : value = byte.toNat) :
    UInt8.ofNat value = byte := by
  rw [same, UInt8.ofNat_toNat]

theorem decodeQuantum_one (a : UInt8) :
    decodeQuantum (digit (a.toNat / 4)) (digit (a.toNat % 4 * 16)) '=' '=' true = some [a] := by
  have bound := a.toNat_lt
  have first := digitValue_digit (a.toNat / 4) (by omega)
  have second := digitValue_digit (a.toNat % 4 * 16) (by omega)
  have zero : a.toNat % 4 * 16 % 16 = 0 := by omega
  simp only [decodeQuantum, first, second, zero, Option.bind_eq_bind, Option.bind_some, and_self,
    if_true]
  rw [@byte_eq _ a (by omega)]

theorem decodeQuantum_two (a b : UInt8) :
    decodeQuantum (digit (a.toNat / 4)) (digit (a.toNat % 4 * 16 + b.toNat / 16))
      (digit (b.toNat % 16 * 4)) '=' true = some [a, b] := by
  have bound := a.toNat_lt
  have bound' := b.toNat_lt
  have first := digitValue_digit (a.toNat / 4) (by omega)
  have second := digitValue_digit (a.toNat % 4 * 16 + b.toNat / 16) (by omega)
  have third := digitValue_digit (b.toNat % 16 * 4) (by omega)
  have unpadded : digit (b.toNat % 16 * 4) ≠ '=' := digit_ne_pad (by omega)
  have zero : b.toNat % 16 * 4 % 4 = 0 := by omega
  simp only [decodeQuantum, first, second, third, unpadded, zero, Option.bind_eq_bind,
    Option.bind_some, and_self, false_and, and_false, if_true, if_false]
  rw [@byte_eq _ a (by omega), @byte_eq _ b (by omega)]

theorem decodeQuantum_three (a b c : UInt8) (last : Bool) :
    decodeQuantum (digit (a.toNat / 4)) (digit (a.toNat % 4 * 16 + b.toNat / 16))
      (digit (b.toNat % 16 * 4 + c.toNat / 64)) (digit (c.toNat % 64)) last = some [a, b, c] := by
  have bound := a.toNat_lt
  have bound' := b.toNat_lt
  have bound'' := c.toNat_lt
  have first := digitValue_digit (a.toNat / 4) (by omega)
  have second := digitValue_digit (a.toNat % 4 * 16 + b.toNat / 16) (by omega)
  have third := digitValue_digit (b.toNat % 16 * 4 + c.toNat / 64) (by omega)
  have fourth := digitValue_digit (c.toNat % 64) (by omega)
  have unpadded : digit (c.toNat % 64) ≠ '=' := digit_ne_pad (by omega)
  simp only [decodeQuantum, first, second, third, fourth, unpadded, Option.bind_eq_bind,
    Option.bind_some, and_false, if_false]
  rw [@byte_eq _ a (by omega), @byte_eq _ b (by omega),
    @byte_eq _ c (by omega)]

theorem decodeQuanta_encodeQuanta (bytes : List UInt8) :
    decodeQuanta (encodeQuanta bytes) = some bytes := by
  induction bytes using encodeQuanta.induct with
  | case1 => rfl
  | case2 a => simp [encodeQuanta, decodeQuanta, decodeQuantum_one]
  | case3 a b => simp [encodeQuanta, decodeQuanta, decodeQuantum_two]
  | case4 a b c rest ih => simp [encodeQuanta, decodeQuanta, decodeQuantum_three, ih]

def encode (bytes : List UInt8) : String := .ofList (encodeQuanta bytes)

/-- Only canonical padding is accepted. -/
def decode (text : String) : Option (List UInt8) := decodeQuanta text.toList

theorem standard : Standard encode decode := by
  constructor
  · intro bytes c member
    rw [encode, String.toList_ofList] at member
    exact isBase64_of_mem_encodeQuanta c member
  · intro bytes
    rw [decode, encode, String.toList_ofList, decodeQuanta_encodeQuanta]

end HybridX509.Lib.Base64
