import Mathlib.Data.List.Basic

/-! # Bytes as text

Lowercase hexadecimal, lossy UTF-8 decoding and trimming, as the standard library of
the source does them.
-/

namespace HybridX509.Lib

/-- `{byte:02x}`. -/
def hexByte (byte : UInt8) : List Char :=
  [Nat.digitChar (byte.toNat / 16), Nat.digitChar (byte.toNat % 16)]

def hexLower (bytes : List UInt8) : String := String.ofList (bytes.flatMap hexByte)

private theorem digitChar_lowerHex : ∀ n < 16,
    ('0' ≤ Nat.digitChar n ∧ Nat.digitChar n ≤ '9') ∨
      ('a' ≤ Nat.digitChar n ∧ Nat.digitChar n ≤ 'f') := by
  decide

theorem hexLower_lowerHex (bytes : List UInt8) :
    ∀ c ∈ (hexLower bytes).toList, ('0' ≤ c ∧ c ≤ '9') ∨ ('a' ≤ c ∧ c ≤ 'f') := by
  intro c member
  rw [hexLower, String.toList_ofList, List.mem_flatMap] at member
  obtain ⟨byte, -, inside⟩ := member
  have bound : byte.toNat < 256 := byte.toNat_lt
  rcases List.mem_pair.mp inside with rfl | rfl
  · exact digitChar_lowerHex _ (by omega)
  · exact digitChar_lowerHex _ (by omega)

theorem length_hexLower (bytes : List UInt8) : (hexLower bytes).length = 2 * bytes.length := by
  rw [hexLower, String.length_ofList]
  induction bytes with
  | nil => rfl
  | cons head rest ih =>
      rw [List.flatMap_cons, List.length_append, ih, List.length_cons]
      simp only [hexByte, List.length_cons, List.length_nil]
      omega

private theorem digitChar_inj : ∀ m < 16, ∀ n < 16, Nat.digitChar m = Nat.digitChar n → m = n := by
  decide

theorem hexByte_injective : Function.Injective hexByte := by
  intro left right same
  simp only [hexByte, List.cons.injEq, and_true] at same
  have leftBound : left.toNat < 256 := left.toNat_lt
  have rightBound : right.toNat < 256 := right.toNat_lt
  have high := digitChar_inj _ (by omega) _ (by omega) same.1
  have low := digitChar_inj _ (by omega) _ (by omega) same.2
  rw [← UInt8.toNat_inj]
  omega

theorem hexLower_injective : Function.Injective hexLower := by
  intro left right same
  have digits : left.flatMap hexByte = right.flatMap hexByte := String.ofList_injective same
  induction left generalizing right with
  | nil =>
      cases right with
      | nil => rfl
      | cons head rest => cases digits
  | cons head rest ih =>
      cases right with
      | nil => cases digits
      | cons head' rest' =>
          obtain ⟨byte, others⟩ := List.append_inj digits rfl
          rw [hexByte_injective byte, ih (congrArg String.ofList others) others]

/-! ## Lossy decoding -/

/-- The bytes that may follow a lead byte of three or four. -/
def secondByte (lead byte : UInt8) : Bool :=
  if lead = 0xE0 then 0xA0 ≤ byte && byte ≤ 0xBF
  else if lead = 0xED then 0x80 ≤ byte && byte ≤ 0x9F
  else if lead = 0xF0 then 0x90 ≤ byte && byte ≤ 0xBF
  else if lead = 0xF4 then 0x80 ≤ byte && byte ≤ 0x8F
  else 0x80 ≤ byte && byte ≤ 0xBF

def continuationByte (byte : UInt8) : Bool := 0x80 ≤ byte && byte ≤ 0xBF

/-- The character of a lead byte, reduced to its payload, and its continuations. -/
def decodedChar (payload : Nat) (continuations : List UInt8) : Char :=
  Char.ofNat (continuations.foldl (fun code byte => code * 64 + byte.toNat % 64) payload)

/-- `String::from_utf8_lossy`: each maximal prefix of an ill-formed sequence becomes
    one replacement character. -/
def fromUtf8Lossy : List UInt8 → List Char
  | [] => []
  | lead :: rest =>
      if lead < 0x80 then decodedChar lead.toNat [] :: fromUtf8Lossy rest
      else if 0xC2 ≤ lead ∧ lead ≤ 0xDF then
        match rest with
        | [] => ['\uFFFD']
        | b :: rest' =>
            if continuationByte b then
              decodedChar (lead.toNat % 32) [b] :: fromUtf8Lossy rest'
            else '\uFFFD' :: fromUtf8Lossy (b :: rest')
      else if 0xE0 ≤ lead ∧ lead ≤ 0xEF then
        match rest with
        | [] => ['\uFFFD']
        | b :: rest' =>
            if secondByte lead b then
              match rest' with
              | [] => ['\uFFFD']
              | c :: rest'' =>
                  if continuationByte c then
                    decodedChar (lead.toNat % 16) [b, c] :: fromUtf8Lossy rest''
                  else '\uFFFD' :: fromUtf8Lossy (c :: rest'')
            else '\uFFFD' :: fromUtf8Lossy (b :: rest')
      else if 0xF0 ≤ lead ∧ lead ≤ 0xF4 then
        match rest with
        | [] => ['\uFFFD']
        | b :: rest' =>
            if secondByte lead b then
              match rest' with
              | [] => ['\uFFFD']
              | c :: rest'' =>
                  if continuationByte c then
                    match rest'' with
                    | [] => ['\uFFFD']
                    | d :: rest''' =>
                        if continuationByte d then
                          decodedChar (lead.toNat % 8) [b, c, d] :: fromUtf8Lossy rest'''
                        else '\uFFFD' :: fromUtf8Lossy (d :: rest''')
                  else '\uFFFD' :: fromUtf8Lossy (c :: rest'')
            else '\uFFFD' :: fromUtf8Lossy (b :: rest')
      else '\uFFFD' :: fromUtf8Lossy rest

/-- ASCII text is one byte a character. -/
theorem fromUtf8Lossy_of_ascii {chars : List Char} (ascii : ∀ c ∈ chars, c.toNat < 128) :
    fromUtf8Lossy (chars.map fun c => UInt8.ofNat c.toNat) = chars := by
  induction chars with
  | nil => rfl
  | cons head rest ih =>
      have small := ascii head List.mem_cons_self
      have tail := ih fun c member => ascii c (List.mem_cons_of_mem head member)
      have value : (UInt8.ofNat head.toNat).toNat = head.toNat :=
        UInt8.toNat_ofNat_of_lt' (Nat.lt_trans small (by decide))
      have lead : UInt8.ofNat head.toNat < 0x80 := by
        rw [UInt8.lt_iff_toNat_lt, value]
        exact small
      rw [List.map_cons, fromUtf8Lossy.eq_def]
      simp only [lead, if_true, tail, decodedChar, List.foldl_nil, value, Char.ofNat_toNat]

/-- `char::is_whitespace`. -/
def isWhitespace (c : Char) : Bool :=
  let code := c.toNat
  (9 ≤ code && code ≤ 13) || code == 0x20 || code == 0x85 || code == 0xA0 || code == 0x1680
    || (0x2000 ≤ code && code ≤ 0x200A) || code == 0x2028 || code == 0x2029 || code == 0x202F
    || code == 0x205F || code == 0x3000

/-- `str::trim`. -/
def trim (chars : List Char) : List Char :=
  ((chars.dropWhile isWhitespace).reverse.dropWhile isWhitespace).reverse

/-- `str::trim_end`. -/
def trimEnd (chars : List Char) : List Char := (chars.reverse.dropWhile isWhitespace).reverse

example : String.ofList (trim (fromUtf8Lossy [49, 46, 56, 52, 10])) = "1.84" := by decide

/-! ## Lines -/

section Lines

variable {α : Type}

/-- Lines that do not hold the separator are found again between the separators. -/
theorem splitOn_lines [BEq α] [LawfulBEq α] {sep : α} {lines : List (List α)}
    (plain : ∀ line ∈ lines, sep ∉ line) :
    (lines.flatMap (· ++ [sep])).splitOn sep = lines ++ [[]] := by
  induction lines with
  | nil => rfl
  | cons line rest ih =>
      have others := ih fun line member => plain line (List.mem_cons_of_mem _ member)
      have clean : ∀ c ∈ line, (c == sep) = false := by
        intro c member
        refine beq_false_of_ne ?_
        rintro rfl
        exact plain line List.mem_cons_self member
      rw [List.splitOn_eq_splitOnP] at others ⊢
      rw [List.flatMap_cons, List.append_assoc, List.singleton_append,
        List.splitOnP_append_cons_of_forall_mem clean sep (beq_self_eq_true sep), others]
      rfl

/-- `chunks`: pieces of the given size, the last of them possibly shorter. -/
def chunks (size : Nat) (items : List α) : List (List α) :=
  match items with
  | [] => []
  | first :: rest => (first :: rest.take (size - 1)) :: chunks size (rest.drop (size - 1))
termination_by items.length

theorem flatten_chunks (size : Nat) (items : List α) : (chunks size items).flatten = items := by
  induction items using chunks.induct size with
  | case1 => simp [chunks]
  | case2 first rest ih => rw [chunks, List.flatten_cons, ih]; simp

theorem length_of_mem_chunks {size : Nat} (positive : 1 ≤ size) {items : List α} :
    ∀ chunk ∈ chunks size items, 1 ≤ chunk.length ∧ chunk.length ≤ size := by
  induction items using chunks.induct size with
  | case1 => simp [chunks]
  | case2 first rest ih =>
      rw [chunks, List.forall_mem_cons]
      refine ⟨?_, ih⟩
      simp only [List.length_cons, List.length_take]
      omega

/-- Every chunk before the last is full. -/
theorem length_of_mem_dropLast_chunks {size : Nat} {items : List α} (positive : 1 ≤ size) :
    ∀ chunk ∈ (chunks size items).dropLast, chunk.length = size := by
  induction items using chunks.induct size with
  | case1 => simp [chunks]
  | case2 first rest ih =>
      rw [chunks]
      cases others : chunks size (rest.drop (size - 1)) with
      | nil => simp
      | cons next further =>
          rw [others] at ih
          rw [List.dropLast_cons_cons, List.forall_mem_cons]
          refine ⟨?_, ih⟩
          have left : rest.drop (size - 1) ≠ [] := by
            intro empty
            simp [empty, chunks] at others
          have long := List.length_pos_iff.mpr left
          rw [List.length_drop] at long
          simp only [List.length_cons, List.length_take]
          omega

end Lines

end HybridX509.Lib
