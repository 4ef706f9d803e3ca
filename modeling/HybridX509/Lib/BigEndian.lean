import Mathlib.Data.Nat.Digits.Lemmas

/-! # Big-endian byte strings

Byte strings as numbers in base 256, most significant byte first. Two strings
denote the same natural number exactly when they are equal up to leading zero
bytes; read in two's complement they may still denote different integers.
-/

namespace HybridX509.Lib

/-- The natural number a byte string denotes. -/
def unsigned (bytes : List UInt8) : Nat :=
  Nat.ofDigits 256 (bytes.reverse.map UInt8.toNat)

/-- The integer a byte string denotes in two's complement. -/
def signed (bytes : List UInt8) : Int :=
  match bytes.head? with
  | none => 0
  | some first =>
      if 128 ≤ first then (unsigned bytes : Int) - 256 ^ bytes.length else unsigned bytes

theorem signed_eq_unsigned {bytes : List UInt8}
    (positive : ∀ first, bytes.head? = some first → first < 128) : signed bytes = unsigned bytes := by
  cases bytes with
  | nil => rfl
  | cons first rest =>
      have low : ¬ 128 ≤ first := UInt8.not_le.mpr (positive first rfl)
      simp [signed, low]

/-- `u64::to_be_bytes`. -/
def toBeBytes (value : UInt64) : List UInt8 :=
  ([56, 48, 40, 32, 24, 16, 8, 0] : List UInt64).map fun shift => (value >>> shift).toUInt8

/-- The string without its leading zero bytes. -/
def stripZeros (bytes : List UInt8) : List UInt8 := bytes.dropWhile (· == 0)

@[simp] theorem unsigned_zero_cons (bytes : List UInt8) :
    unsigned (0 :: bytes) = unsigned bytes := by
  simp [unsigned, Nat.ofDigits_append]

theorem unsigned_stripZeros (bytes : List UInt8) : unsigned (stripZeros bytes) = unsigned bytes := by
  induction bytes with
  | nil => rfl
  | cons first rest ih =>
      by_cases zero : first = 0
      · rw [zero, unsigned_zero_cons, ← ih]
        simp [stripZeros]
      · simp [stripZeros, zero]

theorem head_stripZeros_ne_zero {bytes : List UInt8} {first : UInt8}
    (head : (stripZeros bytes).head? = some first) : first ≠ 0 := by
  intro zero
  have kept := List.head?_dropWhile_not (· == (0 : UInt8)) bytes
  simp only [stripZeros] at head
  simp [head, zero] at kept

/-- A string without leading zero bytes is recovered from its number. -/
theorem digits_unsigned {bytes : List UInt8}
    (normal : ∀ first, bytes.head? = some first → first ≠ 0) :
    Nat.digits 256 (unsigned bytes) = bytes.reverse.map UInt8.toNat := by
  apply Nat.digits_ofDigits 256 (by decide)
  · intro digit member
    obtain ⟨byte, _, rfl⟩ := List.mem_map.mp member
    exact byte.toNat_lt
  · intro nonempty
    cases bytes with
    | nil => simp at nonempty
    | cons first rest =>
        simp only [List.reverse_cons, List.map_append, List.map_cons, List.map_nil,
          List.getLast_append_singleton]
        intro zero
        exact normal first rfl (UInt8.toNat_inj.mp zero)

/-- Without leading zero bytes, equal numbers are equal strings. -/
theorem stripZeros_eq_iff {left right : List UInt8} :
    stripZeros left = stripZeros right ↔ unsigned left = unsigned right := by
  constructor
  · intro same
    rw [← unsigned_stripZeros left, same, unsigned_stripZeros]
  · intro same
    rw [← unsigned_stripZeros left, ← unsigned_stripZeros right] at same
    have digits := congrArg (Nat.digits 256) same
    rw [digits_unsigned fun _ => head_stripZeros_ne_zero,
      digits_unsigned fun _ => head_stripZeros_ne_zero] at digits
    have reversed : (stripZeros left).reverse = (stripZeros right).reverse :=
      List.map_injective_iff.mpr (fun _ _ => UInt8.toNat_inj.mp) digits
    exact List.reverse_injective reversed

/-! ## Length prefixes -/

private theorem toNat_shifted {value shift : UInt64} (small : shift.toNat < 64) :
    (value >>> shift).toUInt8.toNat = value.toNat / 2 ^ shift.toNat % 256 := by
  rw [UInt64.toNat_toUInt8, UInt64.toNat_shiftRight, Nat.mod_eq_of_lt small,
    Nat.shiftRight_eq_div_pow]

theorem unsigned_toBeBytes (value : UInt64) : unsigned (toBeBytes value) = value.toNat := by
  have bound := value.toNat_lt
  have digits : unsigned (toBeBytes value) = Nat.ofDigits 256
      [(value >>> 0).toUInt8.toNat, (value >>> 8).toUInt8.toNat, (value >>> 16).toUInt8.toNat,
        (value >>> 24).toUInt8.toNat, (value >>> 32).toUInt8.toNat, (value >>> 40).toUInt8.toNat,
        (value >>> 48).toUInt8.toNat, (value >>> 56).toUInt8.toNat] := rfl
  rw [digits]
  simp (disch := decide) only [toNat_shifted, Nat.ofDigits_cons, Nat.ofDigits_nil,
    UInt64.reduceToNat]
  omega

theorem toBeBytes_injective : Function.Injective toBeBytes := by
  intro left right same
  rw [← UInt64.toNat_inj, ← unsigned_toBeBytes left, same, unsigned_toBeBytes]

@[simp] theorem length_toBeBytes (value : UInt64) : (toBeBytes value).length = 8 := by
  simp [toBeBytes]

/-- A string after its length. -/
def lengthPrefixed (bytes : List UInt8) : List UInt8 := toBeBytes (.ofNat bytes.length) ++ bytes

/-- A string after its length is read back from whatever it is followed by. -/
theorem lengthPrefixed_append_inj {left right leftRest rightRest : List UInt8}
    (leftFits : left.length < 2 ^ 64) (rightFits : right.length < 2 ^ 64)
    (same : lengthPrefixed left ++ leftRest = lengthPrefixed right ++ rightRest) :
    left = right ∧ leftRest = rightRest := by
  simp only [lengthPrefixed, List.append_assoc] at same
  obtain ⟨lengths, rest⟩ := List.append_inj same (by simp)
  have sameLength : left.length = right.length := by
    have values := congrArg UInt64.toNat (toBeBytes_injective lengths)
    rwa [UInt64.toNat_ofNat_of_lt' leftFits, UInt64.toNat_ofNat_of_lt' rightFits] at values
  exact List.append_inj rest sameLength

end HybridX509.Lib
