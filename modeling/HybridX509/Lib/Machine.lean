import Mathlib.Algebra.Group.Nat.Defs
import Mathlib.Order.Basic

/-! # Machine integers

Conversions and saturating arithmetic on fixed-width integers, each with its value
over unbounded integers.
-/

namespace HybridX509.Lib

/-- `u64::try_from` of an `i64`. -/
def u64TryFrom (value : Int64) : Option UInt64 :=
  if 0 ≤ value then some value.toUInt64 else none

def saturatingAdd (left right : UInt64) : UInt64 :=
  if left.toNat + right.toNat < 2 ^ 64 then left + right else UInt64.ofNat (2 ^ 64 - 1)

def saturatingSub (left right : UInt64) : UInt64 := if right ≤ left then left - right else 0

theorem u64TryFrom_eq_none_iff {value : Int64} : u64TryFrom value = none ↔ value.toInt < 0 := by
  simp [u64TryFrom, Int64.le_iff_toInt_le]

theorem toInt_of_u64TryFrom {value : Int64} {converted : UInt64}
    (fits : u64TryFrom value = some converted) : (converted.toNat : Int) = value.toInt := by
  simp only [u64TryFrom, Option.ite_none_right_eq_some, Option.some.injEq] at fits
  obtain ⟨nonneg, rfl⟩ := fits
  rw [Int64.toNat_toUInt64_of_le nonneg]
  rw [Int64.le_iff_toInt_le] at nonneg
  simp only [Int64.toInt_zero] at nonneg
  exact Int.toNat_of_nonneg nonneg

theorem toNat_saturatingAdd (left right : UInt64) :
    (saturatingAdd left right).toNat = min (left.toNat + right.toNat) (2 ^ 64 - 1) := by
  unfold saturatingAdd
  split
  · next fits =>
      rw [UInt64.toNat_add, Nat.mod_eq_of_lt fits]
      omega
  · next overflows =>
      rw [UInt64.toNat_ofNat_of_lt' (by decide)]
      omega

theorem toNat_saturatingSub (left right : UInt64) :
    (saturatingSub left right).toNat = left.toNat - right.toNat := by
  unfold saturatingSub
  split
  · next fits => rw [UInt64.toNat_sub_of_le _ _ fits]
  · next underflows =>
      rw [UInt64.le_iff_toNat_le] at underflows
      simp
      omega

/-- A bound on a 64-bit value does not notice saturation. -/
theorem le_saturatingAdd_iff {value left right : UInt64} :
    value ≤ saturatingAdd left right ↔ value.toNat ≤ left.toNat + right.toNat := by
  have bound := value.toNat_lt
  rw [UInt64.le_iff_toNat_le, toNat_saturatingAdd]
  omega

theorem saturatingSub_le_iff {left right bound : UInt64} :
    saturatingSub left right ≤ bound ↔ left.toNat ≤ bound.toNat + right.toNat := by
  rw [UInt64.le_iff_toNat_le, toNat_saturatingSub]
  omega

end HybridX509.Lib
