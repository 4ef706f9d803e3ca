import Mathlib.Data.List.Basic
import Mathlib.Tactic.Push

/-! # ASCII byte classes of strings

A program that inspects the UTF-8 bytes of a string is described here in terms of
its characters. This is possible for byte classes inside ASCII, because every
other character contributes a byte of at least 128.
-/

namespace HybridX509.Lib

/-- The UTF-8 encoding, as a list of bytes. -/
def bytes (s : String) : List UInt8 := s.toUTF8.data.toList

theorem bytes_eq_flatMap (s : String) : bytes s = s.toList.flatMap String.utf8EncodeChar := by
  rw [bytes, String.toUTF8_eq_toByteArray, ← String.utf8Encode_toList]
  simp [List.utf8Encode]

theorem fromUTF8_bytes (s : String) : String.fromUTF8? ⟨(bytes s).toArray⟩ = some s := by
  have same : (⟨(bytes s).toArray⟩ : ByteArray) = s.toByteArray := by
    rw [bytes, String.toUTF8_eq_toByteArray, Array.toArray_toList]
  rw [same, String.fromUTF8?, dif_pos s.isValidUTF8]
  rfl

private theorem encode_ascii {c : Char} (ascii : c.toNat < 128) :
    String.utf8EncodeChar c = [UInt8.ofNat c.toNat] := by
  have small : c.toNat ≤ 127 := Nat.le_of_lt_succ ascii
  simp only [String.utf8EncodeChar, Char.toNat_val, small, if_true]

private theorem encode_other {c : Char} (other : 128 ≤ c.toNat) :
    ∃ byte ∈ String.utf8EncodeChar c, 128 ≤ byte.toNat := by
  have large : ¬ c.val.toNat ≤ 127 := Nat.not_le_of_lt other
  simp only [String.utf8EncodeChar, large, if_false]
  split
  · exact ⟨_, List.mem_cons_self, by simp; omega⟩
  · split
    · exact ⟨_, List.mem_cons_self, by simp; omega⟩
    · exact ⟨_, List.mem_cons_self, by simp; omega⟩

/-- A byte class inside ASCII holds of all bytes exactly when it holds of all
    characters, each read as one byte. -/
theorem forall_bytes_iff {p : UInt8 → Prop} (ascii : ∀ byte, p byte → byte.toNat < 128)
    (s : String) :
    (∀ byte ∈ bytes s, p byte) ↔
      ∀ c ∈ s.toList, c.toNat < 128 ∧ p (UInt8.ofNat c.toNat) := by
  simp only [bytes_eq_flatMap, List.mem_flatMap, forall_exists_index, and_imp]
  constructor
  · intro h c member
    have small : c.toNat < 128 := by
      by_contra large
      obtain ⟨byte, inside, high⟩ := encode_other (Nat.le_of_not_lt large)
      exact absurd (ascii byte (h byte c member inside)) (by omega)
    exact ⟨small, h _ c member (by simp [encode_ascii small])⟩
  · intro h byte c member inside
    obtain ⟨small, holds⟩ := h c member
    rw [encode_ascii small, List.mem_singleton] at inside
    exact inside ▸ holds

/-- An ASCII character of a string is one of its bytes. -/
theorem mem_bytes_of_ascii {s : String} {c : Char} (ascii : c.toNat < 128)
    (member : c ∈ s.toList) : UInt8.ofNat c.toNat ∈ bytes s := by
  rw [bytes_eq_flatMap, List.mem_flatMap]
  exact ⟨c, member, by simp [encode_ascii ascii]⟩

theorem flatMap_utf8EncodeChar_of_ascii {chars : List Char} (ascii : ∀ c ∈ chars, c.toNat < 128) :
    chars.flatMap String.utf8EncodeChar = chars.map fun c => UInt8.ofNat c.toNat := by
  induction chars with
  | nil => rfl
  | cons head rest ih =>
      have tail := ih fun c member => ascii c (List.mem_cons_of_mem head member)
      rw [List.flatMap_cons, encode_ascii (ascii head List.mem_cons_self), tail]
      rfl

theorem length_bytes_of_ascii {s : String} (ascii : ∀ c ∈ s.toList, c.toNat < 128) :
    (bytes s).length = s.length := by
  rw [bytes_eq_flatMap, flatMap_utf8EncodeChar_of_ascii ascii, List.length_map,
    String.length_toList]

/-- ASCII text is given by its bytes. -/
theorem map_bytes_of_ascii {s : String} (ascii : ∀ c ∈ s.toList, c.toNat < 128) :
    (bytes s).map (fun byte => Char.ofNat byte.toNat) = s.toList := by
  rw [bytes_eq_flatMap, flatMap_utf8EncodeChar_of_ascii ascii, List.map_map]
  calc s.toList.map _ = s.toList.map id := by
        refine List.map_congr_left fun c member => ?_
        have small : c.toNat < 256 := Nat.lt_trans (ascii c member) (by decide)
        simp [Nat.mod_eq_of_lt small, Char.ofNat_toNat]
    _ = s.toList := List.map_id _

theorem isPrefix_bytes_iff {s t : String} (asciiS : ∀ c ∈ s.toList, c.toNat < 128)
    (asciiT : ∀ c ∈ t.toList, c.toNat < 128) : bytes s <+: bytes t ↔ s.toList <+: t.toList := by
  constructor
  · intro starts
    have mapped := starts.map fun byte => Char.ofNat byte.toNat
    rwa [map_bytes_of_ascii asciiS, map_bytes_of_ascii asciiT] at mapped
  · rintro ⟨rest, whole⟩
    rw [bytes_eq_flatMap, bytes_eq_flatMap, ← whole, List.flatMap_append]
    exact List.prefix_append _ _

end HybridX509.Lib
