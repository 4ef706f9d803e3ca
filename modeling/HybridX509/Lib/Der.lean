import HybridX509.Lib.BigEndian

/-! # Reading DER from the front

Readers that take an encoding off the front of their input and leave the rest alone.
Such a reader does not look at the rest, so what it returned on one input it returns
on every input with the same front.
-/

namespace HybridX509.Lib

/-- What was read is a prefix of the input, and the answer does not depend on what
    follows it. -/
def ReadsFront {α : Type} (read : List UInt8 → Option (α × List UInt8)) : Prop :=
  ∀ bytes value rest, read bytes = some (value, rest) →
    ∃ front, bytes = front ++ rest ∧ ∀ rest', read (front ++ rest') = some (value, rest')

theorem ReadsFront.map {α β : Type} {read : List UInt8 → Option (α × List UInt8)}
    (front : ReadsFront read) (f : α → β) :
    ReadsFront fun bytes => (read bytes).map fun (value, rest) => (f value, rest) := by
  intro bytes value rest mapped
  simp only [Option.map_eq_some_iff, Prod.exists, Prod.mk.injEq] at mapped
  obtain ⟨inner, _, returned, rfl, rfl⟩ := mapped
  obtain ⟨octets, layout, again⟩ := front _ _ _ returned
  exact ⟨octets, layout, fun rest' => by simp only [again, Option.map_some]⟩

namespace Der

/-- The definite length at the front, in its shortest form. -/
def readLength : List UInt8 → Option (Nat × List UInt8)
  | [] => none
  | first :: rest =>
      if first < 128 then some (first.toNat, rest)
      else
        let size := first.toNat - 128
        let digits := rest.take size
        let length := unsigned digits
        if size ≤ 8 ∧ size ≤ rest.length ∧ digits.head? ≠ some 0 ∧ 128 ≤ length then
          some (length, rest.drop size)
        else none

/-- The contents of the element with the given identifier octet at the front. -/
def readElement (tag : UInt8) : List UInt8 → Option (List UInt8 × List UInt8)
  | [] => none
  | first :: rest => do
      let (length, rest) ← readLength rest
      if first = tag ∧ length ≤ rest.length then some (rest.take length, rest.drop length)
      else none

theorem readsFront_readLength : ReadsFront readLength := by
  intro bytes length rest read
  cases bytes with
  | nil => cases read
  | cons first others =>
      simp only [readLength] at read
      split at read
      · next short =>
          obtain ⟨rfl, rfl⟩ := Prod.mk.inj (Option.some.inj read)
          exact ⟨[first], rfl, fun rest' => by simp [readLength, short]⟩
      · next long =>
          simp only [Option.ite_none_right_eq_some, Option.some.injEq, Prod.mk.injEq] at read
          obtain ⟨⟨small, present, shortest⟩, rfl, rfl⟩ := read
          have size : (others.take (first.toNat - 128)).length = first.toNat - 128 :=
            List.length_take_of_le present
          refine ⟨first :: others.take (first.toNat - 128), by simp, fun rest' => ?_⟩
          have again : (others.take (first.toNat - 128) ++ rest').take (first.toNat - 128) =
              others.take (first.toNat - 128) := List.take_left' size
          simp only [List.cons_append, readLength, long, if_false, again]
          rw [if_pos ⟨small, by rw [List.length_append]; omega, shortest⟩, List.drop_left' size]

/-- Contents of the same length can be exchanged behind a header. -/
theorem readElement_front {tag : UInt8} {bytes content rest : List UInt8}
    (read : readElement tag bytes = some (content, rest)) :
    ∃ header, bytes = header ++ content ++ rest ∧ ∀ content' rest' : List UInt8,
      content'.length = content.length →
        readElement tag (header ++ content' ++ rest') = some (content', rest') := by
  cases bytes with
  | nil => cases read
  | cons first others =>
      simp only [readElement, Option.bind_eq_bind, Option.bind_eq_some_iff, Prod.exists,
        Option.ite_none_right_eq_some, Option.some.injEq, Prod.mk.injEq] at read
      obtain ⟨length, after, lengthRead, ⟨rfl, fits⟩, rfl, rfl⟩ := read
      obtain ⟨octets, rfl, again⟩ := readsFront_readLength others length after lengthRead
      refine ⟨first :: octets, by simp, fun content' rest' same => ?_⟩
      rw [List.length_take_of_le fits] at same
      have present : length ≤ (content' ++ rest').length := by
        rw [List.length_append]
        omega
      simp only [List.cons_append, List.append_assoc, readElement, again, Option.bind_eq_bind,
        Option.bind_some]
      rw [if_pos ⟨trivial, present⟩, List.take_left' same, List.drop_left' same]

theorem readsFront_readElement (tag : UInt8) : ReadsFront (readElement tag) := by
  intro bytes content rest read
  obtain ⟨header, layout, again⟩ := readElement_front read
  exact ⟨header ++ content, layout, fun rest' => again content rest' rfl⟩

end Der

end HybridX509.Lib
