import HybridX509.Lib.Fallible
import Mathlib.Data.List.Nodup
import Mathlib.Tactic.Tauto

/-! # Registries filled by a loop

Hash sets and hash maps that a loop fills as it walks a list, kept as lists with
the newest entry first: a lookup then returns what the last insertion stored.
The two rules say what a walk establishes when it refuses a repeated key, and
when it only refuses a key that comes back with another value.
-/

namespace HybridX509.Lib

variable {β κ ν σ : Type*}

/-- A registry in which every key has at most one value, repeated or not. -/
def Functional (registry : List (κ × ν)) : Prop :=
  ∀ a ∈ registry, ∀ b ∈ registry, a.1 = b.1 → a.2 = b.2

theorem Functional.of_subset {small large : List (κ × ν)} (h : Functional large)
    (sub : small ⊆ large) : Functional small :=
  fun a ha b hb => h a (sub ha) b (sub hb)

theorem functional_middle {front back : List (κ × ν)} {entry : κ × ν} :
    Functional (front ++ entry :: back) ↔ Functional (entry :: (front ++ back)) := by
  constructor
  · intro whole
    exact whole.of_subset List.perm_middle.symm.subset
  · intro whole
    exact whole.of_subset List.perm_middle.subset

/-- Entries filed under pairwise distinct keys. -/
theorem functional_of_nodup {key : β → κ} {items : List β} (distinct : (items.map key).Nodup) :
    Functional (items.map fun item => (key item, item)) := by
  intro a ha b hb same
  obtain ⟨left, inLeft, rfl⟩ := List.mem_map.mp ha
  obtain ⟨right, inRight, rfl⟩ := List.mem_map.mp hb
  exact List.inj_on_of_nodup_map distinct inLeft inRight same

section Lookup

variable [DecidableEq κ]

theorem mem_of_lookup {registry : List (κ × ν)} {k : κ} {v : ν}
    (found : registry.lookup k = some v) : (k, v) ∈ registry := by
  obtain ⟨before, after, rfl, -⟩ := List.lookup_eq_some_iff.mp found
  simp

theorem Functional.lookup_iff {registry : List (κ × ν)} (h : Functional registry) {k : κ} {v : ν} :
    registry.lookup k = some v ↔ (k, v) ∈ registry := by
  refine ⟨mem_of_lookup, fun member => ?_⟩
  cases found : registry.lookup k with
  | none => exact absurd (List.lookup_eq_none_iff.mp found _ member) (by simp)
  | some other => exact congrArg some (h _ (mem_of_lookup found) _ member rfl)

theorem lookup_isSome_iff_mem {registry : List (κ × ν)} {k : κ} :
    (registry.lookup k).isSome ↔ k ∈ registry.map Prod.fst := by
  simp only [List.lookup_isSome_iff, beq_iff_eq, List.mem_map]
  exact exists_congr fun entry => and_congr_right fun _ => eq_comm

/-- The first item found under a distinct key is the only one. -/
theorem find?_key_iff {key : β → κ} {items : List β} (distinct : (items.map key).Nodup) {k : κ}
    {item : β} : items.find? (fun b => key b == k) = some item ↔ item ∈ items ∧ key item = k := by
  constructor
  · intro found
    exact ⟨List.mem_of_find?_eq_some found, by simpa using List.find?_some found⟩
  · rintro ⟨member, rfl⟩
    have some : (items.find? fun b => key b == key item).isSome :=
      List.find?_isSome.mpr ⟨item, member, beq_self_eq_true (key item)⟩
    obtain ⟨other, found⟩ := Option.isSome_iff_exists.mp some
    have same : key other = key item := by simpa using List.find?_some found
    rw [found, List.inj_on_of_nodup_map distinct (List.mem_of_find?_eq_some found) member same]

/-- At most one item is filed under a distinct key. -/
theorem filter_key_eq_singleton {key : β → κ} {items : List β} (distinct : (items.map key).Nodup)
    {item : β} (member : item ∈ items) : items.filter (fun b => key b == key item) = [item] := by
  induction items with
  | nil => cases member
  | cons head rest ih =>
      obtain ⟨absent, tail⟩ := List.nodup_cons.mp distinct
      rcases List.mem_cons.mp member with rfl | inside
      · have others : rest.filter (fun b => key b == key item) = [] := by
          apply List.filter_eq_nil_iff.mpr
          intro other inRest same
          exact absent (beq_iff_eq.mp same ▸ List.mem_map_of_mem inRest)
        simp [others]
      · have different : key head ≠ key item := fun same =>
          absent (same ▸ List.mem_map_of_mem inside)
        simp [different, ih tail inside]

end Lookup

section Single

/-- The item satisfies the predicate, and no other place of the list does. -/
def OnlyAt (p : β → Prop) (items : List β) (item : β) : Prop :=
  ∃ before after, items = before ++ item :: after ∧ p item ∧ ∀ other ∈ before ++ after, ¬ p other

theorem filterMap_eq_singleton_iff {γ : Type*} {f : β → Option γ} {items : List β} {value : γ} :
    items.filterMap f = [value] ↔
      ∃ item, OnlyAt (fun b => ∃ v, f b = some v) items item ∧ f item = some value := by
  have absent {b : β} : (¬ ∃ v, f b = some v) ↔ f b = none := by
    cases f b <;> simp
  simp only [List.filterMap_eq_cons_iff, List.filterMap_eq_nil_iff, OnlyAt, absent,
    List.forall_mem_append]
  constructor
  · intro ⟨before, item, after, split, others, found, rest⟩
    exact ⟨item, ⟨before, after, split, ⟨value, found⟩, others, rest⟩, found⟩
  · intro ⟨item, ⟨before, after, split, _, others, rest⟩, found⟩
    exact ⟨before, item, after, split, others, found, rest⟩

theorem filter_eq_singleton_iff {p : β → Bool} {items : List β} {item : β} :
    items.filter p = [item] ↔ OnlyAt (fun b => p b = true) items item := by
  simp only [List.filter_eq_cons_iff, List.filter_eq_nil_iff, OnlyAt, List.forall_mem_append]
  constructor
  · intro ⟨before, after, split, others, found, rest⟩
    exact ⟨before, after, split, found, others, rest⟩
  · intro ⟨before, after, split, found, others, rest⟩
    exact ⟨before, after, split, others, found, rest⟩

end Single

/-- A walk that refuses a key already seen accepts exactly the lists whose keys
    are new and pairwise distinct. -/
theorem walk_fresh (key : β → κ) (seen : σ → List κ) {next : σ → β → σ}
    (files : ∀ state item, seen (next state item) = key item :: seen state)
    {state : σ} {items : List β} :
    Walk (fun s b => key b ∉ seen s) next state items ↔
      (items.map key).Nodup ∧ ∀ item ∈ items, key item ∉ seen state := by
  induction items generalizing state with
  | nil => simp [Walk]
  | cons head rest ih =>
      simp only [Walk, ih, files, List.map_cons, List.nodup_cons, List.mem_cons,
        forall_eq_or_imp, not_or, List.mem_map, not_exists, not_and]
      constructor
      · rintro ⟨new, distinct, unseen⟩
        exact ⟨⟨fun item member same => (unseen item member).1 same, distinct⟩, new,
          fun item member => (unseen item member).2⟩
      · rintro ⟨⟨absent, distinct⟩, new, unseen⟩
        exact ⟨new, distinct, fun item member => ⟨fun same => absent item member same,
          unseen item member⟩⟩

section Consistent

variable [DecidableEq κ]

/-- File the value of an item, when it carries one. -/
def file (key : β → κ) (value : β → Option ν) (registry : List (κ × ν)) (item : β) :
    List (κ × ν) :=
  match value item with
  | some v => (key item, v) :: registry
  | none => registry

/-- The insertion does not replace a different value. -/
def Agrees (key : β → κ) (value : β → Option ν) (registry : List (κ × ν)) (item : β) : Prop :=
  ∀ v, value item = some v → ∀ previous, registry.lookup (key item) = some previous → previous = v

private def entries (key : β → κ) (value : β → Option ν) (items : List β) : List (κ × ν) :=
  items.filterMap fun item => (value item).map (key item, ·)

/-- An entry agrees with a consistent registry exactly when it can be added to it. -/
private theorem agrees_iff_functional {key : β → κ} {value : β → Option ν} {item : β} {v : ν}
    {registry : List (κ × ν)} (start : Functional registry) (found : value item = some v) :
    Agrees key value registry item ↔ Functional ((key item, v) :: registry) := by
  constructor
  · intro agrees
    have old : ∀ b ∈ registry, key item = b.1 → b.2 = v := by
      intro b member same
      apply agrees v found
      rw [same]
      exact start.lookup_iff.mpr member
    intro a ha b hb same
    rcases List.mem_cons.mp ha with rfl | ha <;> rcases List.mem_cons.mp hb with rfl | hb
    · rfl
    · exact (old b hb same).symm
    · exact old a ha same.symm
    · exact start a ha b hb same
  · intro extended w carried previous lookedUp
    obtain rfl : v = w := Option.some.inj (found.symm.trans carried)
    exact extended _ (List.mem_cons_of_mem _ (mem_of_lookup lookedUp)) _ List.mem_cons_self rfl

private theorem walk_agrees_from {key : β → κ} {value : β → Option ν} {items : List β}
    {registry : List (κ × ν)} (start : Functional registry) :
    Walk (Agrees key value) (file key value) registry items ↔
      Functional (entries key value items ++ registry) := by
  induction items generalizing registry with
  | nil => simpa [Walk, entries] using start
  | cons head rest ih =>
      cases found : value head with
      | none =>
          have same : file key value registry head = registry := by simp [file, found]
          simp only [Walk, same, ih start]
          simp [Agrees, found, entries]
      | some v =>
          have filed : file key value registry head = (key head, v) :: registry := by
            simp [file, found]
          have listed : entries key value (head :: rest) =
              (key head, v) :: entries key value rest := by simp [entries, found]
          simp only [Walk, filed, listed, List.cons_append]
          constructor
          · rintro ⟨agrees, walk⟩
            have extended := (agrees_iff_functional start found).mp agrees
            exact functional_middle.mp ((ih extended).mp walk)
          · intro whole
            have middle := functional_middle.mpr whole
            have extended := middle.of_subset (List.subset_append_right _ _)
            exact ⟨(agrees_iff_functional start found).mpr extended, (ih extended).mpr middle⟩

/-- A walk that files values and refuses a conflicting one accepts exactly the
    lists in which items of equal key that carry a value carry the same one. -/
theorem walk_agrees {key : β → κ} {value : β → Option ν} {items : List β} :
    Walk (Agrees key value) (file key value) [] items ↔
      ∀ a ∈ items, ∀ b ∈ items, key a = key b →
        ∀ v w, value a = some v → value b = some w → v = w := by
  rw [walk_agrees_from (by simp [Functional])]
  simp only [Functional, entries, List.append_nil, List.mem_filterMap, Option.map_eq_some_iff]
  constructor
  · intro h a ha b hb same v w hv hw
    exact h (key a, v) ⟨a, ha, v, hv, rfl⟩ (key b, w) ⟨b, hb, w, hw, rfl⟩ same
  · rintro h _ ⟨a, ha, v, hv, rfl⟩ _ ⟨b, hb, w, hw, rfl⟩ same
    exact h a ha b hb same v w hv hw

end Consistent

end HybridX509.Lib
