import Mathlib.Data.List.Forall2
import Mathlib.Data.Multiset.Lattice
import Mathlib.Order.BoundedOrder.Lattice

/-! # The worst value of a list, and loops that compute it

A list of graded answers is summarized by its infimum. The order facts below are
all consequences of one comparison rule: every answer on the larger side must be
dominated by some answer on the smaller one.

The second half is about programs. A loop that leaves early at the bottom value
and otherwise lowers an accumulator computes exactly this infimum, whatever the
accumulator's own encoding is.
-/

namespace HybridX509.Lib

section Worst

variable {α β γ : Type*} [SemilatticeInf α] [OrderTop α]

/-- The infimum of the grades of a list; an empty list has the best grade. -/
def worst (grade : β → α) (items : List β) : α := (Multiset.ofList (items.map grade)).inf

@[simp] theorem worst_nil (grade : β → α) : worst grade [] = ⊤ := Multiset.inf_zero

@[simp] theorem worst_cons (grade : β → α) (head : β) (rest : List β) :
    worst grade (head :: rest) = grade head ⊓ worst grade rest := by
  simp only [worst, List.map_cons, ← Multiset.cons_coe, Multiset.inf_cons]

theorem le_worst_iff {grade : β → α} {items : List β} {bound : α} :
    bound ≤ worst grade items ↔ ∀ item ∈ items, bound ≤ grade item := by
  simp only [worst, Multiset.le_inf, Multiset.mem_coe, List.forall_mem_map]

theorem worst_le_of_mem {grade : β → α} {items : List β} {item : β} (member : item ∈ items) :
    worst grade items ≤ grade item :=
  le_worst_iff.mp le_rfl item member

theorem worst_eq_top_iff {grade : β → α} {items : List β} :
    worst grade items = ⊤ ↔ ∀ item ∈ items, grade item = ⊤ := by
  simp only [← top_le_iff, le_worst_iff]

/-- The comparison rule: enlarging a list, improving its grades and reindexing it
    are all instances. -/
theorem worst_le_worst {low : β → α} {high : γ → α} {items : List β} {others : List γ}
    (dominated : ∀ other ∈ others, ∃ item ∈ items, low item ≤ high other) :
    worst low items ≤ worst high others := by
  apply le_worst_iff.mpr
  intro other member
  obtain ⟨item, inside, le⟩ := dominated other member
  exact (worst_le_of_mem inside).trans le

theorem worst_congr {grade grade' : β → α} {items : List β}
    (same : ∀ item ∈ items, grade item = grade' item) :
    worst grade items = worst grade' items := by
  simp only [worst, List.map_congr_left same]

/-- Position by position, what stands in one list has a partner in the other. -/
theorem exists_aligned {related : β → γ → Prop} {items : List β} {others : List γ}
    (aligned : List.Forall₂ related items others) :
    (∀ item ∈ items, ∃ other ∈ others, related item other) ∧
      ∀ other ∈ others, ∃ item ∈ items, related item other := by
  induction aligned with
  | nil => simp
  | cons first _ ih =>
      constructor
      · intro item member
        cases member with
        | head => exact ⟨_, List.mem_cons_self, first⟩
        | tail _ inside =>
            obtain ⟨other, partner, holds⟩ := ih.1 item inside
            exact ⟨other, List.mem_cons_of_mem _ partner, holds⟩
      · intro other member
        cases member with
        | head => exact ⟨_, List.mem_cons_self, first⟩
        | tail _ inside =>
            obtain ⟨item, partner, holds⟩ := ih.2 other inside
            exact ⟨item, List.mem_cons_of_mem _ partner, holds⟩

theorem worst_le_of_aligned {low : β → α} {high : γ → α} {items : List β} {others : List γ}
    (aligned : List.Forall₂ (fun item other => low item ≤ high other) items others) :
    worst low items ≤ worst high others :=
  worst_le_worst (exists_aligned aligned).2

end Worst

section Bottom

variable {α β : Type*} [LinearOrder α] [BoundedOrder α]

theorem worst_eq_bot_iff [Nontrivial α] {grade : β → α} {items : List β} :
    worst grade items = ⊥ ↔ ∃ item ∈ items, grade item = ⊥ := by
  induction items with
  | nil => simp [top_ne_bot]
  | cons head rest ih => simp only [worst_cons, min_eq_bot, ih, List.exists_mem_cons_iff]

end Bottom

section Loops

variable {α β σ : Type*} [SemilatticeInf α] [BoundedOrder α]

/-- The rule for early-returning loops. `none` is the return from inside the
    loop and reads as the bottom grade; a surviving accumulator reads as `value`.
    If one pass lowers the value by the grade of its item, the whole loop lowers
    it by the worst grade of the list. -/
theorem foldlM_lowers (value : Option σ → α) (returned : value none = ⊥)
    (step : σ → β → Option σ) (grade : β → α)
    (lowers : ∀ state item, value (step state item) = value (some state) ⊓ grade item)
    (state : σ) (items : List β) :
    value (items.foldlM step state) = value (some state) ⊓ worst grade items := by
  induction items generalizing state with
  | nil => simp [pure]
  | cons head rest ih =>
      have first := lowers state head
      simp only [List.foldlM_cons, worst_cons, ← inf_assoc, ← first]
      cases step state head with
      | none => simp [returned]
      | some next => exact ih next

end Loops

end HybridX509.Lib
