import Mathlib.Data.List.Basic

/-! # Fallible straight-line code and loops

Acceptance rules for code written in `Except`: when a guard, a lookup, a sequence
or a loop returns normally. A loop over mutable state is described by a `Walk`,
the conjunction of its per-pass conditions along the states it goes through, so
that loop proofs never mention the monad again.
-/

namespace HybridX509.Lib

universe u

variable {ε β : Type*} {α σ : Type u}

/-- `if bad { return Err(error) }`. -/
def failIf (bad : Prop) [Decidable bad] (error : ε) : Except ε Unit :=
  if bad then .error error else .ok ()

/-- `let Some(value) = option else { return Err(error) }`. -/
def orFail (option : Option α) (error : ε) : Except ε α :=
  match option with
  | some value => .ok value
  | none => .error error

@[simp] theorem failIf_ok_iff {bad : Prop} [Decidable bad] {error : ε} {u : Unit} :
    failIf bad error = .ok u ↔ ¬ bad := by
  by_cases h : bad <;> simp [failIf, h]

@[simp] theorem orFail_ok_iff {option : Option α} {error : ε} {value : α} :
    orFail option error = .ok value ↔ option = some value := by
  cases option <;> simp [orFail]

@[simp] theorem pure_ok_iff {a b : α} : (pure a : Except ε α) = .ok b ↔ a = b := by
  simp [pure, Except.pure]

theorem bind_ok_iff {γ : Type u} {x : Except ε α} {f : α → Except ε γ} {b : γ} :
    (x >>= f) = .ok b ↔ ∃ a, x = .ok a ∧ f a = .ok b := by
  cases x <;> simp [bind, Except.bind]

/-! Whether a computation returns, and with what, can be decided by running it. -/

instance decidableReturnsWith (x : Except ε α) (p : α → Prop) [DecidablePred p] :
    Decidable (∃ a, x = .ok a ∧ p a) :=
  match x with
  | .ok a => decidable_of_iff (p a) (by simp)
  | .error _ => isFalse (by simp)

instance decidableReturns (x : Except ε α) : Decidable (∃ a, x = .ok a) :=
  match x with
  | .ok a => isTrue ⟨a, rfl⟩
  | .error _ => isFalse (by simp)

/-! Running a computation whose parts are known to return. -/

theorem ok_bind {γ : Type u} {a : α} {f : α → Except ε γ} : (Except.ok a >>= f) = f a := rfl

theorem pure_eq_ok {a : α} : (pure a : Except ε α) = .ok a := rfl

theorem map_ok_iff {γ : Type u} {x : Except ε α} {f : α → γ} {b : γ} :
    x.map f = .ok b ↔ ∃ a, x = .ok a ∧ f a = b := by
  cases x <;> simp [Except.map]

theorem ok_unique {x : Except ε α} {a b : α} (first : x = .ok a) (second : x = .ok b) : a = b :=
  Except.ok.inj (first.symm.trans second)

theorem exists_unit_iff {p : Unit → Prop} : (∃ u, p u) ↔ p () :=
  ⟨fun ⟨_, h⟩ => h, fun h => ⟨(), h⟩⟩

theorem forM_ok_iff {f : α → Except ε Unit} {items : List α} :
    items.forM f = .ok () ↔ ∀ item ∈ items, f item = .ok () := by
  induction items with
  | nil => simp [List.forM, pure, Except.pure]
  | cons head rest ih =>
      simp only [List.forM, bind_ok_iff, exists_unit_iff, ih, List.forall_mem_cons]

/-! What stops a computation. -/

theorem failIf_error_iff {bad : Prop} [Decidable bad] {error raised : ε} :
    failIf bad error = .error raised ↔ bad ∧ raised = error := by
  by_cases h : bad <;> simp [failIf, h, eq_comm]

theorem orFail_error_iff {option : Option α} {error raised : ε} :
    orFail option error = .error raised ↔ option = none ∧ raised = error := by
  cases option <;> simp [orFail, eq_comm]

theorem bind_error_iff {γ : Type u} {x : Except ε α} {f : α → Except ε γ} {raised : ε} :
    (x >>= f) = .error raised ↔ x = .error raised ∨ ∃ a, x = .ok a ∧ f a = .error raised := by
  cases x <;> simp [bind, Except.bind]

theorem map_error_iff {γ : Type u} {x : Except ε α} {f : α → γ} {raised : ε} :
    x.map f = .error raised ↔ x = .error raised := by
  cases x <;> simp [Except.map]

/-- A loop stops with the error of the first item that has one. -/
theorem forM_error_iff {f : α → Except ε Unit} {items : List α} {raised : ε} :
    items.forM f = .error raised ↔ ∃ before item after, items = before ++ item :: after ∧
      (∀ earlier ∈ before, f earlier = .ok ()) ∧ f item = .error raised := by
  induction items with
  | nil => simp [List.forM, pure, Except.pure]
  | cons head rest ih =>
      simp only [List.forM, bind_error_iff, exists_unit_iff, ih]
      constructor
      · rintro (failed | ⟨passed, before, item, after, rfl, each, failed⟩)
        · exact ⟨[], head, rest, rfl, by simp, failed⟩
        · exact ⟨head :: before, item, after, rfl, List.forall_mem_cons.mpr ⟨passed, each⟩, failed⟩
      · rintro ⟨before, item, after, split, each, failed⟩
        cases before with
        | nil =>
            obtain ⟨rfl, rfl⟩ := List.cons.inj split
            exact .inl failed
        | cons first before =>
            obtain ⟨rfl, rfl⟩ := List.cons.inj split
            obtain ⟨passed, each⟩ := List.forall_mem_cons.mp each
            exact .inr ⟨passed, before, item, after, rfl, each, failed⟩

/-- The per-pass conditions of a loop, along the states produced by `next`. -/
def Walk (valid : σ → β → Prop) (next : σ → β → σ) : σ → List β → Prop
  | _, [] => True
  | state, item :: rest => valid state item ∧ Walk valid next (next state item) rest

/-- The rule for loops over mutable state: one pass is specified by its condition
    and its update, the loop by the walk and the final state. -/
theorem foldlM_ok_iff {step : σ → β → Except ε σ} {valid : σ → β → Prop} {next : σ → β → σ}
    (pass : ∀ state item state', step state item = .ok state' ↔
      valid state item ∧ next state item = state')
    {items : List β} {state state' : σ} :
    items.foldlM step state = .ok state' ↔
      Walk valid next state items ∧ items.foldl next state = state' := by
  induction items generalizing state with
  | nil => simp [Walk, pure, Except.pure]
  | cons head rest ih =>
      simp only [List.foldlM_cons, bind_ok_iff, pass, ih, Walk, List.foldl_cons]
      constructor
      · rintro ⟨_, ⟨first, rfl⟩, walk, final⟩
        exact ⟨⟨first, walk⟩, final⟩
      · intro ⟨⟨first, walk⟩, final⟩
        exact ⟨_, ⟨first, rfl⟩, walk, final⟩

theorem walk_and {left right : σ → β → Prop} {next : σ → β → σ} {state : σ} {items : List β} :
    Walk (fun s b => left s b ∧ right s b) next state items ↔
      Walk left next state items ∧ Walk right next state items := by
  induction items generalizing state with
  | nil => simp [Walk]
  | cons head rest ih => simp only [Walk, ih, and_and_and_comm]

theorem walk_forall {p : β → Prop} {next : σ → β → σ} {state : σ} {items : List β} :
    Walk (fun _ b => p b) next state items ↔ ∀ item ∈ items, p item := by
  induction items generalizing state with
  | nil => simp [Walk]
  | cons head rest ih => simp only [Walk, ih, List.forall_mem_cons]

/-- The rule for loops that collect: what a pass appends is described by `more`, and the
    loop appends it for one item after the other. -/
theorem foldlM_append_ok {γ δ : Type u} {step : List γ → β → Except ε (List γ)}
    {more : β → δ → Prop} {out : δ → List γ}
    (pass : ∀ collected item collected', step collected item = .ok collected' →
      ∃ found, more item found ∧ collected' = collected ++ out found)
    {items : List β} {collected collected' : List γ}
    (ran : items.foldlM step collected = .ok collected') :
    ∃ found, List.Forall₂ more items found ∧ collected' = collected ++ found.flatMap out := by
  induction items generalizing collected with
  | nil =>
      obtain rfl := pure_ok_iff.mp ran
      exact ⟨[], .nil, by simp⟩
  | cons item rest ih =>
      rw [List.foldlM_cons] at ran
      obtain ⟨next, first, others⟩ := bind_ok_iff.mp ran
      obtain ⟨head, isMore, rfl⟩ := pass _ _ _ first
      obtain ⟨found, areMore, rfl⟩ := ih others
      exact ⟨head :: found, .cons isMore areMore, by simp⟩

/-! ## Errors

Rules for showing that a computation can only fail in an expected way. -/

/-- Every error of the computation satisfies `p`. -/
def Raises (p : ε → Prop) (x : Except ε β) : Prop := ∀ error, x = .error error → p error

theorem raises_ok {p : ε → Prop} (value : β) : Raises p (.ok value : Except ε β) :=
  fun _ failed => by cases failed

theorem raises_error {p : ε → Prop} {error : ε} (expected : p error) :
    Raises p (.error error : Except ε β) :=
  fun _ failed => by cases failed; exact expected

/-- A guard only has to account for its error where it fails. -/
theorem raises_failIf {p : ε → Prop} {bad : Prop} [Decidable bad] {error : ε}
    (expected : bad → p error) : Raises p (failIf bad error) := by
  unfold failIf
  split
  · next fails => exact raises_error (expected fails)
  · exact raises_ok ()

theorem raises_orFail {p : ε → Prop} {option : Option α} {error : ε} (expected : p error) :
    Raises p (orFail option error) := by
  cases option with
  | none => exact raises_error expected
  | some value => exact raises_ok value

/-- The continuation may use that the first part returned. -/
theorem raises_bind {γ : Type u} {p : ε → Prop} {x : Except ε α} {f : α → Except ε γ}
    (first : Raises p x) (rest : ∀ a, x = .ok a → Raises p (f a)) : Raises p (x >>= f) := by
  cases x with
  | error error => exact raises_error (first error rfl)
  | ok value => exact rest value rfl

theorem raises_forM {p : ε → Prop} {f : α → Except ε Unit} {items : List α}
    (each : ∀ item, Raises p (f item)) : Raises p (items.forM f) := by
  induction items with
  | nil => exact raises_ok _
  | cons head rest ih => exact raises_bind (each head) fun _ _ => ih

theorem raises_foldlM {p : ε → Prop} {step : σ → β → Except ε σ} {items : List β}
    (each : ∀ state, ∀ item ∈ items, Raises p (step state item)) (state : σ) :
    Raises p (items.foldlM step state) := by
  induction items generalizing state with
  | nil => exact raises_ok state
  | cons head rest ih =>
      rw [List.foldlM_cons]
      refine raises_bind (each state head List.mem_cons_self) fun next _ => ?_
      exact ih (fun state item member => each state item (List.mem_cons_of_mem head member)) next

theorem raises_mapM {γ : Type u} {p : ε → Prop} {f : α → Except ε γ} {items : List α}
    (each : ∀ item, Raises p (f item)) : Raises p (items.mapM f) := by
  induction items with
  | nil => exact raises_ok []
  | cons head rest ih =>
      rw [List.mapM_cons]
      exact raises_bind (each head) fun _ _ => raises_bind ih fun _ _ => raises_ok _

/-- A computation that returns a value of one kind or fails with an error of another. -/
def Yields (good : β → Prop) (p : ε → Prop) (x : Except ε β) : Prop :=
  (∀ value, x = .ok value → good value) ∧ Raises p x

theorem yields_ok {good : β → Prop} {p : ε → Prop} {value : β} (expected : good value) :
    Yields good p (.ok value : Except ε β) :=
  ⟨fun _ same => Except.ok.inj same ▸ expected, raises_ok value⟩

theorem yields_bind {γ : Type u} {good : γ → Prop} {p : ε → Prop} {x : Except ε α}
    {f : α → Except ε γ} (first : Raises p x) (rest : ∀ a, x = .ok a → Yields good p (f a)) :
    Yields good p (x >>= f) := by
  cases x with
  | error error =>
      refine ⟨fun _ same => ?_, raises_error (first error rfl)⟩
      cases same
  | ok value => exact rest value rfl

end HybridX509.Lib
