import Mathlib.Data.List.Basic

/-! # Event traces

A machine that takes one choice after another, each of which changes its state and
leaves events behind. Whatever a schedule chooses, an event is justified by the events
before it when an invariant ties the state to the past.
-/

namespace HybridX509.Lib

section Traces

variable {State Choice Event : Type} (step : State → Choice → State × List Event)

/-- The events that a schedule leaves behind, in order. -/
def events : State → List Choice → List Event
  | _, [] => []
  | state, choice :: rest => (step state choice).2 ++ events (step state choice).1 rest

variable (reason : List Event → Event → Prop)

/-- Every event of the trace has its reason in the events before it. -/
def Justified (past : List Event) : List Event → Prop
  | [] => True
  | event :: rest => reason past event ∧ Justified (past ++ [event]) rest

variable {step reason}

theorem Justified.between {past before after : List Event} {event : Event}
    (justified : Justified reason past (before ++ event :: after)) :
    reason (past ++ before) event := by
  induction before generalizing past with
  | nil => simpa using justified.1
  | cons head rest ih => simpa using ih justified.2

theorem Justified.append {past first second : List Event} (front : Justified reason past first)
    (back : Justified reason (past ++ first) second) :
    Justified reason past (first ++ second) := by
  induction first generalizing past with
  | nil => simpa using back
  | cons head rest ih =>
      refine ⟨front.1, ih front.2 ?_⟩
      simpa using back

/-- If every allowed step keeps the invariant and gives reasons for its own events, then
    every event of every schedule has its reason. -/
theorem events_justified {allowed : Choice → Prop} {inv : List Event → State → Prop}
    (steps : ∀ past state choice, allowed choice → inv past state →
      inv (past ++ (step state choice).2) (step state choice).1 ∧
        Justified reason past (step state choice).2)
    {schedule : List Choice} (permitted : ∀ choice ∈ schedule, allowed choice)
    {past : List Event} {state : State} (start : inv past state) :
    Justified reason past (events step state schedule) := by
  induction schedule generalizing past state with
  | nil => trivial
  | cons choice rest ih =>
      have now := permitted choice List.mem_cons_self
      obtain ⟨next, justified⟩ := steps past state choice now start
      have later := fun choice member => permitted choice (List.mem_cons_of_mem _ member)
      exact justified.append (ih later next)

end Traces

end HybridX509.Lib
