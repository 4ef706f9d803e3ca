import HybridX509.Oracle.Accepted

/-! # The policy trees in closed form

Each policy tree depends on the aggregates only through two infima: the classical
part and the whole. P2 reports the whole, P0 the classical part, and P1 the
classical part raised to hybrid acceptance when the whole passes. From this follow
totality, monotonicity in the aggregates and the agreement of the policies.
-/

namespace HybridX509

namespace PolicyVerdict

/-- Position in `Reject < Indeterminate < Classical < Hybrid`; an unsupported
    verdict is outside this order. -/
def rank : PolicyVerdict → Nat
  | .reject => 0
  | .indeterminate => 1
  | .classicalClaimSetSatisfied => 2
  | .hybridClaimSetSatisfied => 3
  | .unsupported => 0

/-- Unsupported exactly together, and otherwise not above in the order. -/
def AtMost (low high : PolicyVerdict) : Prop :=
  (low = .unsupported ↔ high = .unsupported) ∧ (high ≠ .unsupported → low.rank ≤ high.rank)

instance (low high : PolicyVerdict) : Decidable (AtMost low high) :=
  inferInstanceAs (Decidable (_ ∧ _))

theorem AtMost.refl (verdict : PolicyVerdict) : AtMost verdict verdict :=
  ⟨Iff.rfl, fun _ => Nat.le_refl _⟩

end PolicyVerdict

namespace Oracle

namespace Aggregates

/-- Everything P0 asks of a path with a classical requirement. -/
def classicalPart (a : Aggregates) : AggregateState :=
  a.stackState ⊓ a.profileState ⊓ a.classicalState

/-- Everything P2 asks. -/
def whole (a : Aggregates) : AggregateState :=
  a.classicalPart ⊓ a.pqState ⊓ a.hybridDesignState ⊓ a.validatedPathState

/-- Two aggregates are never `Fail`, whatever the request. -/
structure Ranged (a : Aggregates) : Prop where
  profile : a.profileState ≠ .fail
  validatedPath : a.validatedPathState ≠ .fail

theorem hybridClaimSet_iff {a : Aggregates} : a.hybridClaimSet = true ↔ a.whole = .pass := by
  simp only [hybridClaimSet, stackAccepted, profileAccepted, allHybrid, classicalOk, pqOk,
    validatedPathOk, whole, classicalPart, Bool.and_eq_true, beq_iff_eq,
    AggregateState.inf_eq_pass_iff]
  tauto

theorem classicalRejected_iff {a : Aggregates} (ranged : a.Ranged) :
    a.classicalRejected = true ↔ a.hasClassicalRequirement = false ∨ a.classicalPart = .fail := by
  have profile := ranged.profile
  simp only [classicalRejected, classicalPart, Bool.or_eq_true, Bool.not_eq_true', beq_iff_eq,
    AggregateState.inf_eq_fail_iff]
  tauto

theorem classicalAuthenticationSucceeded_iff {a : Aggregates} :
    a.classicalAuthenticationSucceeded = true ↔
      a.hasClassicalRequirement = true ∧ a.classicalPart = .pass := by
  simp only [classicalAuthenticationSucceeded, classicalPart, stackAccepted, profileAccepted,
    classicalOk, Bool.and_eq_true, beq_iff_eq, AggregateState.inf_eq_pass_iff]
  tauto

theorem whole_le_classicalPart (a : Aggregates) : a.whole ≤ a.classicalPart :=
  inf_le_left.trans (inf_le_left.trans inf_le_left)

end Aggregates

def classicalVerdict : AggregateState → PolicyVerdict
  | .fail => .reject
  | .indeterminate => .indeterminate
  | .pass => .classicalClaimSetSatisfied

def hybridVerdict : AggregateState → PolicyVerdict
  | .fail => .reject
  | .indeterminate => .indeterminate
  | .pass => .hybridClaimSetSatisfied

/-- The verdict of a policy, without its reason. -/
def verdictOf (policy : Policy) (a : Aggregates) : PolicyVerdict :=
  match policy with
  | .p0Classical =>
      if a.hasClassicalRequirement then classicalVerdict a.classicalPart else .reject
  | .p1OptionalHybrid =>
      if a.hasClassicalRequirement then
        if a.whole = .pass then .hybridClaimSetSatisfied else classicalVerdict a.classicalPart
      else .reject
  | .p2RequiredHybrid => hybridVerdict a.whole
  | .p3Continuity => .indeterminate

theorem decideP0_verdict {a : Aggregates} (ranged : a.Ranged) :
    (decideP0 a).1 = verdictOf .p0Classical a := by
  have rejected := Aggregates.classicalRejected_iff ranged
  have accepted : (a.classicalOk && a.stackAccepted && a.profileAccepted) = true ↔
      a.classicalPart = .pass := by
    simp only [Aggregates.classicalOk, Aggregates.stackAccepted, Aggregates.profileAccepted,
      Aggregates.classicalPart, Bool.and_eq_true, beq_iff_eq, AggregateState.inf_eq_pass_iff]
    tauto
  simp only [decideP0, verdictOf, rejected, accepted]
  cases a.hasClassicalRequirement <;> cases a.classicalPart <;> simp [classicalVerdict]

theorem decideP1_verdict {a : Aggregates} (ranged : a.Ranged) :
    (decideP1 a).1 = verdictOf .p1OptionalHybrid a := by
  have rejected := Aggregates.classicalRejected_iff ranged
  have hybrid := @Aggregates.hybridClaimSet_iff a
  have accepted : (a.stackAccepted && a.profileAccepted && a.classicalOk) = true ↔
      a.classicalPart = .pass := by
    simp only [Aggregates.classicalOk, Aggregates.stackAccepted, Aggregates.profileAccepted,
      Aggregates.classicalPart, Bool.and_eq_true, beq_iff_eq, AggregateState.inf_eq_pass_iff]
  have below := a.whole_le_classicalPart
  simp only [decideP1, verdictOf, rejected, hybrid, accepted]
  cases requirement : a.hasClassicalRequirement
  · simp
  · cases part : a.classicalPart with
    | fail =>
        have : a.whole ≠ .pass := by
          intro pass
          rw [pass, part] at below
          exact absurd below (by decide)
        simp [this, classicalVerdict]
    | indeterminate => by_cases pass : a.whole = .pass <;> simp [pass, classicalVerdict]
    | pass => by_cases pass : a.whole = .pass <;> simp [pass, classicalVerdict]

/-- Without an indeterminate aggregate the whole is decided. -/
theorem Aggregates.whole_eq_pass_of_settled {a : Aggregates} (notFail : a.whole ≠ .fail)
    (settled : ¬ (a.classicalState = .indeterminate ∨ a.pqState = .indeterminate ∨
      a.stackState = .indeterminate ∨ a.profileState = .indeterminate ∨
      a.validatedPathState = .indeterminate ∨ a.hybridDesignState = .indeterminate)) :
    a.whole = .pass := by
  have decided {state : AggregateState} (failed : state ≠ .fail)
      (undecided : state ≠ .indeterminate) : state = .pass := by
    cases state with
    | pass => rfl
    | fail => exact absurd rfl failed
    | indeterminate => exact absurd rfl undecided
  simp only [Aggregates.whole, Aggregates.classicalPart, ne_eq, AggregateState.inf_eq_fail_iff,
    not_or] at notFail settled
  obtain ⟨⟨⟨⟨⟨stack, profile⟩, classical⟩, pq⟩, design⟩, path⟩ := notFail
  obtain ⟨classical', pq', stack', profile', path', design'⟩ := settled
  simp only [Aggregates.whole, Aggregates.classicalPart, AggregateState.inf_eq_pass_iff]
  exact ⟨⟨⟨⟨⟨decided stack stack', decided profile profile'⟩, decided classical classical'⟩,
    decided pq pq'⟩, decided design design'⟩, decided path path'⟩

/-- The `unreachable!` arm of the P2 tree is unreachable: a whole that neither
    passes nor fails has an indeterminate part. -/
theorem decideP2_verdict {a : Aggregates} (ranged : a.Ranged) :
    ∃ reason, decideP2 a = .ok (verdictOf .p2RequiredHybrid a, reason) := by
  have answers {state : AggregateState} (whole : a.whole = state) (reason : String) :
      ∃ reason', (Except.ok (hybridVerdict state, reason) : Except Abort (PolicyVerdict × String)) =
        .ok (verdictOf .p2RequiredHybrid a, reason') :=
    ⟨reason, by simp [verdictOf, whole]⟩
  unfold decideP2
  split
  · next pass => exact answers (Aggregates.hybridClaimSet_iff.mp pass) _
  · next notPass =>
      rw [Aggregates.hybridClaimSet_iff] at notPass
      split
      · next pq =>
          simp only [Bool.and_eq_true, beq_iff_eq] at pq
          have failed : a.whole = .fail := by simp [Aggregates.whole, pq.2]
          exact answers failed _
      · split
        · next failed =>
            simp only [Bool.or_eq_true, beq_iff_eq] at failed
            have whole : a.whole = .fail := by
              simp only [Aggregates.whole, Aggregates.classicalPart,
                AggregateState.inf_eq_fail_iff]
              tauto
            exact answers whole _
        · next unfailed =>
            have notFail : a.whole ≠ .fail := by
              have profile := ranged.profile
              have validatedPath := ranged.validatedPath
              simp only [Bool.or_eq_true, beq_iff_eq] at unfailed
              simp only [Aggregates.whole, Aggregates.classicalPart, ne_eq,
                AggregateState.inf_eq_fail_iff]
              tauto
            split
            · have undecided : a.whole = .indeterminate := by
                cases h : a.whole with
                | pass => exact absurd h notPass
                | fail => exact absurd h notFail
                | indeterminate => rfl
              exact answers undecided _
            · next settled =>
                simp only [Bool.or_eq_true, beq_iff_eq, or_assoc] at settled
                exact absurd (Aggregates.whole_eq_pass_of_settled notFail settled) notPass

/-! ## Comparison -/

namespace Aggregates

/-- Every state of the first bounded by the same state of the second. -/
structure Below (a b : Aggregates) : Prop where
  stack : a.stackState ≤ b.stackState
  profile : a.profileState ≤ b.profileState
  classical : a.classicalState ≤ b.classicalState
  pq : a.pqState ≤ b.pqState
  design : a.hybridDesignState ≤ b.hybridDesignState
  validatedPath : a.validatedPathState ≤ b.validatedPathState

theorem Below.classicalPart_le {a b : Aggregates} (below : a.Below b) :
    a.classicalPart ≤ b.classicalPart :=
  inf_le_inf (inf_le_inf below.stack below.profile) below.classical

theorem Below.whole_le {a b : Aggregates} (below : a.Below b) : a.whole ≤ b.whole :=
  inf_le_inf (inf_le_inf (inf_le_inf below.classicalPart_le below.pq) below.design)
    below.validatedPath

end Aggregates

theorem classicalVerdict_mono {low high : AggregateState} (le : low ≤ high) :
    PolicyVerdict.AtMost (classicalVerdict low) (classicalVerdict high) := by
  revert le
  cases low <;> cases high <;> decide

theorem hybridVerdict_mono {low high : AggregateState} (le : low ≤ high) :
    PolicyVerdict.AtMost (hybridVerdict low) (hybridVerdict high) := by
  revert le
  cases low <;> cases high <;> decide

theorem atMost_hybrid (state : AggregateState) :
    PolicyVerdict.AtMost (classicalVerdict state) .hybridClaimSetSatisfied := by
  cases state <;> decide

/-- A policy never answers better on worse aggregates. -/
theorem verdictOf_mono {a b : Aggregates} (below : a.Below b)
    (same : a.hasClassicalRequirement = b.hasClassicalRequirement) (policy : Policy) :
    PolicyVerdict.AtMost (verdictOf policy a) (verdictOf policy b) := by
  cases policy with
  | p0Classical =>
      simp only [verdictOf, same]
      split
      · exact classicalVerdict_mono below.classicalPart_le
      · exact PolicyVerdict.AtMost.refl _
  | p1OptionalHybrid =>
      simp only [verdictOf, same]
      split
      · by_cases pass : a.whole = .pass
        · have raised : b.whole = .pass := AggregateState.pass_le_iff.mp (pass ▸ below.whole_le)
          simp only [pass, raised, if_true]
          exact PolicyVerdict.AtMost.refl _
        · rw [if_neg pass]
          split
          · exact atMost_hybrid _
          · exact classicalVerdict_mono below.classicalPart_le
      · exact PolicyVerdict.AtMost.refl _
  | p2RequiredHybrid => exact hybridVerdict_mono below.whole_le
  | p3Continuity => exact PolicyVerdict.AtMost.refl _

/-! ## Reading verdicts back -/

theorem classicalVerdict_ne_hybrid (state : AggregateState) :
    classicalVerdict state ≠ .hybridClaimSetSatisfied := by
  cases state <;> decide

theorem verdictOf_ne_unsupported (policy : Policy) (a : Aggregates) :
    verdictOf policy a ≠ .unsupported := by
  have classical (state : AggregateState) : classicalVerdict state ≠ .unsupported := by
    cases state <;> decide
  cases policy with
  | p0Classical =>
      simp only [verdictOf]
      split
      · exact classical _
      · decide
  | p1OptionalHybrid =>
      simp only [verdictOf]
      split
      · split
        · decide
        · exact classical _
      · decide
  | p2RequiredHybrid =>
      simp only [verdictOf]
      cases a.whole <;> decide
  | p3Continuity => simp [verdictOf]

/-- Hybrid acceptance always rests on every aggregate, under whatever policy. -/
theorem whole_eq_pass_of_hybrid {policy : Policy} {a : Aggregates}
    (hybrid : verdictOf policy a = .hybridClaimSetSatisfied) : a.whole = .pass := by
  cases policy with
  | p0Classical =>
      simp only [verdictOf] at hybrid
      split at hybrid
      · exact absurd hybrid (classicalVerdict_ne_hybrid _)
      · cases hybrid
  | p1OptionalHybrid =>
      simp only [verdictOf] at hybrid
      split at hybrid
      · split at hybrid
        · assumption
        · exact absurd hybrid (classicalVerdict_ne_hybrid _)
      · cases hybrid
  | p2RequiredHybrid =>
      simp only [verdictOf] at hybrid
      cases whole : a.whole <;> simp_all [hybridVerdict]
  | p3Continuity => cases hybrid

theorem classicalPart_eq_pass_of_classical {policy : Policy} {a : Aggregates}
    (classical : verdictOf policy a = .classicalClaimSetSatisfied) :
    a.hasClassicalRequirement = true ∧ a.classicalPart = .pass := by
  have part {state : AggregateState}
      (answer : classicalVerdict state = .classicalClaimSetSatisfied) : state = .pass := by
    cases state <;> simp_all [classicalVerdict]
  cases policy with
  | p0Classical =>
      simp only [verdictOf] at classical
      split at classical
      · exact ⟨by assumption, part classical⟩
      · cases classical
  | p1OptionalHybrid =>
      simp only [verdictOf] at classical
      split at classical
      · split at classical
        · cases classical
        · exact ⟨by assumption, part classical⟩
      · cases classical
  | p2RequiredHybrid =>
      simp only [verdictOf] at classical
      cases whole : a.whole <;> simp_all [hybridVerdict]
  | p3Continuity => cases classical

end Oracle

end HybridX509
