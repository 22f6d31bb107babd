import Mathlib.Tactic

/-!
# Finite executions of partial labelled machines

A machine is a partial step function on states: a label is refused by
answering `none`.  `Reaches` collects the states of those executions whose
every step meets a side condition on the state it is taken in.  The condition
is a parameter, so one machine carries both its unrestricted executions and
the disciplined ones a result is conditional on.

The module names nothing of a particular program.  `Reaches.invariant` is the
only induction over executions that the rest of the development needs.
-/

namespace Mls4rn.Lib.Execution

universe u v

/-- A partial labelled step function. -/
structure Machine (State : Type u) (Label : Type v) where
  step : State → Label → Option State

variable {State : Type u} {Label : Type v}

/-- The side condition met by every step. -/
def anyStep : State → Label → Prop :=
  fun _ _ => True

/--
The states reached from `start` by steps that all meet `allowed`.
-/
inductive Reaches
    (machine : Machine State Label)
    (allowed : State → Label → Prop)
    (start : State) : State → Prop where
  | start : Reaches machine allowed start start
  | step {source target : State} (label : Label)
      (before : Reaches machine allowed start source)
      (permitted : allowed source label)
      (taken : machine.step source label = some target) :
      Reaches machine allowed start target

variable {machine : Machine State Label}

/--
A predicate that holds at the start and is kept by every permitted step holds
in every reached state.
-/
theorem Reaches.invariant
    {allowed : State → Label → Prop}
    {start : State} {Invariant : State → Prop} (atStart : Invariant start)
    (kept :
      ∀ source label target,
        Invariant source →
          allowed source label →
            machine.step source label = some target → Invariant target)
    {state : State} (reached : Reaches machine allowed start state) :
    Invariant state := by
  induction reached with
  | start => exact atStart
  | step label before permitted taken induction =>
      exact kept _ _ _ induction permitted taken

/-- Execute a list of labels, stopping at the first refused one. -/
def Machine.run (machine : Machine State Label) :
    State → List Label → Option State
  | state, [] => some state
  | state, label :: labels =>
      match machine.step state label with
      | none => none
      | some next => machine.run next labels

/-- What every step keeps, a run keeps. -/
theorem Machine.run_invariant
    {Invariant : State → Prop}
    (kept :
      ∀ source label target,
        Invariant source →
          machine.step source label = some target → Invariant target)
    {start final : State} {labels : List Label} (atStart : Invariant start)
    (ran : machine.run start labels = some final) : Invariant final := by
  induction labels generalizing start with
  | nil =>
      cases ran
      exact atStart
  | cons label labels induction =>
      rw [run] at ran
      split at ran
      · cases ran
      · next next stepped =>
        exact induction (kept start label next atStart stepped) ran

/-- A run in two parts. -/
theorem Machine.run_append
    {start final : State} {first second : List Label}
    (ran : machine.run start (first ++ second) = some final) :
    ∃ middle,
      machine.run start first = some middle ∧
        machine.run middle second = some final := by
  induction first generalizing start with
  | nil => exact ⟨start, rfl, ran⟩
  | cons label first induction =>
      rw [List.cons_append, run] at ran
      split at ran
      · cases ran
      · next next stepped =>
        rcases induction ran with ⟨middle, before, after⟩
        exact ⟨middle, by simp only [run, stepped, before], after⟩

/-- A run and one more step. -/
theorem Machine.run_append_single
    {start middle final : State}
    {labels : List Label} (first : machine.run start labels = some middle)
    {label : Label} (last : machine.step middle label = some final) :
    machine.run start (labels ++ [label]) = some final := by
  induction labels generalizing start with
  | nil =>
      cases first
      simp only [List.nil_append, run, last]
  | cons head tail induction =>
      rw [run] at first
      split at first
      · cases first
      · next next stepped =>
        simp only [List.cons_append, run, stepped]
        exact induction first

/-- A run is refused at the first label that its state refuses. -/
theorem Machine.run_eq_none_iff
    (machine : Machine State Label) (start : State) (labels : List Label) :
    machine.run start labels = none ↔
      ∃ before label after middle,
        labels = before ++ label :: after ∧
          machine.run start before = some middle ∧
            machine.step middle label = none := by
  induction labels generalizing start with
  | nil =>
      constructor
      · intro refused
        cases refused
      · rintro ⟨before, label, after, middle, split, -⟩
        cases before with
        | nil => cases split
        | cons head tail => cases split
  | cons first labels induction =>
      cases stepped : machine.step start first with
      | none =>
          rw [run, stepped]
          refine ⟨fun _ => ⟨[], first, labels, start, rfl, rfl, stepped⟩, ?_⟩
          intro _
          rfl
      | some next =>
          rw [run, stepped]
          refine (induction next).trans ?_
          constructor
          · rintro ⟨before, label, after, middle, rfl, ran, refused⟩
            exact ⟨first :: before, label, after, middle, rfl,
              by rw [run, stepped]; exact ran, refused⟩
          · rintro ⟨before, label, after, middle, split, ran, refused⟩
            cases before with
            | nil =>
                cases split
                cases ran
                rw [stepped] at refused
                cases refused
            | cons head tail =>
                cases split
                rw [run, stepped] at ran
                exact ⟨tail, label, after, middle, rfl, ran, refused⟩

/-- The machine that refuses what does not pass a check. -/
def Machine.restrict
    (machine : Machine State Label) (check : State → Label → Bool) :
    Machine State Label where
  step state label :=
    if check state label then machine.step state label else none

/-- A run of checked steps is an execution. -/
theorem reaches_of_run
    {allowed : State → Label → Prop} {check : State → Label → Bool}
    (sufficient : ∀ state label, check state label = true → allowed state label)
    {start final : State} {labels : List Label}
    (ran : (machine.restrict check).run start labels = some final) :
    Reaches machine allowed start final := by
  suffices extended :
      ∀ {middle : State}, Reaches machine allowed start middle →
        (machine.restrict check).run middle labels = some final →
          Reaches machine allowed start final from
    extended .start ran
  clear ran
  induction labels with
  | nil =>
      intro middle before ran
      cases ran
      exact before
  | cons label labels induction =>
      intro middle before ran
      rw [Machine.run] at ran
      split at ran
      · cases ran
      · next next stepped =>
        simp only [Machine.restrict] at stepped
        split at stepped
        · next passed =>
          exact induction
            (before.step label (sufficient middle label passed) stepped)
            ran
        · cases stepped

end Mls4rn.Lib.Execution
