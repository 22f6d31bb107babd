import Mls4rn.Lib.Throwing

/-!
# Rules for stateful computations that may throw

A triple says what holds of the state once a computation is over, separately
for a returned value and for a thrown error.  An invariant of calls may depend
on what the calls so far have returned.

A computation mirrors another one if it does the same on a view of the state.
-/

namespace Mls4rn.Lib.Throwing

variable {State Error Value Next : Type}

/-- From a state with `before`, what holds behind a value or an error. -/
def Triple (before : State → Prop) (action : Throwing State Error Value)
    (returned : Value → State → Prop) (thrown : Error → State → Prop) :
    Prop :=
  ∀ state, before state →
    (∀ value reached, action state = (.ok value, reached) →
        returned value reached) ∧
      ∀ error reached, action state = (.error error, reached) →
        thrown error reached

section Rules

variable {before : State → Prop} {returned : Value → State → Prop}
  {thrown : Error → State → Prop}

section Outcomes

variable {outcome : Except Error Value × State} {state : State}

/-- What a triple asks for, behind a returned value. -/
theorem ends_ok {value : Value} (ends : outcome = (.ok value, state))
    (holds : returned value state) :
    (∀ result reached, outcome = (.ok result, reached) →
        returned result reached) ∧
      ∀ error reached, outcome = (.error error, reached) →
        thrown error reached := by
  subst ends
  constructor
  · intro result reached done
    cases done
    exact holds
  · intro error reached failed
    cases failed

/-- What a triple asks for, behind a thrown error. -/
theorem ends_error {error : Error} (ends : outcome = (.error error, state))
    (holds : thrown error state) :
    (∀ value reached, outcome = (.ok value, reached) →
        returned value reached) ∧
      ∀ other reached, outcome = (.error other, reached) →
        thrown other reached := by
  subst ends
  constructor
  · intro value reached done
    cases done
  · intro other reached failed
    cases failed
    exact holds

end Outcomes

theorem triple_pure {value : Value}
    (holds : ∀ state, before state → returned value state) :
    Triple before (pure value) returned thrown :=
  fun state start => ends_ok rfl (holds state start)

theorem triple_raise {error : Error}
    (holds : ∀ state, before state → thrown error state) :
    Triple before (raise error) returned thrown :=
  fun state start => ends_error rfl (holds state start)

theorem triple_update {change : State → State}
    {returned : Unit → State → Prop}
    (holds : ∀ state, before state → returned () (change state)) :
    Triple before (update change) returned thrown :=
  fun state start => ends_ok rfl (holds state start)

theorem triple_ofExcept {result : Except Error Value}
    (ok : ∀ value state, result = .ok value → before state →
      returned value state)
    (failed : ∀ error state, result = .error error → before state →
      thrown error state) :
    Triple before (ofExcept result) returned thrown := by
  intro state start
  cases result with
  | error error => exact ends_error rfl (failed error state rfl start)
  | ok value => exact ends_ok rfl (ok value state rfl start)

theorem triple_bind
    {first : Throwing State Error Value}
    {second : Value → Throwing State Error Next}
    {between : Value → State → Prop} {returned : Next → State → Prop}
    (start : Triple before first between thrown)
    (rest : ∀ value, Triple (between value) (second value) returned thrown) :
    Triple before (first >>= second) returned thrown := by
  intro state holds
  rw [bind_apply]
  cases ran : first state with
  | mk result reached =>
      cases result with
      | error error =>
          exact ends_error rfl ((start state holds).2 error reached ran)
      | ok value =>
          have middle := (start state holds).1 value reached ran
          exact rest value reached middle

variable {action : Throwing State Error Value}

/-- From each state in turn. -/
theorem triple_of_each
    (each : ∀ start, before start →
      Triple (fun state => state = start) action returned thrown) :
    Triple before action returned thrown :=
  fun state holds => each state holds state rfl

theorem triple_read_bind
    {second : State → Throwing State Error Next}
    {returned : Next → State → Prop}
    (rest : ∀ state, before state →
      Triple (fun current => current = state) (second state) returned
        thrown) :
    Triple before (read >>= second) returned thrown := by
  intro state start
  rw [read_bind]
  exact rest state start state rfl

/-- Behind a result, which does not depend on the state. -/
theorem triple_ofExcept_bind
    {result : Except Error Value}
    {second : Value → Throwing State Error Next}
    {returned : Next → State → Prop}
    (rest : ∀ value, result = .ok value →
      Triple before (second value) returned thrown)
    (failed : ∀ error state, before state → thrown error state) :
    Triple before (ofExcept result >>= second) returned thrown := by
  cases result with
  | error error => exact triple_raise (failed error)
  | ok value => exact rest value rfl

/-- Behind a change of a known state. -/
theorem triple_update_bind
    {start : State} {change : State → State}
    {second : Unit → Throwing State Error Next}
    {returned : Next → State → Prop}
    (rest : Triple (fun state => state = change start) (second ()) returned
      thrown) :
    Triple (fun state => state = start) (update change >>= second) returned
      thrown := by
  rintro state rfl
  exact rest (change state) rfl

theorem Triple.weaken
    {earlier : State → Prop}
    {later : Value → State → Prop} {worse : Error → State → Prop}
    (triple : Triple before action returned thrown)
    (start : ∀ state, earlier state → before state)
    (ok : ∀ value state, returned value state → later value state)
    (failed : ∀ error state, thrown error state → worse error state) :
    Triple earlier action later worse := by
  intro state holds
  obtain ⟨onValue, onError⟩ := triple state (start state holds)
  exact ⟨fun value reached done => ok value reached (onValue value reached done),
    fun error reached done => failed error reached (onError error reached done)⟩

theorem Triple.strengthen
    {earlier : State → Prop} (triple : Triple before action returned thrown)
    (start : ∀ state, earlier state → before state) :
    Triple earlier action returned thrown :=
  fun state holds => triple state (start state holds)

/-- A computation on a part, with the rest of the state as it was. -/
theorem triple_zoom
    {Part PartError : Type} {part : State → Part}
    {put : Part → State → State} {embed : PartError → Error}
    {inner : Throwing Part PartError Value}
    {beforePart : Part → Prop} {returnedPart : Value → Part → Prop}
    {thrownPart : PartError → Part → Prop}
    (triple : Triple beforePart inner returnedPart thrownPart)
    (start : ∀ state, before state → beforePart (part state))
    (ok : ∀ state value reached, before state → returnedPart value reached →
      returned value (put reached state))
    (failed : ∀ state error reached, before state →
      thrownPart error reached → thrown (embed error) (put reached state)) :
    Triple before (zoom part put embed inner) returned thrown := by
  intro state holds
  have inside := triple (part state) (start state holds)
  unfold zoom
  cases ran : inner (part state) with
  | mk result reached =>
      cases result with
      | error error =>
          exact ends_error rfl (failed state error reached holds
            (inside.2 error reached ran))
      | ok value =>
          exact ends_ok rfl (ok state value reached holds
            (inside.1 value reached ran))

theorem triple_mapError
    {Other : Type} {embed : Error → Other} {worse : Other → State → Prop}
    (triple : Triple before action returned thrown)
    (failed : ∀ error state, thrown error state → worse (embed error) state) :
    Triple before (mapError embed action) returned worse :=
  triple_zoom triple (fun _ start => start)
    (fun _ _ _ _ ok => ok)
    (fun _ error reached _ wrong => failed error reached wrong)

end Rules

theorem avoids_ofExcept {result : Except Error Value} {error : Error}
    (different : result ≠ .error error) :
    Avoids error (ofExcept result : Throwing State Error Value) :=
  fun _ => different

/-! ## Calls, one after another -/

section Calls

variable {Call Reply : Type}

/-- The calls that returned, with what they returned. -/
def returnedCalls (perform : Call → Throwing State Error Reply) :
    List Call → State → List (Call × Reply)
  | [], _ => []
  | call :: calls, state =>
      match perform call state with
      | (.ok reply, reached) =>
          (call, reply) :: returnedCalls perform calls reached
      | (.error _, reached) => returnedCalls perform calls reached

/-- The state behind some calls. -/
def afterCalls (perform : Call → Throwing State Error Reply) :
    List Call → State → State
  | [], state => state
  | call :: calls, state => afterCalls perform calls (perform call state).2

/-- Every call is allowed in the state in which it is performed. -/
def Permitted (allowed : Call → State → Prop)
    (perform : Call → Throwing State Error Reply) :
    List Call → State → Prop
  | [], _ => True
  | call :: calls, state =>
      allowed call state ∧
        Permitted allowed perform calls (perform call state).2

variable {perform : Call → Throwing State Error Reply}

/--
What every allowed call keeps, given what has been returned, all allowed calls
keep.
-/
theorem permitted_invariant
    {allowed : Call → State → Prop}
    {Invariant : List (Call × Reply) → State → Prop}
    (kept : ∀ history call,
      Triple (fun state => Invariant history state ∧ allowed call state)
        (perform call)
        (fun reply state => Invariant (history ++ [(call, reply)]) state)
        (fun _ => Invariant history))
    {calls : List Call} {history : List (Call × Reply)} {state : State}
    (permitted : Permitted allowed perform calls state)
    (start : Invariant history state) :
    Invariant (history ++ returnedCalls perform calls state)
      (afterCalls perform calls state) := by
  induction calls generalizing history state with
  | nil =>
      rw [returnedCalls, List.append_nil]
      exact start
  | cons call calls induction =>
      obtain ⟨now, later⟩ := permitted
      obtain ⟨onValue, onError⟩ := kept history call state ⟨start, now⟩
      rw [returnedCalls, afterCalls]
      cases ran : perform call state with
      | mk result reached =>
          rw [ran] at later
          cases result with
          | error error => exact induction later (onError error reached ran)
          | ok reply =>
              have next := induction later (onValue reply reached ran)
              rw [List.append_assoc, List.singleton_append] at next
              exact next

theorem permitted_of_all {allowed : Call → State → Prop}
    (all : ∀ call state, allowed call state) (calls : List Call)
    (state : State) : Permitted allowed perform calls state := by
  induction calls generalizing state with
  | nil => trivial
  | cons call calls induction => exact ⟨all call state, induction _⟩

/-- What every call keeps, given what has been returned, all calls keep. -/
theorem calls_invariant
    {Invariant : List (Call × Reply) → State → Prop}
    (kept : ∀ history call,
      Triple (Invariant history) (perform call)
        (fun reply state => Invariant (history ++ [(call, reply)]) state)
        (fun _ => Invariant history))
    (calls : List Call) {history : List (Call × Reply)} {state : State}
    (start : Invariant history state) :
    Invariant (history ++ returnedCalls perform calls state)
      (afterCalls perform calls state) :=
  permitted_invariant
    (fun history call => (kept history call).strengthen fun _ holds => holds.1)
    (permitted_of_all (fun _ _ => trivial) calls state) start

/-- Two ways to perform calls that keep a relation answer alike. -/
theorem runAll_simulation
    {Other OtherReply Observation : Type}
    {other : Call → Throwing Other Error OtherReply}
    {Related : State → Other → Prop}
    {observe : Reply → Observation} {observeOther : OtherReply → Observation}
    (step : ∀ call state otherState, Related state otherState →
      (perform call state).1.map observe =
          (other call otherState).1.map observeOther ∧
        Related (perform call state).2 (other call otherState).2)
    (calls : List Call) {state : State} {otherState : Other}
    (related : Related state otherState) :
    (runAll perform calls state).1.map (Except.map observe) =
      (runAll other calls otherState).1.map (Except.map observeOther) := by
  induction calls generalizing state otherState with
  | nil => rfl
  | cons call calls induction =>
      obtain ⟨same, after⟩ := step call state otherState related
      simp only [runAll, List.map_cons, same, induction after]

end Calls

/-! ## Views -/

/-- Two steps on one part of the state. -/
theorem zoom_bind
    {Part PartError : Type} {part : State → Part}
    {put : Part → State → State} {embed : PartError → Error}
    (part_put : ∀ reached state, part (put reached state) = reached)
    (put_put : ∀ last reached state,
      put last (put reached state) = put last state)
    (first : Throwing Part PartError Value)
    (second : Value → Throwing Part PartError Next) :
    Throwing.zoom part put embed (first >>= second) =
      (Throwing.zoom part put embed first >>= fun value =>
        Throwing.zoom part put embed (second value)) := by
  funext state
  rw [bind_apply]
  unfold Throwing.zoom
  rw [bind_apply]
  cases first (part state) with
  | mk result reached =>
      cases result with
      | error error => rfl
      | ok value => simp only [part_put, put_put]

/-- From this state, `second` does on the view what `first` does. -/
def Mirrors
    {Other : Type} (view : State → Other) (first : Throwing State Error Value)
    (second : Throwing Other Error Value) (state : State) : Prop :=
  second (view state) = ((first state).1, view (first state).2)

section Views

variable {Other : Type} {view : State → Other} {state : State}

theorem mirrors_pure (value : Value) :
    Mirrors view (pure value : Throwing State Error Value) (pure value)
      state :=
  rfl

theorem mirrors_read_bind
    {next : State → Throwing State Error Value}
    {nextOther : Other → Throwing Other Error Value}
    (rest : Mirrors view (next state) (nextOther (view state)) state) :
    Mirrors view (read >>= next) (read >>= nextOther) state :=
  rest

theorem mirrors_bind
    {first : Throwing State Error Value} {second : Throwing Other Error Value}
    {next : Value → Throwing State Error Next}
    {nextOther : Value → Throwing Other Error Next}
    (start : Mirrors view first second state)
    (rest : ∀ value reached,
      Mirrors view (next value) (nextOther value) reached) :
    Mirrors view (first >>= next) (second >>= nextOther) state := by
  unfold Mirrors at start ⊢
  rw [bind_apply, bind_apply, start]
  cases first state with
  | mk result reached =>
      cases result with
      | error error => rfl
      | ok value => exact rest value reached

/-- The same computation on a part that the view shows. -/
theorem mirrors_zoom
    {Part PartError : Type}
    {part : State → Part} {put : Part → State → State}
    {piece : Other → Part} {putPiece : Part → Other → Other}
    {embed : PartError → Error} {inner : Throwing Part PartError Value}
    (shown : piece (view state) = part state)
    (kept : ∀ reached, putPiece reached (view state) =
      view (put reached state)) :
    Mirrors view (zoom part put embed inner) (zoom piece putPiece embed inner)
      state := by
  unfold Mirrors zoom
  rw [shown]
  cases inner (part state) with
  | mk result reached =>
      cases result with
      | error error => exact congrArg (Prod.mk _) (kept reached)
      | ok value => exact congrArg (Prod.mk _) (kept reached)

/-- Calls that are mirrored where they are allowed, one after another. -/
theorem mirrors_runAll
    {Call Reply : Type} {allowed : Call → State → Prop}
    {perform : Call → Throwing State Error Reply}
    {other : Call → Throwing Other Error Reply}
    (step : ∀ call state, allowed call state →
      Mirrors view (perform call) (other call) state)
    (calls : List Call) {state : State}
    (permitted : Permitted allowed perform calls state) :
    runAll other calls (view state) =
      ((runAll perform calls state).1,
        view (runAll perform calls state).2) := by
  induction calls generalizing state with
  | nil => rfl
  | cons call calls induction =>
      obtain ⟨now, later⟩ := permitted
      have mirrored : other call (view state) = _ := step call state now
      simp only [runAll, mirrored, induction later]

end Views

end Mls4rn.Lib.Throwing
