import Mathlib.Tactic

/-!
# Stateful computations that may throw

A computation takes a state and ends with a value or a thrown error, in
either case with the state it has reached: an exception does not undo what
happened before it.
-/

namespace Mls4rn.Lib

/-- A computation on `State` that returns `Value` or throws `Error`. -/
def Throwing (State Error Value : Type) : Type :=
  State → Except Error Value × State

namespace Throwing

variable {State Error Value Next : Type}

/-- Return without touching the state. -/
def ret (value : Value) : Throwing State Error Value :=
  fun state => (.ok value, state)

/-- Go on with the value, unless something was thrown. -/
def andThen
    (first : Throwing State Error Value)
    (second : Value → Throwing State Error Next) :
    Throwing State Error Next :=
  fun state =>
    match first state with
    | (.error error, reached) => (.error error, reached)
    | (.ok value, reached) => second value reached

instance : Monad (Throwing State Error) where
  pure := ret
  bind := andThen

theorem andThen_ret (action : Throwing State Error Value) :
    action.andThen ret = action := by
  funext state
  unfold andThen
  cases action state with
  | mk result reached =>
      cases result with
      | error error => rfl
      | ok value => rfl

theorem andThen_assoc
    {Last : Type} (first : Throwing State Error Value)
    (second : Value → Throwing State Error Next)
    (third : Next → Throwing State Error Last) :
    (first.andThen second).andThen third =
      first.andThen fun value => (second value).andThen third := by
  funext state
  unfold andThen
  cases first state with
  | mk result reached =>
      cases result with
      | error error => rfl
      | ok value => rfl

instance : LawfulMonad (Throwing State Error) :=
  LawfulMonad.mk' _ andThen_ret (fun _ _ => rfl) andThen_assoc

/-- Throw. -/
def raise (error : Error) : Throwing State Error Value :=
  fun state => (.error error, state)

/-- Read the state. -/
def read : Throwing State Error State :=
  fun state => (.ok state, state)

/-- Change the state. -/
def update (change : State → State) : Throwing State Error Unit :=
  fun state => (.ok (), change state)

/-- A value, or an error to be thrown. -/
def ofExcept (result : Except Error Value) : Throwing State Error Value :=
  fun state => (result, state)

/--
Run a computation on a part of the state, with its errors embedded in the
errors of the whole.
-/
def zoom
    {Part PartError : Type}
    (part : State → Part) (put : Part → State → State)
    (embed : PartError → Error)
    (inner : Throwing Part PartError Value) : Throwing State Error Value :=
  fun state =>
    match inner (part state) with
    | (.error error, reached) => (.error (embed error), put reached state)
    | (.ok value, reached) => (.ok value, put reached state)

/-- Throw other errors instead. -/
def mapError {Other : Type} (embed : Error → Other)
    (action : Throwing State Error Value) : Throwing State Other Value :=
  zoom id (fun reached _ => reached) embed action

@[simp]
theorem pure_apply (value : Value) (state : State) :
    (pure value : Throwing State Error Value) state = (.ok value, state) :=
  rfl

theorem bind_apply
    (first : Throwing State Error Value)
    (second : Value → Throwing State Error Next) (state : State) :
    (first >>= second) state =
      match first state with
      | (.error error, reached) => (.error error, reached)
      | (.ok value, reached) => second value reached :=
  rfl

/-- Behind a returned value. -/
theorem bind_of_ok
    {first : Throwing State Error Value} {state reached : State}
    {value : Value} (returned : first state = (.ok value, reached))
    (second : Value → Throwing State Error Next) :
    (first >>= second) state = second value reached := by
  rw [bind_apply, returned]

/-- Behind a thrown error. -/
theorem bind_of_error
    {first : Throwing State Error Value} {state reached : State}
    {error : Error} (thrown : first state = (.error error, reached))
    (second : Value → Throwing State Error Next) :
    (first >>= second) state = (.error error, reached) := by
  rw [bind_apply, thrown]

theorem read_bind
    (next : State → Throwing State Error Value) (state : State) :
    (read >>= next) state = next state state :=
  rfl

/-- A part that returned. -/
theorem zoom_of_ok
    {Part PartError : Type} {part : State → Part}
    {put : Part → State → State} {embed : PartError → Error}
    {inner : Throwing Part PartError Value} {state : State} {value : Value}
    {reached : Part} (returned : inner (part state) = (.ok value, reached)) :
    zoom part put embed inner state = (.ok value, put reached state) := by
  rw [zoom, returned]

/-- A part that threw. -/
theorem zoom_of_error
    {Part PartError : Type} {part : State → Part}
    {put : Part → State → State} {embed : PartError → Error}
    {inner : Throwing Part PartError Value} {state : State}
    {error : PartError} {reached : Part}
    (thrown : inner (part state) = (.error error, reached)) :
    zoom part put embed inner state =
      (.error (embed error), put reached state) := by
  rw [zoom, thrown]

/-- Computations that leave the state alone compose as results do. -/
theorem ofExcept_bind
    (first : Except Error Value) (second : Value → Except Error Next) :
    ((ofExcept first : Throwing State Error Value) >>= fun value =>
        ofExcept (second value)) =
      ofExcept (first >>= second) := by
  cases first with
  | error error => rfl
  | ok value => rfl

/-- Behind a result that is a value. -/
theorem ofExcept_ok_bind
    (value : Value) (next : Value → Throwing State Error Next) :
    (ofExcept (.ok value) >>= next) = next value :=
  rfl

/-- The next step behind a value. -/
theorem ok_bind (value : Value) (next : Value → Except Error Next) :
    (Except.ok value >>= next) = next value :=
  rfl

/-- A result behind a value comes from a value. -/
theorem bind_eq_ok
    {first : Except Error Value} {next : Value → Except Error Next}
    {result : Next} (returned : first >>= next = .ok result) :
    ∃ value, first = .ok value ∧ next value = .ok result := by
  cases first with
  | error error => cases returned
  | ok value => exact ⟨value, rfl, returned⟩

/-- The results behind a value, exactly. -/
theorem bind_eq_ok_iff
    {first : Except Error Value} {next : Value → Except Error Next}
    {result : Next} :
    first >>= next = .ok result ↔
      ∃ value, first = .ok value ∧ next value = .ok result := by
  constructor
  · exact bind_eq_ok
  · rintro ⟨value, rfl, returned⟩
    exact returned

/-! ## Errors that are never thrown -/

/-- The computation throws this error in no state. -/
def Avoids (error : Error) (action : Throwing State Error Value) : Prop :=
  ∀ state, (action state).1 ≠ .error error

section Avoids

variable {error : Error}

theorem avoids_pure (value : Value) :
    Avoids error (pure value : Throwing State Error Value) :=
  fun _ => nofun

theorem avoids_read : Avoids error (read : Throwing State Error State) :=
  fun _ => nofun

theorem avoids_update (change : State → State) :
    Avoids error (update change : Throwing State Error Unit) :=
  fun _ => nofun

theorem avoids_raise {other : Error} (different : other ≠ error) :
    Avoids error (raise other : Throwing State Error Value) := by
  intro state thrown
  exact different (Except.error.inj thrown)

/-- What the second part avoids comes from the first. -/
theorem bind_error_iff
    {first : Throwing State Error Value}
    {second : Value → Throwing State Error Next}
    (behind : ∀ value, Avoids error (second value)) (state : State) :
    ((first >>= second) state).1 = .error error ↔
      (first state).1 = .error error := by
  rw [bind_apply]
  split
  · next other reached failed =>
    rw [failed]
    exact ⟨fun thrown => congrArg Except.error (Except.error.inj thrown),
      fun thrown => congrArg Except.error (Except.error.inj thrown)⟩
  · next value reached returned =>
    rw [returned]
    exact ⟨fun thrown => absurd thrown (behind value reached), nofun⟩

theorem avoids_bind
    {first : Throwing State Error Value}
    {second : Value → Throwing State Error Next}
    (before : Avoids error first)
    (behind : ∀ value, Avoids error (second value)) :
    Avoids error (first >>= second) := by
  intro state
  rw [Ne, bind_error_iff behind]
  exact before state

/-- A part whose errors are embedded away from `error`. -/
theorem avoids_zoom
    {Part PartError : Type}
    {part : State → Part} {put : Part → State → State}
    {embed : PartError → Error} {inner : Throwing Part PartError Value}
    (apart :
      ∀ state other, (inner (part state)).1 = .error other →
        embed other ≠ error) :
    Avoids error (zoom part put embed inner) := by
  intro state thrown
  unfold zoom at thrown
  split at thrown
  · next other reached failed =>
    refine apart state other ?_ (Except.error.inj thrown)
    rw [failed]
  · cases thrown

/-- A part whose errors are those of the whole. -/
theorem zoom_id_fst
    {Part : Type} (part : State → Part) (put : Part → State → State)
    (inner : Throwing Part Error Value) (state : State) :
    (zoom part put id inner state).1 = (inner (part state)).1 := by
  unfold zoom
  split
  · next failed => rw [failed, id]
  · next returned => rw [returned]

end Avoids

/-! ## Parts of the state that stay as they are -/

/-- The computation leaves a part alone, whether it throws or not. -/
def Keeps
    {Part : Type} (part : State → Part)
    (action : Throwing State Error Value) : Prop :=
  ∀ state, part (action state).2 = part state

section Keeps

variable {Part : Type} {part : State → Part}

theorem keeps_pure (value : Value) :
    Keeps part (pure value : Throwing State Error Value) :=
  fun _ => rfl

theorem keeps_read : Keeps part (read : Throwing State Error State) :=
  fun _ => rfl

theorem keeps_raise (error : Error) :
    Keeps part (raise error : Throwing State Error Value) :=
  fun _ => rfl

theorem keeps_ofExcept (result : Except Error Value) :
    Keeps part (ofExcept result : Throwing State Error Value) :=
  fun _ => rfl

theorem keeps_update
    {change : State → State}
    (same : ∀ state, part (change state) = part state) :
    Keeps part (update change : Throwing State Error Unit) :=
  same

theorem keeps_bind
    {first : Throwing State Error Value}
    {second : Value → Throwing State Error Next}
    (before : Keeps part first) (behind : ∀ value, Keeps part (second value)) :
    Keeps part (first >>= second) := by
  intro state
  have kept := before state
  rw [bind_apply]
  split
  · next error reached thrown => rwa [thrown] at kept
  · next value reached returned =>
    rw [returned] at kept
    rw [behind value reached, kept]

/-- A computation on another part of the state. -/
theorem keeps_zoom
    {Inner InnerError : Type}
    {inside : State → Inner} {put : Inner → State → State}
    {embed : InnerError → Error} {inner : Throwing Inner InnerError Value}
    (same : ∀ state, part (put (inner (inside state)).2 state) = part state) :
    Keeps part (zoom inside put embed inner) := by
  intro state
  have kept := same state
  unfold zoom
  split
  · next error reached thrown => rwa [thrown] at kept
  · next value reached returned => rwa [returned] at kept

end Keeps

/-- Run a list of computations, collecting what each one returned or threw. -/
def runAll {Call Reply : Type}
    (perform : Call → Throwing State Error Reply) :
    List Call → State → List (Except Error Reply) × State
  | [], state => ([], state)
  | call :: calls, state =>
      let (result, reached) := perform call state
      let (results, final) := runAll perform calls reached
      (result :: results, final)

end Throwing

end Mls4rn.Lib
