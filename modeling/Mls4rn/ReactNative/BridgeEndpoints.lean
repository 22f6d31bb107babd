import Mls4rn.ReactNative.HostDispatch

/-!
# What the two ends of the bridge do with a string

Both ends parse every string they are given and look at a few properties of
the value.  The React Native end looks at `msg.ready` at once, so the text
`null` makes it throw.  It also throws when the response to a waiting promise
carries an error that cannot be converted to a string.  The host asks first
whether the value is truthy and never throws.

The other scripts of a page can post anything.  The main result says for every
state and every string whether an end throws, and that a string which is not
meant for it changes nothing.
-/

namespace Mls4rn.ReactNative.BridgeEndpoints

open Mls4rn.Lib
open Mls4rn.Lib.NumberText
open Mls4rn.Lib.Utf16
open Mls4rn.ReactNative.RequestBridge

variable {Number : Type} (format : NumberFormat Number)

/-! ## The host end -/

/-- A request that `dispatch` works on. -/
structure HostTask (Number : Type) where
  id : Number
  method : CodeUnits
  args : Option (Json Number)

/-- The requests that the host works on, and the strings it has posted. -/
structure HostEnd (Number : Type) where
  running : List (HostTask Number)
  posted : List CodeUnits

/-- The host behind its first evaluation. -/
def HostEnd.new : HostEnd Number where
  running := []
  posted := []

/-- `void dispatch(req)`. -/
def HostEnd.start (host : HostEnd Number) (task : HostTask Number) :
    HostEnd Number :=
  { host with running := host.running ++ [task] }

/-- A `TypeError` of the engine. -/
inductive EngineError where
  | typeError
deriving DecidableEq, Repr

/-- A property access, which throws on `null`. -/
def property (value : Json Number) (name : String) :
    Except EngineError (Option (Json Number)) :=
  match value with
  | .null => .error .typeError
  | value => .ok (value.member (literal name))

/-- The request in a value, if it has a numeric id and a method name. -/
def requestOf (request : Json Number) :
    Except EngineError (Option (HostTask Number)) :=
  if request.truthy format then do
    match ← property request "id" with
    | some (.number id) =>
        match ← property request "method" with
        | some (.string method) =>
            return some
              { id, method, args := request.member (literal "args") }
        | _ => return none
    | _ => return none
  else
    return none

/-- `receive` of a string. -/
def receive (raw : CodeUnits) :
    Throwing (HostEnd Number) EngineError Unit := do
  match Json.parse format raw with
  | none => return ()
  | some request =>
      match ← Throwing.ofExcept (requestOf format request) with
      | none => return ()
      | some task => Throwing.update fun host => host.start task

/-! ## Strings that are not meant for an end -/

/-- Neither a ready message nor an object with the id of a waiting promise. -/
def StrayForBridge
    [DecidableEq Number] (bridge : Bridge Number) (raw : CodeUnits) : Prop :=
  ∀ message, Json.parse format raw = some message →
    isReady message = false ∧
      ∀ id, numericId message = some id → bridge.pending.get id = none

/-- Not an object with a numeric id and a string as method. -/
def StrayForHost (raw : CodeUnits) : Prop :=
  ∀ message id method, Json.parse format raw = some message →
    ¬ (message.member (literal "id") = some (.number id) ∧
      message.member (literal "method") = some (.string method))

/--
The answer to a waiting promise whose error is not `null` and has no text:
an object that hides `toString`, or an array with such an object in it.
-/
def Unconvertible
    [DecidableEq Number] (bridge : Bridge Number) (raw : CodeUnits) : Prop :=
  ∃ message id promise,
    Json.parse format raw = some message ∧ isReady message = false ∧
      numericId message = some id ∧
        bridge.pending.get id = some promise ∧
          isOk format message = false ∧ errorText format message = none

/-! ## The bridge -/

section Bridge

variable {format}

theorem outcome_eq_none_iff (message : Json Number) :
    outcome format message = none ↔
      isOk format message = false ∧ errorText format message = none := by
  unfold outcome
  cases isOk format message with
  | true => simp
  | false => simp

theorem ofOutcome_eq_typeError_iff
    (promise : Nat) (outcome : Option (Outcome Number)) :
    Effect.ofOutcome promise outcome = .typeError ↔ outcome = none := by
  cases outcome with
  | none => exact iff_of_true rfl rfl
  | some outcome => exact iff_of_false nofun nofun

variable [DecidableEq Number]

/-- A stray string is at most noticed by a thrown error. -/
theorem handleMessage_of_stray
    {bridge : Bridge Number} {raw : CodeUnits}
    (stray : StrayForBridge format bridge raw) :
    (handleMessage format bridge raw).1 = bridge := by
  cases parsed : Json.parse format raw with
  | none => rw [handleMessage, parsed]
  | some message =>
      rcases stray message parsed with ⟨notReady, unfiled⟩
      by_cases null : message = .null
      · subst null
        rw [handleMessage, parsed]
      · rw [handleMessage_of_parsed format parsed null, notReady]
        cases carried : numericId message with
        | none => rfl
        | some id => simp [unfiled id carried]

/-- The two ways in which `handleMessage` throws. -/
theorem handleMessage_throws_iff (bridge : Bridge Number) (raw : CodeUnits) :
    (handleMessage format bridge raw).2 = .typeError ↔
      Json.parse format raw = some .null ∨
        Unconvertible format bridge raw := by
  cases parsed : Json.parse format raw with
  | none => simp [handleMessage, Unconvertible, parsed]
  | some message =>
      by_cases null : message = .null
      · subst null
        simp [handleMessage, parsed]
      · rw [handleMessage_of_parsed format parsed null]
        simp only [Unconvertible, parsed, Option.some.injEq, null, false_or,
          exists_and_left, exists_eq_left']
        cases ready : isReady message with
        | true => simp
        | false =>
            cases carried : numericId message with
            | none => simp
            | some id =>
                cases filed : bridge.pending.get id with
                | none => simp [filed]
                | some promise =>
                    simp [filed, ofOutcome_eq_typeError_iff,
                      outcome_eq_none_iff]

end Bridge

/-! ## The host -/

section Host

/-- The request that a string makes the host work on. -/
def taskOf (raw : CodeUnits) : Option (HostTask Number) :=
  match Json.parse format raw with
  | none => none
  | some request =>
      match request.member (literal "id"),
          request.member (literal "method") with
      | some (.number id), some (.string method) =>
          some { id, method, args := request.member (literal "args") }
      | _, _ => none

variable {format}

/-- The guard keeps the property accesses away from `null`. -/
theorem requestOf_eq (request : Json Number) :
    requestOf format request =
      .ok
        (match request.member (literal "id"),
            request.member (literal "method") with
        | some (.number id), some (.string method) =>
            some { id, method, args := request.member (literal "args") }
        | _, _ => none) := by
  cases request with
  | null => rfl
  | bool value => cases value <;> rfl
  | number value =>
      rw [requestOf]
      split <;> rfl
  | string text =>
      rw [requestOf]
      split <;> rfl
  | array items => rfl
  | object members =>
      simp only [requestOf, Json.truthy, if_true, property, Throwing.ok_bind]
      split
      · next id carried =>
        rw [carried]
        split
        · next method named =>
          rw [named]
          rfl
        · next other =>
          split
          · next found => exact absurd found (other _)
          · rfl
      · next other =>
        split
        · next found _ => exact absurd found (other _)
        · rfl

/-- The host never throws, and does nothing but start the request, if any. -/
theorem receive_eq (raw : CodeUnits) (host : HostEnd Number) :
    receive format raw host =
      (.ok (),
        match taskOf format raw with
        | none => host
        | some task => host.start task) := by
  unfold receive taskOf
  cases Json.parse format raw with
  | none => rfl
  | some request =>
      simp only [requestOf_eq]
      split
      · rfl
      · rfl

theorem taskOf_of_stray {raw : CodeUnits} (stray : StrayForHost format raw) :
    taskOf format raw = none := by
  unfold taskOf
  split
  · rfl
  · next request parsed =>
    split
    · next id method carried named =>
      exact absurd ⟨carried, named⟩ (stray request id method parsed)
    · rfl

/-- The host that is awaited runs the same requests to their end. -/
theorem hostDispatch_receive_eq
    {State Client Group : Type} (api : CoreApi.Core State Client Group)
    (texts : HostDispatch.EngineTexts) (raw : CodeUnits)
    (host : HostDispatch.Host State Client Group) :
    HostDispatch.receive api format texts raw host =
      match taskOf format raw with
      | none => ([], host)
      | some task =>
          let (result, reached) :=
            HostDispatch.invoke api format texts task.method task.args host
          ([Json.stringify format
              (HostDispatch.responseJson task.id result)], reached) := by
  by_cases stray : StrayForHost format raw
  · rw [taskOf_of_stray stray]
    show HostDispatch.receive api format texts raw host = ([], host)
    unfold HostDispatch.receive
    split
    · rfl
    · next request parsed =>
      split
      · next id method carried named =>
        exact absurd ⟨carried, named⟩ (stray request id method parsed)
      · rfl
  · simp only [StrayForHost, not_forall, not_not] at stray
    rcases stray with ⟨request, id, method, parsed, carried, named⟩
    have task :
        taskOf format raw =
          some ⟨id, method, request.member (literal "args")⟩ := by
      simp only [taskOf, parsed, carried, named]
    rw [task]
    simp only [HostDispatch.receive, parsed, carried, named]

end Host

/--
`handleMessage` throws exactly on a text of `null` and on an answer whose error
cannot be converted to a string, and a stray string leaves the bridge as it is.
`receive` never throws, and a stray string leaves the host as it is, with
nothing posted.
-/
theorem stray_strings_are_ignored [DecidableEq Number] :
    (∀ (bridge : Bridge Number) (raw : CodeUnits),
      ((handleMessage format bridge raw).2 = .typeError ↔
          Json.parse format raw = some .null ∨
            Unconvertible format bridge raw) ∧
        (StrayForBridge format bridge raw →
          (handleMessage format bridge raw).1 = bridge)) ∧
      ∀ (host : HostEnd Number) (raw : CodeUnits),
        (receive format raw host).1 = .ok () ∧
          (StrayForHost format raw → (receive format raw host).2 = host) := by
  constructor
  · intro bridge raw
    exact ⟨handleMessage_throws_iff bridge raw, handleMessage_of_stray⟩
  · intro host raw
    rw [receive_eq]
    refine ⟨rfl, fun stray => ?_⟩
    rw [taskOf_of_stray stray]

/-- The bridge behind its first request. -/
def asked : Bridge Decimal :=
  (request decimalFormat Bridge.new 0 (literal "members") (.object []) none).1

/-- An answer to it, with an error that is an object and hides `toString`. -/
def oddAnswer : Json Decimal :=
  .object
    [(literal "id", .number (.ofInt 1)),
      (literal "error", .object [(literal "toString", .null)])]

/--
A stray `null` throws.  So does an answer with an odd error, and the promise it
was for is gone from the table without being settled.
-/
theorem handleMessage_can_throw :
    StrayForBridge decimalFormat asked (Json.stringify decimalFormat .null) ∧
      (handleMessage decimalFormat asked
        (Json.stringify decimalFormat .null)).2 = .typeError ∧
      (handleMessage decimalFormat asked
        (Json.stringify decimalFormat oddAnswer)).2 = .typeError ∧
      (handleMessage decimalFormat asked
        (Json.stringify decimalFormat oddAnswer)).1.pending.get (.ofInt 1) =
        none := by
  have null :
      Json.parse decimalFormat (Json.stringify decimalFormat .null) =
        some .null := by
    rw [Json.parse_stringify, Json.reread]
  have odd :
      Json.parse decimalFormat (Json.stringify decimalFormat oddAnswer) =
        some oddAnswer := by
    rw [Json.parse_stringify]
    rfl
  have handled :=
    handleMessage_of_parsed decimalFormat odd nofun asked
  refine ⟨?_, ?_, ?_, ?_⟩
  · intro message parsed
    rw [null] at parsed
    cases parsed
    exact ⟨rfl, nofun⟩
  · exact (handleMessage_throws_iff _ _).mpr (Or.inl null)
  · rw [handled]
    rfl
  · rw [handled]
    rfl

end Mls4rn.ReactNative.BridgeEndpoints
