import Mls4rn.Lib.Json

/-!
# The React Native end of the bridge

`Bridge.request` takes the next id, files the resolvers of a new promise
under it and hands the request to the transport.  `Bridge.handleMessage` reads
one string from the host and settles the promise filed under the id that the
string carries, if there is one.

A run is any sequence of requests and incoming strings, so concurrent
requests, reordered and repeated responses and strings that are no messages
at all are covered by the same induction.  A transport may throw; the promise
is then rejected by its executor, and its id stays in the table.  The main
result says what every run has done: which text went out for each promise,
which resolvers were called, by which message, and what the pending table
holds.

The arguments of a request are JSON values, so `JSON.stringify` returns.
-/

namespace Mls4rn.ReactNative.RequestBridge

open Mls4rn.Lib
open Mls4rn.Lib.NumberText
open Mls4rn.Lib.Utf16

variable {Number : Type}

/-- How a promise is settled; an absent result is `undefined`. -/
inductive Outcome (Number : Type) where
  | resolved (result : Option (Json Number))
  | rejected (message : CodeUnits)

/--
The fields of `Bridge`.  The pending table holds promises, which are numbered
in the order of the calls that made them.
-/
structure Bridge (Number : Type) where
  nextId : Nat
  pending : InsertionMap Number Nat
  ready : Bool

/-- The bridge behind its constructor. -/
def Bridge.new : Bridge Number where
  nextId := 1
  pending := InsertionMap.empty
  ready := false

/-- What a call of a method does beyond the fields. -/
inductive Effect (Number : Type) where
  | nothing
  | typeError
  | settle (promise : Nat) (outcome : Outcome Number)

/-- The call of a resolver, if there is one. -/
def Effect.settlements : Effect Number → List (Nat × Outcome Number)
  | .settle promise outcome => [(promise, outcome)]
  | _ => []

/-! ## Events -/

/-- A call of `request`, with the error that `transport.send` throws. -/
structure Call (Number : Type) where
  method : CodeUnits
  args : Json Number
  thrown : Option CodeUnits

/-- A call of `request`, or a string passed to `handleMessage`. -/
inductive Event (Number : Type) where
  | request (call : Call Number)
  | message (raw : CodeUnits)

/-- The calls of `request`. -/
def requests : List (Event Number) → List (Call Number)
  | [] => []
  | .request call :: later => call :: requests later
  | .message _ :: later => requests later

/-- The number of requests made. -/
def requestCount (events : List (Event Number)) : Nat :=
  (requests events).length

theorem requests_append (events later : List (Event Number)) :
    requests (events ++ later) = requests events ++ requests later := by
  induction events with
  | nil => rfl
  | cons head events induction =>
      cases head with
      | request call => exact congrArg (call :: ·) induction
      | message raw => exact induction

theorem requestCount_request
    (events : List (Event Number)) (call : Call Number) :
    requestCount (events ++ [.request call]) = requestCount events + 1 := by
  rw [requestCount, requests_append, List.length_append]
  rfl

theorem requests_message (events : List (Event Number)) (raw : CodeUnits) :
    requests (events ++ [.message raw]) = requests events := by
  rw [requests_append]
  exact List.append_nil _

theorem requestCount_message
    (events : List (Event Number)) (raw : CodeUnits) :
    requestCount (events ++ [.message raw]) = requestCount events := by
  rw [requestCount, requests_message, requestCount]

/-- The events behind the call that made a promise. -/
def laterEvents : List (Event Number) → Nat → Option (List (Event Number))
  | [], _ => none
  | .request _ :: later, 0 => some later
  | .request _ :: later, promise + 1 => laterEvents later promise
  | .message _ :: later, promise => laterEvents later promise

theorem laterEvents_eq_none_iff
    (events : List (Event Number)) (promise : Nat) :
    laterEvents events promise = none ↔ requestCount events ≤ promise := by
  induction events generalizing promise with
  | nil => simp [laterEvents, requestCount, requests]
  | cons head events induction =>
      cases head with
      | request call =>
          cases promise with
          | zero => simp [laterEvents, requestCount, requests]
          | succ promise =>
              exact (induction promise).trans Nat.succ_le_succ_iff.symm
      | message raw => exact induction promise

/-- A promise that was made has a place among the requests. -/
theorem lt_of_laterEvents
    {events later : List (Event Number)} {promise : Nat}
    (made : laterEvents events promise = some later) :
    promise < requestCount events := by
  by_contra large
  rw [(laterEvents_eq_none_iff events promise).mpr (by omega)] at made
  cases made

theorem exists_laterEvents
    {events : List (Event Number)} {promise : Nat}
    (small : promise < requestCount events) :
    ∃ later, laterEvents events promise = some later := by
  rw [← Option.ne_none_iff_exists', ne_eq, laterEvents_eq_none_iff]
  omega

theorem laterEvents_snoc_of_some
    {events later : List (Event Number)} {promise : Nat}
    (made : laterEvents events promise = some later)
    (event : Event Number) :
    laterEvents (events ++ [event]) promise = some (later ++ [event]) := by
  induction events generalizing promise with
  | nil => cases made
  | cons head events induction =>
      cases head with
      | request call =>
          cases promise with
          | zero =>
              cases made
              rfl
          | succ promise => exact induction made
      | message raw => exact induction made

/-- A string that comes in is behind every request made so far. -/
theorem laterEvents_message
    (events : List (Event Number)) (raw : CodeUnits) (promise : Nat) :
    laterEvents (events ++ [.message raw]) promise =
      (laterEvents events promise).map (· ++ [.message raw]) := by
  cases made : laterEvents events promise with
  | some later => exact laterEvents_snoc_of_some made _
  | none =>
      rw [laterEvents_eq_none_iff] at made
      rw [Option.map_none, laterEvents_eq_none_iff, requestCount_message]
      exact made

theorem mem_of_mem_laterEvents
    {events later : List (Event Number)} {promise : Nat}
    (made : laterEvents events promise = some later)
    {event : Event Number} (member : event ∈ later) : event ∈ events := by
  induction events generalizing promise with
  | nil => cases made
  | cons head events induction =>
      cases head with
      | request call =>
          cases promise with
          | zero =>
              cases made
              exact List.mem_cons_of_mem _ member
          | succ promise => exact List.mem_cons_of_mem _ (induction made)
      | message raw => exact List.mem_cons_of_mem _ (induction made)

theorem mem_of_mem_requests
    {events : List (Event Number)} {call : Call Number}
    (made : call ∈ requests events) : .request call ∈ events := by
  induction events with
  | nil => cases made
  | cons head events induction =>
      cases head with
      | request first =>
          rcases List.mem_cons.mp made with rfl | later
          · exact List.mem_cons_self
          · exact List.mem_cons_of_mem _ (induction later)
      | message raw => exact List.mem_cons_of_mem _ (induction made)

theorem laterEvents_snoc_request
    (events : List (Event Number)) (call : Call Number) :
    laterEvents (events ++ [.request call]) (requestCount events) =
      some [] := by
  induction events with
  | nil => rfl
  | cons head events induction =>
      cases head with
      | request _ => exact induction
      | message _ => exact induction

/-- A request is behind every request made before it. -/
theorem laterEvents_request
    (events : List (Event Number)) (call : Call Number) (promise : Nat) :
    laterEvents (events ++ [.request call]) promise =
      if promise = requestCount events then some []
      else (laterEvents events promise).map (· ++ [.request call]) := by
  split
  · next newest => rw [newest, laterEvents_snoc_request]
  · next older =>
    cases made : laterEvents events promise with
    | some later => exact laterEvents_snoc_of_some made _
    | none =>
        rw [laterEvents_eq_none_iff] at made
        rw [Option.map_none, laterEvents_eq_none_iff, requestCount_request]
        omega

/-! ## What has happened so far -/

/--
The bridge with what has happened so far: the ids issued, the texts handed to
the transport and the calls of resolvers, each in order.
-/
structure World (Number : Type) where
  bridge : Bridge Number
  issued : List Number
  sent : List CodeUnits
  settlements : List (Nat × Outcome Number)

/-- A fresh bridge. -/
def World.new : World Number where
  bridge := Bridge.new
  issued := []
  sent := []
  settlements := []

/-- The calls of resolvers recorded for one promise; the first settles it. -/
def World.settlementsOf (world : World Number) (promise : Nat) :
    List (Outcome Number) :=
  (world.settlements.filter fun entry => decide (entry.1 = promise)).map
    Prod.snd

/-- What one more call of a resolver, if any, adds to a promise. -/
theorem settlementsOf_of_append
    {world target : World Number} {settled : Nat}
    {outcome : Option (Outcome Number)}
    (settlements :
      target.settlements =
        world.settlements ++ outcome.toList.map (settled, ·))
    (promise : Nat) :
    target.settlementsOf promise =
      world.settlementsOf promise ++
        if settled = promise then outcome.toList else [] := by
  unfold World.settlementsOf
  rw [settlements]
  cases outcome with
  | none => simp
  | some outcome =>
      by_cases same : settled = promise
      · simp [List.filter_append, same]
      · simp [List.filter_append, same]

/-- The id of a promise. -/
def promiseId (format : NumberFormat Number) (promise : Nat) : Number :=
  format.ofNat (promise + 1)

/-- Ids are told apart as long as the counter is exact. -/
theorem promiseId_eq_iff
    (format : NumberFormat Number) {first second : Nat}
    (firstSmall : first < exactBound) (secondSmall : second < exactBound) :
    promiseId format first = promiseId format second ↔ first = second := by
  constructor
  · intro equal
    exact Nat.succ.inj (format.ofNat_injective firstSmall secondSmall equal)
  · rintro rfl
    rfl

/-! ## The two methods -/

variable [DecidableEq Number] (format : NumberFormat Number)

/-- The string that `request` sends. -/
def requestJson (id : Number) (method : CodeUnits) (args : Json Number) :
    Json Number :=
  .object
    [(literal "id", .number id), (literal "method", .string method),
      (literal "args", args)]

omit [DecidableEq Number] in
/-- A request is read as it was written, up to its arguments. -/
theorem reread_requestJson
    (id : Nat) (method : CodeUnits) (args : Json Number) :
    Json.reread format
        (requestJson (format.ofNat id) method args) =
      requestJson (format.ofNat id) method
        (Json.reread format args) := by
  rw [requestJson, Json.reread_object_of_nodup]
  · simp only [List.map_cons, List.map_nil, Json.reread,
      format.isFinite_ofNat, if_true, format.ofText_toText_ofNat, requestJson]
  · simp only [List.map_cons, List.map_nil]
    decide

/-- A promise is rejected by what its executor throws. -/
def Effect.ofThrown (promise : Nat) : Option CodeUnits → Effect Number
  | none => .nothing
  | some error => .settle promise (.rejected error)

omit [DecidableEq Number] in
theorem settlements_ofThrown (promise : Nat) (thrown : Option CodeUnits) :
    (Effect.ofThrown promise thrown : Effect Number).settlements =
      (thrown.map Outcome.rejected).toList.map (promise, ·) := by
  cases thrown with
  | none => rfl
  | some error => rfl

/--
`Bridge.request`, for the promise that the call creates: the bridge, the text
handed to `transport.send`, and what becomes of the promise if that throws.
-/
def request
    (bridge : Bridge Number) (promise : Nat)
    (method : CodeUnits) (args : Json Number) (thrown : Option CodeUnits) :
    Bridge Number × CodeUnits × Effect Number :=
  let id := format.ofNat bridge.nextId
  ({ bridge with
      nextId := bridge.nextId + 1
      pending := bridge.pending.set id promise },
    Json.stringify format (requestJson id method args),
    .ofThrown promise thrown)

/-- `msg.ready === true`. -/
def isReady (message : Json Number) : Bool :=
  match message.member (literal "ready") with
  | some (.bool true) => true
  | _ => false

/-- The numeric `msg.id`, if it is one. -/
def numericId (message : Json Number) : Option Number :=
  match message.member (literal "id") with
  | some (.number id) => some id
  | _ => none

/-- `msg.ok` is truthy. -/
def isOk (message : Json Number) : Bool :=
  match message.member (literal "ok") with
  | some value => value.truthy format
  | none => false

/-- `String(msg.error ?? "mls4rn bridge error")`, unless it throws. -/
def errorText (message : Json Number) : Option CodeUnits :=
  match message.member (literal "error") with
  | none | some .null => some (literal "mls4rn bridge error")
  | some value => value.display format

/-- The settlement that a response asks for, unless its error has no text. -/
def outcome (message : Json Number) : Option (Outcome Number) :=
  if isOk format message then
    some (.resolved (message.member (literal "result")))
  else (errorText format message).map .rejected

/-- What becomes of the promise that a response was for. -/
def Effect.ofOutcome (promise : Nat) :
    Option (Outcome Number) → Effect Number
  | some outcome => .settle promise outcome
  | none => .typeError

omit [DecidableEq Number] in
theorem settlements_ofOutcome
    (promise : Nat) (outcome : Option (Outcome Number)) :
    (Effect.ofOutcome promise outcome).settlements =
      outcome.toList.map (promise, ·) := by
  cases outcome with
  | none => rfl
  | some outcome => rfl

/-- `Bridge.handleMessage`. -/
def handleMessage (bridge : Bridge Number) (raw : CodeUnits) :
    Bridge Number × Effect Number :=
  match Json.parse format raw with
  | none => (bridge, .nothing)
  | some .null => (bridge, .typeError)
  | some message =>
      if isReady message then ({ bridge with ready := true }, .nothing)
      else
        match numericId message with
        | none => (bridge, .nothing)
        | some id =>
            match bridge.pending.get id with
            | none => (bridge, .nothing)
            | some promise =>
                ({ bridge with pending := bridge.pending.delete id },
                  .ofOutcome promise (outcome format message))

/-! ## Runs -/

/-- One event. -/
def step (world : World Number) : Event Number → World Number
  | .request call =>
      let (bridge, text, effect) :=
        request format world.bridge world.issued.length call.method
          call.args call.thrown
      { bridge
        issued := world.issued ++ [format.ofNat world.bridge.nextId]
        sent := world.sent ++ [text]
        settlements := world.settlements ++ effect.settlements }
  | .message raw =>
      let (bridge, effect) := handleMessage format world.bridge raw
      { world with
        bridge
        settlements := world.settlements ++ effect.settlements }

/-- A whole run. -/
def run (events : List (Event Number)) : World Number :=
  events.foldl (step format) World.new

/-! ## What a run should have done -/

/--
The id and the settlement of a response: a JSON value that is not a ready
message and has a numeric id.
-/
def response (raw : CodeUnits) :
    Option (Number × Option (Outcome Number)) :=
  match Json.parse format raw with
  | none => none
  | some message =>
      if isReady message then none
      else
        match numericId message with
        | none => none
        | some id => some (id, outcome format message)

/-- The settlement of the first response with a given id. -/
def firstResponse (id : Number) :
    List (Event Number) → Option (Option (Outcome Number))
  | [] => none
  | .request _ :: later => firstResponse id later
  | .message raw :: later =>
      match response format raw with
      | none => firstResponse id later
      | some (carried, outcome) =>
          if carried = id then some outcome else firstResponse id later

/-! ## The events one at a time -/

theorem run_snoc (events : List (Event Number)) (event : Event Number) :
    run format (events ++ [event]) = step format (run format events) event := by
  rw [run, List.foldl_append]
  rfl

/-- The first response stays the first. -/
theorem firstResponse_snoc
    (id : Number) (events : List (Event Number)) (event : Event Number) :
    firstResponse format id (events ++ [event]) =
      match firstResponse format id events with
      | some outcome => some outcome
      | none => firstResponse format id [event] := by
  induction events with
  | nil => rfl
  | cons head events induction =>
      cases head with
      | request call => exact induction
      | message raw =>
          simp only [List.cons_append, firstResponse]
          cases response format raw with
          | none => exact induction
          | some carried =>
              rcases carried with ⟨carriedId, outcome⟩
              by_cases same : carriedId = id
              · simp [same]
              · simpa [same] using induction

theorem firstResponse_request
    (call : Call Number) (id : Number) (events : List (Event Number)) :
    firstResponse format id (events ++ [.request call]) =
      firstResponse format id events := by
  rw [firstResponse_snoc]
  cases firstResponse format id events with
  | none => rfl
  | some outcome => rfl

/-- A response whose error has no text comes from such a string. -/
theorem firstResponse_ne_some_none
    {events : List (Event Number)}
    (convertible :
      ∀ raw, .message raw ∈ events →
        ∀ id, response format raw ≠ some (id, none))
    (id : Number) : firstResponse format id events ≠ some none := by
  induction events with
  | nil => nofun
  | cons head events induction =>
      have later :=
        induction fun raw member =>
          convertible raw (List.mem_cons_of_mem _ member)
      cases head with
      | request call => exact later
      | message raw =>
          have here := convertible raw List.mem_cons_self
          simp only [firstResponse]
          split
          · exact later
          · next carried outcome answered =>
            split
            · rintro settled
              cases settled
              exact here carried answered
            · exact later

/-- A string that is JSON, but not `null`. -/
theorem handleMessage_of_parsed
    {raw : CodeUnits} {message : Json Number}
    (parsed : Json.parse format raw = some message)
    (notNull : message ≠ .null) (bridge : Bridge Number) :
    handleMessage format bridge raw =
      if isReady message then ({ bridge with ready := true }, .nothing)
      else
        match numericId message with
        | none => (bridge, .nothing)
        | some id =>
            match bridge.pending.get id with
            | none => (bridge, .nothing)
            | some promise =>
                ({ bridge with pending := bridge.pending.delete id },
                  .ofOutcome promise (outcome format message)) := by
  rw [handleMessage, parsed]
  cases message with
  | null => exact absurd rfl notNull
  | bool value => rfl
  | number value => rfl
  | string text => rfl
  | array items => rfl
  | object members => rfl

/-- What one incoming string does. -/
theorem step_message (world : World Number) (raw : CodeUnits) :
    (step format world (.message raw)).issued = world.issued ∧
      (step format world (.message raw)).bridge.nextId =
          world.bridge.nextId ∧
        (((step format world (.message raw)).bridge.pending =
              world.bridge.pending ∧
            (step format world (.message raw)).settlements =
                world.settlements ∧
              ∀ id outcome, response format raw = some (id, outcome) →
                world.bridge.pending.get id = none) ∨
          ∃ id outcome promise,
            response format raw = some (id, outcome) ∧
              world.bridge.pending.get id = some promise ∧
                (step format world (.message raw)).bridge.pending =
                    world.bridge.pending.delete id ∧
                  (step format world (.message raw)).settlements =
                    world.settlements ++
                      outcome.toList.map (promise, ·)) := by
  cases parsed : Json.parse format raw with
  | none =>
      simp [step, handleMessage, response, parsed, Effect.settlements]
  | some message =>
      by_cases null : message = .null
      · subst null
        have noId : numericId (.null : Json Number) = none := rfl
        simp [step, handleMessage, response, parsed, noId, Effect.settlements]
      · have handled :=
          handleMessage_of_parsed format parsed null world.bridge
        by_cases ready : isReady message = true
        · simp [step, handled, response, parsed, ready, Effect.settlements]
        · cases carried : numericId message with
          | none =>
              simp [step, handled, response, parsed, ready, carried,
                Effect.settlements]
          | some id =>
              cases filed : world.bridge.pending.get id with
              | none =>
                  simp [step, handled, response, parsed, ready, carried,
                    filed, Effect.settlements]
              | some promise =>
                  simp [step, handled, response, parsed, ready, carried,
                    filed, settlements_ofOutcome]

/-- The ready promise is resolved by a ready message and by nothing else. -/
theorem step_message_ready (world : World Number) (raw : CodeUnits) :
    (step format world (.message raw)).bridge.ready =
      (world.bridge.ready ||
        match Json.parse format raw with
        | none => false
        | some message => isReady message) := by
  cases parsed : Json.parse format raw with
  | none => simp [step, handleMessage, parsed]
  | some message =>
      by_cases null : message = .null
      · subst null
        have notReady : isReady (.null : Json Number) = false := rfl
        simp [step, handleMessage, parsed, notReady]
      · have handled :=
          handleMessage_of_parsed format parsed null world.bridge
        by_cases ready : isReady message = true
        · simp [step, handled, ready]
        · cases carried : numericId message with
          | none => simp [step, handled, ready, carried]
          | some id =>
              cases filed : world.bridge.pending.get id with
              | none => simp [step, handled, ready, carried, filed]
              | some promise => simp [step, handled, ready, carried, filed]

theorem step_message_sent (world : World Number) (raw : CodeUnits) :
    (step format world (.message raw)).sent = world.sent :=
  rfl

/-- What one request does. -/
theorem settlements_request (world : World Number) (call : Call Number) :
    (step format world (.request call)).settlements =
      world.settlements ++
        (call.thrown.map Outcome.rejected).toList.map
          (world.issued.length, ·) :=
  congrArg (world.settlements ++ ·)
    (settlements_ofThrown world.issued.length call.thrown)

/-! ## Ids and texts -/

/-- The text that goes out for a promise. -/
def requestText (promise : Nat) (call : Call Number) : CodeUnits :=
  Json.stringify format
    (requestJson (promiseId format promise) call.method call.args)

/-- The ids and the texts behind a sequence of events. -/
structure Counted
    (events : List (Event Number)) (world : World Number) : Prop where
  nextId : world.bridge.nextId = requestCount events + 1
  issued :
    world.issued = (List.range (requestCount events)).map (promiseId format)
  sent : world.sent = (requests events).mapIdx (requestText format)

omit [DecidableEq Number] in
theorem Counted.length_issued
    {events : List (Event Number)} {world : World Number}
    (counted : Counted format events world) :
    world.issued.length = requestCount events := by
  rw [counted.issued, List.length_map, List.length_range]

omit [DecidableEq Number] in
theorem Counted.getElem_issued
    {events : List (Event Number)} {world : World Number}
    (counted : Counted format events world) (promise : Nat) (id : Number) :
    world.issued[promise]? = some id ↔
      promise < requestCount events ∧ id = promiseId format promise := by
  rw [counted.issued, List.getElem?_map, Option.map_eq_some_iff]
  simp only [List.getElem?_eq_some_iff, List.length_range, List.getElem_range]
  constructor
  · rintro ⟨index, ⟨small, rfl⟩, rfl⟩
    exact ⟨small, rfl⟩
  · rintro ⟨small, rfl⟩
    exact ⟨promise, ⟨small, rfl⟩, rfl⟩

omit [DecidableEq Number] in
/-- Ids are distinct as long as the counter is exact. -/
theorem Counted.nodup_issued
    {events : List (Event Number)} {world : World Number}
    (counted : Counted format events world)
    (few : requestCount events ≤ exactBound) : world.issued.Nodup := by
  rw [counted.issued]
  apply List.nodup_range.map_on
  intro first firstMember second secondMember equal
  rw [List.mem_range] at firstMember secondMember
  exact
    (promiseId_eq_iff format (Nat.lt_of_lt_of_le firstMember few)
      (Nat.lt_of_lt_of_le secondMember few)).mp equal

/-- Ids and texts are counted in every run. -/
theorem counted_run (events : List (Event Number)) :
    Counted format events (run format events) := by
  induction events using List.reverseRecOn with
  | nil => exact ⟨rfl, rfl, rfl⟩
  | append_singleton events event before =>
      rw [run_snoc]
      cases event with
      | request call =>
          have fresh :
              format.ofNat (run format events).bridge.nextId =
                promiseId format (requestCount events) :=
            congrArg format.ofNat before.nextId
          constructor
          case nextId =>
            change (run format events).bridge.nextId + 1 = _
            rw [before.nextId, requestCount_request]
          case issued =>
            change
              (run format events).issued ++
                [format.ofNat (run format events).bridge.nextId] = _
            rw [before.issued, fresh, requestCount_request,
              List.range_succ, List.map_append]
            rfl
          case sent =>
            change
              (run format events).sent ++
                [Json.stringify format
                  (requestJson
                    (format.ofNat (run format events).bridge.nextId)
                    call.method call.args)] = _
            rw [before.sent, fresh, requests_append, List.mapIdx_append]
            change _ = _ ++ [requestText format (0 + _) call]
            rw [Nat.zero_add]
            rfl
      | message raw =>
          rcases step_message format (run format events) raw with
            ⟨issued, nextId, -⟩
          constructor
          case nextId => rw [nextId, before.nextId, requestCount_message]
          case issued => rw [issued, before.issued, requestCount_message]
          case sent =>
            rw [step_message_sent, before.sent, requests_message]

/-! ## The invariant -/

/--
What holds behind a sequence of events.  The table maps the id of a promise
to the promise exactly as long as no response with that id has come in, and
the resolvers called are those of what its executor threw and of the first
response.
-/
structure Correlated
    (events : List (Event Number)) (world : World Number) : Prop where
  pending :
    ∀ id promise,
      world.bridge.pending.get id = some promise ↔
        id = promiseId format promise ∧
          ∃ later, laterEvents events promise = some later ∧
            firstResponse format id later = none
  settled :
    ∀ promise call later,
      (requests events)[promise]? = some call →
        laterEvents events promise = some later →
          world.settlementsOf promise =
            (call.thrown.map Outcome.rejected).toList ++
              (firstResponse format (promiseId format promise)
                later).join.toList
  unmade :
    ∀ promise, laterEvents events promise = none →
      world.settlementsOf promise = []

/-- A request files its promise under an id that was never used. -/
theorem Correlated.request
    {events : List (Event Number)} {world : World Number}
    (before : Correlated format events world)
    (counted : Counted format events world)
    (few : requestCount events < exactBound) (call : Call Number) :
    Correlated format (events ++ [.request call])
      (step format world (.request call)) := by
  have fresh :
      format.ofNat world.bridge.nextId =
        promiseId format (requestCount events) :=
    congrArg format.ofNat counted.nextId
  have waiting := firstResponse_request format call
  have positions := laterEvents_request events call
  have added :=
    settlementsOf_of_append (settlements_request format world call)
  rw [counted.length_issued] at added
  constructor
  case pending =>
    intro id promise
    change (world.bridge.pending.set (format.ofNat world.bridge.nextId)
      world.issued.length).get id = some promise ↔ _
    rw [InsertionMap.get_set, fresh, counted.length_issued, positions]
    by_cases newest : promise = requestCount events
    · subst newest
      by_cases same : id = promiseId format (requestCount events)
      · simp [same, firstResponse]
      · have absent :
            ¬ world.bridge.pending.get id = some (requestCount events) :=
          fun filed => same ((before.pending id _).mp filed).1
        simp [same, absent]
    · rw [if_neg newest]
      by_cases same : id = promiseId format (requestCount events)
      · rw [if_pos same, same]
        constructor
        · intro equal
          exact absurd (Option.some.inj equal).symm newest
        · rintro ⟨equal, later, made, -⟩
          rcases Option.map_eq_some_iff.mp made with
            ⟨earlier, position, -⟩
          have older := lt_of_laterEvents position
          exact absurd
            ((promiseId_eq_iff format few (older.trans few)).mp equal).symm
            newest
      · rw [if_neg same, before.pending]
        constructor
        · rintro ⟨equal, later, made, none⟩
          exact ⟨equal, _, by rw [made]; rfl, (waiting id later).trans none⟩
        · rintro ⟨equal, later, made, none⟩
          rcases Option.map_eq_some_iff.mp made with
            ⟨earlier, position, rfl⟩
          exact ⟨equal, earlier, position,
            (waiting id earlier).symm.trans none⟩
  case settled =>
    intro promise made later found position
    rw [positions] at position
    rw [requests_append] at found
    by_cases newest : promise = requestCount events
    · rw [if_pos newest, Option.some.injEq] at position
      rw [newest, requestCount, List.getElem?_append_right (Nat.le_refl _),
        Nat.sub_self] at found
      cases found
      rw [added, if_pos newest.symm, ← position,
        before.unmade promise
          ((laterEvents_eq_none_iff events promise).mpr newest.ge)]
      exact (List.append_nil _).symm
    · rw [if_neg newest] at position
      rcases Option.map_eq_some_iff.mp position with ⟨earlier, place, rfl⟩
      rw [List.getElem?_append_left (lt_of_laterEvents place)] at found
      rw [waiting, added, if_neg (Ne.symm newest), List.append_nil,
        before.settled promise made earlier found place]
  case unmade =>
    intro promise absent
    rw [laterEvents_eq_none_iff, requestCount_request] at absent
    rw [added, if_neg (by omega), List.append_nil]
    apply before.unmade
    rw [laterEvents_eq_none_iff]
    omega

section Message

variable
    {events : List (Event Number)} {world target : World Number}
    {raw : CodeUnits}

/-- A string without a waiting promise is no first response. -/
theorem Correlated.firstResponse_of_unfiled
    (before : Correlated format events world)
    (unfiled :
      ∀ id outcome, response format raw = some (id, outcome) →
        world.bridge.pending.get id = none)
    {promise : Nat} {later : List (Event Number)}
    (made : laterEvents events promise = some later) :
    firstResponse format (promiseId format promise)
        (later ++ [.message raw]) =
      firstResponse format (promiseId format promise) later := by
  rw [firstResponse_snoc]
  cases first : firstResponse format (promiseId format promise) later with
  | some outcome => rfl
  | none =>
      have filed :=
        (before.pending (promiseId format promise) promise).mpr
          ⟨rfl, later, made, first⟩
      simp only [firstResponse]
      cases carried : response format raw with
      | none => rfl
      | some response =>
          rcases response with ⟨id, outcome⟩
          have different : id ≠ promiseId format promise := by
            rintro rfl
            rw [unfiled _ _ carried] at filed
            cases filed
          simp [different]

/-- A string that no promise waits for changes nothing. -/
theorem Correlated.ignore
    (before : Correlated format events world)
    (pending : target.bridge.pending = world.bridge.pending)
    (settlements : target.settlements = world.settlements)
    (unfiled :
      ∀ id outcome, response format raw = some (id, outcome) →
        world.bridge.pending.get id = none) :
    Correlated format (events ++ [.message raw]) target := by
  have kept (promise : Nat) :
      target.settlementsOf promise = world.settlementsOf promise := by
    unfold World.settlementsOf
    rw [settlements]
  have waiting
      {promise : Nat} {later : List (Event Number)}
      (made : laterEvents events promise = some later) :=
    before.firstResponse_of_unfiled format unfiled made
  constructor
  case pending =>
    intro id promise
    rw [pending, before.pending, laterEvents_message]
    constructor
    · rintro ⟨rfl, later, made, first⟩
      exact ⟨rfl, _, by rw [made]; rfl, (waiting made).trans first⟩
    · rintro ⟨rfl, later, made, first⟩
      rcases Option.map_eq_some_iff.mp made with ⟨earlier, position, rfl⟩
      exact ⟨rfl, earlier, position, (waiting position).symm.trans first⟩
  case settled =>
    intro promise call later found made
    rw [requests_message] at found
    rw [laterEvents_message] at made
    rcases Option.map_eq_some_iff.mp made with ⟨earlier, position, rfl⟩
    rw [kept, before.settled promise call earlier found position,
      waiting position]
  case unmade =>
    intro promise made
    rw [laterEvents_message, Option.map_eq_none_iff] at made
    rw [kept, before.unmade promise made]

/-- A response counts for the promise it is for, unless that had one. -/
theorem firstResponse_of_response
    {settled promise : Nat} {outcome : Option (Outcome Number)}
    (carried : response format raw = some (promiseId format settled, outcome))
    (settledSmall : settled < exactBound) (small : promise < exactBound)
    (later : List (Event Number)) :
    firstResponse format (promiseId format promise)
        (later ++ [.message raw]) =
      match firstResponse format (promiseId format promise) later with
      | some first => some first
      | none => if settled = promise then some outcome else none := by
  rw [firstResponse_snoc]
  simp only [firstResponse, carried,
    promiseId_eq_iff format settledSmall small]

/-- A response to a waiting promise settles it. -/
theorem Correlated.settle
    (before : Correlated format events world)
    (few : requestCount events ≤ exactBound)
    {settled : Nat} {outcome : Option (Outcome Number)}
    (carried : response format raw = some (promiseId format settled, outcome))
    (filed :
      world.bridge.pending.get (promiseId format settled) = some settled)
    (pending :
      target.bridge.pending =
        world.bridge.pending.delete (promiseId format settled))
    (settlements :
      target.settlements =
        world.settlements ++ outcome.toList.map (settled, ·)) :
    Correlated format (events ++ [.message raw]) target := by
  rcases (before.pending _ settled).mp filed with
    ⟨-, since, madeSettled, firstSettled⟩
  have added := settlementsOf_of_append settlements
  have small
      {promise : Nat} {later : List (Event Number)}
      (made : laterEvents events promise = some later) :
      promise < exactBound :=
    Nat.lt_of_lt_of_le (lt_of_laterEvents made) few
  have heard
      {promise : Nat} {later : List (Event Number)}
      (made : laterEvents events promise = some later) :=
    firstResponse_of_response format carried (small madeSettled)
      (small made) later
  constructor
  case pending =>
    intro other promise
    rw [pending, InsertionMap.get_delete, laterEvents_message]
    by_cases same : other = promiseId format settled
    · subst same
      simp only [if_true, reduceCtorEq, false_iff]
      rintro ⟨equal, later, made, first⟩
      rcases Option.map_eq_some_iff.mp made with ⟨earlier, position, rfl⟩
      have identical :=
        (promiseId_eq_iff format (small madeSettled) (small position)).mp
          equal
      subst identical
      rw [heard position] at first
      split at first
      · cases first
      · simp at first
    · rw [if_neg same, before.pending]
      constructor
      · rintro ⟨rfl, later, made, first⟩
        have different : ¬ settled = promise :=
          fun equal => same (by rw [equal])
        refine ⟨rfl, _, by rw [made]; rfl, ?_⟩
        rw [heard made, first]
        exact if_neg different
      · rintro ⟨rfl, later, made, first⟩
        rcases Option.map_eq_some_iff.mp made with
          ⟨earlier, position, rfl⟩
        refine ⟨rfl, earlier, position, ?_⟩
        rw [heard position] at first
        split at first
        · cases first
        · assumption
  case settled =>
    intro promise call later found made
    rw [requests_message] at found
    rw [laterEvents_message] at made
    rcases Option.map_eq_some_iff.mp made with ⟨earlier, position, rfl⟩
    rw [added, heard position,
      before.settled promise call earlier found position, List.append_assoc]
    apply congrArg ((call.thrown.map Outcome.rejected).toList ++ ·)
    by_cases same : settled = promise
    · subst same
      have identical : since = earlier :=
        Option.some.inj (madeSettled.symm.trans position)
      subst identical
      simp [firstSettled]
    · cases firstResponse format (promiseId format promise) earlier with
      | none => simp [same]
      | some first => simp [same]
  case unmade =>
    intro promise made
    rw [laterEvents_message, Option.map_eq_none_iff] at made
    have different : ¬ settled = promise := by
      rintro rfl
      rw [madeSettled] at made
      cases made
    rw [added, if_neg different, before.unmade promise made]
    rfl

end Message

/-- An incoming string settles the promise whose id it is the first to carry. -/
theorem Correlated.message
    {events : List (Event Number)} {world : World Number}
    (before : Correlated format events world)
    (few : requestCount events ≤ exactBound) (raw : CodeUnits) :
    Correlated format (events ++ [.message raw])
      (step format world (.message raw)) := by
  rcases step_message format world raw with ⟨-, -, unheard | heard⟩
  · rcases unheard with ⟨pending, settlements, unfiled⟩
    exact before.ignore format pending settlements unfiled
  · rcases heard with
      ⟨id, outcome, settled, carried, filed, pending, settlements⟩
    rcases (before.pending id settled).mp filed with ⟨rfl, -⟩
    exact before.settle format few carried filed pending settlements

/-- Every run with few enough requests is correlated. -/
theorem correlated_run
    (events : List (Event Number)) (few : requestCount events ≤ exactBound) :
    Correlated format events (run format events) := by
  induction events using List.reverseRecOn with
  | nil =>
      constructor
      case pending =>
        intro id promise
        simp [run, World.new, Bridge.new, laterEvents]
      case settled =>
        intro promise call later found made
        cases made
      case unmade =>
        intro promise _
        rfl
  | append_singleton events event induction =>
      rw [run_snoc]
      cases event with
      | request call =>
          rw [requestCount_request] at few
          exact (induction (Nat.le_of_lt few)).request format
            (counted_run format events) few call
      | message raw =>
          rw [requestCount_message] at few
          exact (induction few).message format few raw

/--
Behind every sequence of requests and incoming strings the issued ids are
distinct, one text was sent for each, which the host reads as the request
with that id, and the settlements of a promise are those of the first response
that carried its id behind the request, behind what `transport.send` threw.
The pending table holds the ids whose first response is still to come.
-/
theorem run_settles_first_responses
    (events : List (Event Number))
    (few : requestCount events ≤ exactBound) :
    (run format events).issued.Nodup ∧
      (run format events).issued.length = requestCount events ∧
      (run format events).sent.length = requestCount events ∧
      (∀ entry ∈ (run format events).settlements,
        entry.1 < requestCount events) ∧
      (∀ promise id,
        (run format events).issued[promise]? = some id →
          ∃ call later text,
            (requests events)[promise]? = some call ∧
              laterEvents events promise = some later ∧
              (run format events).sent[promise]? = some text ∧
              text =
                Json.stringify format (requestJson id call.method call.args) ∧
              Json.parse format text =
                some
                  (requestJson id call.method
                    (Json.reread format call.args)) ∧
              (run format events).settlementsOf promise =
                (call.thrown.map Outcome.rejected).toList ++
                  (firstResponse format id later).join.toList ∧
              ((run format events).bridge.pending.get id = some promise ↔
                firstResponse format id later = none)) ∧
      ∀ id,
        id ∈ (run format events).bridge.pending.keys ↔
          ∃ promise later,
            (run format events).issued[promise]? = some id ∧
              laterEvents events promise = some later ∧
                firstResponse format id later = none := by
  have counted := counted_run format events
  have invariant := correlated_run format events few
  refine
    ⟨counted.nodup_issued format few, counted.length_issued, ?_, ?_, ?_, ?_⟩
  · rw [counted.sent, List.length_mapIdx, requestCount]
  · intro entry member
    by_contra large
    have none :=
      invariant.unmade entry.1
        ((laterEvents_eq_none_iff events entry.1).mpr (by omega))
    have listed :
        entry.2 ∈ (run format events).settlementsOf entry.1 :=
      List.mem_map.mpr ⟨entry, List.mem_filter.mpr ⟨member, by simp⟩, rfl⟩
    rw [none] at listed
    cases listed
  · intro promise id issued
    rcases (counted.getElem_issued format promise id).mp issued with
      ⟨small, rfl⟩
    rcases exists_laterEvents small with ⟨later, position⟩
    have found :
        (requests events)[promise]? = some (requests events)[promise] :=
      List.getElem?_eq_getElem small
    refine
      ⟨_, later, _, found, position, ?_, rfl, ?_,
        invariant.settled promise _ later found position, ?_⟩
    · rw [counted.sent, List.getElem?_mapIdx, found]
      rfl
    · rw [Json.parse_stringify]
      exact congrArg some (reread_requestJson format _ _ _)
    · rw [invariant.pending]
      constructor
      · rintro ⟨_, other, otherPosition, first⟩
        have identical : other = later :=
          Option.some.inj (otherPosition.symm.trans position)
        exact identical ▸ first
      · intro first
        exact ⟨rfl, later, position, first⟩
  · intro id
    rw [InsertionMap.mem_keys_iff]
    constructor
    · rintro ⟨promise, filed⟩
      rcases (invariant.pending id promise).mp filed with
        ⟨rfl, later, position, first⟩
      exact ⟨promise, later,
        (counted.getElem_issued format promise _).mpr
          ⟨lt_of_laterEvents position, rfl⟩,
        position, first⟩
    · rintro ⟨promise, later, issued, position, first⟩
      rcases (counted.getElem_issued format promise id).mp issued with
        ⟨_, rfl⟩
      exact ⟨promise,
        (invariant.pending _ promise).mpr ⟨rfl, later, position, first⟩⟩

/-- The response of the host to a request. -/
def answerText (id : Decimal) (result : CodeUnits) : CodeUnits :=
  Json.stringify decimalFormat
    (.object
      [(literal "id", .number id), (literal "ok", .bool true),
        (literal "result", .string result)])

/--
Two requests answered in the other order, one of them twice, and a request
whose transport throws.
-/
def swappedAnswers : List (Event Decimal) :=
  [.request ⟨literal "members", .object [], none⟩,
    .request ⟨literal "epoch", .object [], none⟩,
    .message (answerText (.ofInt 2) (literal "7")),
    .request ⟨literal "epoch", .object [], some (literal "unmounted")⟩,
    .message (answerText (.ofInt 1) (literal "ann")),
    .message (answerText (.ofInt 2) (literal "8"))]

/-- Every promise of the run has its own settlement. -/
theorem run_settles_first_responses_swapped :
    requestCount swappedAnswers ≤ exactBound ∧
      (run decimalFormat swappedAnswers).issued.Nodup ∧
        (run decimalFormat swappedAnswers).settlementsOf 0 =
            [.resolved (some (.string (literal "ann")))] ∧
          (run decimalFormat swappedAnswers).settlementsOf 1 =
              [.resolved (some (.string (literal "7")))] ∧
            (run decimalFormat swappedAnswers).settlementsOf 2 =
              [.rejected (literal "unmounted")] := by
  have few : requestCount swappedAnswers ≤ exactBound := by
    decide
  rcases run_settles_first_responses decimalFormat swappedAnswers few with
    ⟨distinct, -, -, -, settled, -⟩
  refine ⟨few, distinct, ?_, ?_, ?_⟩
  · rcases settled 0 (.ofInt 1) rfl with
      ⟨call, later, text, found, position, -, -, -, settlements, -⟩
    cases found
    cases position
    exact settlements
  · rcases settled 1 (.ofInt 2) rfl with
      ⟨call, later, text, found, position, -, -, -, settlements, -⟩
    cases found
    cases position
    exact settlements
  · rcases settled 2 (.ofInt 3) rfl with
      ⟨call, later, text, found, position, -, -, -, settlements, -⟩
    cases found
    cases position
    exact settlements

end Mls4rn.ReactNative.RequestBridge
