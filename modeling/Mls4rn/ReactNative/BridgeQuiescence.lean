import Mls4rn.Lib.Execution
import Mls4rn.Lib.Lists
import Mls4rn.ReactNative.BridgeEndpoints

/-!
# The bridge and the host when nothing is under way

Strings travel in both directions and may overtake each other; each of them is
delivered once.  The host works on any number of requests, each of which ends
with a result or an error at any time, and posts one response when it does.

The id of a waiting promise is in exactly one place: in a request on its way,
in a request the host works on, or in a response on its way.  So when none of
these is left, no promise waits.

A host whose `init()` succeeded posts a ready message.  A host whose `init()`
failed posts an error under the id `-1`, for which no promise ever waits, and
the ready promise stays as it is.

The transport puts a request on its way and returns.
-/

namespace Mls4rn.ReactNative.BridgeQuiescence

open Mls4rn.Lib
open Mls4rn.Lib.Execution
open Mls4rn.Lib.NumberText
open Mls4rn.Lib.Utf16
open Mls4rn.ReactNative.RequestBridge
  (World Outcome promiseId response firstResponse laterEvents isReady
    numericId isOk requestJson requests requestCount)
open Mls4rn.ReactNative.BridgeEndpoints

variable {Number : Type}

/-! ## Messages of the host -/

/-- `BridgeOutbound`; a result that is `undefined` has no member. -/
inductive Outbound (Number : Type) where
  | ready
  | succeeded (id : Number) (result : Option (Json Number))
  | failed (id : Number) (error : CodeUnits)

/-- The object that `post` is given. -/
def Outbound.json : Outbound Number → Json Number
  | .ready => .object [(literal "ready", .bool true)]
  | .succeeded id none =>
      .object [(literal "id", .number id), (literal "ok", .bool true)]
  | .succeeded id (some result) =>
      .object
        [(literal "id", .number id), (literal "ok", .bool true),
          (literal "result", result)]
  | .failed id error =>
      .object
        [(literal "id", .number id), (literal "ok", .bool false),
          (literal "error", .string error)]

/-- The response to a request whose method returned or threw. -/
def answer
    (knows : CodeUnits → Bool) (task : HostTask Number)
    (result : Except CodeUnits (Option (Json Number))) :
    Outbound Number :=
  if knows task.method then
    match result with
    | .ok result => .succeeded task.id result
    | .error message => .failed task.id message
  else
    .failed task.id (literal "unknown method: " ++ task.method)

/-! ## The system -/

/-- The state of `init()`. -/
inductive Init where
  | running
  | succeeded
  | failed
deriving DecidableEq, Repr

/--
Both ends and the strings between them.  `received` lists the ids of the
requests that the host has taken.
-/
structure System (Number : Type) where
  world : World Number
  toHost : List CodeUnits
  host : HostEnd Number
  received : List Number
  toBridge : List CodeUnits
  init : Init

/-- A fresh bridge and a page that was just loaded. -/
def System.new : System Number where
  world := World.new
  toHost := []
  host := HostEnd.new
  received := []
  toBridge := []
  init := .running

/-- What can happen.  An index chooses a string or a request. -/
inductive Event (Number : Type) where
  | request (method : CodeUnits) (args : Json Number)
  | deliverToHost (index : Nat)
  | finish (index : Nat) (result : Except CodeUnits (Option (Json Number)))
  | finishInit (result : Except CodeUnits Unit)
  | deliverToBridge (index : Nat)

/-- Nothing is on its way and the host works on no request. -/
def System.isQuiet (system : System Number) : Bool :=
  system.toHost.isEmpty && system.host.running.isEmpty &&
    system.toBridge.isEmpty

section Machine

variable [DecidableEq Number]
variable (format : SignedFormat Number) (knows : CodeUnits → Bool)

/-- `post`. -/
def System.post (system : System Number) (message : Outbound Number) :
    System Number :=
  let text := Json.stringify format.toNumberFormat message.json
  { system with
    host := { system.host with posted := system.host.posted ++ [text] }
    toBridge := system.toBridge ++ [text] }

/-- The end of `init()`. -/
def System.finishInit (system : System Number) :
    Except CodeUnits Unit → System Number
  | .ok () => { system with init := .succeeded }.post format .ready
  | .error message =>
      { system with init := .failed }.post format
        (.failed format.minusOne message)

/-- The system as a machine. -/
def machine : Machine (System Number) (Event Number) where
  step system
    | .request method args =>
        let made :=
          RequestBridge.request format.toNumberFormat system.world.bridge
            system.world.issued.length method args none
        some
          { system with
            world :=
              RequestBridge.step format.toNumberFormat system.world
                (.request ⟨method, args, none⟩)
            toHost := system.toHost ++ [made.2.1] }
    | .deliverToHost index =>
        match system.toHost[index]? with
        | none => none
        | some raw =>
            some
              { system with
                toHost := system.toHost.eraseIdx index
                host := (receive format.toNumberFormat raw system.host).2
                received :=
                  system.received ++
                    ((taskOf format.toNumberFormat raw).map
                      HostTask.id).toList }
    | .finish index result =>
        match system.host.running[index]? with
        | none => none
        | some task =>
            some
              ({ system with
                  host :=
                    { system.host with
                      running := system.host.running.eraseIdx index } }.post
                format (answer knows task result))
    | .finishInit result =>
        match system.init with
        | .running => some (system.finishInit format result)
        | _ => none
    | .deliverToBridge index =>
        match system.toBridge[index]? with
        | none => none
        | some raw =>
            some
              { system with
                world :=
                  RequestBridge.step format.toNumberFormat system.world
                    (.message raw)
                toBridge := system.toBridge.eraseIdx index }

/-! ## Where an id is -/

/-- The id of the request in a string. -/
def requestId (raw : CodeUnits) : Option Number :=
  (taskOf format.toNumberFormat raw).map HostTask.id

/-- The id of the response in a string, unless it is the one of `init()`. -/
def answerId (raw : CodeUnits) : Option Number :=
  match response format.toNumberFormat raw with
  | none => none
  | some (id, _) => if id = format.minusOne then none else some id

/-- The ids on their way to the host. -/
def System.asked (system : System Number) : List Number :=
  system.toHost.filterMap (requestId format)

/-- The ids of the requests the host works on. -/
def System.working (system : System Number) : List Number :=
  system.host.running.map HostTask.id

/-- The ids on their way back. -/
def System.answering (system : System Number) : List Number :=
  system.toBridge.filterMap (answerId format)

/-- The ids of the responses that `dispatch` has posted. -/
def System.answered (system : System Number) : List Number :=
  system.host.posted.filterMap (answerId format)

/-- The string is a ready message. -/
def isReadyText (raw : CodeUnits) : Bool :=
  match Json.parse format.toNumberFormat raw with
  | none => false
  | some message => isReady message

/-- A response in the string has an outcome. -/
def Convertible (raw : CodeUnits) : Prop :=
  ∀ id, response format.toNumberFormat raw ≠ some (id, none)

end Machine

/-! ## The strings of both ends -/

section Strings

variable {format : SignedFormat Number}

/-- A number that its text gives back. -/
def Exact (format : NumberFormat Number) (number : Number) : Prop :=
  format.isFinite number = true ∧
    format.ofText (format.toText number) = number

theorem exact_ofNat (number : Nat) :
    Exact format.toNumberFormat (format.ofNat number) :=
  ⟨format.isFinite_ofNat number, format.ofText_toText_ofNat number⟩

theorem exact_minusOne : Exact format.toNumberFormat format.minusOne :=
  ⟨format.isFinite_minusOne, format.ofText_toText_minusOne⟩

/-- A result reads back as a result, under the same id. -/
theorem response_succeeded
    {id : Number} (exact : Exact format.toNumberFormat id)
    (result : Option (Json Number)) :
    response format.toNumberFormat
        (Json.stringify format.toNumberFormat
          (Outbound.succeeded id result).json) =
      some (id,
        some (.resolved (result.map (Json.reread format.toNumberFormat)))) := by
  rcases exact with ⟨finite, same⟩
  rw [response, Json.parse_stringify]
  cases result with
  | none =>
      rw [Outbound.json, Json.reread_object_of_nodup]
      · simp only [List.map_cons, List.map_nil, Json.reread, finite, if_true,
          same]
        rfl
      · simp only [List.map_cons, List.map_nil]
        decide
  | some result =>
      rw [Outbound.json, Json.reread_object_of_nodup]
      · simp only [List.map_cons, List.map_nil, Json.reread, finite, if_true,
          same]
        rfl
      · simp only [List.map_cons, List.map_nil]
        decide

/-- An error reads back as that error, under the same id. -/
theorem response_failed
    {id : Number} (exact : Exact format.toNumberFormat id)
    (error : CodeUnits) :
    response format.toNumberFormat
        (Json.stringify format.toNumberFormat
          (Outbound.failed id error).json) =
      some (id, some (.rejected error)) := by
  rcases exact with ⟨finite, same⟩
  rw [response, Json.parse_stringify, Outbound.json,
    Json.reread_object_of_nodup]
  · simp only [List.map_cons, List.map_nil, Json.reread, finite, if_true, same]
    rfl
  · simp only [List.map_cons, List.map_nil]
    decide

theorem isReadyText_ready :
    isReadyText format
        (Json.stringify format.toNumberFormat
          (Outbound.ready : Outbound Number).json) =
      true := by
  rw [isReadyText, Json.parse_stringify]
  rfl

/-- A ready message is no response. -/
theorem response_of_isReadyText
    {raw : CodeUnits} (ready : isReadyText format raw = true) :
    response format.toNumberFormat raw = none := by
  unfold isReadyText at ready
  split at ready
  · cases ready
  · next message parsed =>
    simp only [response, parsed, ready, if_true]

/-- A response is no ready message. -/
theorem isReadyText_of_response
    {raw : CodeUnits} {entry : Number × Option (Outcome Number)}
    (carried : response format.toNumberFormat raw = some entry) :
    isReadyText format raw = false := by
  cases ready : isReadyText format raw with
  | false => rfl
  | true =>
      rw [response_of_isReadyText ready] at carried
      cases carried

/-- The response to a request carries its id and an outcome. -/
theorem response_answer
    (knows : CodeUnits → Bool) {task : HostTask Number}
    (exact : Exact format.toNumberFormat task.id)
    (result : Except CodeUnits (Option (Json Number))) :
    ∃ outcome,
      response format.toNumberFormat
          (Json.stringify format.toNumberFormat
            (answer knows task result).json) =
        some (task.id, some outcome) := by
  unfold answer
  split
  · cases result with
    | ok result => exact ⟨_, response_succeeded exact result⟩
    | error message => exact ⟨_, response_failed exact message⟩
  · exact ⟨_, response_failed exact _⟩

/-- The host reads a request under the id it was sent with. -/
theorem requestId_request
    (number : Nat) (method : CodeUnits) (args : Json Number) :
    requestId format
        (Json.stringify format.toNumberFormat
          (requestJson (format.ofNat number) method args)) =
      some (format.ofNat number) := by
  rw [requestId, taskOf, Json.parse_stringify,
    RequestBridge.reread_requestJson]
  rfl

variable [DecidableEq Number]

theorem answerId_of_response
    {raw : CodeUnits} {id : Number} {outcome : Option (Outcome Number)}
    (carried : response format.toNumberFormat raw = some (id, outcome))
    (different : id ≠ format.minusOne) :
    answerId format raw = some id := by
  simp only [answerId, carried, if_neg different]

theorem response_of_answerId
    {raw : CodeUnits} {id : Number}
    (answers : answerId format raw = some id) :
    ∃ outcome,
      response format.toNumberFormat raw = some (id, outcome) := by
  unfold answerId at answers
  split at answers
  · cases answers
  · next carriedId outcome carried =>
    split at answers
    · cases answers
    · cases answers
      exact ⟨outcome, carried⟩

end Strings

/-! ## The invariant -/

section Invariant

variable [DecidableEq Number] (format : SignedFormat Number)

/-- No transport threw, and no error was without a text. -/
def Orderly : RequestBridge.Event Number → Prop
  | .request call => call.thrown = none
  | .message raw => Convertible format raw

/-- Every id is where it should be. -/
structure Accounted (system : System Number) : Prop where
  ran :
    ∃ events,
      system.world = RequestBridge.run format.toNumberFormat events ∧
        requestCount events ≤ exactBound ∧
          ∀ event ∈ events, Orderly format event
  transit :
    ∀ id,
      system.world.bridge.pending.keys.count id =
        (system.asked format).count id + system.working.count id +
          (system.answering format).count id
  taken :
    ∀ id,
      system.world.issued.count id =
        system.received.count id + (system.asked format).count id
  answered :
    ∀ id,
      system.received.count id =
        system.working.count id + (system.answered format).count id
  convertible : ∀ raw ∈ system.toBridge, Convertible format raw
  ready :
    (system.world.bridge.ready = true ∨
        ∃ raw ∈ system.toBridge, isReadyText format raw = true) ↔
      system.init = .succeeded

theorem accounted_new : Accounted format (System.new : System Number) where
  ran := ⟨[], rfl, Nat.zero_le _, nofun⟩
  transit _ := rfl
  taken _ := rfl
  answered _ := rfl
  convertible := nofun
  ready := by simp [System.new, World.new, RequestBridge.Bridge.new]

variable {format} {system : System Number}

/-- Promises wait under their own ids. -/
theorem Accounted.promiseId_of_mem
    (accounted : Accounted format system) {id : Number}
    (waits : id ∈ system.world.bridge.pending.keys) :
    ∃ promise, id = promiseId format.toNumberFormat promise := by
  rcases accounted.ran with ⟨events, ran, few, -⟩
  rw [InsertionMap.mem_keys_iff, ran] at waits
  rcases waits with ⟨promise, filed⟩
  have correlated :=
    RequestBridge.correlated_run format.toNumberFormat events few
  exact ⟨promise, ((correlated.pending id promise).mp filed).1⟩

theorem Accounted.exact_of_mem
    (accounted : Accounted format system) {id : Number}
    (waits : id ∈ system.world.bridge.pending.keys) :
    Exact format.toNumberFormat id ∧ id ≠ format.minusOne := by
  rcases accounted.promiseId_of_mem waits with ⟨promise, rfl⟩
  exact ⟨exact_ofNat _, (format.minusOne_ne_ofNat _).symm⟩

/--
A promise waits for every request that the host works on and for every
response that is on its way.
-/
theorem Accounted.waits
    (accounted : Accounted format system) {id : Number}
    (underway : id ∈ system.working ++ system.answering format) :
    id ∈ system.world.bridge.pending.keys := by
  have positive := List.count_pos_iff.mpr underway
  have total := accounted.transit id
  rw [List.count_append] at positive
  exact List.count_pos_iff.mp (by omega)

/-! ## The steps -/

/-- A request puts its id on the way. -/
theorem Accounted.request
    (accounted : Accounted format system)
    (room : system.world.issued.length < exactBound)
    (method : CodeUnits) (args : Json Number) :
    Accounted format
      { system with
        world :=
          RequestBridge.step format.toNumberFormat system.world
            (.request ⟨method, args, none⟩)
        toHost :=
          system.toHost ++
            [(RequestBridge.request format.toNumberFormat
              system.world.bridge system.world.issued.length method
              args none).2.1] } := by
  rcases accounted.ran with ⟨events, ran, few, orderly⟩
  have counted := RequestBridge.counted_run format.toNumberFormat events
  have correlated :=
    RequestBridge.correlated_run format.toNumberFormat events few
  rw [← ran] at counted correlated
  rw [counted.length_issued] at room
  have fresh :
      format.ofNat system.world.bridge.nextId ∉
        system.world.bridge.pending.keys := by
    intro waits
    rcases (InsertionMap.mem_keys_iff _ _).mp waits with ⟨promise, filed⟩
    rcases (correlated.pending _ _).mp filed with ⟨same, later, made, -⟩
    have older := RequestBridge.lt_of_laterEvents made
    rw [counted.nextId] at same
    have number :=
      (RequestBridge.promiseId_eq_iff format.toNumberFormat room
        (older.trans room)).mp same
    omega
  have sent :
      requestId format
          (RequestBridge.request format.toNumberFormat system.world.bridge
            system.world.issued.length method args none).2.1 =
        some (format.ofNat system.world.bridge.nextId) :=
    requestId_request _ method args
  constructor
  case ran =>
    refine ⟨events ++ [.request ⟨method, args, none⟩], ?_, ?_, ?_⟩
    · rw [RequestBridge.run_snoc, ran]
    · rw [RequestBridge.requestCount_request]
      exact room
    · intro event member
      rcases List.mem_append.mp member with old | new
      · exact orderly event old
      · cases List.mem_singleton.mp new
        rfl
  case transit =>
    intro id
    have total := accounted.transit id
    change
      (system.world.bridge.pending.set
        (format.ofNat system.world.bridge.nextId) _).keys.count id =
        ((system.toHost ++ [_]).filterMap (requestId format)).count id +
          system.working.count id + (system.answering format).count id
    rw [InsertionMap.keys_set, if_neg fresh, List.count_append, total,
      List.filterMap_append, List.count_append,
      List.filterMap_cons_some sent, List.filterMap_nil, System.asked]
    omega
  case taken =>
    intro id
    have total := accounted.taken id
    change
      (system.world.issued ++
        [format.ofNat system.world.bridge.nextId]).count id =
        system.received.count id +
          ((system.toHost ++ [_]).filterMap (requestId format)).count id
    rw [List.count_append, total, List.filterMap_append, List.count_append,
      List.filterMap_cons_some sent, List.filterMap_nil, System.asked]
    omega
  case answered => exact accounted.answered
  case convertible => exact accounted.convertible
  case ready => exact accounted.ready

/-- The host takes a request over from the channel. -/
theorem Accounted.deliverToHost
    (accounted : Accounted format system) {index : Nat} {raw : CodeUnits}
    (found : system.toHost[index]? = some raw) :
    Accounted format
      { system with
        toHost := system.toHost.eraseIdx index
        host := (receive format.toNumberFormat raw system.host).2
        received :=
          system.received ++
            ((taskOf format.toNumberFormat raw).map
              HostTask.id).toList } := by
  have moved := Lists.count_filterMap_eraseIdx (requestId format) found
  have running :
      (receive format.toNumberFormat raw system.host).2.running.map
          HostTask.id =
        system.working ++ (requestId format raw).toList := by
    rw [receive_eq, requestId]
    cases taskOf format.toNumberFormat raw with
    | none => exact (List.append_nil _).symm
    | some task => exact List.map_append
  have posted :
      (receive format.toNumberFormat raw system.host).2.posted =
        system.host.posted := by
    rw [receive_eq]
    cases taskOf format.toNumberFormat raw with
    | none => rfl
    | some task => rfl
  constructor
  case ran => exact accounted.ran
  case transit =>
    intro id
    have total := accounted.transit id
    have here := moved id
    simp only [System.asked, System.working, System.answering] at total ⊢
    rw [running, List.count_append, System.working]
    omega
  case taken =>
    intro id
    have total := accounted.taken id
    have here := moved id
    simp only [System.asked] at total ⊢
    rw [List.count_append, ← requestId]
    omega
  case answered =>
    intro id
    have total := accounted.answered id
    simp only [System.working, System.answered] at total ⊢
    rw [running, posted, List.count_append, List.count_append,
      ← requestId, System.working]
    omega
  case convertible => exact accounted.convertible
  case ready => exact accounted.ready

/-- A posted string is on its way. -/
theorem count_answering_post (message : Outbound Number) (id : Number) :
    ((system.post format message).answering format).count id =
      (system.answering format).count id +
        (answerId format
          (Json.stringify format.toNumberFormat
            message.json)).toList.count id := by
  rw [System.answering, System.post, List.filterMap_append,
    List.count_append, System.answering]
  rfl

/-- A posted string is one of those posted. -/
theorem count_answered_post (message : Outbound Number) (id : Number) :
    ((system.post format message).answered format).count id =
      (system.answered format).count id +
        (answerId format
          (Json.stringify format.toNumberFormat
            message.json)).toList.count id := by
  rw [System.answered, System.post, List.filterMap_append,
    List.count_append, System.answered]
  rfl

omit [DecidableEq Number] in
theorem convertible_post
    {message : Outbound Number}
    (before : ∀ raw ∈ system.toBridge, Convertible format raw)
    (new :
      Convertible format
        (Json.stringify format.toNumberFormat message.json)) :
    ∀ raw ∈ (system.post format message).toBridge,
      Convertible format raw := by
  intro raw member
  rcases List.mem_append.mp member with old | last
  · exact before raw old
  · rw [List.mem_singleton.mp last]
    exact new

/-- The host answers a request. -/
theorem Accounted.finish
    (accounted : Accounted format system) (knows : CodeUnits → Bool)
    {index : Nat} {task : HostTask Number}
    (found : system.host.running[index]? = some task)
    (result : Except CodeUnits (Option (Json Number))) :
    Accounted format
      ({ system with
          host :=
            { system.host with
              running := system.host.running.eraseIdx index } }.post
        format (answer knows task result)) := by
  have waits :=
    accounted.waits
      (List.mem_append_left _
        (List.mem_map_of_mem (List.mem_of_getElem? found)))
  rcases accounted.exact_of_mem waits with ⟨exact, different⟩
  rcases response_answer knows exact result with ⟨outcome, carried⟩
  have answers := answerId_of_response carried different
  have notReady := isReadyText_of_response carried
  have moved :
      ∀ id, system.working.count id =
        ((system.host.running.eraseIdx index).map HostTask.id).count id +
          [task.id].count id := by
    intro id
    have here :=
      Lists.count_filterMap_eraseIdx (fun task => some task.id) found id
    rwa [List.filterMap_eq_map'] at here
  constructor
  case ran => exact accounted.ran
  case transit =>
    intro id
    have total := accounted.transit id
    have here := moved id
    rw [count_answering_post, answers]
    change
      system.world.bridge.pending.keys.count id =
        (system.asked format).count id +
          ((system.host.running.eraseIdx index).map HostTask.id).count id +
            ((system.answering format).count id + [task.id].count id)
    omega
  case taken => exact accounted.taken
  case answered =>
    intro id
    have total := accounted.answered id
    have here := moved id
    rw [count_answered_post, answers]
    change system.received.count id =
      ((system.host.running.eraseIdx index).map HostTask.id).count id +
        ((system.answered format).count id + [task.id].count id)
    omega
  case convertible =>
    refine convertible_post accounted.convertible ?_
    intro id
    rw [carried]
    nofun
  case ready =>
    refine Iff.trans ?_ accounted.ready
    refine or_congr Iff.rfl ?_
    constructor
    · rintro ⟨raw, member, ready⟩
      rcases List.mem_append.mp member with old | new
      · exact ⟨raw, old, ready⟩
      · rw [List.mem_singleton.mp new, notReady] at ready
        cases ready
    · rintro ⟨raw, member, ready⟩
      exact ⟨raw, List.mem_append_left _ member, ready⟩

/-- The error of `init()` answers no request. -/
theorem answerId_initFailed (message : CodeUnits) :
    answerId format
        (Json.stringify format.toNumberFormat
          (Outbound.failed format.minusOne message).json) =
      none := by
  simp only [answerId, response_failed exact_minusOne, if_true]

/-- What the end of `init()` posts is counted nowhere. -/
theorem Accounted.post_uncounted
    (accounted : Accounted format system) {message : Outbound Number}
    {init : Init} (running : system.init = .running)
    (uncounted :
      answerId format
        (Json.stringify format.toNumberFormat message.json) = none)
    (convertible :
      Convertible format (Json.stringify format.toNumberFormat message.json))
    (ready :
      isReadyText format
          (Json.stringify format.toNumberFormat message.json) = true ↔
        init = .succeeded) :
    Accounted format ({ system with init }.post format message) := by
  have early :
      ¬ (system.world.bridge.ready = true ∨
        ∃ raw ∈ system.toBridge, isReadyText format raw = true) := by
    rw [accounted.ready, running]
    nofun
  constructor
  case ran => exact accounted.ran
  case transit =>
    intro id
    rw [count_answering_post, uncounted]
    exact accounted.transit id
  case taken => exact accounted.taken
  case answered =>
    intro id
    rw [count_answered_post, uncounted]
    exact accounted.answered id
  case convertible =>
    exact convertible_post accounted.convertible convertible
  case ready =>
    refine Iff.trans ?_ ready
    constructor
    · rintro (already | ⟨raw, member, isReady⟩)
      · exact absurd (Or.inl already) early
      · rcases List.mem_append.mp member with old | new
        · exact absurd (Or.inr ⟨raw, old, isReady⟩) early
        · rwa [List.mem_singleton.mp new] at isReady
    · intro isReady
      exact Or.inr ⟨_, List.mem_append_right _ List.mem_cons_self, isReady⟩

theorem Accounted.finishInit
    (accounted : Accounted format system) (running : system.init = .running)
    (result : Except CodeUnits Unit) :
    Accounted format (system.finishInit format result) := by
  cases result with
  | ok value =>
      have none :
          response format.toNumberFormat
              (Json.stringify format.toNumberFormat
                (Outbound.ready : Outbound Number).json) =
            none :=
        response_of_isReadyText isReadyText_ready
      refine accounted.post_uncounted running ?_ ?_ ?_
      · simp only [answerId, none]
      · intro id
        rw [none]
        nofun
      · exact iff_of_true isReadyText_ready rfl
  | error message =>
      have carried :
          response format.toNumberFormat
              (Json.stringify format.toNumberFormat
                (Outbound.failed format.minusOne message).json) =
            some (format.minusOne, some (.rejected message)) :=
        response_failed exact_minusOne message
      refine accounted.post_uncounted running (answerId_initFailed message)
        ?_ ?_
      · intro id
        rw [carried]
        nofun
      · rw [isReadyText_of_response carried]
        exact iff_of_false nofun nofun

/-- The bridge takes a string from the channel. -/
theorem Accounted.deliverToBridge
    (accounted : Accounted format system) {index : Nat} {raw : CodeUnits}
    (found : system.toBridge[index]? = some raw) :
    Accounted format
      { system with
        world :=
          RequestBridge.step format.toNumberFormat system.world (.message raw)
        toBridge := system.toBridge.eraseIdx index } := by
  have moved := Lists.count_filterMap_eraseIdx (answerId format) found
  have members := Lists.mem_iff_eraseIdx found
  have here : raw ∈ system.toBridge := List.mem_of_getElem? found
  rcases RequestBridge.step_message format.toNumberFormat system.world raw
    with ⟨issued, -, cases⟩
  constructor
  case ran =>
    rcases accounted.ran with ⟨events, ran, few, orderly⟩
    refine ⟨events ++ [.message raw], ?_, ?_, ?_⟩
    · rw [RequestBridge.run_snoc, ran]
    · rw [RequestBridge.requestCount_message]
      exact few
    · intro event member
      rcases List.mem_append.mp member with old | new
      · exact orderly event old
      · cases List.mem_singleton.mp new
        exact accounted.convertible raw here
  case transit =>
    intro id
    have total := accounted.transit id
    have count := moved id
    simp only [System.asked, System.working, System.answering] at total ⊢
    rcases cases with
      ⟨pending, -, unfiled⟩ |
        ⟨answered, outcome, promise, carried, filed, pending, -⟩
    · have uncounted : answerId format raw = none := by
        by_contra counted
        rcases Option.ne_none_iff_exists'.mp counted with ⟨other, answers⟩
        rcases response_of_answerId answers with ⟨outcome, carried⟩
        have waits :=
          accounted.waits
            (List.mem_append_right _
              (List.mem_filterMap.mpr ⟨raw, here, answers⟩))
        exact (InsertionMap.get_eq_none_iff _ _).mp
          (unfiled other outcome carried) waits
      rw [uncounted, Option.toList_none, List.count_nil] at count
      rw [pending]
      omega
    · have waits : answered ∈ system.world.bridge.pending.keys :=
        (InsertionMap.mem_keys_iff _ _).mpr ⟨promise, filed⟩
      have answers :=
        answerId_of_response carried (accounted.exact_of_mem waits).2
      have deleted := InsertionMap.count_keys_delete _ waits id
      rw [answers, Option.toList_some] at count
      rw [pending]
      omega
  case taken =>
    intro id
    rw [issued]
    exact accounted.taken id
  case answered => exact accounted.answered
  case convertible =>
    intro other member
    exact accounted.convertible other ((members other).mpr (Or.inr member))
  case ready =>
    refine Iff.trans ?_ accounted.ready
    rw [RequestBridge.step_message_ready, Bool.or_eq_true, or_assoc]
    refine or_congr Iff.rfl ?_
    constructor
    · rintro (isReady | ⟨other, member, isReady⟩)
      · exact ⟨raw, here, isReady⟩
      · exact ⟨other, (members other).mpr (Or.inr member), isReady⟩
    · rintro ⟨other, member, isReady⟩
      rcases (members other).mp member with rfl | kept
      · exact Or.inl isReady
      · exact Or.inr ⟨other, kept, isReady⟩

/-- Ids are only ever added. -/
theorem issued_of_step
    (knows : CodeUnits → Bool)
    {event : Event Number} {target : System Number}
    (taken : (machine format knows).step system event = some target) :
    system.world.issued.length ≤ target.world.issued.length := by
  cases event with
  | request method args =>
      cases taken
      change _ ≤ (system.world.issued ++ [_]).length
      rw [List.length_append]
      exact Nat.le_add_right _ _
  | deliverToHost _ | finish _ _ | deliverToBridge _ =>
      simp only [machine] at taken
      split at taken
      · cases taken
      · cases taken
        exact Nat.le_refl _
  | finishInit result =>
      simp only [machine] at taken
      split at taken
      · cases taken
        cases result with
        | ok _ => exact Nat.le_refl _
        | error message => exact Nat.le_refl _
      · cases taken

/-- Every step keeps the accounts. -/
theorem Accounted.step
    (accounted : Accounted format system) (knows : CodeUnits → Bool)
    {event : Event Number} {target : System Number}
    (taken : (machine format knows).step system event = some target)
    (few : target.world.issued.length ≤ exactBound) :
    Accounted format target := by
  cases event with
  | request method args =>
      cases taken
      apply accounted.request
      change (system.world.issued ++ [_]).length ≤ _ at few
      rw [List.length_append] at few
      exact few
  | deliverToHost index =>
      simp only [machine] at taken
      split at taken
      · cases taken
      · next raw found =>
        cases taken
        exact accounted.deliverToHost found
  | finish index result =>
      simp only [machine] at taken
      split at taken
      · cases taken
      · next task found =>
        cases taken
        exact accounted.finish knows found result
  | finishInit result =>
      simp only [machine] at taken
      split at taken
      · next running =>
        cases taken
        exact accounted.finishInit running result
      · cases taken
  | deliverToBridge index =>
      simp only [machine] at taken
      split at taken
      · cases taken
      · next raw found =>
        cases taken
        exact accounted.deliverToBridge found

/-- The accounts are right as long as ids are told apart. -/
def AccountedWhileFew
    (format : SignedFormat Number) (system : System Number) : Prop :=
  system.world.issued.length ≤ exactBound → Accounted format system

theorem reached_accounted
    (knows : CodeUnits → Bool)
    (reached : Reaches (machine format knows) anyStep System.new system) :
    AccountedWhileFew format system := by
  apply reached.invariant
  · intro _
    exact accounted_new format
  · intro source event target before _ taken few
    have earlier := (issued_of_step knows taken).trans few
    exact (before earlier).step knows taken few

/-! ## Quiet states -/

theorem lists_of_isQuiet
    (format : SignedFormat Number) (quiet : system.isQuiet = true) :
    system.asked format = [] ∧ system.working = [] ∧
      system.answering format = [] := by
  simp only [System.isQuiet, Bool.and_eq_true, List.isEmpty_iff] at quiet
  rcases quiet with ⟨⟨noRequest, noTask⟩, noAnswer⟩
  rw [System.asked, System.working, System.answering, noRequest, noTask,
    noAnswer]
  exact ⟨rfl, rfl, rfl⟩

/-- Without a waiting id every promise has been settled once. -/
theorem Accounted.settled
    (accounted : Accounted format system)
    (idle : system.world.bridge.pending.keys = []) {promise : Nat}
    (made : promise < system.world.issued.length) :
    ∃ outcome, system.world.settlementsOf promise = [outcome] := by
  rcases accounted.ran with ⟨events, ran, few, orderly⟩
  have counted := RequestBridge.counted_run format.toNumberFormat events
  have correlated :=
    RequestBridge.correlated_run format.toNumberFormat events few
  rw [← ran] at counted correlated
  rw [counted.length_issued] at made
  rcases RequestBridge.exists_laterEvents made with ⟨later, position⟩
  have found : (requests events)[promise]? = some (requests events)[promise] :=
    List.getElem?_eq_getElem made
  have answered := correlated.settled promise _ later found position
  have returned : (requests events)[promise].thrown = none :=
    orderly _ (RequestBridge.mem_of_mem_requests (List.getElem_mem made))
  rw [returned] at answered
  have heard :
      firstResponse format.toNumberFormat
          (promiseId format.toNumberFormat promise) later ≠ none := by
    intro unheard
    have filed :=
      (correlated.pending _ promise).mpr ⟨rfl, later, position, unheard⟩
    have waits := (InsertionMap.mem_keys_iff _ _).mpr ⟨promise, filed⟩
    rw [idle] at waits
    cases waits
  have clear :=
    RequestBridge.firstResponse_ne_some_none format.toNumberFormat
      (fun _ member =>
        orderly _ (RequestBridge.mem_of_mem_laterEvents position member))
      (promiseId format.toNumberFormat promise)
  cases first : firstResponse format.toNumberFormat
      (promiseId format.toNumberFormat promise) later with
  | none => exact absurd first heard
  | some outcome =>
      cases outcome with
      | none => exact absurd first clear
      | some outcome =>
          rw [first] at answered
          exact ⟨outcome, answered⟩

/--
In every quiet state the host has received every request once and has posted
one response for each, and every promise has been settled once.  The ready
promise is resolved exactly if `init()` has succeeded.
-/
theorem quiet_states_are_settled
    (knows : CodeUnits → Bool)
    (reached : Reaches (machine format knows) anyStep System.new system)
    (few : system.world.issued.length ≤ exactBound)
    (quiet : system.isQuiet = true) :
    system.world.issued.Nodup ∧
      system.received.Perm system.world.issued ∧
        (system.answered format).Perm system.received ∧
          (∀ promise < system.world.issued.length,
            ∃ outcome, system.world.settlementsOf promise = [outcome]) ∧
            (system.world.bridge.ready = true ↔
              system.init = .succeeded) := by
  have accounted := reached_accounted knows reached few
  rcases lists_of_isQuiet format quiet with
    ⟨noRequest, noTask, noAnswer⟩
  have idle : system.world.bridge.pending.keys = [] := by
    apply List.eq_nil_iff_forall_not_mem.mpr
    intro id waits
    have total := accounted.transit id
    rw [noRequest, noTask, noAnswer] at total
    exact absurd (List.count_pos_iff.mpr waits) (by simp [total])
  refine ⟨?_, ?_, ?_, fun promise made => accounted.settled idle made, ?_⟩
  · rcases accounted.ran with ⟨events, ran, few, -⟩
    rw [ran]
    exact
      (RequestBridge.counted_run format.toNumberFormat
        events).nodup_issued format.toNumberFormat few
  · rw [List.perm_iff_count]
    intro id
    have total := accounted.taken id
    rw [noRequest] at total
    exact total.symm
  · rw [List.perm_iff_count]
    intro id
    have total := accounted.answered id
    rw [noTask, List.count_nil, Nat.zero_add] at total
    exact total.symm
  · refine Iff.trans ?_ accounted.ready
    simp only [System.isQuiet, Bool.and_eq_true, List.isEmpty_iff] at quiet
    rw [quiet.2]
    simp

end Invariant

/-! ## Two runs -/

/-- Two requests, answered in the other order, and a host that is ready. -/
def answeredRun : List (Event Decimal) :=
  [.request (literal "newClient") (.object []),
    .request (literal "nothing") (.object []), .deliverToHost 1,
    .finishInit (.ok ()), .deliverToHost 0, .finish 0 (.ok none),
    .deliverToBridge 1, .deliverToBridge 0,
    .finish 0 (.ok (some (.object []))), .deliverToBridge 0]

/-- The table of the host has one method. -/
def knowsNewClient (method : CodeUnits) : Bool :=
  decide (method = literal "newClient")

/-- Both promises of the run are settled, and the ready promise is. -/
theorem quiet_states_are_settled_twice :
    ∃ system,
      Reaches (machine signedDecimalFormat knowsNewClient) anyStep
          System.new system ∧
        system.isQuiet = true ∧
          system.world.issued = [.ofInt 1, .ofInt 2] ∧
            (∃ outcome, system.world.settlementsOf 0 = [outcome]) ∧
              (∃ outcome, system.world.settlementsOf 1 = [outcome]) ∧
                system.world.bridge.ready = true := by
  have observed :
      (((machine signedDecimalFormat knowsNewClient).restrict
          fun _ _ => true).run System.new answeredRun).map
          (fun system =>
            (system.isQuiet, system.world.issued, system.init)) =
        some (true, [.ofInt 1, .ofInt 2], .succeeded) := by
    decide +kernel
  rcases Option.map_eq_some_iff.mp observed with ⟨system, ran, found⟩
  simp only [Prod.mk.injEq] at found
  rcases found with ⟨quiet, issued, succeeded⟩
  have reached :
      Reaches (machine signedDecimalFormat knowsNewClient) anyStep
        System.new system :=
    reaches_of_run (fun _ _ _ => trivial) ran
  have few : system.world.issued.length ≤ exactBound := by
    rw [issued]
    decide
  rcases quiet_states_are_settled knowsNewClient reached few quiet with
    ⟨-, -, -, settled, ready⟩
  rw [issued] at settled
  exact
    ⟨system, reached, quiet, issued, settled 0 (by decide),
      settled 1 (by decide), ready.mpr succeeded⟩

/-- `init()` fails, and the bridge is told so. -/
def failedRun : List (Event Decimal) :=
  [.finishInit (.error (literal "out of memory")), .deliverToBridge 0]

/-- The ready promise is neither resolved nor rejected. -/
theorem failed_init_leaves_ready_pending :
    ∃ system,
      Reaches (machine signedDecimalFormat knowsNewClient) anyStep
          System.new system ∧
        system.isQuiet = true ∧ system.init = .failed ∧
          system.world.bridge.ready = false := by
  have observed :
      (((machine signedDecimalFormat knowsNewClient).restrict
          fun _ _ => true).run System.new failedRun).map
          (fun system =>
            (system.isQuiet, system.init, system.world.bridge.ready)) =
        some (true, .failed, false) := by
    decide +kernel
  rcases Option.map_eq_some_iff.mp observed with ⟨system, ran, found⟩
  simp only [Prod.mk.injEq] at found
  exact
    ⟨system, reaches_of_run (fun _ _ _ => trivial) ran, found.1, found.2.1,
      found.2.2⟩

end Mls4rn.ReactNative.BridgeQuiescence
