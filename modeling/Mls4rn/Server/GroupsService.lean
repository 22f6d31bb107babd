import Mls4rn.Lib.InsertionMap
import Mls4rn.Lib.Lists
import Mls4rn.Lib.Utf16

/-!
# The message log of the delivery service

The service keeps one append-only log for each group id.  A published message
gets the next sequence number of its log, and a client fetches the messages
behind a cursor.  The logs of different groups do not touch each other.
-/

namespace Mls4rn.Server.GroupsService

open Mls4rn.Lib
open Mls4rn.Lib.Utf16

/-- `StoredMessage`; the message is opaque base64. -/
structure StoredMessage where
  seq : Nat
  sender : Option CodeUnits
  message : CodeUnits
  ts : Nat
deriving DecidableEq, Repr

/-- The service: its private field `logs`. -/
structure Service where
  logs : InsertionMap CodeUnits (List StoredMessage)

/-- The service behind its start. -/
def Service.new : Service where
  logs := InsertionMap.empty

/-- `this.logs.get(groupId) ?? []`. -/
def log (service : Service) (groupId : CodeUnits) : List StoredMessage :=
  (service.logs.get groupId).getD []

/-- `publish`, at the time `ts`. -/
def publish
    (service : Service) (groupId message : CodeUnits)
    (sender : Option CodeUnits) (ts : Nat) : StoredMessage × Service :=
  let stored : StoredMessage :=
    { seq := (log service groupId).length + 1, sender, message, ts }
  (stored, ⟨service.logs.set groupId (log service groupId ++ [stored])⟩)

/-- `since`: every message with a larger sequence number. -/
def since (service : Service) (groupId : CodeUnits) (cursor : Int) :
    List StoredMessage :=
  if cursor ≤ 0 then log service groupId
  else (log service groupId).filter fun stored =>
    decide (cursor < (stored.seq : Int))

/-! ## Logs -/

@[simp]
theorem log_new (groupId : CodeUnits) : log Service.new groupId = [] :=
  rfl

theorem log_publish
    (service : Service) (groupId message : CodeUnits)
    (sender : Option CodeUnits) (ts : Nat) :
    log (publish service groupId message sender ts).2 groupId =
      log service groupId ++
        [(publish service groupId message sender ts).1] := by
  simp [log, publish, InsertionMap.get_set_self]

/-- A publication leaves the logs of other groups alone. -/
theorem log_publish_of_ne
    (service : Service) {groupId other : CodeUnits}
    (different : other ≠ groupId) (message : CodeUnits)
    (sender : Option CodeUnits) (ts : Nat) :
    log (publish service groupId message sender ts).2 other =
      log service other := by
  simp [log, publish, InsertionMap.get_set_of_ne _ _ different]

/-- The messages of a log are numbered from one without a gap. -/
def Numbered (messages : List StoredMessage) : Prop :=
  ∀ index stored, messages[index]? = some stored → stored.seq = index + 1

theorem Numbered.nil : Numbered [] := by
  intro index stored impossible
  cases impossible

theorem Numbered.snoc
    {messages : List StoredMessage} (numbered : Numbered messages)
    {stored : StoredMessage} (next : stored.seq = messages.length + 1) :
    Numbered (messages ++ [stored]) := by
  intro index other found
  rcases Lists.getElem?_concat_cases found with old | ⟨last, rfl⟩
  · exact numbered index other old
  · rw [next, last]

theorem Numbered.initial
    {first second : List StoredMessage}
    (numbered : Numbered (first ++ second)) : Numbered first := by
  intro index stored found
  apply numbered index stored
  rw [List.getElem?_append_left]
  · exact found
  · exact (List.getElem?_eq_some_iff.mp found).1

/-- Every log of the service is numbered from one without a gap. -/
def Sequenced (service : Service) : Prop :=
  ∀ groupId, Numbered (log service groupId)

theorem Sequenced.new : Sequenced Service.new := by
  intro groupId
  rw [log_new]
  exact Numbered.nil

theorem Sequenced.publish
    {service : Service} (sequenced : Sequenced service)
    (groupId message : CodeUnits) (sender : Option CodeUnits) (ts : Nat) :
    Sequenced (publish service groupId message sender ts).2 := by
  intro other
  by_cases same : other = groupId
  · subst same
    rw [log_publish]
    exact (sequenced other).snoc rfl
  · rw [log_publish_of_ne service same]
    exact sequenced other

/-- Behind a cursor stand the messages from that position on. -/
theorem filter_seq_eq_drop
    {messages : List StoredMessage} (numbered : Numbered messages)
    (cursor : Nat) :
    (messages.filter fun stored =>
        decide ((cursor : Int) < (stored.seq : Int))) =
      messages.drop cursor := by
  induction messages using List.reverseRecOn with
  | nil => simp
  | append_singleton messages stored induction =>
      have earlier : Numbered messages := numbered.initial
      have last : stored.seq = messages.length + 1 :=
        numbered messages.length stored (by simp)
      rw [List.filter_append, induction earlier]
      rcases Nat.lt_or_ge messages.length cursor with beyond | inside
      · rw [List.drop_of_length_le (by omega),
          List.drop_of_length_le (by simp; omega)]
        simp [last]
        omega
      · rw [List.drop_append_of_le_length inside]
        simp [last]
        omega

/-- A fetch returns the log behind the cursor. -/
theorem since_eq_drop
    {service : Service} (sequenced : Sequenced service)
    (groupId : CodeUnits) (cursor : Nat) :
    since service groupId cursor = (log service groupId).drop cursor := by
  rw [since]
  split
  · next start =>
    have zero : cursor = 0 := by omega
    rw [zero, List.drop_zero]
  · exact filter_seq_eq_drop (sequenced groupId) cursor

end Mls4rn.Server.GroupsService
