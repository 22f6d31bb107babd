import Mls4rn.Lib.ByteString
import Mls4rn.Lib.Execution

/-!
# Overlapping saves to one file

`FileStorageAdapter.save` hands the bytes to `writeFile`, which opens the file
with truncation and then writes consecutive chunks at its own offset.  Several
saves of one key may overlap, a write may fail and the process may stop at any
point; a later `load` reads whatever the file then holds.

A single save that is stopped behind the open leaves an empty file.  `Careful`
is what a caller has to see to: one save at a time, and no stop or failure
between the open and the last write.  Every `load` then returns one whole
blob.
-/

namespace Mls4rn.Core.FileStorage

open Mls4rn.Lib.ByteString
open Mls4rn.Lib.Execution

/-! ## The file and the saves -/

/-- How far a `save` call has come; `writing` carries the file position. -/
inductive Phase where
  | pending
  | writing (offset : Nat)
  | done
  | failed
deriving DecidableEq, Repr

/-- Whether the file is open for this call. -/
def Phase.isWriting : Phase → Bool
  | .writing _ => true
  | _ => false

/-- The file of one key, the calls on it, and whether the process runs. -/
structure Disk (Call : Type) where
  file : Option Bytes
  phase : Call → Phase
  running : Bool

/-- The steps of the calls and of the machine under them. -/
inductive Event (Call : Type) where
  | openFile (call : Call)
  | write (call : Call) (count : Nat)
  | fail (call : Call)
  | stop
deriving DecidableEq, Repr

/-- A write behind the end of the file leaves zeros in the gap. -/
def writeAt (content : Bytes) (offset : Nat) (chunk : Bytes) : Bytes :=
  content.take offset ++ List.replicate (offset - content.length) 0 ++
    chunk ++ content.drop (offset + chunk.length)

/-- Before the first step, with some content or no file. -/
def Disk.new {Call : Type} (previous : Option Bytes) : Disk Call where
  file := previous
  phase := fun _ => .pending
  running := true

/-- `load`; a file that does not exist gives `null`. -/
def load {Call : Type} (disk : Disk Call) : Option Bytes :=
  disk.file

section Saves

variable {Call : Type} (blobs : Call → Bytes)

/-! ## What a load is to return -/

/-- Nothing more is going to be written. -/
def Quiet (disk : Disk Call) : Prop :=
  disk.running = false ∨ ∀ call, (disk.phase call).isWriting = false

/-- A load returns the previous content or one of the blobs, whole. -/
def Whole (previous : Option Bytes) (disk : Disk Call) : Prop :=
  load disk = previous ∨ ∃ call, load disk = some (blobs call)

/-- The discipline under which a save is atomic. -/
def Careful (disk : Disk Call) : Event Call → Prop
  | .openFile _ => ∀ other, (disk.phase other).isWriting = false
  | .write _ _ => True
  | .fail call => (disk.phase call).isWriting = false
  | .stop => ∀ call, (disk.phase call).isWriting = false

/-- The file holds a whole blob, or what its only writer has written. -/
inductive Sound (previous : Option Bytes) (disk : Disk Call) : Prop where
  | settled
      (closed : ∀ call, (disk.phase call).isWriting = false)
      (whole : Whole blobs previous disk)
  | partly (call : Call) (offset : Nat)
      (running : disk.running = true)
      (opened : disk.phase call = .writing offset)
      (alone : ∀ other, other ≠ call → (disk.phase other).isWriting = false)
      (inside : offset ≤ (blobs call).length)
      (written : disk.file = some ((blobs call).take offset))

/-- A stop between saves changes nothing in the file. -/
theorem Sound.stops
    {blobs : Call → Bytes} {previous : Option Bytes} {disk : Disk Call}
    (sound : Sound blobs previous disk)
    (closed : ∀ call, (disk.phase call).isWriting = false) :
    Sound blobs previous { disk with running := false } := by
  cases sound with
  | settled _ whole => exact .settled closed whole
  | partly writer offset running opened alone inside written =>
      have shut := closed writer
      rw [opened] at shut
      cases shut

/-! ## The steps of a save -/

variable [DecidableEq Call]

/-- Move one call to another phase. -/
def Disk.move (disk : Disk Call) (call : Call) (phase : Phase) :
    Disk Call :=
  { disk with phase := Function.update disk.phase call phase }

@[simp]
theorem Disk.move_same (disk : Disk Call) (call : Call) (phase : Phase) :
    (disk.move call phase).phase call = phase := by
  simp only [Disk.move, Function.update_self]

theorem Disk.move_other
    (disk : Disk Call) {call other : Call} (different : other ≠ call)
    (phase : Phase) :
    (disk.move call phase).phase other = disk.phase other := by
  simp only [Disk.move, Function.update_of_ne different]

/-- One chunk of at most `count` bytes; an empty blob is written once. -/
def writeChunk (disk : Disk Call) (call : Call) (count : Nat) :
    Option (Disk Call) :=
  match disk.phase call with
  | .writing offset =>
      if offset + count ≤ (blobs call).length ∧
          (0 < count ∨ offset = (blobs call).length) then
        some
          (Disk.move
            { disk with
              file := disk.file.map fun content =>
                writeAt content offset
                  (((blobs call).drop offset).take count) }
            call
            (if offset + count = (blobs call).length then .done
              else .writing (offset + count)))
      else none
  | _ => none

/-- The calls `save(key, blobs call)` on one key. -/
def machine : Machine (Disk Call) (Event Call) where
  step disk event :=
    if disk.running then
      match event with
      | .openFile call =>
          if disk.phase call = .pending then
            some (Disk.move { disk with file := some [] } call (.writing 0))
          else none
      | .write call count => writeChunk blobs disk call count
      | .fail call =>
          match disk.phase call with
          | .pending | .writing _ => some (disk.move call .failed)
          | .done | .failed => none
      | .stop => some { disk with running := false }
    else none

/-! ## Careful runs -/

/-- Writing on at the end of what has been written. -/
theorem writeAt_take (blob : Bytes) {offset count : Nat}
    (inside : offset + count ≤ blob.length) :
    writeAt (blob.take offset) offset ((blob.drop offset).take count) =
      blob.take (offset + count) := by
  have length : (blob.take offset).length = offset := by
    rw [List.length_take]
    omega
  have nothing :
      (blob.take offset).drop
        (offset + ((blob.drop offset).take count).length) = [] := by
    apply List.drop_of_length_le
    rw [length]
    exact Nat.le_add_right _ _
  rw [writeAt, length, Nat.sub_self, List.replicate_zero, nothing,
    List.append_nil, List.append_nil, List.take_take, Nat.min_self,
    List.take_add]

variable {blobs} {previous : Option Bytes} {disk : Disk Call}

theorem Sound.opens
    (call : Call) (running : disk.running = true)
    (free : ∀ other, (disk.phase other).isWriting = false) :
    Sound blobs previous
      (Disk.move { disk with file := some [] } call (.writing 0)) := by
  refine .partly call 0 running (Disk.move_same _ _ _) ?_ (Nat.zero_le _) rfl
  intro other different
  rw [Disk.move_other _ different]
  exact free other

theorem Sound.writes
    (sound : Sound blobs previous disk) {call : Call} {count : Nat}
    {reached : Disk Call}
    (taken : writeChunk blobs disk call count = some reached) :
    Sound blobs previous reached := by
  unfold writeChunk at taken
  split at taken
  · next offset opened =>
    split at taken
    · next fits =>
      cases taken
      cases sound with
      | settled closed whole =>
          have shut := closed call
          rw [opened] at shut
          cases shut
      | partly writer position running writing alone inside written =>
          have same : call = writer := by
            by_contra different
            have shut := alone call different
            rw [opened] at shut
            cases shut
          subst same
          rw [writing, Phase.writing.injEq] at opened
          subst opened
          have content :
              disk.file.map (fun content =>
                  writeAt content position
                    (((blobs call).drop position).take count)) =
                some ((blobs call).take (position + count)) := by
            rw [written, Option.map_some, writeAt_take _ fits.1]
          split
          · next last =>
            refine .settled ?_ (Or.inr ⟨call, ?_⟩)
            · intro other
              by_cases same : other = call
              · subst same
                rw [Disk.move_same]
                rfl
              · rw [Disk.move_other _ same]
                exact alone other same
            · rw [last, List.take_length] at content
              exact content
          · refine .partly call (position + count) running
              (Disk.move_same _ _ _) ?_ fits.1 content
            intro other different
            rw [Disk.move_other _ different]
            exact alone other different
    · cases taken
  · cases taken

theorem Sound.fails
    (sound : Sound blobs previous disk) {call : Call}
    (shut : (disk.phase call).isWriting = false) :
    Sound blobs previous (disk.move call .failed) := by
  have elsewhere {other : Call}
      (closed : (disk.phase other).isWriting = false) :
      ((disk.move call .failed).phase other).isWriting = false := by
    by_cases same : other = call
    · subst same
      rw [Disk.move_same]
      rfl
    · rw [Disk.move_other _ same]
      exact closed
  cases sound with
  | settled closed whole =>
      exact .settled (fun other => elsewhere (closed other)) whole
  | partly writer offset running opened alone inside written =>
      have different : writer ≠ call := by
        rintro rfl
        rw [opened] at shut
        cases shut
      refine .partly writer offset running ?_ ?_ inside written
      · rw [Disk.move_other _ different]
        exact opened
      · intro other apart
        exact elsewhere (alone other apart)

/-- A careful step keeps the file sound. -/
theorem Sound.steps
    (sound : Sound blobs previous disk) {event : Event Call}
    {reached : Disk Call} (careful : Careful disk event)
    (taken : (machine blobs).step disk event = some reached) :
    Sound blobs previous reached := by
  simp only [machine] at taken
  split at taken
  · next running =>
    cases event with
    | openFile call =>
        simp only at taken
        split at taken
        · cases taken
          exact Sound.opens call running careful
        · cases taken
    | write call count => exact sound.writes taken
    | fail call =>
        simp only at taken
        split at taken
        · cases taken
          exact sound.fails careful
        · cases taken
          exact sound.fails careful
        · cases taken
        · cases taken
    | stop =>
        cases taken
        exact sound.stops careful
  · cases taken

variable (blobs)

/--
In every careful run, once nothing more is going to be written, a load returns
the previous content or one of the blobs, whole.
-/
theorem careful_saves_are_whole
    (previous : Option Bytes) (disk : Disk Call)
    (reached : Reaches (machine blobs) Careful (Disk.new previous) disk)
    (quiet : Quiet disk) :
    Whole blobs previous disk := by
  have sound : Sound blobs previous disk := by
    apply reached.invariant
    · exact .settled (fun _ => rfl) (Or.inl rfl)
    · intro source event target before careful taken
      exact before.steps careful taken
  cases sound with
  | settled closed whole => exact whole
  | partly writer offset running opened alone inside written =>
      rcases quiet with stopped | closed
      · rw [running] at stopped
        cases stopped
      · have shut := closed writer
        rw [opened] at shut
        cases shut

end Saves

/-! ## Runs -/

/-- Two blobs to be saved under one key. -/
def twoBlobs : Bool → Bytes
  | true => [4, 5, 6]
  | false => [7]

/-- Two saves one after the other. -/
theorem careful_saves_are_whole_twice :
    ∃ disk,
      (machine twoBlobs).run (Disk.new (some [1, 2, 3]))
          [.openFile true, .write true 2, .write true 1, .openFile false,
            .write false 1] = some disk ∧
        load disk = some [7] ∧
          Whole twoBlobs (some [1, 2, 3]) disk := by
  have ready :
      Reaches (machine twoBlobs) Careful (Disk.new (some [1, 2, 3]))
        (Disk.new (some [1, 2, 3])) :=
    .start
  have opened :=
    Reaches.step (Event.openFile true) ready (fun _ => rfl) rfl
  have partly := Reaches.step (Event.write true 2) opened trivial rfl
  have saved := Reaches.step (Event.write true 1) partly trivial rfl
  have again :=
    Reaches.step (Event.openFile false) saved (Bool.forall_bool.mpr ⟨rfl, rfl⟩)
      rfl
  have finished := Reaches.step (Event.write false 1) again trivial rfl
  exact ⟨_, rfl, rfl,
    careful_saves_are_whole twoBlobs (some [1, 2, 3]) _ finished
      (Or.inr (by decide))⟩

/--
A process that stops behind the open leaves an empty file, and two saves that
overlap leave a file made of both blobs.
-/
theorem save_not_atomic :
    (∃ disk,
      (machine twoBlobs).run (Disk.new (some [1, 2, 3]))
          [.openFile true, .stop] = some disk ∧
        Quiet disk ∧ load disk = some [] ∧
          ¬ Whole twoBlobs (some [1, 2, 3]) disk) ∧
      ∃ disk,
        (machine twoBlobs).run (Disk.new (some [1, 2, 3]))
            [.openFile true, .write true 1, .openFile false,
              .write false 1, .write true 2] = some disk ∧
          Quiet disk ∧ load disk = some [7, 5, 6] ∧
            ¬ Whole twoBlobs (some [1, 2, 3]) disk := by
  constructor
  · refine ⟨_, rfl, Or.inl rfl, rfl, ?_⟩
    unfold Whole
    decide
  · refine ⟨_, rfl, Or.inr (by decide), rfl, ?_⟩
    unfold Whole
    decide

end Mls4rn.Core.FileStorage
