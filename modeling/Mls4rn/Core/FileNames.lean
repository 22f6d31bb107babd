import Mls4rn.Lib.ByteString
import Mls4rn.Lib.InsertionMap
import Mls4rn.Lib.PosixPath
import Mls4rn.Lib.Throwing
import Mls4rn.Lib.UriComponent

/-!
# One file for every key

`FileStorageAdapter` keeps the value of a key in a file of its directory.  The
name of the file is the percent-encoded key with `.bin` behind it, so it has no
slash and is no dot segment, whatever the key is, and different keys have
different names.  Hence the file of a key is an entry of the directory that no
other key uses.

The file system keeps whole files under case-sensitive names of any length,
and its tree of directories has no symbolic links.  As in Node, a path with a
NUL is refused and the empty path leads nowhere.
-/

namespace Mls4rn.Core.FileNames

open Mls4rn.Lib
open Mls4rn.Lib.ByteString
open Mls4rn.Lib.PosixPath
open Mls4rn.Lib.UriComponent
open Mls4rn.Lib.Utf16

/-! ## The file system -/

/-- The files by their places, and the directory that paths start from. -/
structure Files where
  workingDirectory : List CodeUnits
  contents : InsertionMap (List CodeUnits) Bytes

/-- How a call can be rejected. -/
inductive Failure where
  | uriError
  | invalidArgument
  | noEntry
deriving DecidableEq, Repr

/-- A call of the file system. -/
abbrev FileAction (Value : Type) : Type :=
  Throwing Files Failure Value

/-- The check of a path. -/
def checkPath (path : CodeUnits) : Except Failure Unit :=
  if 0 ∈ path then .error .invalidArgument
  else if path = [] then .error .noEntry
  else .ok ()

/-- `mkdir` with `recursive`. -/
def mkdir (path : CodeUnits) : FileAction Unit :=
  Throwing.ofExcept (checkPath path)

/-- `readFile`. -/
def readFile (path : CodeUnits) : FileAction Bytes := do
  Throwing.ofExcept (checkPath path)
  let files ← Throwing.read
  match files.contents.get (locate files.workingDirectory path) with
  | some bytes => return bytes
  | none => Throwing.raise .noEntry

/-- `writeFile`. -/
def writeFile (path : CodeUnits) (data : Bytes) : FileAction Unit := do
  Throwing.ofExcept (checkPath path)
  Throwing.update fun files =>
    { files with
      contents :=
        files.contents.set (locate files.workingDirectory path) data }

/-! ## The adapter -/

/-- The name of the file of a key. -/
def fileName (key : CodeUnits) : Except Failure CodeUnits :=
  match encodeURIComponent key with
  | none => .error .uriError
  | some encoded => .ok (encoded ++ literal ".bin")

/-- `#path`. -/
def pathOf (dir key : CodeUnits) : Except Failure CodeUnits := do
  return join [dir, ← fileName key]

/-- `load`; a missing file is `null`. -/
def load (dir key : CodeUnits) : FileAction (Option Bytes) :=
  fun files =>
    match (Throwing.ofExcept (pathOf dir key) >>= readFile) files with
    | (.ok bytes, reached) => (.ok (some bytes), reached)
    | (.error .noEntry, reached) => (.ok none, reached)
    | (.error failure, reached) => (.error failure, reached)

/-- `save`. -/
def save (dir key : CodeUnits) (data : Bytes) : FileAction Unit := do
  mkdir dir
  let path ← Throwing.ofExcept (pathOf dir key)
  writeFile path data

/-! ## Names -/

/-- The name of a well-formed key is there, and is a name. -/
theorem fileName_eq {key : CodeUnits} (wellFormed : isWellFormed key = true) :
    ∃ name, fileName key = .ok name ∧ IsName name ∧ 0 ∉ name := by
  have written := encodeURIComponent_eq wellFormed
  have units := isEncodedUnit_encodeURIComponent wellFormed written
  generalize (Utf8.encode key).flatMap escapeByte = encoded at written units
  have apart :
      ∀ unit, isEncodedUnit unit = false → unit ∉ literal ".bin" →
        unit ∉ encoded ++ literal ".bin" := by
    intro unit notEncoded notEnding member
    rcases List.mem_append.mp member with inKey | inEnding
    · rw [units unit inKey] at notEncoded
      cases notEncoded
    · exact notEnding inEnding
  have long : 4 ≤ (encoded ++ literal ".bin").length := by
    have ending : (literal ".bin").length = 4 := by decide
    rw [List.length_append, ending]
    omega
  have differs :
      ∀ short : CodeUnits, short.length < 4 →
        encoded ++ literal ".bin" ≠ short := by
    intro short isShort equal
    rw [equal] at long
    omega
  refine ⟨encoded ++ literal ".bin", by rw [fileName, written], ?_, ?_⟩
  · exact
      ⟨apart _ (by decide) (by decide), differs [] (by decide),
        differs dot (by decide), differs dotDot (by decide)⟩
  · exact apart 0 (by decide) (by decide)

/-- Different keys have different names. -/
theorem fileName_injective
    {first second : CodeUnits} (firstFormed : isWellFormed first = true)
    (secondFormed : isWellFormed second = true)
    (same : fileName first = fileName second) : first = second := by
  apply encodeURIComponent_injective firstFormed secondFormed
  have firstWritten := encodeURIComponent_eq firstFormed
  have secondWritten := encodeURIComponent_eq secondFormed
  rw [fileName, fileName, firstWritten, secondWritten] at same
  rw [firstWritten, secondWritten,
    List.append_cancel_right (Except.ok.inj same)]

/-! ## Paths -/

/-- The path of a key is an entry of the directory. -/
theorem locate_pathOf
    {key : CodeUnits} (wellFormed : isWellFormed key = true)
    (dir : CodeUnits) :
    ∃ name path,
      fileName key = .ok name ∧ IsName name ∧
        pathOf dir key = .ok path ∧
          ∀ workingDirectory,
            locate workingDirectory path =
              locate workingDirectory dir ++ [name] := by
  rcases fileName_eq wellFormed with ⟨name, named, isName, -⟩
  refine ⟨name, join [dir, name], named, isName, ?_, ?_⟩
  · rw [pathOf, named]
    rfl
  · exact fun workingDirectory => locate_join workingDirectory dir isName

/-- Different keys have different places. -/
theorem key_eq_of_locate_eq
    {dir first second : CodeUnits} (firstFormed : isWellFormed first = true)
    (secondFormed : isWellFormed second = true)
    {firstPath secondPath : CodeUnits}
    (firstIs : pathOf dir first = .ok firstPath)
    (secondIs : pathOf dir second = .ok secondPath)
    {workingDirectory : List CodeUnits}
    (same :
      locate workingDirectory firstPath =
        locate workingDirectory secondPath) :
    first = second := by
  rcases locate_pathOf firstFormed dir with
    ⟨firstName, path, firstNamed, -, atPath, firstPlace⟩
  cases firstIs.symm.trans atPath
  rcases locate_pathOf secondFormed dir with
    ⟨secondName, path, secondNamed, -, atPath, secondPlace⟩
  cases secondIs.symm.trans atPath
  rw [firstPlace, secondPlace, List.append_cancel_left_eq,
    List.singleton_inj] at same
  apply fileName_injective firstFormed secondFormed
  rw [firstNamed, secondNamed, same]

theorem checkPath_eq_ok_iff (path : CodeUnits) :
    checkPath path = .ok () ↔ 0 ∉ path ∧ path ≠ [] := by
  unfold checkPath
  split
  · next found => simp [found]
  · next clean =>
    split
    · next empty => simp [empty]
    · next nonempty => simp [clean, nonempty]

/-- The path of a key is accepted if its directory is. -/
theorem checkPath_pathOf
    {dir key path : CodeUnits} (wellFormed : isWellFormed key = true)
    (usable : checkPath dir = .ok ()) (isPath : pathOf dir key = .ok path) :
    checkPath path = .ok () := by
  rcases fileName_eq wellFormed with ⟨name, named, -, cleanName⟩
  have cleanDir := ((checkPath_eq_ok_iff dir).mp usable).1
  rw [pathOf, named] at isPath
  cases isPath
  rw [checkPath_eq_ok_iff]
  refine ⟨fun found => ?_, normalize_ne_nil _⟩
  rcases mem_join found with isSeparator | isDot | ⟨part, inside, inPart⟩
  · exact absurd isSeparator (by decide)
  · exact absurd isDot (by decide)
  · simp only [List.mem_cons, List.not_mem_nil, or_false] at inside
    rcases inside with rfl | rfl
    · exact cleanDir inPart
    · exact cleanName inPart

/-! ## Saving and loading -/

section Calls

variable {dir : CodeUnits} (usable : checkPath dir = .ok ())

include usable

/-- `load` looks at the place of the key. -/
theorem load_eq
    {key path : CodeUnits} (wellFormed : isWellFormed key = true)
    (isPath : pathOf dir key = .ok path) (files : Files) :
    load dir key files =
      (.ok (files.contents.get (locate files.workingDirectory path)),
        files) := by
  have checked := checkPath_pathOf wellFormed usable isPath
  have reading :
      (Throwing.ofExcept (pathOf dir key) >>= readFile) files =
        readFile path files := by
    rw [isPath]
    rfl
  have found :
      readFile path files =
        match files.contents.get (locate files.workingDirectory path) with
        | some bytes => (.ok bytes, files)
        | none => (.error .noEntry, files) := by
    rw [readFile, checked]
    change
      (match files.contents.get (locate files.workingDirectory path) with
        | some bytes => pure bytes
        | none => Throwing.raise .noEntry : FileAction Bytes) files = _
    cases files.contents.get (locate files.workingDirectory path) with
    | none => rfl
    | some bytes => rfl
  rw [load, reading, found]
  cases files.contents.get (locate files.workingDirectory path) with
  | none => rfl
  | some bytes => rfl

/-- `save` writes to the place of the key. -/
theorem save_eq
    {key path : CodeUnits} (wellFormed : isWellFormed key = true)
    (isPath : pathOf dir key = .ok path) (data : Bytes) (files : Files) :
    save dir key data files =
      (.ok (),
        { files with
          contents :=
            files.contents.set (locate files.workingDirectory path)
              data }) := by
  have checked := checkPath_pathOf wellFormed usable isPath
  rw [save, mkdir, usable, isPath]
  change writeFile path data files = _
  rw [writeFile, checked]
  rfl

/-- A save is seen by the loads of its key and by no other. -/
theorem load_save
    {key other : CodeUnits} (wellFormed : isWellFormed key = true)
    (otherFormed : isWellFormed other = true) (data : Bytes)
    (files : Files) :
    (save dir key data files).1 = .ok () ∧
      (load dir other (save dir key data files).2).1 =
        if other = key then .ok (some data)
        else (load dir other files).1 := by
  rcases locate_pathOf wellFormed dir with ⟨-, path, -, -, isPath, -⟩
  rcases locate_pathOf otherFormed dir with
    ⟨-, otherPath, -, -, otherIs, -⟩
  rw [save_eq usable wellFormed isPath, load_eq usable otherFormed otherIs,
    load_eq usable otherFormed otherIs]
  refine ⟨rfl, ?_⟩
  split
  · next same =>
    subst same
    cases isPath.symm.trans otherIs
    simp only [InsertionMap.get_set_self]
  · next different =>
    simp only
    rw [InsertionMap.get_set_of_ne]
    intro samePlace
    exact different
      (key_eq_of_locate_eq otherFormed wellFormed otherIs isPath samePlace)

end Calls

/-! ## Runs of saves -/

/-- What the last of some saves wrote under a key. -/
def lastSaved (saves : List (CodeUnits × Bytes)) (key : CodeUnits) :
    Option Bytes :=
  (saves.reverse.find? fun entry => decide (entry.1 = key)).map Prod.snd

theorem lastSaved_cons
    (entry : CodeUnits × Bytes) (saves : List (CodeUnits × Bytes))
    (key : CodeUnits) :
    lastSaved (entry :: saves) key =
      (lastSaved saves key).or
        (if key = entry.1 then some entry.2 else none) := by
  rw [lastSaved, List.reverse_cons, List.find?_append, lastSaved]
  cases saves.reverse.find? fun entry => decide (entry.1 = key) with
  | some found => rfl
  | none =>
      by_cases same : key = entry.1
      · simp [same]
      · simp [same, Ne.symm same]

/-- Some saves, one after the other. -/
def saveAll (dir : CodeUnits) :
    List (CodeUnits × Bytes) → Files → List (Except Failure Unit) × Files :=
  Throwing.runAll fun entry => save dir entry.1 entry.2

theorem load_saveAll
    {dir : CodeUnits} (usable : checkPath dir = .ok ())
    (saves : List (CodeUnits × Bytes))
    (wellFormed : ∀ entry ∈ saves, isWellFormed entry.1 = true)
    (files : Files) :
    (∀ result ∈ (saveAll dir saves files).1, result = .ok ()) ∧
      ∀ key, isWellFormed key = true →
        (load dir key (saveAll dir saves files).2).1 =
          match lastSaved saves key with
          | some data => .ok (some data)
          | none => (load dir key files).1 := by
  induction saves generalizing files with
  | nil => exact ⟨nofun, fun _ _ => rfl⟩
  | cons entry saves induction =>
      rcases entry with ⟨saved, data⟩
      rw [List.forall_mem_cons] at wellFormed
      rcases wellFormed with ⟨savedFormed, laterFormed⟩
      rcases induction laterFormed (save dir saved data files).2 with
        ⟨resolved, loaded⟩
      constructor
      · intro result member
        rcases List.mem_cons.mp member with rfl | later
        · exact (load_save usable savedFormed savedFormed data files).1
        · exact resolved result later
      · intro key keyFormed
        have first :=
          (load_save usable savedFormed keyFormed data files).2
        change
          (load dir key
            (saveAll dir saves (save dir saved data files).2).2).1 = _
        rw [loaded key keyFormed, lastSaved_cons]
        cases lastSaved saves key with
        | some later => rfl
        | none =>
            refine first.trans ?_
            by_cases same : key = saved
            · simp [same]
            · simp [same]

/--
The path of a well-formed key is an entry of the directory under a name that
no other key has.  Saves resolve, and a load returns what was last saved under
its key, or what was there before.
-/
theorem keys_have_files_of_their_own (dir : CodeUnits) :
    (∀ key, isWellFormed key = true →
      ∃ name path,
        pathOf dir key = .ok path ∧ IsName name ∧
          ∀ workingDirectory,
            locate workingDirectory path =
              locate workingDirectory dir ++ [name]) ∧
      (∀ first second, isWellFormed first = true →
        isWellFormed second = true →
          pathOf dir first = pathOf dir second → first = second) ∧
      (checkPath dir = .ok () →
        ∀ files saves, (∀ entry ∈ saves, isWellFormed entry.1 = true) →
          (∀ result ∈ (saveAll dir saves files).1, result = .ok ()) ∧
            ∀ key, isWellFormed key = true →
              (load dir key (saveAll dir saves files).2).1 =
                match lastSaved saves key with
                | some data => .ok (some data)
                | none => (load dir key files).1) := by
  refine ⟨?_, ?_, ?_⟩
  · intro key wellFormed
    rcases locate_pathOf wellFormed dir with
      ⟨name, path, -, isName, isPath, place⟩
    exact ⟨name, path, isPath, isName, place⟩
  · intro first second firstFormed secondFormed same
    rcases locate_pathOf secondFormed dir with ⟨-, path, -, -, isPath, -⟩
    exact
      @key_eq_of_locate_eq dir first second firstFormed secondFormed path
        path (same.trans isPath) isPath [] rfl
  · intro usable files saves wellFormed
    exact load_saveAll usable saves wellFormed files

/-- The keys `..`, `%2E%2E` and the empty key, saved in turn. -/
theorem keys_have_files_of_their_own_dots :
    let saves : List (CodeUnits × Bytes) :=
      [(literal "..", [1]), (literal "%2E%2E", [2]), ([], [3])]
    let files : Files := ⟨[], .empty⟩
    checkPath (literal "keys/") = .ok () ∧
      (∀ entry ∈ saves, isWellFormed entry.1 = true) ∧
        pathOf (literal "keys/") (literal "..") =
            .ok (literal "keys/...bin") ∧
          (load (literal "keys/") (literal "..")
            (saveAll (literal "keys/") saves files).2).1 =
              .ok (some [1]) := by
  refine ⟨by decide, by decide, by decide +kernel, ?_⟩
  exact
    ((keys_have_files_of_their_own (literal "keys/")).2.2 (by decide) _ _
      (by decide)).2 (literal "..") (by decide)

end Mls4rn.Core.FileNames
