import Mls4rn.Lib.Utf16
import Mathlib.Tactic

/-!
# Paths and the places they lead to

`join` and `normalize` of the POSIX flavour of `node:path`, which work on the
text of a path, and `locate`, which follows a path through a tree of
directories without symbolic links.  Normalizing a path does not change where
it leads, so a path joined from a directory and a plain name leads to the entry
of that name in the directory.
-/

namespace Mls4rn.Lib.PosixPath

open Mls4rn.Lib.Utf16

/-- A slash. -/
def separator : UInt16 := 0x2F

/-- The segment that stays where it is. -/
def dot : CodeUnits := [0x2E]

/-- The segment that leads to the parent. -/
def dotDot : CodeUnits := [0x2E, 0x2E]

/-- The segments of a path, some of which may be empty. -/
def segments (path : CodeUnits) : List CodeUnits :=
  path.splitOn separator

/-- The path starts at the root. -/
def isAbsolute (path : CodeUnits) : Bool :=
  decide (path.head? = some separator)

/-! ## Normalization -/

/-- One segment in the loop of `normalizeString`. -/
def push
    (allowAboveRoot : Bool) (kept : List CodeUnits) (segment : CodeUnits) :
    List CodeUnits :=
  if segment = [] ∨ segment = dot then kept
  else if segment = dotDot then
    match kept.getLast? with
    | none => if allowAboveRoot then kept ++ [dotDot] else kept
    | some last =>
        if last ≠ dotDot then kept.dropLast
        else if allowAboveRoot then kept ++ [dotDot]
        else kept
  else kept ++ [segment]

/-- `normalizeString`, as a list of segments. -/
def normalizeSegments
    (allowAboveRoot : Bool) (parts : List CodeUnits) : List CodeUnits :=
  parts.foldl (push allowAboveRoot) []

/-- The text of kept segments, with the slashes of the original path. -/
def render (absolute trailing : Bool) (kept : List CodeUnits) : CodeUnits :=
  if kept = [] then
    if absolute then [separator]
    else if trailing then dot ++ [separator]
    else dot
  else
    (if absolute then [separator] else []) ++
      [separator].intercalate kept ++ (if trailing then [separator] else [])

/-- `normalize`. -/
def normalize (path : CodeUnits) : CodeUnits :=
  if path = [] then dot
  else
    render (isAbsolute path) (decide (path.getLast? = some separator))
      (normalizeSegments (!isAbsolute path) (segments path))

/-- `join`. -/
def join (parts : List CodeUnits) : CodeUnits :=
  normalize
    ([separator].intercalate (parts.filter fun part => decide (part ≠ [])))

/-! ## Places -/

/-- The place that one segment leads to; the root is its own parent. -/
def enter (place : List CodeUnits) (segment : CodeUnits) : List CodeUnits :=
  if segment = [] ∨ segment = dot then place
  else if segment = dotDot then place.dropLast
  else place ++ [segment]

/-- The names from the root to the place that a path leads to. -/
def locate (workingDirectory : List CodeUnits) (path : CodeUnits) :
    List CodeUnits :=
  (segments path).foldl enter
    (if isAbsolute path then [] else workingDirectory)

/-- A name that an entry of a directory can have. -/
def IsName (name : CodeUnits) : Prop :=
  separator ∉ name ∧ name ≠ [] ∧ name ≠ dot ∧ name ≠ dotDot

variable
  {name : CodeUnits} {parts : List CodeUnits} {segment : CodeUnits}
  {allowAboveRoot : Bool} {kept : List CodeUnits} {unit : UInt16}

theorem enter_of_isName (isName : IsName name) (place : List CodeUnits) :
    enter place name = place ++ [name] := by
  rcases isName with ⟨-, nonempty, notDot, notDotDot⟩
  rw [enter, if_neg (by simp [nonempty, notDot]), if_neg notDotDot]

variable (place : List CodeUnits)

@[simp]
theorem enter_nil : enter place [] = place := by
  simp [enter]

@[simp]
theorem enter_dot : enter place dot = place := by
  simp [enter]

@[simp]
theorem enter_dotDot :
    enter place dotDot = place.dropLast := by
  rw [enter, if_neg (by decide), if_pos rfl]

/-! ## Segments -/

@[simp]
theorem segments_nil : segments [] = [[]] :=
  List.splitOn_nil separator

theorem segments_append_cons (first second : CodeUnits) :
    segments (first ++ separator :: second) =
      segments first ++ segments second :=
  List.splitOn_append_cons_self first second

theorem segments_of_not_mem (plain : separator ∉ name) :
    segments name = [name] :=
  List.splitOn_eq_singleton plain

theorem segments_intercalate
    (plain : ∀ part ∈ parts, separator ∉ part) (nonempty : parts ≠ []) :
    segments ([separator].intercalate parts) = parts :=
  List.splitOn_intercalate separator plain nonempty

theorem not_mem_of_mem_segments
    (path : CodeUnits) (member : segment ∈ segments path) :
    separator ∉ segment := by
  by_cases split : separator ∈ path
  · rcases List.eq_append_cons_of_mem split with
      ⟨first, second, rfl, plain⟩
    rw [segments_append_cons, List.mem_append,
      segments_of_not_mem plain] at member
    rcases member with here | later
    · rwa [List.mem_singleton.mp here]
    · exact not_mem_of_mem_segments second later
  · rw [segments_of_not_mem split] at member
    rwa [List.mem_singleton.mp member]
termination_by path.length

/-! ## Normalizing does not lead elsewhere -/

/-- What a segment that was kept looks like. -/
structure IsKept (allowAboveRoot : Bool) (segment : CodeUnits) : Prop where
  plain : separator ∉ segment
  nonempty : segment ≠ []
  notDot : segment ≠ dot
  inside : allowAboveRoot = false → segment ≠ dotDot

theorem IsKept.isName
    (isKept : IsKept allowAboveRoot segment) (notDotDot : segment ≠ dotDot) :
    IsName segment :=
  ⟨isKept.plain, isKept.nonempty, isKept.notDot, notDotDot⟩

theorem isKept_push
    (before : ∀ segment ∈ kept, IsKept allowAboveRoot segment)
    (plain : separator ∉ segment) :
    ∀ other ∈ push allowAboveRoot kept segment,
      IsKept allowAboveRoot other := by
  have above :
      allowAboveRoot = true →
        ∀ other ∈ kept ++ [dotDot], IsKept allowAboveRoot other := by
    intro allowed other member
    rcases List.mem_append.mp member with old | new
    · exact before other old
    · rw [List.mem_singleton.mp new]
      refine ⟨by decide, by decide, by decide, fun refused => ?_⟩
      rw [allowed] at refused
      cases refused
  unfold push
  split
  · exact before
  · next real =>
    rw [not_or] at real
    split
    · split
      · split
        · next allowed => exact above allowed
        · exact before
      · split
        · intro other member
          exact before other (List.mem_of_mem_dropLast member)
        · split
          · next allowed => exact above allowed
          · exact before
    · next notDotDot =>
      intro other member
      rcases List.mem_append.mp member with old | new
      · exact before other old
      · rw [List.mem_singleton.mp new]
        exact ⟨plain, real.1, real.2, fun _ => notDotDot⟩

/-- Following the kept segments is following all segments. -/
theorem foldl_enter_push
    (before : ∀ segment ∈ kept, IsKept allowAboveRoot segment)
    {place : List CodeUnits} (atRoot : allowAboveRoot = false → place = [])
    (segment : CodeUnits) :
    (push allowAboveRoot kept segment).foldl enter place =
      enter (kept.foldl enter place) segment := by
  unfold push
  split
  · next skipped =>
    rw [enter, if_pos skipped]
  · next real =>
    split
    · next isDotDot =>
      subst isDotDot
      rcases List.eq_nil_or_concat kept with rfl | ⟨first, last, rfl⟩
      · rw [List.getLast?_nil]
        cases allowAboveRoot with
        | true => simp
        | false => simp [atRoot rfl]
      · have lastKept := before last (by simp)
        rw [List.concat_eq_append, List.getLast?_concat]
        simp only
        split
        · next notDotDot =>
          rw [List.dropLast_concat, List.foldl_append, List.foldl_cons,
            List.foldl_nil, enter_of_isName (lastKept.isName notDotDot),
            enter_dotDot, List.dropLast_concat]
        · next isDotDot =>
          split
          · rw [List.foldl_append, List.foldl_cons, List.foldl_nil]
          · next refused =>
            exact absurd (not_not.mp isDotDot)
              (lastKept.inside (by simpa using refused))
    · rw [List.foldl_append, List.foldl_cons, List.foldl_nil]

/-- The loop of `normalizeString`. -/
theorem normalizeSegments_spec (plain : ∀ part ∈ parts, separator ∉ part) :
    (∀ segment ∈ normalizeSegments allowAboveRoot parts,
      IsKept allowAboveRoot segment) ∧
      ∀ place, (allowAboveRoot = false → place = []) →
        (normalizeSegments allowAboveRoot parts).foldl enter place =
          parts.foldl enter place := by
  induction parts using List.reverseRecOn with
  | nil => exact ⟨nofun, fun _ _ => rfl⟩
  | append_singleton parts segment induction =>
      rcases induction fun part member =>
          plain part (List.mem_append_left _ member) with
        ⟨kept, followed⟩
      have here : separator ∉ segment := plain segment (by simp)
      rw [normalizeSegments, List.foldl_append, List.foldl_cons,
        List.foldl_nil]
      refine ⟨isKept_push kept here, fun place atRoot => ?_⟩
      rw [List.foldl_append, List.foldl_cons, List.foldl_nil,
        ← followed place atRoot]
      exact foldl_enter_push kept atRoot segment

/-- The place that the segments of a path lead to from a given place. -/
def follow (place : List CodeUnits) (path : CodeUnits) : List CodeUnits :=
  (segments path).foldl enter place

theorem follow_cons_separator (path : CodeUnits) :
    follow place (separator :: path) = follow place path := by
  rw [follow, ← List.nil_append (separator :: path), segments_append_cons]
  simp [follow]

theorem follow_append_separator (path : CodeUnits) :
    follow place (path ++ [separator]) = follow place path := by
  rw [follow, segments_append_cons, List.foldl_append]
  simp [follow]

theorem follow_of_not_mem
    (plain : separator ∉ name) (place : List CodeUnits) :
    follow place name = enter place name := by
  rw [follow, segments_of_not_mem plain]
  rfl

theorem isAbsolute_cons (path : CodeUnits) :
    isAbsolute (separator :: path) = true := by
  simp [isAbsolute]

/-- A relative path stays relative when something is put behind it. -/
theorem isAbsolute_append
    {path : CodeUnits} (nonempty : path ≠ []) (behind : CodeUnits) :
    isAbsolute (path ++ behind) = isAbsolute path := by
  cases path with
  | nil => exact absurd rfl nonempty
  | cons first rest => simp [isAbsolute]

theorem isAbsolute_of_not_mem (plain : separator ∉ name) :
    isAbsolute name = false := by
  cases name with
  | nil => rfl
  | cons first rest =>
      rw [List.mem_cons, not_or] at plain
      simp [isAbsolute, Ne.symm plain.1]

theorem intercalate_cons_eq_append
    (first : CodeUnits) (rest : List CodeUnits) :
    ∃ behind,
      [separator].intercalate (first :: rest) = first ++ behind := by
  cases rest with
  | nil => exact ⟨[], by simp [List.intercalate]⟩
  | cons second rest => exact ⟨_, List.flatten_cons⟩

/-- Kept segments make a relative path. -/
theorem isAbsolute_intercalate
    (allKept : ∀ segment ∈ kept, IsKept allowAboveRoot segment)
    (nonempty : kept ≠ []) :
    isAbsolute ([separator].intercalate kept) = false ∧
      [separator].intercalate kept ≠ [] := by
  cases kept with
  | nil => exact absurd rfl nonempty
  | cons first rest =>
      have firstKept := allKept first List.mem_cons_self
      rcases intercalate_cons_eq_append first rest with ⟨behind, equal⟩
      rw [equal, isAbsolute_append firstKept.nonempty]
      refine ⟨isAbsolute_of_not_mem firstKept.plain, ?_⟩
      simp [firstKept.nonempty]

theorem follow_dot : follow place dot = place := by
  rw [follow_of_not_mem (by decide), enter_dot]

/-- The text of kept segments leads where the segments lead. -/
theorem locate_render
    (allKept : ∀ segment ∈ kept, IsKept allowAboveRoot segment)
    (workingDirectory : List CodeUnits) (absolute trailing : Bool) :
    locate workingDirectory (render absolute trailing kept) =
      kept.foldl enter (if absolute then [] else workingDirectory) := by
  change follow _ _ = _
  unfold render
  split
  · next nothing =>
    subst nothing
    cases absolute with
    | true =>
        simp only [if_true, isAbsolute_cons]
        rfl
    | false =>
        cases trailing with
        | true =>
            simp only [Bool.false_eq_true, if_false, if_true,
              follow_append_separator, follow_dot]
            rfl
        | false =>
            simp only [Bool.false_eq_true, if_false, follow_dot]
            rfl
  · next something =>
    rcases isAbsolute_intercalate allKept something with
      ⟨relative, nonempty⟩
    have body (place : List CodeUnits) :
        follow place ([separator].intercalate kept) =
          kept.foldl enter place := by
      rw [follow, segments_intercalate
        (fun part member => (allKept part member).plain) something]
    cases absolute with
    | true =>
        cases trailing with
        | true =>
            simp only [if_true, List.cons_append, List.nil_append,
              isAbsolute_cons, follow_cons_separator,
              follow_append_separator, body]
        | false =>
            simp only [Bool.false_eq_true, if_true, if_false,
              List.singleton_append, List.append_nil, isAbsolute_cons,
              follow_cons_separator, body]
    | false =>
        cases trailing with
        | true =>
            simp only [Bool.false_eq_true, if_true, if_false,
              List.nil_append, isAbsolute_append nonempty, relative,
              follow_append_separator, body]
        | false =>
            simp only [Bool.false_eq_true, if_false, List.nil_append,
              List.append_nil, relative, body]

/-- A normalized path leads to the same place. -/
theorem locate_normalize
    (workingDirectory : List CodeUnits) (path : CodeUnits) :
    locate workingDirectory (normalize path) =
      locate workingDirectory path := by
  by_cases empty : path = []
  · subst empty
    rfl
  · rcases @normalizeSegments_spec (segments path) (!isAbsolute path)
        fun part member => not_mem_of_mem_segments path member with
      ⟨allKept, followed⟩
    rw [normalize, if_neg empty, locate_render allKept, locate]
    apply followed
    intro absolute
    rw [if_pos (by simpa using absolute)]

/-! ## The code units of a joined path -/

theorem mem_intercalate (member : unit ∈ [separator].intercalate parts) :
    unit = separator ∨ ∃ part ∈ parts, unit ∈ part := by
  induction parts with
  | nil => cases member
  | cons first rest induction =>
      cases rest with
      | nil =>
          simp only [List.intercalate, List.intersperse_singleton,
            List.flatten_cons, List.flatten_nil, List.append_nil] at member
          exact Or.inr ⟨first, List.mem_cons_self, member⟩
      | cons second rest =>
          simp only [List.intercalate, List.intersperse_cons_cons,
            List.flatten_cons, List.mem_append, List.mem_singleton] at member
          rcases member with here | rfl | later
          · exact Or.inr ⟨first, List.mem_cons_self, here⟩
          · exact Or.inl rfl
          · rcases induction later with isSeparator | ⟨part, inside, found⟩
            · exact Or.inl isSeparator
            · exact Or.inr ⟨part, List.mem_cons_of_mem _ inside, found⟩

theorem mem_intercalate_of_mem
    {part : CodeUnits} (inside : part ∈ parts) (found : unit ∈ part) :
    unit ∈ [separator].intercalate parts := by
  induction parts with
  | nil => cases inside
  | cons first rest induction =>
      cases rest with
      | nil =>
          rw [List.mem_singleton.mp inside] at found
          simpa [List.intercalate] using found
      | cons second rest =>
          simp only [List.intercalate, List.intersperse_cons_cons,
            List.flatten_cons, List.mem_append]
          rcases List.mem_cons.mp inside with rfl | later
          · exact Or.inl found
          · exact Or.inr (Or.inr (induction later))

theorem mem_of_mem_segments
    {path segment : CodeUnits}
    (inside : segment ∈ segments path) (found : unit ∈ segment) :
    unit ∈ path := by
  have whole := mem_intercalate_of_mem inside found
  rwa [segments, List.intercalate_splitOn] at whole

theorem mem_push
    {segment other : CodeUnits}
    (member : other ∈ push allowAboveRoot kept segment) :
    other ∈ kept ∨ other = dotDot ∨ other = segment := by
  have above :
      other ∈ kept ++ [dotDot] →
        other ∈ kept ∨ other = dotDot ∨ other = segment := by
    intro found
    rcases List.mem_append.mp found with old | new
    · exact Or.inl old
    · exact Or.inr (Or.inl (List.mem_singleton.mp new))
  unfold push at member
  split at member
  · exact Or.inl member
  · split at member
    · split at member
      · split at member
        · exact above member
        · exact Or.inl member
      · split at member
        · exact Or.inl (List.mem_of_mem_dropLast member)
        · split at member
          · exact above member
          · exact Or.inl member
    · rcases List.mem_append.mp member with old | new
      · exact Or.inl old
      · exact Or.inr (Or.inr (List.mem_singleton.mp new))

theorem mem_normalizeSegments
    (member : segment ∈ normalizeSegments allowAboveRoot parts) :
    segment = dotDot ∨ segment ∈ parts := by
  induction parts using List.reverseRecOn with
  | nil => cases member
  | append_singleton parts last induction =>
      rw [normalizeSegments, List.foldl_append] at member
      rcases mem_push member with old | isDotDot | isLast
      · rcases induction old with isDotDot | inside
        · exact Or.inl isDotDot
        · exact Or.inr (List.mem_append_left _ inside)
      · exact Or.inl isDotDot
      · exact Or.inr (by simp [isLast])

theorem render_ne_nil
    (absolute trailing : Bool)
    (allKept : ∀ segment ∈ kept, IsKept allowAboveRoot segment) :
    render absolute trailing kept ≠ [] := by
  unfold render
  split
  · cases absolute <;> cases trailing <;> decide
  · next something =>
    have body := (isAbsolute_intercalate allKept something).2
    simp [body]

/-- A normalized path is not empty. -/
theorem normalize_ne_nil (path : CodeUnits) : normalize path ≠ [] := by
  unfold normalize
  split
  · decide
  · exact render_ne_nil _ _ (@normalizeSegments_spec (segments path)
      (!isAbsolute path)
      fun part member => not_mem_of_mem_segments path member).1

/-- Normalizing adds nothing but slashes and dots. -/
theorem mem_normalize {path : CodeUnits} (member : unit ∈ normalize path) :
    unit = separator ∨ unit ∈ dotDot ∨ unit ∈ path := by
  have inDot : unit ∈ dot → unit ∈ dotDot := fun found => by
    rw [List.mem_singleton.mp found]
    decide
  unfold normalize at member
  split at member
  · exact Or.inr (Or.inl (inDot member))
  · unfold render at member
    split at member
    · split at member
      · exact Or.inl (List.mem_singleton.mp member)
      · split at member
        · rcases List.mem_append.mp member with found | isSeparator
          · exact Or.inr (Or.inl (inDot found))
          · exact Or.inl (List.mem_singleton.mp isSeparator)
        · exact Or.inr (Or.inl (inDot member))
    · rw [List.mem_append, List.mem_append] at member
      rcases member with (front | body) | back
      · split at front
        · exact Or.inl (List.mem_singleton.mp front)
        · cases front
      · rcases mem_intercalate body with isSeparator | ⟨part, inside, found⟩
        · exact Or.inl isSeparator
        · rcases mem_normalizeSegments inside with rfl | original
          · exact Or.inr (Or.inl found)
          · exact Or.inr (Or.inr (mem_of_mem_segments original found))
      · split at back
        · exact Or.inl (List.mem_singleton.mp back)
        · cases back

/-- A joined path has the code units of its parts, slashes and dots. -/
theorem mem_join (member : unit ∈ join parts) :
    unit = separator ∨ unit ∈ dotDot ∨ ∃ part ∈ parts, unit ∈ part := by
  rcases mem_normalize member with isSeparator | isDot | joined
  · exact Or.inl isSeparator
  · exact Or.inr (Or.inl isDot)
  · rcases mem_intercalate joined with isSeparator | ⟨part, inside, found⟩
    · exact Or.inl isSeparator
    · exact Or.inr (Or.inr ⟨part, List.mem_of_mem_filter inside, found⟩)

/-! ## Entries of a directory -/

/-- A name joined to a directory leads to the entry of that name. -/
theorem locate_join
    (workingDirectory : List CodeUnits) (directory : CodeUnits)
    (isName : IsName name) :
    locate workingDirectory (join [directory, name]) =
      locate workingDirectory directory ++ [name] := by
  rcases isName with ⟨plain, nonempty, others⟩
  rw [join, locate_normalize]
  by_cases empty : directory = []
  · subst empty
    have only :
        [separator].intercalate
            ([[], name].filter fun part => decide (part ≠ [])) = name := by
      simp [nonempty, List.intercalate]
    rw [only, locate, locate, isAbsolute_of_not_mem plain,
      segments_of_not_mem plain]
    simp [isAbsolute, enter_of_isName ⟨plain, nonempty, others⟩]
  · have both :
        [separator].intercalate
            ([directory, name].filter fun part => decide (part ≠ [])) =
          directory ++ separator :: name := by
      simp [nonempty, empty, List.intercalate]
    rw [both, locate, locate, isAbsolute_append empty, segments_append_cons,
      segments_of_not_mem plain, List.foldl_append, List.foldl_cons,
      List.foldl_nil, enter_of_isName ⟨plain, nonempty, others⟩]

end Mls4rn.Lib.PosixPath
