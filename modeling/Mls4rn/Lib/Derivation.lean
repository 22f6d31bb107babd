import Mathlib.Tactic

/-!
# Secrets derived from secrets

A derivation takes a secret and a label to another secret, or fails.  Secrets
are named by the path of labels that leads to them from a root.

What somebody can compute from some secrets by going along a set of paths is
their closure under the steps of these paths.  If the steps have no collisions
and none leads back to the root, this closure has a plain description: the
secrets with paths that extend a known one.
-/

namespace Mls4rn.Lib.Derivation

variable {Secret Label : Type}

/-! ## Paths -/

/-- The secret at the end of a path. -/
def follow (derive : Secret → Label → Option Secret) :
    Secret → List Label → Option Secret
  | secret, [] => some secret
  | secret, label :: path =>
      (derive secret label).bind fun next => follow derive next path

section Paths

variable {derive : Secret → Label → Option Secret} {root : Secret}

@[simp]
theorem follow_nil : follow derive root [] = some root :=
  rfl

@[simp]
theorem follow_singleton (label : Label) :
    follow derive root [label] = derive root label := by
  cases reached : derive root label with
  | none => simp [follow, reached]
  | some next => simp [follow, reached]

theorem follow_append (first second : List Label) :
    follow derive root (first ++ second) =
      (follow derive root first).bind fun secret =>
        follow derive secret second := by
  induction first generalizing root with
  | nil => rfl
  | cons label first induction =>
      cases reached : derive root label with
      | none => simp [follow, reached]
      | some next => simp [follow, reached, induction]

theorem follow_concat (path : List Label) (label : Label) :
    follow derive root (path ++ [label]) =
      (follow derive root path).bind fun secret => derive secret label := by
  simp [follow_append]

theorem follow_of_append {first : List Label} {secret : Secret}
    (reached : follow derive root first = some secret)
    (second : List Label) :
    follow derive root (first ++ second) = follow derive secret second := by
  rw [follow_append, reached, Option.bind_some]

end Paths

/-! ## What can be computed -/

/-- What can be computed from what is known, along some paths. -/
inductive Derivable (derive : Secret → Label → Option Secret)
    (root : Secret) (paths : Set (List Label)) (known : Set Secret) :
    Secret → Prop where
  | known {secret : Secret} (held : secret ∈ known) :
      Derivable derive root paths known secret
  | step {path : List Label} {label : Label} {secret next : Secret}
      (before : Derivable derive root paths known secret)
      (inside : path ++ [label] ∈ paths)
      (here : follow derive root path = some secret)
      (taken : derive secret label = some next) :
      Derivable derive root paths known next

theorem Derivable.mono
    {derive : Secret → Label → Option Secret} {root : Secret}
    {paths : Set (List Label)} {known more : Set Secret}
    (included : known ⊆ more) {secret : Secret}
    (computed : Derivable derive root paths known secret) :
    Derivable derive root paths more secret := by
  induction computed with
  | known held => exact .known (included held)
  | step before inside here taken induction =>
      exact induction.step inside here taken

/-- The secrets at some paths. -/
def secretsAt (derive : Secret → Label → Option Secret) (root : Secret)
    (paths : Set (List Label)) : Set Secret :=
  {secret | ∃ path ∈ paths, follow derive root path = some secret}

/--
Paths along which no two steps collide and none leads back to the root.  With
a path they contain its initial parts.
-/
structure Ideal (derive : Secret → Label → Option Secret) (root : Secret)
    (paths : Set (List Label)) : Prop where
  initial :
    ∀ {path : List Label} {label : Label},
      path ++ [label] ∈ paths → path ∈ paths
  injective :
    ∀ {first second : List Label} {label other : Label}
      {firstSecret secondSecret target : Secret},
      first ++ [label] ∈ paths → second ++ [other] ∈ paths →
        follow derive root first = some firstSecret →
          follow derive root second = some secondSecret →
            derive firstSecret label = some target →
              derive secondSecret other = some target →
                firstSecret = secondSecret ∧ label = other
  acyclic :
    ∀ {path : List Label} {label : Label},
      path ++ [label] ∈ paths →
        follow derive root (path ++ [label]) ≠ some root

namespace Ideal

variable {derive : Secret → Label → Option Secret} {root : Secret}
  {paths : Set (List Label)}

/-- A secret has one path. -/
theorem follow_injective (ideal : Ideal derive root paths)
    {first second : List Label} (firstInside : first ∈ paths)
    (secondInside : second ∈ paths) {secret : Secret}
    (firstReached : follow derive root first = some secret)
    (secondReached : follow derive root second = some secret) :
    first = second := by
  induction first using List.reverseRecOn generalizing second secret with
  | nil =>
      cases firstReached
      induction second using List.reverseRecOn with
      | nil => rfl
      | append_singleton second label _ =>
          exact absurd secondReached (ideal.acyclic secondInside)
  | append_singleton first label induction =>
      induction second using List.reverseRecOn with
      | nil =>
          cases secondReached
          exact absurd firstReached (ideal.acyclic firstInside)
      | append_singleton second other _ =>
          rw [follow_concat, Option.bind_eq_some_iff] at firstReached
          rw [follow_concat, Option.bind_eq_some_iff] at secondReached
          obtain ⟨before, firstReached, taken⟩ := firstReached
          obtain ⟨previous, secondReached, alsoTaken⟩ := secondReached
          obtain ⟨rfl, rfl⟩ := ideal.injective firstInside secondInside
            firstReached secondReached taken alsoTaken
          rw [induction (ideal.initial firstInside)
            (ideal.initial secondInside) firstReached secondReached]

/-- What can be computed is what lies beyond a known path. -/
theorem derivable_iff (ideal : Ideal derive root paths)
    {starts : Set (List Label)} (included : starts ⊆ paths)
    {path : List Label} (inside : path ∈ paths) {secret : Secret}
    (reached : follow derive root path = some secret) :
    Derivable derive root paths (secretsAt derive root starts) secret ↔
      ∃ start ∈ starts, start <+: path := by
  constructor
  · intro computed
    induction computed generalizing path with
    | known held =>
        obtain ⟨start, held, alsoReached⟩ := held
        refine ⟨start, held, ?_⟩
        rw [ideal.follow_injective (included held) inside alsoReached reached]
    | @step before label secret next _ further here taken induction =>
        have next : follow derive root (before ++ [label]) = some next := by
          rw [follow_concat, here, Option.bind_some, taken]
        rw [← ideal.follow_injective further inside next reached]
        obtain ⟨start, held, earlier⟩ :=
          induction (ideal.initial further) here
        exact ⟨start, held, earlier.trans (List.prefix_append _ _)⟩
  · rintro ⟨start, held, rest, rfl⟩
    induction rest using List.reverseRecOn generalizing secret with
    | nil =>
        rw [List.append_nil] at reached
        exact .known ⟨start, held, reached⟩
    | append_singleton rest label induction =>
        rw [← List.append_assoc] at inside reached
        rw [follow_concat, Option.bind_eq_some_iff] at reached
        obtain ⟨before, here, taken⟩ := reached
        exact (induction (ideal.initial inside) here).step inside here taken

end Ideal

/-! ## The symbolic derivation -/

/-- A secret is the path it was derived along. -/
def symbolic : List Label → Label → Option (List Label) :=
  fun secret label => some (label :: secret)

theorem symbolic_injective {first second target : List Label}
    {label other : Label} (taken : symbolic first label = some target)
    (alsoTaken : symbolic second other = some target) :
    first = second ∧ label = other := by
  have same := Option.some.inj (taken.trans alsoTaken.symm)
  obtain ⟨rfl, rfl⟩ := List.cons.inj same
  exact ⟨rfl, rfl⟩

end Mls4rn.Lib.Derivation
