import Mathlib.Tactic

/-! Paths as Python's `pathlib` reads them on a POSIX host. -/

namespace PosixPaths

/-- A path: its components without empty ones and single dots, and whether it has a root. -/
structure PosixPath where
  absolute : Bool
  parts : List String
  deriving DecidableEq, Repr

/-- The components of a text between slashes; empty components and single dots are dropped. -/
def components (text : List Char) : List String :=
  ((text.splitOn '/').filter fun part => part ≠ [] && part ≠ ['.']).map String.ofList

/-- The path that a text denotes. -/
def PosixPath.parse (text : String) : PosixPath :=
  ⟨text.toList.head? == some '/', components text.toList⟩

/-- `base / relative`: an absolute path replaces the base. -/
def PosixPath.join (base relative : PosixPath) : PosixPath :=
  if relative.absolute then relative else ⟨base.absolute, base.parts ++ relative.parts⟩

/-- The directory of a path. -/
def PosixPath.parent (path : PosixPath) : PosixPath :=
  ⟨path.absolute, path.parts.dropLast⟩

/-- The last component of a path. -/
def PosixPath.name (path : PosixPath) : String :=
  path.parts.getLast?.getD ""

/-- A path with one more component. -/
def PosixPath.child (path : PosixPath) (name : String) : PosixPath :=
  ⟨path.absolute, path.parts ++ [name]⟩

/-- `path.relative_to(base)`: the components behind those of the base, if it is above the path. -/
def PosixPath.relativeTo (path base : PosixPath) : Option (List String) :=
  if path.absolute == base.absolute && base.parts.isPrefixOf path.parts then
    some (path.parts.drop base.parts.length)
  else none

/-- The text of a path, which is a single dot for the empty one. -/
def PosixPath.asPosix (path : PosixPath) : String :=
  if path.absolute then "/" ++ "/".intercalate path.parts
  else if path.parts = [] then "." else "/".intercalate path.parts

/-- Texts joined by a slash have the components of both. -/
theorem components_append (left right : List Char) :
    components (left ++ '/' :: right) = components left ++ components right := by
  unfold components
  rw [List.splitOn, List.splitOn, List.splitOn, List.splitOnP_append_cons _ _ (by simp),
    List.filter_append, List.map_append]

/-- A component of a path: not empty, not a single dot and without a slash. -/
def IsComponent (part : String) : Prop :=
  part ≠ "" ∧ part ≠ "." ∧ '/' ∉ part.toList

instance (part : String) : Decidable (IsComponent part) :=
  inferInstanceAs (Decidable (_ ∧ _ ∧ _))

/-- A component is the only component of its own text. -/
theorem components_component {part : String} (component : IsComponent part) :
    components part.toList = [part] := by
  obtain ⟨filled, noDot, noSlash⟩ := component
  unfold components
  have whole : part.toList.splitOn '/' = [part.toList] := by
    rw [List.splitOn]
    apply List.splitOnP_eq_singleton
    intro character inside
    simp only [beq_eq_false_iff_ne]
    rintro rfl
    exact noSlash inside
  have kept : part.toList ≠ [] ∧ part.toList ≠ ['.'] := by
    constructor
    · intro empty
      exact filled (String.toList_inj.mp (by simpa using empty))
    · intro dot
      exact noDot (String.toList_inj.mp (by simpa using dot))
  simp [whole, kept]

/-- Splitting at the slashes leaves no slash. -/
theorem not_mem_of_mem_splitOn {text part : List Char} (piece : part ∈ text.splitOn '/') :
    '/' ∉ part := by
  induction text generalizing part with
  | nil =>
    rw [List.splitOn_nil, List.mem_singleton] at piece
    rw [piece]
    exact List.not_mem_nil
  | cons first rest ih =>
    rw [List.splitOn_cons_eq_if_modifyHead] at piece
    split at piece
    · rcases List.mem_cons.mp piece with rfl | later
      · exact List.not_mem_nil
      · exact ih later
    · rename_i other
      obtain ⟨head, tail, shape⟩ := List.exists_cons_of_ne_nil (List.splitOn_ne_nil '/' rest)
      rw [shape, List.modifyHead_cons] at piece
      rcases List.mem_cons.mp piece with rfl | later
      · -- The first character is no slash, and the rest of the piece has none either.
        have clean : '/' ∉ head := ih (by rw [shape]; exact List.mem_cons_self)
        simp only [beq_iff_eq] at other
        simp only [List.mem_cons, not_or]
        exact ⟨fun same => other same.symm, clean⟩
      · exact ih (by rw [shape]; exact List.mem_cons_of_mem _ later)

theorem isComponent_of_mem {text : List Char} {part : String} (listed : part ∈ components text) :
    IsComponent part := by
  unfold components at listed
  obtain ⟨characters, kept, rfl⟩ := List.mem_map.mp listed
  obtain ⟨piece, proper⟩ := List.mem_filter.mp kept
  simp only [ne_eq, Bool.and_eq_true, decide_eq_true_eq] at proper
  refine ⟨?_, ?_, ?_⟩
  · intro empty
    exact proper.1 (by simpa using congrArg String.toList empty)
  · intro dot
    exact proper.2 (by simpa using congrArg String.toList dot)
  · rw [String.toList_ofList]
    exact not_mem_of_mem_splitOn piece

/-- Components joined by slashes can be read back. -/
theorem components_intercalate {parts : List String} (proper : ∀ part ∈ parts, IsComponent part) :
    components ("/".intercalate parts).toList = parts := by
  induction parts with
  | nil => rfl
  | cons first rest ih =>
    have head := components_component (proper first List.mem_cons_self)
    have tail := ih fun part listed => proper part (List.mem_cons_of_mem _ listed)
    cases rest with
    | nil => rwa [String.intercalate_singleton]
    | cons second others =>
      have split : ("/".intercalate (first :: second :: others)).toList =
          first.toList ++ '/' :: ("/".intercalate (second :: others)).toList := by
        rw [String.intercalate_cons_cons]
        simp
      rw [split, components_append, head, tail]
      rfl

/-- Every character but a slash is in one of the pieces between the slashes. -/
theorem exists_mem_splitOn {text : List Char} {character : Char} (member : character ∈ text)
    (other : character ≠ '/') : ∃ piece ∈ text.splitOn '/', character ∈ piece := by
  induction text with
  | nil => cases member
  | cons first rest ih =>
    rw [List.splitOn_cons_eq_if_modifyHead]
    split
    · next slash =>
      rcases List.mem_cons.mp member with rfl | later
      · exact absurd (by simpa using slash) other
      · obtain ⟨piece, listed, inside⟩ := ih later
        exact ⟨piece, List.mem_cons_of_mem _ listed, inside⟩
    · obtain ⟨head, tail, shape⟩ := List.exists_cons_of_ne_nil (List.splitOn_ne_nil '/' rest)
      rw [shape, List.modifyHead_cons]
      rcases List.mem_cons.mp member with rfl | later
      · exact ⟨_, List.mem_cons_self, List.mem_cons_self⟩
      · obtain ⟨piece, listed, inside⟩ := ih later
        rw [shape] at listed
        -- The first character joins the first of the pieces.
        rcases List.mem_cons.mp listed with rfl | behind
        · exact ⟨_, List.mem_cons_self, List.mem_cons_of_mem _ inside⟩
        · exact ⟨piece, List.mem_cons_of_mem _ behind, inside⟩

theorem components_ne_nil {text : List Char} {character : Char} (member : character ∈ text)
    (noSlash : character ≠ '/') (noDot : character ≠ '.') : components text ≠ [] := by
  obtain ⟨piece, listed, inside⟩ := exists_mem_splitOn member noSlash
  have kept : piece ≠ [] ∧ piece ≠ ['.'] := by
    constructor
    · rintro rfl
      cases inside
    · rintro rfl
      exact noDot (List.mem_singleton.mp inside)
  unfold components
  intro none
  rw [List.map_eq_nil_iff, List.filter_eq_nil_iff] at none
  exact none piece listed (by simpa using kept)

/-- What is put below a path leads back to itself. -/
theorem relativeTo_below (base : PosixPath) (parts : List String) :
    (PosixPath.mk base.absolute (base.parts ++ parts)).relativeTo base = some parts := by
  unfold PosixPath.relativeTo
  have above : base.parts.isPrefixOf (base.parts ++ parts) = true :=
    List.isPrefixOf_iff_prefix.mpr (List.prefix_append _ _)
  simp [above]

end PosixPaths
