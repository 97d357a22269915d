import Mathlib.Data.List.Sort
import Mathlib.Data.String.Basic
import Mathlib.Tactic

/-! Release trees: their inventory, and the mutable directories that an upgrade carries over. -/

namespace PocoDDS.Tools

inductive TreeEntry
  | file (content : List UInt8)
  | directory
  deriving DecidableEq, Repr

/-- What is below a directory, by the parts of the relative paths. Trees with links are refused
before a transaction begins. -/
structure Tree where
  entries : List (List String × TreeEntry)
  deriving DecidableEq, Repr

def excludedParts : List String :=
  ["logs", "data", "codeCache", "disabled-bundles"]

def mutableParts : List String :=
  ["logs", "data", "disabled-bundles"]

structure FileRecord where
  path : List String
  size : Nat
  sha256 : String
  deriving DecidableEq, Repr

/-- The files that belong to a release. -/
def isReleased (entry : List String × TreeEntry) : Bool :=
  match entry.2 with
  | .file _ => !entry.1.any (· ∈ excludedParts)
  | .directory => false

namespace Tree

def released (tree : Tree) : List (List String × TreeEntry) :=
  tree.entries.filter isReleased

/-- The released files in the order of their paths. -/
def inventory (sha256 : List UInt8 → String) (tree : Tree) : List FileRecord :=
  let records := tree.released.filterMap fun
    | (path, .file content) => some ⟨path, content.length, sha256 content⟩
    | (_, .directory) => none
  records.insertionSort fun first second => first.path ≤ second.path

def entry (tree : Tree) (path : List String) : Option TreeEntry :=
  (tree.entries.find? (·.1 = path)).map Prod.snd

def exists' (tree : Tree) (path : List String) : Bool :=
  tree.entries.any (·.1 = path)

/-- A subtree and what is left without it. -/
def below (tree : Tree) (path : List String) : List (List String × TreeEntry) :=
  tree.entries.filter (path <+: ·.1)

def without (tree : Tree) (path : List String) : Tree :=
  ⟨tree.entries.filter (¬path <+: ·.1)⟩

/-- A tree with a directory at a path, unless something is there. -/
def withDirectory (tree : Tree) (path : List String) : Tree :=
  if tree.exists' path then tree else ⟨tree.entries ++ [(path, .directory)]⟩

/-- A tree with a file in place of whatever was at its path. -/
def withFile (tree : Tree) (path : List String) (content : List UInt8) : Tree :=
  ⟨tree.entries.filter (·.1 ≠ path) ++ [(path, .file content)]⟩

def fileAt (tree : Tree) (path : List String) : Option (List UInt8) :=
  match tree.entry path with
  | some (.file content) => some content
  | _ => none

end Tree

/-- A path that ends in a mutable part and has no other one. -/
def isOutermost (path : List String) : Bool :=
  path.getLast?.any (· ∈ mutableParts) && path.dropLast.all (· ∉ mutableParts)

/-- The directories that are moved, given the names of the directories above the tree: a mutable
name among these hides all of them. -/
def Tree.candidates (parents : List String) (tree : Tree) : List (List String) :=
  if parents.any (· ∈ mutableParts) then []
  else
    let found := tree.entries.filterMap fun entry =>
      if entry.2 = .directory ∧ isOutermost entry.1 = true then some entry.1 else none
    found.dedup.insertionSort fun first second => first.length ≤ second.length

/-- The directories above a path, inside the tree. -/
def properPrefixes (path : List String) : List (List String) :=
  (List.range (path.length - 1)).map fun count => path.take (count + 1)

section Properties

variable {parents : List String} {tree : Tree} {path : List String}

theorem Tree.mem_candidates :
    path ∈ tree.candidates parents ↔ (∀ part ∈ parents, part ∉ mutableParts) ∧
      (path, .directory) ∈ tree.entries ∧ isOutermost path = true := by
  unfold Tree.candidates
  split
  · next hidden =>
    obtain ⟨part, above, named⟩ := List.any_eq_true.mp hidden
    simp only [List.not_mem_nil, false_iff, not_and]
    intro free
    exact absurd (by simpa using named) (free part above)
  · next visible =>
    have free : ∀ part ∈ parents, part ∉ mutableParts := by
      intro part above named
      exact visible (List.any_eq_true.mpr ⟨part, above, by simpa using named⟩)
    rw [(List.perm_insertionSort _ _).mem_iff, List.mem_dedup, List.mem_filterMap]
    constructor
    · rintro ⟨⟨path', entry⟩, member, chosen⟩
      split at chosen
      · next both =>
        cases chosen
        obtain ⟨rfl, outermost⟩ := both
        exact ⟨free, member, outermost⟩
      · cases chosen
    · rintro ⟨-, member, outermost⟩
      exact ⟨_, member, by simp [outermost]⟩

/-- Whether a path leads through a mutable directory, or to one. -/
def IsMutable (path : List String) : Prop :=
  ∃ part ∈ path, part ∈ mutableParts

/-- Mutable parts are excluded from every inventory. -/
theorem not_isReleased {entry : List String × TreeEntry} (held : IsMutable entry.1) :
    isReleased entry = false := by
  obtain ⟨part, member, named⟩ := held
  have excluded : part ∈ excludedParts := by
    simp only [mutableParts, List.mem_cons, List.not_mem_nil, or_false] at named
    rcases named with rfl | rfl | rfl <;> decide
  obtain ⟨path, content | _⟩ := entry
  · simp only [isReleased, Bool.not_eq_false', List.any_eq_true]
    exact ⟨part, member, by simpa using excluded⟩
  · rfl

theorem isOutermost_iff : isOutermost path = true ↔
    ∃ above last, path = above ++ [last] ∧ last ∈ mutableParts ∧ ¬IsMutable above := by
  constructor
  · intro outermost
    rcases List.eq_nil_or_concat path with rfl | ⟨above, last, rfl⟩
    · simp [isOutermost] at outermost
    · refine ⟨above, last, by simp, ?_⟩
      simp only [isOutermost, List.concat_eq_append, List.getLast?_append, List.getLast?_singleton,
        Option.some_or, Option.any_some, List.dropLast_concat, Bool.and_eq_true,
        decide_eq_true_eq, List.all_eq_true] at outermost
      refine ⟨outermost.1, ?_⟩
      rintro ⟨part, member, named⟩
      exact outermost.2 part member named
  · rintro ⟨above, last, rfl, named, free⟩
    simp only [isOutermost, List.getLast?_append, List.getLast?_singleton, Option.some_or,
      Option.any_some, List.dropLast_concat, Bool.and_eq_true, decide_eq_true_eq,
      List.all_eq_true]
    exact ⟨named, fun part member mutable' => free ⟨part, member, mutable'⟩⟩

theorem isMutable_of_outermost (outermost : isOutermost path = true) : IsMutable path := by
  obtain ⟨above, last, rfl, named, -⟩ := isOutermost_iff.mp outermost
  exact ⟨last, by simp, named⟩

theorem IsMutable.of_above {whole : List String} (held : IsMutable path) (sub : path <+: whole) :
    IsMutable whole := by
  obtain ⟨part, member, named⟩ := held
  exact ⟨part, sub.subset member, named⟩

/-- One outermost directory is not inside another. -/
theorem eq_of_outermost_below {other : List String} (outermost : isOutermost path = true)
    (outer : isOutermost other = true) (sub : path <+: other) : path = other := by
  obtain ⟨above, last, rfl, -, free⟩ := isOutermost_iff.mp outer
  rcases List.prefix_concat_iff.mp sub with same | inside
  · exact same
  · exact absurd ((isMutable_of_outermost outermost).of_above inside) free

theorem not_isMutable_of_properPrefix {above : List String} (outermost : isOutermost path = true)
    (member : above ∈ properPrefixes path) : ¬IsMutable above := by
  obtain ⟨parent, last, rfl, -, free⟩ := isOutermost_iff.mp outermost
  obtain ⟨count, small, rfl⟩ := List.mem_map.mp member
  simp only [List.length_append, List.length_singleton, Nat.add_sub_cancel, List.mem_range] at small
  intro held
  refine free (held.of_above ?_)
  rw [List.take_append_of_le_length (by omega)]
  exact List.take_prefix _ _

namespace Tree

theorem released_without (outermost : isOutermost path = true) :
    (tree.without path).released = tree.released := by
  simp only [released, without, List.filter_filter]
  refine List.filter_congr fun entry _ => ?_
  by_cases sub : path <+: entry.1
  · rw [not_isReleased ((isMutable_of_outermost outermost).of_above sub), Bool.false_and]
  · simp [sub]

theorem released_append {more : List (List String × TreeEntry)}
    (unreleased : ∀ entry ∈ more, isReleased entry = false) :
    (⟨tree.entries ++ more⟩ : Tree).released = tree.released := by
  have none : more.filter isReleased = [] := by
    refine List.filter_eq_nil_iff.mpr fun entry member => ?_
    simp [unreleased entry member]
  simp [released, List.filter_append, none]

theorem released_receive {origin : Tree} (outermost : isOutermost path = true) :
    (⟨tree.entries ++ origin.below path⟩ : Tree).released = tree.released := by
  refine released_append fun entry member => ?_
  have sub : path <+: entry.1 := by simpa using (List.mem_filter.mp member).2
  exact not_isReleased ((isMutable_of_outermost outermost).of_above sub)

theorem released_makeDirectory {above : List String} :
    (⟨tree.entries ++ [(above, .directory)]⟩ : Tree).released = tree.released := by
  refine released_append fun entry member => ?_
  rw [List.mem_singleton.mp member]
  rfl

theorem inventory_congr {first second : Tree} (same : first.released = second.released)
    (sha256 : List UInt8 → String) : first.inventory sha256 = second.inventory sha256 := by
  simp only [inventory, same]

theorem candidates_nodup : (tree.candidates parents).Nodup := by
  unfold candidates
  split
  · exact List.nodup_nil
  · exact (List.perm_insertionSort _ _).nodup_iff.mpr (List.nodup_dedup _)

/-- Moving one candidate away leaves the others. -/
theorem mem_candidates_without {other : List String} (chosen : path ∈ tree.candidates parents) :
    other ∈ (tree.without path).candidates parents ↔
      other ∈ tree.candidates parents ∧ other ≠ path := by
  obtain ⟨free, -, outermost⟩ := mem_candidates.mp chosen
  simp only [mem_candidates, without, List.mem_filter, decide_eq_true_eq]
  constructor
  · rintro ⟨-, ⟨member, apart⟩, outer⟩
    refine ⟨⟨free, member, outer⟩, ?_⟩
    rintro rfl
    exact apart (List.prefix_refl _)
  · rintro ⟨⟨-, member, outer⟩, differs⟩
    refine ⟨free, ⟨member, fun sub => differs ?_⟩, outer⟩
    exact (eq_of_outermost_below outermost outer sub).symm

theorem mem_candidates_append {other : List String} {more : List (List String × TreeEntry)}
    (member : other ∈ tree.candidates parents) :
    other ∈ (⟨tree.entries ++ more⟩ : Tree).candidates parents := by
  obtain ⟨free, listed, outer⟩ := mem_candidates.mp member
  exact mem_candidates.mpr ⟨free, List.mem_append_left _ listed, outer⟩

theorem entry_append {found : TreeEntry} (present : tree.entry path = some found)
    (more : List (List String × TreeEntry)) :
    (⟨tree.entries ++ more⟩ : Tree).entry path = some found := by
  unfold entry at present ⊢
  obtain ⟨pair, first, rfl⟩ := Option.map_eq_some_iff.mp present
  rw [List.find?_append, first]
  rfl

theorem entry_eq_none_iff : tree.entry path = none ↔ tree.exists' path = false := by
  simp [entry, exists']

theorem exists_append (more : List (List String × TreeEntry)) :
    (⟨tree.entries ++ more⟩ : Tree).exists' path =
      (tree.exists' path || more.any (·.1 = path)) := by
  simp [exists', List.any_append]

theorem entry_withDirectory {other : List String} {found : TreeEntry}
    (present : tree.entry path = some found) :
    (tree.withDirectory other).entry path = some found := by
  unfold withDirectory
  split
  · exact present
  · exact entry_append present _

theorem released_withDirectory : (tree.withDirectory path).released = tree.released := by
  unfold withDirectory
  split
  · rfl
  · exact released_makeDirectory

theorem entry_withFile_self {content : List UInt8} :
    (tree.withFile path content).entry path = some (.file content) := by
  have absent : (tree.entries.filter (·.1 ≠ path)).find? (·.1 = path) = none := by
    simp
  rw [withFile, entry, List.find?_append, absent]
  simp

theorem entry_withFile {other : List String} {content : List UInt8} (differs : path ≠ other) :
    (tree.withFile other content).entry path = tree.entry path := by
  have apart : (decide (other = path)) = false := by simpa using differs.symm
  rw [withFile, entry, entry, List.find?_append, List.find?_filter]
  simp only [List.find?_cons, apart, List.find?_nil, Option.or_none]
  congr 2
  funext pair
  by_cases same : pair.1 = path
  · simp [same, differs]
  · simp [same]

theorem entry_withDirectory_self (absent : tree.entry path = none) :
    (tree.withDirectory path).entry path = some .directory := by
  have free := entry_eq_none_iff.mp absent
  rw [withDirectory, free, if_neg (by simp), entry, List.find?_append]
  have none : tree.entries.find? (·.1 = path) = .none := by
    simpa [entry] using absent
  rw [none]
  simp

theorem fileAt_eq_some {content : List UInt8} :
    tree.fileAt path = some content ↔ tree.entry path = some (.file content) := by
  unfold fileAt
  split
  · next found => simp [found]
  · next other =>
    refine ⟨fun none => (by cases none), fun found => absurd found (other content)⟩

theorem fileAt_withDirectory {other : List String} :
    (tree.withDirectory other).fileAt path = tree.fileAt path := by
  unfold withDirectory
  split
  · rfl
  · next free =>
    unfold fileAt entry
    rw [List.find?_append]
    cases tree.entries.find? (·.1 = path) with
    | some pair => rfl
    | none =>
      by_cases same : other = path
      · simp [same]
      · simp [same]

theorem fileAt_withFile {other : List String} {content : List UInt8} :
    (tree.withFile other content).fileAt path =
      if path = other then some content else tree.fileAt path := by
  split
  · next same =>
    subst same
    exact fileAt_eq_some.mpr entry_withFile_self
  · next differs =>
    unfold fileAt
    rw [entry_withFile differs]

theorem exists_of_mem_candidates (chosen : path ∈ tree.candidates parents) :
    tree.exists' path = true := by
  obtain ⟨-, member, -⟩ := mem_candidates.mp chosen
  exact List.any_eq_true.mpr ⟨_, member, by simp⟩

end Tree

/-- Nothing at the destination is in the way of the directories that would be moved there. -/
def Movable (parents : List String) (source destination : Tree) : Prop :=
  ∀ path ∈ source.candidates parents, destination.exists' path = false ∧
    ∀ above ∈ properPrefixes path, ∀ content, destination.entry above ≠ some (.file content)

/-- Each mutable entry of the old release is in the backup, or in a directory next to it from which
it would be moved back. -/
def Carried (parents : List String) (old backup side : Tree) : Prop :=
  ∀ entry ∈ old.entries, IsMutable entry.1 → entry ∈ backup.entries ∨
    (entry ∈ side.entries ∧ ∃ path ∈ side.candidates parents, path <+: entry.1)

section Transfer

variable {old backup side : Tree}

variable (carried : Carried parents old backup side)
include carried

/-- Whatever else is put into either tree, what is carried stays so. -/
theorem Carried.append (first second : List (List String × TreeEntry)) :
    Carried parents old ⟨backup.entries ++ first⟩ ⟨side.entries ++ second⟩ := by
  intro entry member held
  rcases carried entry member held with here | ⟨there, path', chosen, sub⟩
  · exact .inl (List.mem_append_left _ here)
  · exact .inr ⟨List.mem_append_left _ there, path', Tree.mem_candidates_append chosen, sub⟩

/-- Moving a directory from the backup to the tree next to it. -/
theorem Carried.give (chosen : path ∈ backup.candidates parents) :
    Carried parents old (backup.without path) ⟨side.entries ++ backup.below path⟩ := by
  intro entry member held
  rcases carried entry member held with here | ⟨there, other, outer, sub⟩
  · by_cases inside : path <+: entry.1
    · -- The moved directory is a candidate where it is now.
      refine .inr ⟨List.mem_append_right _ (List.mem_filter.mpr ⟨here, by simpa using inside⟩),
        path, ?_, inside⟩
      obtain ⟨free, listed, outermost⟩ := Tree.mem_candidates.mp chosen
      refine Tree.mem_candidates.mpr ⟨free, List.mem_append_right _ ?_, outermost⟩
      exact List.mem_filter.mpr ⟨listed, by simp⟩
    · exact .inl (List.mem_filter.mpr ⟨here, by simpa using inside⟩)
  · exact .inr ⟨List.mem_append_left _ there, other, Tree.mem_candidates_append outer, sub⟩

theorem Carried.take (chosen : path ∈ side.candidates parents) :
    Carried parents old ⟨backup.entries ++ side.below path⟩ (side.without path) := by
  intro entry member held
  rcases carried entry member held with here | ⟨there, other, outer, sub⟩
  · exact .inl (List.mem_append_left _ here)
  · by_cases inside : path <+: entry.1
    · exact .inl (List.mem_append_right _ (List.mem_filter.mpr ⟨there, by simpa using inside⟩))
    · refine .inr ⟨List.mem_filter.mpr ⟨there, by simpa using inside⟩, other, ?_, sub⟩
      refine (Tree.mem_candidates_without chosen).mpr ⟨outer, ?_⟩
      rintro rfl
      exact inside sub

/-- Once nothing is left to move, all of it is in the backup. -/
theorem Carried.settled (empty : side.candidates parents = []) :
    ∀ entry ∈ old.entries, IsMutable entry.1 → entry ∈ backup.entries := by
  intro entry member held
  rcases carried entry member held with here | ⟨-, path, chosen, -⟩
  · exact here
  · simp [empty] at chosen

end Transfer

end Properties

end PocoDDS.Tools
