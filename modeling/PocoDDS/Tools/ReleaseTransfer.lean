import PocoDDS.Tools.UpgradeRecovery

/-! What a transfer of the mutable directories does to two whole trees, and what moves it back. -/

namespace PocoDDS.Tools

open AssocList CrashLogic ProcessLogic Process Tree

section Trees

variable {parents : List String} {source destination origin there : Tree}
  {path : List String} {entry : List String × TreeEntry}

/-- What a directory tree is: one entry for each path, and each of them inside directories. -/
structure Tree.WellFormed (tree : Tree) : Prop where
  distinct : (tree.entries.map Prod.fst).Nodup
  inside : ∀ entry ∈ tree.entries, ∀ above ∈ properPrefixes entry.1,
    (above, .directory) ∈ tree.entries

/-- The outermost directories with a mutable name, whatever the directories above the tree are
called. -/
def Tree.outermost (tree : Tree) : List (List String) :=
  tree.candidates []

theorem Tree.mem_outermost {tree : Tree} :
    path ∈ tree.outermost ↔ (path, .directory) ∈ tree.entries ∧ isOutermost path = true := by
  rw [outermost, mem_candidates]
  simp

/-- A mutable name above the tree hides all of its directories, and any other hides none. -/
theorem Tree.candidates_eq (tree : Tree) (parents : List String) : tree.candidates parents =
      if parents.any (· ∈ mutableParts) = true then [] else tree.outermost := by
  unfold Tree.outermost candidates
  split <;> simp

/-- A path that leads to an outermost mutable directory, or into one. -/
def Tree.Holds (tree : Tree) (path : List String) : Prop :=
  ∃ above ∈ tree.outermost, above <+: path

/-- The names of the directories above a tree hide none of its directories. -/
def Visible (parents : List String) : Prop :=
  ∀ part ∈ parents, part ∉ mutableParts

theorem Tree.candidates_of_visible (tree : Tree) (visible : Visible parents) :
    tree.candidates parents = tree.outermost := by
  rw [tree.candidates_eq, if_neg]
  intro hidden
  obtain ⟨part, above, named⟩ := List.any_eq_true.mp hidden
  exact visible part above (by simpa using named)

theorem Tree.candidates_of_hidden (tree : Tree) (hidden : ¬Visible parents) :
    tree.candidates parents = [] := by
  rw [tree.candidates_eq, if_pos]
  simp only [Visible, not_forall, not_not] at hidden
  obtain ⟨part, above, named⟩ := hidden
  exact List.any_eq_true.mpr ⟨part, above, by simpa using named⟩

theorem Tree.WellFormed.no_file {tree : Tree} (formed : tree.WellFormed)
    (listed : entry ∈ tree.entries) {above : List String} (member : above ∈ properPrefixes entry.1)
    (content : List UInt8) : tree.entry above ≠ some (.file content) := by
  intro found
  obtain ⟨pair, first, kind⟩ := Option.map_eq_some_iff.mp found
  -- The directory and the file would be two entries for one path.
  have named := List.find?_some first
  rw [decide_eq_true_eq] at named
  have same := List.inj_on_of_nodup_map formed.distinct (List.mem_of_find?_eq_some first)
    (formed.inside entry listed above member) named
  rw [same] at kind
  cases kind

/-- How two trees stand while the directories of the one are moved to the other. -/
structure Transferred (parents : List String) (source destination origin there : Tree) : Prop where
  left : origin.entries.Sublist source.entries
  outside : ∀ entry ∈ source.entries, (∀ path ∈ source.candidates parents, ¬path <+: entry.1) →
    entry ∈ origin.entries
  /-- A directory is moved with all that is in it. -/
  whole : ∀ entry ∈ origin.entries, ∀ path ∈ source.candidates parents, path <+: entry.1 →
    path ∈ origin.candidates parents
  /-- From where it has arrived, it would be moved back. -/
  carried : ∀ entry ∈ source.entries, ∀ path ∈ source.candidates parents, path <+: entry.1 →
    entry ∈ origin.entries ∨ (entry ∈ there.entries ∧ path ∈ there.candidates parents)
  kept : ∀ entry ∈ destination.entries, entry ∈ there.entries
  arrived : ∀ entry ∈ there.entries, entry ∈ destination.entries ∨
    (entry ∈ source.entries ∧ ∃ path ∈ source.candidates parents, path <+: entry.1) ∨
    (entry.2 = .directory ∧ ¬IsMutable entry.1)
  released : origin.released = source.released
  received : there.released = destination.released

theorem Transferred.refl (parents : List String) (source destination : Tree) :
    Transferred parents source destination source destination where
  left := List.Sublist.refl _
  outside := fun _ listed _ => listed
  whole := fun _ _ _ chosen _ => chosen
  carried := fun _ listed _ _ _ => .inl listed
  kept := fun _ listed => listed
  arrived := fun _ listed => .inl listed
  released := rfl
  received := rfl

/-- What is still to be moved was to be moved from the beginning. -/
theorem Transferred.chosen (done : Transferred parents source destination origin there)
    (chosen : path ∈ origin.candidates parents) : path ∈ source.candidates parents := by
  obtain ⟨free, listed, outermost⟩ := mem_candidates.mp chosen
  exact mem_candidates.mpr ⟨free, done.left.subset listed, outermost⟩

theorem eq_of_outermost_around {other whole : List String} (outermost : isOutermost path = true)
    (outer : isOutermost other = true) (sub : path <+: whole) (sub' : other <+: whole) :
    path = other := by
  rcases List.prefix_or_prefix_of_prefix sub sub' with inside | inside
  · exact eq_of_outermost_below outermost outer inside
  · exact (eq_of_outermost_below outer outermost inside).symm

theorem transferred_survives (source destination : Tree) :
    SurvivesTransfer parents (Transferred parents source destination) where
  made := by
    intro origin there path above done chosen member
    refine { done with carried := ?_, kept := ?_, arrived := ?_, received := ?_ }
    · intro entry listed other outer sub
      exact (done.carried entry listed other outer sub).imp_right fun arrived =>
        ⟨List.mem_append_left _ arrived.1, Tree.mem_candidates_append arrived.2⟩
    · exact fun entry listed => List.mem_append_left _ (done.kept entry listed)
    · intro entry listed
      rcases List.mem_append.mp listed with before | new
      · exact done.arrived entry before
      · -- The directories above a candidate are not mutable.
        rw [List.mem_singleton.mp new]
        exact .inr (.inr ⟨rfl, not_isMutable_of_properPrefix (mem_candidates.mp chosen).2.2 member⟩)
    · rw [Tree.released_makeDirectory]
      exact done.received
  moved := by
    intro origin there path done chosen _ _
    have outermost := (mem_candidates.mp chosen).2.2
    refine ⟨?_, ?_, ?_, ?_, ?_, ?_, ?_, ?_⟩
    · exact List.filter_sublist.trans done.left
    · intro entry listed apart
      refine List.mem_filter.mpr ⟨done.outside entry listed apart, ?_⟩
      simpa using apart path (done.chosen chosen)
    · intro entry listed other outer sub
      obtain ⟨before, apart⟩ := List.mem_filter.mp listed
      refine (Tree.mem_candidates_without chosen).mpr ⟨done.whole entry before other outer sub, ?_⟩
      rintro rfl
      simp [sub] at apart
    · intro entry listed other outer sub
      rcases done.carried entry listed other outer sub with here | ⟨gone, again⟩
      · by_cases inside : path <+: entry.1
        · -- The entry is in the directory that is moved now, and in no other.
          have same := eq_of_outermost_around (mem_candidates.mp outer).2.2 outermost sub inside
          obtain ⟨free, there', -⟩ := mem_candidates.mp chosen
          refine .inr ⟨List.mem_append_right _ (List.mem_filter.mpr ⟨here, by simpa using inside⟩),
            mem_candidates.mpr ⟨free, List.mem_append_right _ (List.mem_filter.mpr ?_),
              same ▸ outermost⟩⟩
          rw [same]
          exact ⟨there', by simp⟩
        · exact .inl (List.mem_filter.mpr ⟨here, by simpa using inside⟩)
      · exact .inr ⟨List.mem_append_left _ gone, Tree.mem_candidates_append again⟩
    · exact fun entry listed => List.mem_append_left _ (done.kept entry listed)
    · intro entry listed
      rcases List.mem_append.mp listed with before | new
      · exact done.arrived entry before
      · obtain ⟨within, sub⟩ := List.mem_filter.mp new
        exact .inr (.inl ⟨done.left.subset within, path, done.chosen chosen, by simpa using sub⟩)
    · rw [Tree.released_without outermost]
      exact done.released
    · rw [Tree.released_receive outermost]
      exact done.received

section Ended

variable (done : Transferred parents source destination origin there)
  (empty : origin.candidates parents = [])

include done empty

/-- Nothing of a moved directory is left behind. -/
theorem Transferred.mem_origin : entry ∈ origin.entries ↔
    entry ∈ source.entries ∧ ∀ path ∈ source.candidates parents, ¬path <+: entry.1 := by
  constructor
  · intro listed
    refine ⟨done.left.subset listed, fun path chosen sub => ?_⟩
    have still := done.whole entry listed path chosen sub
    simp [empty] at still
  · exact fun both => done.outside entry both.1 both.2

/-- All of a moved directory has arrived. -/
theorem Transferred.mem_there (listed : entry ∈ source.entries)
    (chosen : path ∈ source.candidates parents) (sub : path <+: entry.1) :
    entry ∈ there.entries := by
  rcases done.carried entry listed path chosen sub with here | ⟨gone, -⟩
  · exact absurd sub (((done.mem_origin empty).mp here).2 path chosen)
  · exact gone

end Ended

/-- A directory with a mutable name is at the destination if it was there or has been moved. -/
theorem Transferred.mem_outermost (done : Transferred parents source destination origin there) :
    path ∈ there.outermost → path ∈ destination.outermost ∨ path ∈ source.candidates parents := by
  intro chosen
  obtain ⟨listed, outermost⟩ := Tree.mem_outermost.mp chosen
  rcases done.arrived _ listed with old | ⟨-, other, outer, sub⟩ | ⟨-, immutable⟩
  · exact .inl (Tree.mem_outermost.mpr ⟨old, outermost⟩)
  · -- One outermost directory is not inside another.
    have same := eq_of_outermost_below (mem_candidates.mp outer).2.2 outermost sub
    exact .inr (same ▸ outer)
  · exact absurd (isMutable_of_outermost outermost) immutable

theorem Tree.entry_eq_of_mem {tree : Tree} {kind : TreeEntry} (listed : (path, kind) ∈ tree.entries)
    (single : ∀ other, (path, other) ∈ tree.entries → other = kind) :
    tree.entry path = some kind := by
  cases found : tree.entry path with
  | none =>
    have missing := Tree.entry_eq_none_iff.mp found
    simp only [Tree.exists', List.any_eq_false, decide_eq_true_eq] at missing
    exact absurd rfl (missing _ listed)
  | some other =>
    obtain ⟨pair, first, rfl⟩ := Option.map_eq_some_iff.mp found
    have named := List.find?_some first
    rw [decide_eq_true_eq] at named
    have there : (path, pair.2) ∈ tree.entries := named ▸ List.mem_of_find?_eq_some first
    rw [single _ there]

theorem Tree.mem_of_entry {tree : Tree} {kind : TreeEntry} (found : tree.entry path = some kind) :
    (path, kind) ∈ tree.entries := by
  obtain ⟨pair, first, rfl⟩ := Option.map_eq_some_iff.mp found
  have named := List.find?_some first
  rw [decide_eq_true_eq] at named
  exact named ▸ List.mem_of_find?_eq_some first

theorem Tree.exists_of_mem {tree : Tree} {kind : TreeEntry} (listed : (path, kind) ∈ tree.entries) :
    tree.exists' path = true :=
  List.any_eq_true.mpr ⟨_, listed, by simp⟩

theorem Tree.exists_iff {tree : Tree} :
    tree.exists' path = true ↔ ∃ kind, (path, kind) ∈ tree.entries := by
  constructor
  · intro there
    obtain ⟨pair, listed, named⟩ := List.any_eq_true.mp there
    rw [decide_eq_true_eq] at named
    exact ⟨pair.2, named ▸ listed⟩
  · rintro ⟨kind, listed⟩
    exact exists_of_mem listed

theorem Tree.WellFormed.single {tree : Tree} (formed : tree.WellFormed) {kind other : TreeEntry}
    (listed : (path, kind) ∈ tree.entries) (listed' : (path, other) ∈ tree.entries) :
    other = kind :=
  congrArg Prod.snd (List.inj_on_of_nodup_map formed.distinct listed' listed rfl)

/-- What was at the destination before has its way back free exactly when it could have been moved
to the source in the first place. -/
theorem Transferred.movable_back_iff {back : List String}
    (done : Transferred parents source destination origin there)
    (empty : origin.candidates parents = []) (formed : source.WellFormed)
    (free : ∀ path ∈ source.outermost, destination.exists' path = false) :
    Movable back there origin ↔ Movable back destination source := by
  by_cases visible : Visible back
  swap
  · -- Nothing would be moved in either case.
    simp [Movable, candidates_of_hidden _ visible]
  have moved : ∀ path ∈ source.candidates parents, path ∈ source.outermost := fun path chosen =>
    Tree.mem_outermost.mpr (Tree.mem_candidates.mp chosen).2
  -- What is above an outermost directory has not been moved away.
  have stayed : ∀ path above, isOutermost path = true → above ∈ properPrefixes path →
      ∀ kind, (above, kind) ∈ source.entries → (above, kind) ∈ origin.entries := by
    intro path above outermost member kind listed
    refine (done.mem_origin empty).mpr ⟨listed, fun other chosen sub => ?_⟩
    exact not_isMutable_of_properPrefix outermost member
      ((isMutable_of_outermost (mem_candidates.mp chosen).2.2).of_above sub)
  unfold Movable
  rw [candidates_of_visible _ visible, candidates_of_visible _ visible]
  constructor
  · intro movable path chosen
    obtain ⟨listed, outermost⟩ := Tree.mem_outermost.mp chosen
    obtain ⟨absent, clear⟩ :=
      movable path (Tree.mem_outermost.mpr ⟨done.kept _ listed, outermost⟩)
    constructor
    · rw [Bool.eq_false_iff]
      intro present
      obtain ⟨kind, inside⟩ := exists_iff.mp present
      have gone : (path, kind) ∉ origin.entries := by
        intro stays
        rw [exists_of_mem stays] at absent
        cases absent
      -- It would have been moved itself, to a path that was taken.
      have sub : ∃ other ∈ source.candidates parents, other <+: path := by
        by_contra apart
        push Not at apart
        exact gone ((done.mem_origin empty).mpr ⟨inside, apart⟩)
      obtain ⟨other, outer, sub⟩ := sub
      obtain rfl := eq_of_outermost_below (mem_candidates.mp outer).2.2 outermost sub
      have taken := free other (moved other outer)
      rw [exists_of_mem listed] at taken
      cases taken
    · intro above member content found
      have inside := stayed path above outermost member _ (mem_of_entry found)
      refine clear above member content (entry_eq_of_mem inside fun other listed' => ?_)
      exact formed.single (done.left.subset inside) (done.left.subset listed')
  · intro movable path chosen
    rcases done.mem_outermost chosen with old | new
    · obtain ⟨absent, clear⟩ := movable path old
      constructor
      · rw [Bool.eq_false_iff]
        intro present
        obtain ⟨kind, inside⟩ := exists_iff.mp present
        rw [exists_of_mem (done.left.subset inside)] at absent
        cases absent
      · intro above member content found
        have inside := done.left.subset (mem_of_entry found)
        exact clear above member content
          (entry_eq_of_mem inside fun other listed' => formed.single inside listed')
    · obtain ⟨-, listed, outermost⟩ := mem_candidates.mp new
      constructor
      · rw [Bool.eq_false_iff]
        intro present
        obtain ⟨kind, inside⟩ := exists_iff.mp present
        exact ((done.mem_origin empty).mp inside).2 path new (List.prefix_refl path)
      · intro above member content found
        have inside := done.left.subset (mem_of_entry found)
        exact formed.no_file listed member content
          (entry_eq_of_mem inside fun other listed' => formed.single inside listed')

end Trees

section Runs

variable {host : ReleaseHost} {source destination : Place} {disk : ReleaseDisk}
  {locals : UpgradeLocals} {old : Tree}

/-- The tree at a place, where a missing directory counts as an empty one. -/
def ReleaseDisk.treeOrEmpty (disk : ReleaseDisk) (place : Place) : Tree :=
  (disk.tree place).getD ⟨[]⟩

theorem forEach_check_wp {ℓ : Type} {taken : List String → ReleaseDisk × ℓ → Bool}
    {message : List String → String} {paths : List (List String)} {state : ReleaseDisk × ℓ}
    {post : Except String Unit → ReleaseDisk × ℓ → Prop}
    (free : ∀ path ∈ paths, taken path state = false) :
    (forEach paths fun path => (get (taken path)) >>= fun there => reject there (message path)).wp
        false (fun _ _ => True) post state ↔ post (.ok ()) state := by
  induction paths with
  | nil => rfl
  | cons path rest ih =>
    have here := free path List.mem_cons_self
    rw [forEach, wp_andThen, wp_get_andThen, wp_reject, here]
    exact ih fun other inside => free other (List.mem_cons_of_mem _ inside)

/-- A destination that is not there is made before the first directory arrives. -/
theorem transferMutable_fresh {post : Except String Unit → ReleaseDisk × UpgradeLocals → Prop}
    (apart : source ≠ destination) (here : disk.tree source = some old)
    (absent : disk.tree destination = none) (more : old.candidates host.parents ≠ [])
    (holds : (transferMutable host source destination).wp false (fun _ _ => True) post
      (disk.put destination ⟨[]⟩, locals)) :
    (transferMutable host source destination).wp false (fun _ _ => True) post (disk, locals) := by
  obtain ⟨first, rest, shape⟩ := List.exists_cons_of_ne_nil more
  have here' : (disk.put destination ⟨[]⟩).tree source = some old := by
    rw [ReleaseDisk.tree_put, if_neg apart]
    exact here
  have made : (disk.put destination ⟨[]⟩).tree destination = some ⟨[]⟩ := by simp
  unfold transferMutable at holds ⊢
  rw [wp_get_andThen] at holds ⊢
  simp only [here, here', wp_andThen] at holds ⊢
  -- Nothing is taken where there is nothing.
  rw [forEach_check_wp (by simp [absent])]
  rw [forEach_check_wp (by simp [made, Tree.exists'])] at holds
  dsimp only at holds ⊢
  rw [shape, forEach, wp_andThen, moveMutable, wp_andThen, calm_durable] at holds ⊢
  simpa [makeRoot, Action.atomic, absent, made] using holds

/-- How a transfer between two trees ends: with everything moved, or with something in its way. -/
def TransferEnd (host : ReleaseHost) (source destination : Place) (old there : Tree)
    (outcome : Except String Unit) (state : ReleaseDisk × UpgradeLocals) : Prop :=
  match outcome with
  | .error _ => ¬Movable host.parents old there
  | .ok _ => Movable host.parents old there ∧
      Transferred host.parents old there (state.1.treeOrEmpty source)
        (state.1.treeOrEmpty destination) ∧
      (state.1.treeOrEmpty source).candidates host.parents = []

theorem transferMutable_end (host : ReleaseHost) (disk : ReleaseDisk) (locals : UpgradeLocals)
    (apart : source ≠ destination) :
    (transferMutable host source destination).wp false (fun _ _ => True)
      (TransferEnd host source destination (disk.treeOrEmpty source)
        (disk.treeOrEmpty destination)) (disk, locals) := by
  have still : ∀ old : Tree, disk.treeOrEmpty source = old → old.candidates host.parents = [] →
      TransferEnd host source destination old (disk.treeOrEmpty destination) (.ok ())
        (disk, locals) := by
    rintro old rfl none
    refine ⟨fun path chosen => ?_, .refl _ _ _, none⟩
    simp [none] at chosen
  cases here : disk.tree source with
  | none =>
    -- Nothing is moved from a directory that is not there.
    have empty : disk.treeOrEmpty source = ⟨[]⟩ := by rw [ReleaseDisk.treeOrEmpty, here]; rfl
    unfold transferMutable
    rw [wp_get_andThen]
    simp only [here]
    rw [empty]
    exact still _ empty (by simp [candidates])
  | some old =>
    have shape : disk.treeOrEmpty source = old := by rw [ReleaseDisk.treeOrEmpty, here]; rfl
    have moves : ∀ {base : ReleaseDisk} {there : Tree}, base.tree source = some old →
        base.tree destination = some there → (transferMutable host source destination).wp false
          (fun _ _ => True) (TransferEnd host source destination old there) (base, locals) := by
      intro base there here there'
      refine transfer_calm _ apart here there' (transferred_survives old there) (.refl _ _ _) ?_ ?_
      · exact fun message state blocked => blocked
      · intro after left now movable trading done empty
        refine ⟨movable, ?_⟩
        simp only [ReleaseDisk.treeOrEmpty, trading.origin, trading.there, Option.getD_some]
        exact ⟨done, empty⟩
    rw [shape]
    cases there : disk.tree destination with
    | some tree =>
      have shape' : disk.treeOrEmpty destination = tree := by
        rw [ReleaseDisk.treeOrEmpty, there]
        rfl
      rw [shape']
      exact moves here there
    | none =>
      have empty : disk.treeOrEmpty destination = ⟨[]⟩ := by
        rw [ReleaseDisk.treeOrEmpty, there]
        rfl
      by_cases more : old.candidates host.parents = []
      · -- Without a directory to move, not even the destination is made.
        unfold transferMutable
        rw [wp_get_andThen]
        simp only [here, more, forEach]
        exact still old shape more
      · rw [empty]
        refine transferMutable_fresh apart here there more (moves ?_ (by simp))
        rw [ReleaseDisk.tree_put, if_neg apart]
        exact here

end Runs

section Results

variable {host : ReleaseHost} {source destination : Place} {disk : ReleaseDisk}
  {locals : UpgradeLocals} {old : Tree} {above below : List String}

/-- What a transfer is to do to two trees: the outermost mutable directories, and nothing else, are
at the destination afterwards. -/
structure MovesMutable (sha256 : List UInt8 → String) (old there left now : Tree) : Prop where
  source : ∀ entry, entry ∈ left.entries ↔ entry ∈ old.entries ∧ ¬old.Holds entry.1
  moved : ∀ entry ∈ old.entries, old.Holds entry.1 → entry ∈ now.entries
  kept : ∀ entry ∈ there.entries, entry ∈ now.entries
  files : ∀ path content, (path, .file content) ∈ now.entries →
    (path, .file content) ∈ there.entries ∨ ((path, .file content) ∈ old.entries ∧ old.Holds path)
  sourceInventory : left.inventory sha256 = old.inventory sha256
  destinationInventory : now.inventory sha256 = there.inventory sha256

/-- Moving the directories, and moving them back afterwards. The directories above the source and
above the destination have names of their own. -/
def MovesAsAWhole (host : ReleaseHost) (above below : List String) (source destination : Place)
    (disk : ReleaseDisk) (locals : UpgradeLocals) : Prop :=
  let first := (transferMutable { host with parents := above } source destination).start
    (disk, locals) []
  let after := first.2.state
  let second := (transferMutable { host with parents := below } destination source).start after []
  let last := second.2.state.1
  let old := disk.treeOrEmpty source
  first.1 = .ok () ∧
    MovesMutable host.sha256 old (disk.treeOrEmpty destination) (after.1.treeOrEmpty source)
      (after.1.treeOrEmpty destination) ∧
    second.1 = .ok () ∧ ∀ entry ∈ old.entries, old.Holds entry.1 →
      entry ∈ (last.treeOrEmpty source).entries ∧ entry ∉ (last.treeOrEmpty destination).entries

theorem Transferred.movesMutable {there left now : Tree} (sha256 : List UInt8 → String)
    (done : Transferred above old there left now) (empty : left.candidates above = [])
    (whole : old.candidates above = old.outermost) : MovesMutable sha256 old there left now where
  source := by
    intro entry
    rw [done.mem_origin empty, whole]
    simp [Tree.Holds]
  moved := by
    rintro entry listed ⟨path, chosen, sub⟩
    exact done.mem_there empty listed (whole ▸ chosen) sub
  kept := done.kept
  files := by
    intro path content listed
    rcases done.arrived _ listed with before | ⟨inside, other, chosen, sub⟩ | ⟨directory, -⟩
    · exact .inl before
    · exact .inr ⟨inside, other, whole ▸ chosen, sub⟩
    · cases directory
  sourceInventory := Tree.inventory_congr done.released sha256
  destinationInventory := Tree.inventory_congr done.received sha256

/-- A tree without mutable directories has nothing that could be hidden. -/
theorem Tree.candidates_eq_outermost {tree : Tree} {parents : List String}
    (visible : tree.outermost ≠ [] → Visible parents) :
    tree.candidates parents = tree.outermost := by
  by_cases none : tree.outermost = []
  · rw [tree.candidates_eq, none]
    split <;> rfl
  · exact tree.candidates_of_visible (visible none)

/-- Whether nothing is in the way of a transfer to a destination where the moved directories are
not, and of the one back. -/
structure MovesFreely (above below : List String) (old there : Tree) : Prop where
  visible : old.outermost ≠ [] → Visible above ∧ Visible below
  clear : ∀ path ∈ old.outermost, ∀ parent ∈ properPrefixes path, ∀ content,
    there.entry parent ≠ some (.file content)
  back : Movable below there old

/-- The mutable directories are moved as a whole, and can be moved back, exactly when no directory
above the source or the destination has a mutable name, no file is where one of their parents has
to be, and nothing is in the way of what the destination would send back. -/
theorem transfer_moves_whole_iff (host : ReleaseHost) (above below : List String)
    (source destination : Place) (disk : ReleaseDisk) (locals : UpgradeLocals)
    (apart : source ≠ destination) (formed : (disk.treeOrEmpty source).WellFormed)
    (free : ∀ path ∈ (disk.treeOrEmpty source).outermost,
      (disk.treeOrEmpty destination).exists' path = false) :
    MovesAsAWhole host above below source destination disk locals ↔
      MovesFreely above below (disk.treeOrEmpty source) (disk.treeOrEmpty destination) := by
  have first := start_calm
    (transferMutable_end { host with parents := above } disk locals apart)
  unfold MovesAsAWhole
  dsimp only
  revert first
  generalize (transferMutable { host with parents := above } source destination).start
    (disk, locals) [] = run
  intro first
  have second := start_calm
    (transferMutable_end { host with parents := below } run.2.state.1 run.2.state.2 apart.symm)
  revert second
  generalize (transferMutable { host with parents := below } destination source).start
    run.2.state [] = back
  intro second
  generalize disk.treeOrEmpty source = old, disk.treeOrEmpty destination = there at *
  have listed : ∀ path ∈ old.outermost, (path, .directory) ∈ old.entries ∧ old.Holds path :=
    fun path chosen => ⟨(Tree.mem_outermost.mp chosen).1, path, chosen, List.prefix_refl path⟩
  constructor
  · rintro ⟨moved, moves, returned, placed⟩
    simp only [TransferEnd, moved] at first
    simp only [TransferEnd, returned] at second
    obtain ⟨movable, done, empty⟩ := first
    obtain ⟨movable', done', empty'⟩ := second
    have visible : old.outermost ≠ [] → Visible above := by
      intro some
      obtain ⟨path, chosen⟩ := List.exists_mem_of_ne_nil _ some
      by_contra hidden
      -- What is hidden stays where it is.
      have stays := (done.mem_origin empty).mpr ⟨(listed path chosen).1, by
        simp [Tree.candidates_of_hidden _ hidden]⟩
      exact ((moves.source _).mp stays).2 (listed path chosen).2
    have whole := Tree.candidates_eq_outermost visible
    refine ⟨fun some => ⟨visible some, ?_⟩, ?_, ?_⟩
    · obtain ⟨path, chosen⟩ := List.exists_mem_of_ne_nil _ some
      by_contra hidden
      have arrived := moves.moved _ (listed path chosen).1 (listed path chosen).2
      have stays := (done'.mem_origin empty').mpr ⟨arrived, by
        simp [Tree.candidates_of_hidden _ hidden]⟩
      exact (placed _ (listed path chosen).1 (listed path chosen).2).2 stays
    · exact fun path chosen => (movable path (whole ▸ chosen)).2
    · exact (done.movable_back_iff empty formed free).mp movable'
  · rintro ⟨visible, clear, free'⟩
    have whole := Tree.candidates_eq_outermost fun some => (visible some).1
    have movable : Movable above old there := by
      intro path chosen
      rw [whole] at chosen
      exact ⟨free path chosen, clear path chosen⟩
    cases moved : run.1 with
    | error message =>
      simp only [TransferEnd, moved] at first
      exact absurd movable first
    | ok _ =>
      simp only [TransferEnd, moved] at first
      obtain ⟨-, done, empty⟩ := first
      cases returned : back.1 with
      | error message =>
        simp only [TransferEnd, returned] at second
        exact absurd ((done.movable_back_iff empty formed free).mpr free') second
      | ok _ =>
        simp only [TransferEnd, returned] at second
        obtain ⟨-, done', empty'⟩ := second
        refine ⟨rfl, done.movesMutable host.sha256 empty whole, rfl, ?_⟩
        rintro entry inside ⟨path, chosen, sub⟩
        have arrived := done.mem_there empty inside (whole ▸ chosen) sub
        -- Where it has arrived, it is again one of the directories to be moved.
        have again : path ∈ (run.2.state.1.treeOrEmpty destination).candidates below := by
          rw [Tree.candidates_of_visible _ (visible (List.ne_nil_of_mem chosen)).2]
          have outermost := (Tree.mem_outermost.mp chosen).2
          exact Tree.mem_outermost.mpr ⟨done.mem_there empty (Tree.mem_outermost.mp chosen).1
            (whole ▸ chosen) (List.prefix_refl path), outermost⟩
        refine ⟨done'.mem_there empty' arrived again sub, fun stays => ?_⟩
        exact ((done'.mem_origin empty').mp stays).2 path again sub

/-- A release with logs, a data directory inside them, and another one below the code cache. -/
def servedRelease : Tree :=
  ⟨[(["bin"], .directory), (["bin", "app"], .file [2]), (["codeCache"], .directory),
    (["codeCache", "data"], .directory), (["codeCache", "data", "index"], .file [3]),
    (["logs"], .directory), (["logs", "data"], .directory), (["logs", "data", "a"], .file [1])]⟩

/-- The release beside a backup that has a program file only. -/
def servedDisk : ReleaseDisk where
  trees := [(.target, servedRelease), (.backup "u1", ⟨[(["app"], .file [1])]⟩)]

theorem servedRelease_wellFormed : (servedDisk.treeOrEmpty .target).WellFormed :=
  ⟨by decide, by decide⟩

/-- Below `/opt`, the logs and the data of the code cache are moved to the backup and back. -/
theorem served_state_moves_and_returns :
    MovesAsAWhole sampleHost ["/", "opt"] ["/", "opt"] .target (.backup "u1") servedDisk {} := by
  refine (transfer_moves_whole_iff sampleHost ["/", "opt"] ["/", "opt"] .target (.backup "u1")
    servedDisk {} (by decide) servedRelease_wellFormed (by decide)).mpr ⟨?_, ?_, ?_⟩
  · exact fun _ => by simp [Visible, mutableParts]
  · intro path chosen parent member content found
    have absent : ∀ path ∈ (servedDisk.treeOrEmpty .target).outermost,
        ∀ parent ∈ properPrefixes path,
          (servedDisk.treeOrEmpty (.backup "u1")).entry parent = none := by decide
    rw [absent path chosen parent member] at found
    cases found
  · have quiet : (servedDisk.treeOrEmpty (.backup "u1")).candidates ["/", "opt"] = [] := by decide
    intro path chosen
    rw [quiet] at chosen
    cases chosen

/-- Below `/srv/data`, the same release keeps everything: the name of a directory above the source
hides its mutable directories. -/
theorem transfer_below_data_moves_nothing :
    ¬∀ (host : ReleaseHost) (above below : List String) (source destination : Place)
      (disk : ReleaseDisk) (locals : UpgradeLocals), source ≠ destination →
      (disk.treeOrEmpty source).WellFormed →
      (∀ path ∈ (disk.treeOrEmpty source).outermost,
        (disk.treeOrEmpty destination).exists' path = false) →
      MovesAsAWhole host above below source destination disk locals := by
  intro always
  obtain ⟨-, moves, -⟩ := always sampleHost ["/", "srv", "data"] ["/", "srv", "data"] .target
    (.backup "u1") servedDisk {} (by decide) servedRelease_wellFormed (by decide)
  have stays : ((transferMutable { sampleHost with parents := ["/", "srv", "data"] } .target
      (.backup "u1")).start (servedDisk, {}) []).2.state.1.treeOrEmpty .target = servedRelease := by
    decide +kernel
  have left := (moves.source (["logs"], .directory)).mp (by rw [stays]; decide)
  exact left.2 ⟨["logs"], by decide, List.prefix_refl _⟩

end Results

end PocoDDS.Tools
