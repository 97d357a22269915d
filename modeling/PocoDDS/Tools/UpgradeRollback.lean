import PocoDDS.Lib.SingleFault
import PocoDDS.Tools.ReleaseTransfer

/-! A manual rollback that fails: what its reconciliation brings back, and what it cannot. -/

namespace PocoDDS.Tools

open AssocList CrashLogic ProcessLogic Process ReleaseDisk

section Trees

variable {parents : List String} {active backup left now part rest final : Tree}

/-- What stays in a tree when its mutable directories have been moved away. -/
def Tree.staying (parents : List String) (tree : Tree) : Tree :=
  ⟨tree.entries.filter fun entry => decide (∀ path ∈ tree.candidates parents, ¬path <+: entry.1)⟩

/-- A part of a list without repetitions is what a filter for its members leaves. -/
theorem sublist_eq_filter {α : Type} {chosen whole : List α} {keep : α → Bool}
    (sub : chosen.Sublist whole) (distinct : whole.Nodup)
    (same : ∀ item ∈ whole, item ∈ chosen ↔ keep item = true) : chosen = whole.filter keep := by
  induction sub with
  | slnil => rfl
  | @cons chosen whole item sub ih =>
    obtain ⟨new, distinct⟩ := List.nodup_cons.mp distinct
    have dropped : keep item = false := by
      rw [Bool.eq_false_iff]
      intro kept
      exact new (sub.subset ((same item List.mem_cons_self).mpr kept))
    rw [List.filter_cons_of_neg (by simp [dropped])]
    exact ih distinct fun other inside => same other (List.mem_cons_of_mem _ inside)
  | @cons_cons chosen whole item sub ih =>
    obtain ⟨new, distinct⟩ := List.nodup_cons.mp distinct
    have kept := (same item List.mem_cons_self).mp List.mem_cons_self
    rw [List.filter_cons_of_pos kept]
    refine congrArg _ (ih distinct fun other inside => ?_)
    rw [← same other (List.mem_cons_of_mem _ inside), List.mem_cons]
    constructor
    · exact .inr
    · rintro (rfl | there)
      · exact absurd inside new
      · exact there

theorem Transferred.left_eq (done : Transferred parents active backup left now)
    (empty : left.candidates parents = []) (formed : active.WellFormed) :
    left = active.staying parents := by
  refine congrArg Tree.mk (sublist_eq_filter done.left formed.distinct.of_map fun entry inside => ?_)
  rw [done.mem_origin empty, decide_eq_true_eq]
  exact and_iff_right inside

/-- Moving the directories back restores all of a tree, however far the first transfer came. -/
theorem Transferred.restored (done : Transferred parents active backup left now)
    (back : Transferred parents now left rest final) (empty : rest.candidates parents = []) :
    final.released = active.released ∧ ∀ entry ∈ active.entries, entry ∈ final.entries := by
  refine ⟨back.received.trans done.released, fun entry inside => ?_⟩
  by_cases moved : ∃ path ∈ active.candidates parents, path <+: entry.1
  · obtain ⟨path, chosen, sub⟩ := moved
    rcases done.carried entry inside path chosen sub with here | ⟨gone, again⟩
    · exact back.kept entry here
    · exact back.mem_there empty gone again sub
  · push Not at moved
    exact back.kept entry (done.outside entry inside moved)

theorem Tree.Holds.isMutable {tree : Tree} {path : List String} (held : tree.Holds path) :
    IsMutable path := by
  obtain ⟨above, chosen, sub⟩ := held
  exact (isMutable_of_outermost (Tree.mem_outermost.mp chosen).2).of_above sub

variable (done : Transferred parents active backup left now) (empty : left.candidates parents = [])
include done empty

/-- The mutable directories are at the destination exactly when their names are visible there, or
the destination has had all of them before. -/
theorem Transferred.keeps_held_iff :
    (∀ entry ∈ active.entries, active.Holds entry.1 → entry ∈ now.entries) ↔ Visible parents ∨
        ∀ entry ∈ active.entries, active.Holds entry.1 → entry ∈ backup.entries := by
  constructor
  · intro kept
    by_cases visible : Visible parents
    · exact .inl visible
    · refine .inr fun entry inside held => ?_
      rcases done.arrived entry (kept entry inside held) with old | ⟨-, other, outer, -⟩ | ⟨-, free⟩
      · exact old
      · simp [Tree.candidates_of_hidden _ visible] at outer
      · exact absurd held.isMutable free
  · rintro (visible | kept)
    · rintro entry inside ⟨path, chosen, sub⟩
      exact done.mem_there empty inside (by rwa [Tree.candidates_of_visible _ visible]) sub
    · exact fun entry inside held => done.kept entry (kept entry inside held)

/-- After a part of the displaced tree has been deleted, the rest is what it was before exactly when
nothing of the release and nothing of its mutable directories was among it. -/
theorem Transferred.restored_part_iff (formed : active.WellFormed) (cut : Nat)
    (back : Transferred parents now ⟨left.entries.drop cut⟩ rest final)
    (empty' : rest.candidates parents = []) (sha256 : List UInt8 → String) :
    (final.inventory sha256 = active.inventory sha256 ∧
        ∀ entry ∈ active.entries, active.Holds entry.1 → entry ∈ final.entries) ↔
      ∀ entry ∈ (active.staying parents).entries.take cut,
        isReleased entry = false ∧ ¬active.Holds entry.1 := by
  rw [← done.left_eq empty formed]
  have split : left.entries.take cut ++ left.entries.drop cut = left.entries :=
    List.take_append_drop cut left.entries
  have distinct : left.entries.Nodup := formed.distinct.of_map.sublist done.left
  have received : final.released = (⟨left.entries.drop cut⟩ : Tree).released := back.received
  constructor
  · rintro ⟨same, kept⟩ entry deleted
    have inside := done.left.subset (List.mem_of_mem_take deleted)
    constructor
    · -- With as many records as before, no released file is missing.
      rw [Tree.inventory_congr received, ← Tree.inventory_congr done.released] at same
      have all := Tree.released_of_suffix (List.drop_suffix cut left.entries) same
      have none : (left.entries.take cut).filter isReleased = [] := by
        have lengths := congrArg List.length (congrArg (List.filter isReleased) split)
        rw [List.filter_append, List.length_append] at lengths
        have lengths' := congrArg List.length all
        simp only [Tree.released] at lengths'
        exact List.eq_nil_of_length_eq_zero (by omega)
      simpa using List.filter_eq_nil_iff.mp none entry deleted
    · intro held
      -- It was not moved, so the directories are hidden, and nothing is moved back either.
      have stayed := ((done.mem_origin empty).mp (List.mem_of_mem_take deleted)).2
      obtain ⟨path, chosen, sub⟩ := id held
      have hidden : ¬Visible parents := by
        intro visible
        exact stayed path (by rwa [Tree.candidates_of_visible _ visible]) sub
      rcases back.arrived entry (kept entry inside held) with
        remaining | ⟨-, other, outer, -⟩ | ⟨-, immutable⟩
      · rw [← split] at distinct
        exact (List.nodup_append.mp distinct).2.2 entry deleted entry remaining rfl
      · simp [Tree.candidates_of_hidden _ hidden] at outer
      · exact immutable held.isMutable
  · intro harmless
    constructor
    · rw [Tree.inventory_congr received, ← Tree.inventory_congr done.released]
      refine Tree.inventory_congr ?_ sha256
      have none : (left.entries.take cut).filter isReleased = [] := by
        refine List.filter_eq_nil_iff.mpr fun entry deleted => ?_
        simp [(harmless entry deleted).1]
      have whole := congrArg (List.filter isReleased) split
      rw [List.filter_append, none, List.nil_append] at whole
      exact whole
    · intro entry inside held
      by_cases moved : ∃ path ∈ active.candidates parents, path <+: entry.1
      · obtain ⟨path, chosen, sub⟩ := moved
        rcases done.carried entry inside path chosen sub with here | ⟨gone, again⟩
        · exact absurd sub (((done.mem_origin empty).mp here).2 path chosen)
        · exact back.mem_there empty' gone again sub
      · push Not at moved
        have stayed := done.outside entry inside moved
        rw [← split] at stayed
        rcases List.mem_append.mp stayed with deleted | remaining
        · exact absurd held (harmless entry deleted).2
        · exact back.kept entry remaining

end Trees

section Reconcile

variable {host : ReleaseHost} {backup displaced : Place} {disk : ReleaseDisk}
  {locals : UpgradeLocals}

/-- Where a rollback of an installed release may stop: the mutable directories are with `now`, and
`part` is what there is of the rest of the active release. -/
inductive Midway (backup displaced : Place) (left now part : Tree) (disk : ReleaseDisk) : Prop
  | moving (whole : part = left) (target : disk.tree .target = some left)
      (there : disk.tree backup = some now) (free : disk.tree displaced = none)
  | away (whole : part = left) (target : disk.tree .target = none)
      (there : disk.tree backup = some now) (aside : disk.tree displaced = some left)
  | replaced (target : disk.tree .target = some now) (gone : disk.tree backup = none)
      (aside : disk.tree displaced = some part)

/-- A transfer between two directories that are there, as part of a reconciliation. -/
theorem transferMutable_back {source destination : Place} {now part : Tree}
    {post : Except String Unit → ReleaseDisk × UpgradeLocals → Prop}
    (apart : source ≠ destination) (here : disk.tree source = some now)
    (there : disk.tree destination = some part)
    (failed : ∀ message state, post (.error message) state)
    (ended : ∀ after rest final, Trading disk source destination rest final after →
      Transferred host.parents now part rest final → rest.candidates host.parents = [] →
      post (.ok ()) (after, locals)) :
    (transferMutable host source destination).wp false (fun _ _ => True) post (disk, locals) :=
  transfer_calm _ apart here there (transferred_survives now part) (.refl _ _ _)
    (fun message state _ => failed message state)
    fun after rest final _ trading done empty => ended after rest final trading done empty

variable {now left part : Tree} (apart : backup ≠ displaced) (target : Place.target ≠ backup)
  (target' : Place.target ≠ displaced) (midway : Midway backup displaced left now part disk)
include apart target target' midway

/-- The reconciliation puts together what it finds, wherever the rollback has stopped. -/
theorem reactivate_midway :
    (reactivate host backup displaced).wp false (fun _ _ => True) (fun outcome after =>
      ∀ value, outcome = .ok value → ∃ rest final, after.1.tree .target = some final ∧
        Transferred host.parents now part rest final ∧ rest.candidates host.parents = [])
      (disk, locals) := by
  unfold reactivate
  rw [wp_get_andThen]
  cases midway with
  | moving whole here there free =>
    simp only [exists_of_none free, exists_of_some here, exists_of_some there, Bool.false_eq_true,
      if_false, Bool.and_self, if_true]
    refine transferMutable_back target.symm there here (fun _ _ _ same => by cases same) ?_
    intro after rest final trading done empty _ _
    exact ⟨rest, final, trading.there, whole ▸ done, empty⟩
  | away whole here there aside =>
    simp only [exists_of_none here, exists_of_some there, exists_of_some aside, Bool.false_eq_true,
      if_false, if_true]
    rw [wp_andThen]
    refine transferMutable_back apart there aside (fun _ _ _ same => by cases same) ?_
    intro after rest final trading done empty
    have free : after.tree .target = none := (trading.others _ target target').trans here
    dsimp only
    refine rename_calm trading.there free ?_
    exact fun _ _ => ⟨rest, final, by simp, whole ▸ done, empty⟩
  | replaced here gone aside =>
    simp only [exists_of_some here, exists_of_some aside, if_true]
    rw [wp_andThen]
    refine transferMutable_back target' here aside (fun _ _ _ same => by cases same) ?_
    intro after rest final trading done empty
    have free : after.tree backup = none := (trading.others _ target.symm apart).trans gone
    dsimp only
    rw [wp_get_andThen, wp_andThen, wp_reject]
    simp only [exists_of_none free, Bool.false_eq_true, if_false]
    rw [wp_andThen]
    refine rename_calm trading.origin free ?_
    -- Now the target is free for the displaced release.
    have aside' : ((after.remove .target).put backup rest).tree displaced = some final := by
      rw [tree_put, if_neg apart.symm, tree_remove, if_neg target'.symm]
      exact trading.there
    have free' : ((after.remove .target).put backup rest).tree .target = none := by
      rw [tree_put, if_neg target, tree_remove, if_pos rfl]
    dsimp only
    refine rename_calm aside' free' ?_
    exact fun _ _ => ⟨rest, final, by simp, done, empty⟩

/-- A rollback that was stopped half-way returns 1 if its reconciliation does not raise. -/
theorem rollbackFailed_midway {upgradeId error : String} :
    (rollbackFailed host upgradeId backup displaced error).wp false (fun _ _ => True)
      (fun outcome after => ∀ code, outcome = .ok code → code = 1 ∧ ∃ rest final,
        after.1.tree .target = some final ∧ Transferred host.parents now part rest final ∧
        rest.candidates host.parents = []) (disk, locals) := by
  unfold rollbackFailed
  refine wp_sequence (reactivate_midway apart target target' midway)
    (fun _ _ holds => fun code same => by cases same) fun value after holds => ?_
  obtain ⟨rest, final, here, done, empty⟩ := holds value rfl
  rw [wp_andThen, calm_durable]
  intro code same
  cases same
  exact ⟨rfl, rest, final, here, done, empty⟩

omit apart target target' midway

/-- Where nothing is displaced and there are not both releases, nothing is reconciled. -/
theorem rollbackFailed_idle {upgradeId error : String} (free : disk.tree displaced = none)
    (one : disk.tree .target = none ∨ disk.tree backup = none) :
    (rollbackFailed host upgradeId backup displaced error).wp false (fun _ _ => True)
      (fun outcome after => outcome = .ok 1 ∧ after.1.tree .target = disk.tree .target)
      (disk, locals) := by
  unfold rollbackFailed reactivate
  rw [wp_andThen, wp_get_andThen]
  simp only [exists_of_none free, Bool.false_eq_true, if_false]
  have quiet : (disk.exists' .target && disk.exists' backup) = false := by
    rcases one with none | none
    · simp [exists_of_none none]
    · simp [exists_of_none none]
  simp only [quiet, Bool.false_eq_true, if_false]
  rw [wp_pure]
  dsimp only
  rw [wp_andThen, calm_durable]
  exact ⟨rfl, rfl⟩

end Reconcile

section Body

variable {host : ReleaseHost} {backup displaced : Place} {disk : ReleaseDisk}
  {active old : Tree} {due : Option Nat} {cut : Nat}

theorem transferMutable_straight (host : ReleaseHost) (source destination : Place) :
    (transferMutable host source destination).Straight := by
  refine (Straight.get _).andThen fun tree => ?_
  cases tree with
  | none => trivial
  | some tree =>
    refine Straight.andThen (Straight.forEach fun path => ?_) fun _ =>
      Straight.forEach fun path => ?_
    · exact (Straight.get _).andThen fun _ => Straight.reject _ _
    · refine (Straight.durable _).andThen fun _ => Straight.andThen ?_ fun _ => Straight.durable _
      exact Straight.forEach fun _ => Straight.durable _

/-- How many steps it takes to move the mutable directories to the backup. -/
def movingSteps (host : ReleaseHost) (backup : Place) (disk : ReleaseDisk) : Nat :=
  (transferMutable host .target backup).acts (disk, {})

/-- What a transfer leaves behind when it is the first part of a rollback. -/
theorem transferMutable_struck (apart : Place.target ≠ backup)
    (here : disk.tree .target = some active) (there : disk.tree backup = some old) :
    (transferMutable host .target backup).struck due (fun outcome count after =>
      (after.2 = {} ∧ ∃ left now, Trading disk .target backup left now after.1 ∧
        Transferred host.parents active old left now ∧
        (outcome = .ok () → left.candidates host.parents = [])) ∧
      count ≤ 0 + movingSteps host backup disk ∧ ∀ value, outcome = .ok value →
        count = 0 + movingSteps host backup disk ∧ Ahead due count) 0 (disk, {}) (some cut) := by
  refine struck_and ?_ ((transferMutable_straight host .target backup).struck_acts ?_)
  swap
  · exact fun step _ => Nat.zero_le step
  have moves : (transferMutable host .target backup).wp true (fun _ _ => True)
      (fun outcome after => after.2 = {} ∧ ∃ left now,
        Trading disk .target backup left now after.1 ∧
        Transferred host.parents active old left now ∧
        (outcome = .ok () → left.candidates host.parents = [])) (disk, {}) := by
    refine transferMutable_wp apart (transferred_survives active old)
      (fun _ _ _ _ _ _ _ _ _ _ => trivial) ?_ ?_ (.refl here there) (.refl _ _ _)
    · intro after left now message trading done _
      exact ⟨rfl, left, now, trading, done, fun same => by cases same⟩
    · intro after left now trading done empty
      exact ⟨rfl, left, now, trading, done, fun _ => empty⟩
  exact struck_of_wp moves

/-- Where a rollback of an installed release has stopped, and at which step. -/
inductive StoppedRollback (host : ReleaseHost) (backup displaced : Place) (active old : Tree)
    (due : Option Nat) (cut steps : Nat) (disk : ReleaseDisk) : Prop
  /-- The active release is all there, in one or two places. -/
  | whole (left now : Tree) (done : Transferred host.parents active old left now)
      (midway : Midway backup displaced left now left disk) (before : due ≠ some (steps + 6))
      (uncut : due = some (steps + 5) →
        left.candidates host.parents = [] ∧ left.entries.length < cut)
  /-- A part of the displaced tree has been deleted. -/
  | part (left now : Tree) (done : Transferred host.parents active old left now)
      (empty : left.candidates host.parents = []) (here : due = some (steps + 5))
      (within : cut ≤ left.entries.length)
      (midway : Midway backup displaced left now ⟨left.entries.drop cut⟩ disk)
  /-- The displaced tree is gone. -/
  | gone (left now : Tree) (done : Transferred host.parents active old left now)
      (empty : left.candidates host.parents = []) (here : due = some (steps + 6))
      (target : disk.tree .target = some now) (none' : disk.tree backup = none)
      (free : disk.tree displaced = none)

/-- Before the removal has begun, no removal can have been cut. -/
theorem StoppedRollback.early {count steps : Nat} {left now : Tree} {after : ReleaseDisk}
    (past : Past due count) (bound : count ≤ steps + 5)
    (done : Transferred host.parents active old left now)
    (midway : Midway backup displaced left now left after) :
    StoppedRollback host backup displaced active old due cut steps after := by
  refine .whole left now done midway (fun here => ?_) fun here => ?_
  · have taken := past _ here
    omega
  · have taken := past _ here
    omega

/-- How the guarded part of a rollback of an installed release ends. -/
def EndedOrStuck (host : ReleaseHost) (backup displaced : Place) (active old : Tree)
    (due : Option Nat) (cut steps : Nat) (outcome : Except String Nat) (count : Nat)
    (after : ReleaseDisk × UpgradeLocals) : Prop :=
  match outcome with
  | .ok value => value = 0
  | .error _ => Past due count → StoppedRollback host backup displaced active old due cut steps after.1

theorem removeDirectory_leaves {place : Place} {tree : Tree} {left : ReleaseDisk}
    (here : disk.tree place = some tree)
    (leaves : Leaves (removeDirectory place) (some cut) disk left) :
    (cut ≤ tree.entries.length ∧ left = disk.put place ⟨tree.entries.drop cut⟩) ∨
      (tree.entries.length < cut ∧ left = disk) := by
  simp only [Leaves, removeDirectory, here] at leaves
  rcases Nat.lt_or_ge tree.entries.length cut with outside | within
  · refine .inr ⟨outside, leaves.trans (List.getD_eq_default _ _ ?_)⟩
    simp only [List.length_map, List.length_range]
    omega
  · refine .inl ⟨within, leaves.trans ?_⟩
    rw [List.getD_eq_getElem _ _ (by simp; omega)]
    simp

/-- The end of a rollback of an installed release, from the time when both releases have been
exchanged. -/
theorem confirmRollback_stopped {steps : Nat} {left now : Tree} {after : ReleaseDisk}
    (apart : backup ≠ displaced) (target' : Place.target ≠ displaced)
    (done : Transferred host.parents active old left now) (empty : left.candidates host.parents = [])
    (here : after.tree .target = some now) (gone : after.tree backup = none)
    (aside : after.tree displaced = some left) (ahead : Ahead due (steps + 2)) (upgradeId : String) :
    (confirmRollback host upgradeId displaced (inventoryOf host (some old))).struck due
      (EndedOrStuck host backup displaced active old due cut steps) (steps + 2) (after, {}) (some cut) := by
  have same : inventoryOf host (after.tree .target) = inventoryOf host (some old) := by
    rw [here]
    exact Tree.inventory_congr done.received host.sha256
  unfold confirmRollback readVersion
  refine struck_step ahead ?_ fun ahead => ?_
  · intro due' message past
    exact .early past (by omega) done (.replaced here gone aside)
  dsimp only
  rw [struck_andThen, verifyInventory, struck_get_andThen, struck_reject,
    if_neg (by simpa using same)]
  dsimp only
  rw [struck_andThen, struck_andThen]
  refine struck_atomic ahead ?_ fun ahead => ?_
  · intro due' message past
    exact .early past (by omega) done (.replaced here gone aside)
  dsimp only
  rw [struck_get_andThen, struck_ofExcept, here]
  cases version : deployedVersion host (some now) with
  | error message =>
    intro past
    exact .early past (by omega) done (.replaced here gone aside)
  | ok value =>
    dsimp only
    refine struck_step ahead ?_ fun ahead => ?_
    · intro due' message past
      exact .early past (by omega) done (.replaced here gone aside)
    dsimp only
    generalize recorded : { after with
      audit := after.audit ++ [UpgradeEvent.manualRollback upgradeId value] } = final
    have trees : ∀ place, final.tree place = after.tree place := fun place => recorded ▸ rfl
    rw [struck_andThen, removeTree, struck_get_andThen, struck_whenever,
      if_pos (exists_of_some ((trees displaced).trans aside))]
    refine struck_cut ahead ?_ fun ahead => ?_
    · intro due' message part leaves past
      rcases removeDirectory_leaves ((trees displaced).trans aside) leaves with
        ⟨within, rfl⟩ | ⟨outside, rfl⟩
      · refine .part left now done empty due' within (.replaced ?_ ?_ (by simp))
        · rw [tree_put, if_neg target', trees, here]
        · rw [tree_put, if_neg apart, trees, gone]
      · refine .whole left now done (.replaced ((trees _).trans here) ((trees _).trans gone)
          ((trees _).trans aside)) (by simp [due']) fun _ => ⟨empty, outside⟩
    simp only [removeDirectory, trees, aside]
    have here' : (final.remove displaced).tree .target = some now := by
      rw [tree_remove, if_neg target', trees, here]
    rw [struck_andThen, struck_andThen]
    refine struck_atomic ahead ?_ fun ahead => ?_
    · intro due' message past
      refine .gone left now done empty due' here' ?_ (by simp)
      rw [tree_remove, if_neg apart, trees, gone]
    dsimp only
    rw [struck_get_andThen, struck_ofExcept, here', version]
    exact rfl

/-- Wherever a rollback of an installed release stops, it is known what is left of it. -/
theorem rollbackBody_stopped (apart : backup ≠ displaced) (target : Place.target ≠ backup)
    (target' : Place.target ≠ displaced) (here : disk.tree .target = some active)
    (there : disk.tree backup = some old) (free : disk.tree displaced = none)
    (upgradeId : String) :
    (rollbackBody host upgradeId backup displaced (inventoryOf host (some old))).struck due
      (EndedOrStuck host backup displaced active old due cut (movingSteps host backup disk)) 0
      (disk, {}) (some cut) := by
  unfold rollbackBody
  rw [struck_get_andThen, struck_andThen, struck_whenever, if_pos (exists_of_some here)]
  refine struck_mono ?_ (transferMutable_struck target here there)
  rintro outcome count ⟨after, locals⟩ ⟨⟨rfl, left, now, trading, done, empty⟩, bound, counted⟩
  have free' : after.tree displaced = none := (trading.others _ target'.symm apart.symm).trans free
  cases outcome with
  | error message =>
    intro past
    exact .early past (by omega) done (.moving rfl trading.origin trading.there free')
  | ok _ =>
    obtain ⟨rfl, ahead⟩ := counted () rfl
    have empty := empty rfl
    rw [Nat.zero_add] at ahead ⊢
    dsimp only
    rw [struck_get_andThen, struck_andThen, struck_whenever,
      if_pos (exists_of_some trading.origin), rename]
    refine struck_atomic ahead ?_ fun ahead => ?_
    · intro due' message past
      exact .early past (by omega) done (.moving rfl trading.origin trading.there free')
    simp only [trading.origin, free']
    -- The active release is aside, and its place is free.
    have target₁ : ((after.remove .target).put displaced left).tree .target = none := by
      rw [tree_put, if_neg target', tree_remove, if_pos rfl]
    have backup₁ : ((after.remove .target).put displaced left).tree backup = some now := by
      rw [tree_put, if_neg apart, tree_remove, if_neg target.symm]
      exact trading.there
    have aside₁ : ((after.remove .target).put displaced left).tree displaced = some left := by
      simp
    refine struck_step ahead ?_ fun ahead => ?_
    · intro due' message past
      exact .early past (by omega) done (.away rfl target₁ backup₁ aside₁)
    simp only [target₁, backup₁]
    refine confirmRollback_stopped apart target' done empty (by simp) ?_ ?_ ahead upgradeId
    · rw [tree_put, if_neg target.symm, tree_remove, if_pos rfl]
    · rw [tree_put, if_neg target'.symm, tree_remove, if_neg apart.symm]
      exact aside₁

/-- A rollback without an installed release leaves the backup in the target, unless its rename
fails. -/
theorem rollbackBody_absent (target : Place.target ≠ backup) (target' : Place.target ≠ displaced)
    (apart : backup ≠ displaced) (absent : disk.tree .target = none)
    (there : disk.tree backup = some old) (free : disk.tree displaced = none) (upgradeId : String) :
    (rollbackBody host upgradeId backup displaced (inventoryOf host (some old))).struck due
      (fun outcome _ after =>
        match outcome with
        | .ok value => value = 0
        | .error _ => after.1.tree displaced = none ∧
            ((due = some 0 ∧ after.1.tree .target = none) ∨
              (due ≠ some 0 ∧ after.1.tree .target = some old ∧ after.1.tree backup = none)))
      0 (disk, {}) (some cut) := by
  have ahead : Ahead due 0 := fun step _ => Nat.zero_le step
  have missing : ¬disk.exists' .target = true := by simp [exists_of_none absent]
  unfold rollbackBody
  rw [struck_get_andThen, struck_andThen, struck_whenever, if_neg missing]
  dsimp only
  rw [struck_get_andThen, struck_andThen, struck_whenever, if_neg missing]
  dsimp only
  refine struck_step ahead ?_ fun ahead => ?_
  · exact fun due' message => ⟨free, .inl ⟨due', absent⟩⟩
  simp only [there, absent]
  generalize moved : (disk.remove backup).put .target old = after
  have here : after.tree .target = some old := by rw [← moved]; simp
  have gone : after.tree backup = none := by
    rw [← moved, tree_put, if_neg target.symm, tree_remove, if_pos rfl]
  have free' : after.tree displaced = none := by
    rw [← moved, tree_put, if_neg target'.symm, tree_remove, if_neg apart.symm, free]
  have stopped : ∀ final : ReleaseDisk, (∀ place, final.tree place = after.tree place) →
      final.tree displaced = none ∧ ((due = some 0 ∧ final.tree .target = none) ∨
        (due ≠ some 0 ∧ final.tree .target = some old ∧ final.tree backup = none)) := by
    intro final trees
    refine ⟨(trees _).trans free', .inr ⟨fun here => ?_, (trees _).trans here, (trees _).trans gone⟩⟩
    have later := ahead 0 here
    omega
  unfold confirmRollback readVersion
  refine struck_step ahead ?_ fun ahead => ?_
  · exact fun _ _ => stopped after fun _ => rfl
  dsimp only
  rw [struck_andThen, verifyInventory, struck_get_andThen, struck_reject, here, if_neg (by simp)]
  dsimp only
  rw [struck_andThen, struck_andThen]
  refine struck_atomic ahead ?_ fun ahead => ?_
  · exact fun _ _ => stopped after fun _ => rfl
  dsimp only
  have reads : deployedVersion host (after.tree .target) = deployedVersion host (some old) := by
    rw [here]
  rw [struck_get_andThen, struck_ofExcept, reads]
  cases version : deployedVersion host (some old) with
  | error message => exact stopped after fun _ => rfl
  | ok value =>
    dsimp only
    refine struck_step ahead ?_ fun ahead => ?_
    · exact fun _ _ => stopped after fun _ => rfl
    dsimp only
    generalize recorded : { after with
      audit := after.audit ++ [UpgradeEvent.manualRollback upgradeId value] } = final
    have trees : ∀ place, final.tree place = after.tree place := fun place => recorded ▸ rfl
    have nothing : ¬final.exists' displaced = true := by
      simp [exists_of_none ((trees displaced).trans free')]
    rw [struck_andThen, removeTree, struck_get_andThen, struck_whenever, if_neg nothing]
    dsimp only
    rw [struck_andThen, struck_andThen]
    refine struck_atomic ahead ?_ fun ahead => ?_
    · exact fun _ _ => stopped final trees
    dsimp only
    rw [struck_get_andThen, struck_ofExcept, trees, here, version]
    exact rfl

end Body

section Results

variable {host : ReleaseHost} {disk : ReleaseDisk} {due : Option Nat}

/-- The active release is what it was, and so are its mutable directories. -/
structure StillActive (host : ReleaseHost) (active : Option Tree) (outcome : Except String Nat)
    (after : ReleaseDisk) : Prop where
  returned : outcome = .ok 1
  inventory : inventoryOf host (after.tree .target) = inventoryOf host active
  mutableDirectories : ∀ tree, active = some tree → ∀ entry ∈ tree.entries, tree.Holds entry.1 →
    entry ∈ (after.treeOrEmpty .target).entries

/-- The failures after which the active release is back. The sixth step behind the moving of the
mutable directories removes the displaced release, and the seventh reads the version again. -/
def KeepsActive (host : ReleaseHost) (disk : ReleaseDisk) (backup : Place) (due : Option Nat)
    (cut : Nat) : Prop :=
  let steps := movingSteps host backup disk
  match disk.tree .target with
  | none => due = some 0 ∨ inventoryOf host (disk.tree backup) = []
  | some active =>
    (due = some (steps + 5) → cut ≤ (active.staying host.parents).entries.length →
      ∀ entry ∈ (active.staying host.parents).entries.take cut,
        isReleased entry = false ∧ ¬active.Holds entry.1) ∧
    (due = some (steps + 6) →
      inventoryOf host (disk.tree backup) = active.inventory host.sha256 ∧
      (Visible host.parents ∨ ∀ entry ∈ active.entries, active.Holds entry.1 →
        entry ∈ (disk.treeOrEmpty backup).entries))

/-- A rollback that finds a backup, and no transaction, runs its guarded part. -/
theorem rollback_start {arguments : RollbackArguments} {newest : String} {rest : List String}
    (chosen : backupsOf arguments.modified arguments.position disk = newest :: rest)
    (journal : disk.journal = none) (lock : disk.lock = none) (faults : List (Option Fault)) :
    (rollback host arguments).start (disk, {}) faults =
      ((rollbackBody host arguments.upgradeId (.backup newest) (.displaced arguments.upgradeId)
        (inventoryOf host (disk.tree (.backup newest)))).catching
          (rollbackFailed host arguments.upgradeId (.backup newest)
            (.displaced arguments.upgradeId))).start (disk, {}) faults := by
  unfold rollback Process.start
  rw [run_get_andThen, run_get_andThen, run_get_andThen]
  simp only [chosen, journal, lock, Option.isSome_none, Bool.or_self, Bool.false_eq_true, if_false]
  exact run_get_andThen _ _ _

theorem rollbackFailed_run {upgradeId error : String} {backup displaced : Place} {code : Nat}
    {world : World (ReleaseDisk × UpgradeLocals)}
    (returned : ((rollbackFailed host upgradeId backup displaced error).run world).1 = .ok code) :
    code = 1 := by
  unfold rollbackFailed at returned
  rw [run_andThen] at returned
  rcases settled : (reactivate host backup displaced).run world with ⟨outcome | outcome, after⟩
  · simp [settled] at returned
  · simp only [settled] at returned
    rw [run_andThen] at returned
    rcases audited : (durable (auditUpgrade (.rollbackFailed upgradeId error)) :
      UpgradeProcess Unit).run after with ⟨outcome | outcome, last⟩
    · simp [audited] at returned
    · simp only [audited] at returned
      cases returned
      rfl

theorem rollback_returns {arguments : RollbackArguments} {newest : String} {rest : List String}
    {faults : List (Option Fault)}
    (chosen : backupsOf arguments.modified arguments.position disk = newest :: rest)
    (journal : disk.journal = none) (lock : disk.lock = none)
    (raised : ∃ message, ((rollbackBody host arguments.upgradeId (.backup newest)
      (.displaced arguments.upgradeId) (inventoryOf host (disk.tree (.backup newest)))).start
        (disk, {}) faults).1 = .error message)
    (reconciled : ∀ message, ((rollback host arguments).start (disk, {}) faults).1 ≠
      .error message) :
    ((rollback host arguments).start (disk, {}) faults).1 = .ok 1 := by
  obtain ⟨message, raised⟩ := raised
  cases outcome : ((rollback host arguments).start (disk, {}) faults).1 with
  | error message => exact absurd outcome (reconciled message)
  | ok code =>
    rw [rollback_start chosen journal lock, Process.start, run_catching raised] at outcome
    rw [rollbackFailed_run outcome]

theorem tree_of_backupsOf {modified : String → Int} {position : String → Nat}
    {upgradeId : String} (listed : upgradeId ∈ backupsOf modified position disk) :
    ∃ tree, disk.tree (.backup upgradeId) = some tree := by
  unfold backupsOf listBackups at listed
  dsimp only at listed
  rw [(List.perm_insertionSort _ _).mem_iff, (List.perm_insertionSort _ _).mem_iff] at listed
  obtain ⟨place, there, named⟩ := List.mem_filterMap.mp listed
  split at named
  · cases named
    exact Option.isSome_iff_exists.mp (lookup_isSome_iff.mpr there)
  · cases named

section Judged

variable {backup displaced : Place} {active old : Tree} {cut : Nat}

/-- What a failed rollback of an installed release comes to, by where it has stopped. -/
theorem StoppedRollback.judged {upgradeId error : String} {stopped : ReleaseDisk}
    {locals : UpgradeLocals}
    (apart : backup ≠ displaced) (target : Place.target ≠ backup)
    (target' : Place.target ≠ displaced) (here : disk.tree .target = some active)
    (there : disk.tree backup = some old) (formed : active.WellFormed)
    (where' : StoppedRollback host backup displaced active old due cut
      (movingSteps host backup disk) stopped) :
    (rollbackFailed host upgradeId backup displaced error).wp false (fun _ _ => True)
      (fun outcome after => ∀ code, outcome = .ok code →
        (StillActive host (some active) (.ok 1) after.1 ↔
          KeepsActive host disk backup due cut)) (stopped, locals) := by
  have shown : ∀ {after : ReleaseDisk} {final : Tree}, after.tree .target = some final →
      (StillActive host (some active) (.ok 1) after ↔
        final.inventory host.sha256 = active.inventory host.sha256 ∧
        ∀ entry ∈ active.entries, active.Holds entry.1 → entry ∈ final.entries) := by
    intro after final found
    constructor
    · rintro ⟨-, same, kept⟩
      rw [found] at same
      refine ⟨same, fun entry inside held => ?_⟩
      have back := kept active rfl entry inside held
      rwa [treeOrEmpty, found] at back
    · rintro ⟨same, kept⟩
      refine ⟨rfl, by rw [found]; exact same, fun tree shape entry inside held => ?_⟩
      cases shape
      rw [treeOrEmpty, found]
      exact kept entry inside held
  unfold KeepsActive
  simp only [here]
  cases where' with
  | whole left now done midway before uncut =>
    refine wp_mono ?_ (rollbackFailed_midway apart target target' midway)
    intro outcome after holds code same
    obtain ⟨-, rest, final, found, back, empty⟩ := holds code same
    rw [shown found]
    obtain ⟨released, all⟩ := done.restored back empty
    refine iff_of_true ⟨Tree.inventory_congr released _, fun entry inside _ => all entry inside⟩
      ⟨fun due' within => ?_, fun due' => absurd due' before⟩
    obtain ⟨none, outside⟩ := uncut due'
    rw [← done.left_eq none formed] at within
    omega
  | part left now done empty due' within midway =>
    refine wp_mono ?_ (rollbackFailed_midway apart target target' midway)
    intro outcome after holds code same
    obtain ⟨-, rest, final, found, back, empty'⟩ := holds code same
    rw [shown found, done.restored_part_iff empty formed cut back empty']
    have later : due ≠ some (movingSteps host backup disk + 6) := by simp [due']
    constructor
    · exact fun harmless => ⟨fun _ _ => harmless, fun due'' => absurd due'' later⟩
    · rintro ⟨harmless, -⟩
      exact harmless due' (by rwa [← done.left_eq empty formed])
  | gone left now done empty due' found none' free =>
    refine wp_mono ?_ (rollbackFailed_idle free (.inr none'))
    rintro outcome after ⟨-, still⟩ code same
    rw [shown (still.trans found), Tree.inventory_congr done.received]
    have sooner : due ≠ some (movingSteps host backup disk + 5) := by simp [due']
    have shape : inventoryOf host (disk.tree backup) = old.inventory host.sha256 := by
      rw [there]
      rfl
    have listed : disk.treeOrEmpty backup = old := by rw [treeOrEmpty, there]; rfl
    rw [shape, listed]
    rw [done.keeps_held_iff empty]
    constructor
    · exact fun judged => ⟨fun due'' => absurd due'' sooner, fun _ => judged⟩
    · exact fun judged => judged.2 due'

end Judged

/-- A failed rollback leaves the active release active exactly when the removal of the displaced
tree has not deleted anything of it, the version could be read after the removal, and there was an
active release to put back. -/
theorem failed_rollback_keeps_active_iff (host : ReleaseHost) (arguments : RollbackArguments)
    (disk : ReleaseDisk) (newest : String) (rest : List String) (due : Option Nat) (fault : Fault)
    (chosen : backupsOf arguments.modified arguments.position disk = newest :: rest)
    (journal : disk.journal = none) (lock : disk.lock = none)
    (fresh : disk.tree (.displaced arguments.upgradeId) = none)
    (formed : ∀ active, disk.tree .target = some active → active.WellFormed)
    (within : Past due ((rollbackBody host arguments.upgradeId (.backup newest)
      (.displaced arguments.upgradeId) (inventoryOf host (disk.tree (.backup newest)))).acts
        (disk, {})))
    (raised : ∃ message, ((rollbackBody host arguments.upgradeId (.backup newest)
      (.displaced arguments.upgradeId) (inventoryOf host (disk.tree (.backup newest)))).start
        (disk, {}) (faultAt due fault)).1 = .error message)
    (reconciled : ∀ message, ((rollback host arguments).start (disk, {})
      (faultAt due fault)).1 ≠ .error message) :
    StillActive host (disk.tree .target)
        ((rollback host arguments).start (disk, {}) (faultAt due fault)).1
        ((rollback host arguments).start (disk, {}) (faultAt due fault)).2.state.1 ↔
      KeepsActive host disk (.backup newest) due fault.cut := by
  have returned := rollback_returns chosen journal lock raised reconciled
  obtain ⟨old, there⟩ := tree_of_backupsOf (chosen ▸ List.mem_cons_self)
  rw [rollback_start chosen journal lock] at returned ⊢
  rw [there] at within returned ⊢
  have ended : ((rollbackBody host arguments.upgradeId (.backup newest)
      (.displaced arguments.upgradeId) (inventoryOf host (some old))).catching
        (rollbackFailed host arguments.upgradeId (.backup newest)
          (.displaced arguments.upgradeId))).struck due (fun outcome _ after => outcome = .ok 0 ∨
            ∀ code, outcome = .ok code → (StillActive host (disk.tree .target) (.ok 1) after.1 ↔
              KeepsActive host disk (.backup newest) due fault.cut)) 0 (disk, {})
          (some fault.cut) := by
    rw [struck_catching]
    refine struck_within (by simpa using within) ?_
    cases here : disk.tree .target with
    | none =>
      refine struck_mono ?_ (rollbackBody_absent (by simp) (by simp) (by simp) here there fresh _)
      rintro (message | value) count ⟨after, locals⟩ holds past
      · obtain ⟨free, kept⟩ := holds
        have one : after.tree .target = none ∨ after.tree (.backup newest) = none :=
          kept.imp (fun still => still.2) fun gone => gone.2.2
        refine struck_past past (wp_mono ?_ (rollbackFailed_idle free one))
        rintro outcome final ⟨-, still⟩ taken -
        refine .inr fun code same => ?_
        unfold KeepsActive
        simp only [here, there]
        rcases kept with ⟨due', none⟩ | ⟨later, found, -⟩
        · refine iff_of_true ⟨rfl, ?_, fun tree shape => by cases shape⟩ (.inl due')
          rw [still, none]
        · constructor
          · rintro ⟨-, same, -⟩
            rw [still, found] at same
            exact .inr same
          · rintro (due' | empty)
            · exact absurd due' later
            · refine ⟨rfl, ?_, fun tree shape => by cases shape⟩
              rw [still, found]
              exact empty
      · exact .inl (by rw [show value = 0 from holds])
    | some active =>
      refine struck_mono ?_ (rollbackBody_stopped (by simp) (by simp) (by simp) here there fresh _)
      rintro (message | value) count ⟨after, locals⟩ holds past
      · refine struck_past past (wp_mono ?_ ((holds past).judged (by simp) (by simp) (by simp) here
          there (formed active here)))
        exact fun outcome final judged taken _ => .inr judged
      · exact .inl (by rw [show value = 0 from holds])
  obtain ⟨-, never | judged⟩ := start_of_struck_cut fault
    (fun position same => Option.some.inj same) ended
  · rw [returned] at never
    cases never
  · rw [returned]
    exact judged 1 returned

/-- Release 2 with a program file and logs, over a backup that holds release 1. -/
def activeRelease : Tree :=
  ⟨[(["app"], .file [65]), (["pdr-release.json"], .file [50]), (["logs"], .directory),
    (["logs", "a.log"], .file [7])]⟩

def exchangeDisk : ReleaseDisk where
  trees := [(.target, activeRelease), (.backup "u1", ⟨[(["pdr-release.json"], .file [49])]⟩)]

def exchangeRollback : RollbackArguments where
  upgradeId := "r1"
  modified _ := 0
  position _ := 0

theorem activeRelease_wellFormed (active : Tree)
    (here : exchangeDisk.tree .target = some active) : active.WellFormed := by
  obtain rfl : activeRelease = active := Option.some.inj here
  exact ⟨by decide, by decide⟩

/-- The logs are moved in two steps, and the fourth step puts the backup in place: when it raises,
release 2 is active again, with its logs. -/
theorem failed_exchange_keeps_active :
    StillActive sampleHost (exchangeDisk.tree .target)
      ((rollback sampleHost exchangeRollback).start (exchangeDisk, {})
        (faultAt (some 3) ⟨"Permission denied", 0⟩)).1
      ((rollback sampleHost exchangeRollback).start (exchangeDisk, {})
        (faultAt (some 3) ⟨"Permission denied", 0⟩)).2.state.1 := by
  refine (failed_rollback_keeps_active_iff sampleHost exchangeRollback exchangeDisk "u1" []
    (some 3) ⟨"Permission denied", 0⟩ (by decide) rfl rfl (by decide)
    activeRelease_wellFormed ?_ ⟨"Permission denied", by decide +kernel⟩ ?_).mpr ?_
  · intro step here
    cases here
    decide +kernel
  · intro message raised
    have returned : ((rollback sampleHost exchangeRollback).start (exchangeDisk, {})
        (faultAt (some 3) ⟨"Permission denied", 0⟩)).1 = .ok 1 := by decide +kernel
    rw [returned] at raised
    cases raised
  · have steps : movingSteps sampleHost (.backup "u1") exchangeDisk = 2 := by decide +kernel
    unfold KeepsActive
    rw [steps]
    exact ⟨fun later => absurd later (by decide), fun later => absurd later (by decide)⟩

/-- When the removal of the displaced release raises after its first file has been deleted, the
release that is put back lacks that file. -/
theorem failed_removal_loses_file :
    ¬∀ (host : ReleaseHost) (arguments : RollbackArguments) (disk : ReleaseDisk)
      (newest : String) (rest : List String) (due : Option Nat) (fault : Fault),
      backupsOf arguments.modified arguments.position disk = newest :: rest →
      disk.journal = none → disk.lock = none →
      disk.tree (.displaced arguments.upgradeId) = none →
      (∀ active, disk.tree .target = some active → active.WellFormed) →
      Past due ((rollbackBody host arguments.upgradeId (.backup newest)
        (.displaced arguments.upgradeId) (inventoryOf host (disk.tree (.backup newest)))).acts
          (disk, {})) →
      (∃ message, ((rollbackBody host arguments.upgradeId (.backup newest)
        (.displaced arguments.upgradeId) (inventoryOf host (disk.tree (.backup newest)))).start
          (disk, {}) (faultAt due fault)).1 = .error message) →
      (∀ message, ((rollback host arguments).start (disk, {})
        (faultAt due fault)).1 ≠ .error message) →
      StillActive host (disk.tree .target)
        ((rollback host arguments).start (disk, {}) (faultAt due fault)).1
        ((rollback host arguments).start (disk, {}) (faultAt due fault)).2.state.1 := by
  intro always
  have returned : ((rollback sampleHost exchangeRollback).start (exchangeDisk, {})
      (faultAt (some 7) ⟨"Device or resource busy", 1⟩)).1 = .ok 1 := by decide +kernel
  have active := always sampleHost exchangeRollback exchangeDisk "u1" [] (some 7)
    ⟨"Device or resource busy", 1⟩ (by decide) rfl rfl (by decide)
    activeRelease_wellFormed
    (fun step here => by
      cases here
      decide +kernel)
    ⟨"Device or resource busy", by decide +kernel⟩
    (fun message raised => by
      rw [returned] at raised
      cases raised)
  have same := active.inventory
  revert same
  decide +kernel

end Results

end PocoDDS.Tools
