import PocoDDS.Tools.UpgradeManager

/-! What the steps of the upgrade manager do to the directories next to a target. -/

namespace PocoDDS.Tools

open AssocList CrashLogic ProcessLogic Process

section Disk

variable (disk : ReleaseDisk) (place : Place) (content : Tree)

@[simp] theorem ReleaseDisk.tree_put (other : Place) :
    (disk.put place content).tree other = if other = place then some content else disk.tree other := by
  split
  · next same =>
    rw [same]
    exact lookup_assign_self place content disk.trees
  · next differs => exact lookup_assign_ne differs content disk.trees

@[simp] theorem ReleaseDisk.tree_remove (other : Place) :
    (disk.remove place).tree other = if other = place then none else disk.tree other := by
  split
  · next same =>
    rw [same]
    exact lookup_eraseKey_self place disk.trees
  · next differs => exact lookup_eraseKey_ne differs disk.trees

/-- Only the trees at two places differ from a given disk. -/
structure Trading (base : ReleaseDisk) (source destination : Place) (origin there : Tree)
    (disk : ReleaseDisk) : Prop where
  journal : disk.journal = base.journal
  lock : disk.lock = base.lock
  others : ∀ place, place ≠ source → place ≠ destination → disk.tree place = base.tree place
  origin : disk.tree source = some origin
  there : disk.tree destination = some there

variable {disk} {base : ReleaseDisk} {source destination : Place} {origin there : Tree}

theorem Trading.refl (origin' : disk.tree source = some origin)
    (there' : disk.tree destination = some there) :
    Trading disk source destination origin there disk :=
  ⟨rfl, rfl, fun _ _ _ => rfl, origin', there'⟩

variable (trading : Trading base source destination origin there disk)
  (apart : source ≠ destination)
include trading apart

theorem Trading.arrive (more : Tree) :
    Trading base source destination origin more (disk.put destination more) := by
  refine ⟨trading.journal, trading.lock, ?_, ?_, by simp⟩
  · intro place first second
    rw [ReleaseDisk.tree_put, if_neg second]
    exact trading.others place first second
  · rw [ReleaseDisk.tree_put, if_neg apart]
    exact trading.origin

theorem Trading.leave (less : Tree) :
    Trading base source destination less there (disk.put source less) := by
  refine ⟨trading.journal, trading.lock, ?_, by simp, ?_⟩
  · intro place first second
    rw [ReleaseDisk.tree_put, if_neg first]
    exact trading.others place first second
  · rw [ReleaseDisk.tree_put, if_neg apart.symm]
    exact trading.there

end Disk

section Transfer

variable {parents : List String}
variable {path : List String}

/-- What is said of both trees survives every step of a transfer. -/
structure SurvivesTransfer (parents : List String) (inv : Tree → Tree → Prop) : Prop where
  made : ∀ {origin there : Tree} {path above : List String}, inv origin there →
    path ∈ origin.candidates parents → above ∈ properPrefixes path →
    inv origin ⟨there.entries ++ [(above, .directory)]⟩
  moved : ∀ {origin there : Tree} {path : List String}, inv origin there →
    path ∈ origin.candidates parents → there.exists' path = false →
    (∀ above ∈ properPrefixes path, ∀ content, there.entry above ≠ some (.file content)) →
    inv (origin.without path) ⟨there.entries ++ origin.below path⟩

/-- None of the directories to be moved is there yet. -/
def Vacant (parents : List String) (origin there : Tree) : Prop :=
  ∀ path ∈ origin.candidates parents, there.exists' path = false

theorem Vacant.made {origin there : Tree} (vacant : Vacant parents origin there)
    {above : List String} (chosen : path ∈ origin.candidates parents)
    (member : above ∈ properPrefixes path) :
    Vacant parents origin ⟨there.entries ++ [(above, .directory)]⟩ := by
  intro other outer
  rw [Tree.exists_append, vacant other outer]
  simp only [List.any_cons, List.any_nil, Bool.or_false, Bool.false_or, decide_eq_false_iff_not]
  rintro rfl
  -- A directory above a candidate is not mutable, and so is no candidate itself.
  exact not_isMutable_of_properPrefix (Tree.mem_candidates.mp chosen).2.2 member
    (isMutable_of_outermost (Tree.mem_candidates.mp outer).2.2)

theorem Vacant.moved {origin there : Tree} (vacant : Vacant parents origin there)
    {path : List String} (chosen : path ∈ origin.candidates parents) :
    Vacant parents (origin.without path) ⟨there.entries ++ origin.below path⟩ := by
  intro other outer
  obtain ⟨outer, differs⟩ := (Tree.mem_candidates_without chosen).mp outer
  rw [Tree.exists_append, vacant other outer, Bool.false_or, List.any_eq_false]
  intro entry member same
  have sub : path <+: entry.1 := by simpa using (List.mem_filter.mp member).2
  rw [of_decide_eq_true same] at sub
  exact differs (eq_of_outermost_below (Tree.mem_candidates.mp chosen).2.2
    (Tree.mem_candidates.mp outer).2.2 sub).symm

variable {faulty : Bool}
  {allowed : ReleaseDisk × UpgradeLocals → ReleaseDisk × UpgradeLocals → Prop}
  {post : Except String Unit → ReleaseDisk × UpgradeLocals → Prop}
  {base : ReleaseDisk} {source destination : Place} {locals : UpgradeLocals}
  {inv : Tree → Tree → Prop}

section Candidate

variable {origin there : Tree} {disk : ReleaseDisk}
variable (apart : source ≠ destination) (keeps : SurvivesTransfer parents inv)
  (step : ∀ before after origin there origin' there',
    Trading base source destination origin there before → inv origin there →
    Trading base source destination origin' there' after → inv origin' there' →
    allowed (before, locals) (after, locals))
  (chosen : path ∈ origin.candidates parents)
  (failed : ∀ disk there message, Trading base source destination origin there disk →
    inv origin there → (faulty = true ∨ ¬Movable parents origin there) →
    post (.error message) (disk, locals))
  (trading : Trading base source destination origin there disk) (holds : inv origin there)
  (vacant : Vacant parents origin there)
include apart keeps step chosen failed trading holds vacant

/-- The directories above a path are made one after another, unless a file is in the way. -/
theorem makeParents_wp
    (ended : ∀ disk there, Trading base source destination origin there disk → inv origin there →
      Vacant parents origin there →
      (∀ above ∈ properPrefixes path, ∀ content, there.entry above ≠ some (.file content)) →
      post (.ok ()) (disk, locals)) :
    (forEach (properPrefixes path) fun above => durable (makeInside destination above)).wp faulty
      allowed post (disk, locals) := by
  -- What has been passed is a directory by now.
  refine wp_forEach (fun rest state => state.2 = locals ∧ ∃ there,
    Trading base source destination origin there state.1 ∧ inv origin there ∧
    Vacant parents origin there ∧ (∀ above ∈ rest, above ∈ properPrefixes path) ∧
    ∀ above ∈ properPrefixes path, above ∈ rest ∨ there.entry above = some .directory) ?_ ?_
    ⟨rfl, there, trading, holds, vacant, fun _ member => member, fun _ member => .inl member⟩
  · rintro above rest ⟨disk, locals'⟩ ⟨rfl, there, trading, holds, vacant, listed, passed⟩
    have member := listed above List.mem_cons_self
    have next : ∀ {there' : Tree}, (∀ above, there.entry above = some .directory →
        there'.entry above = some .directory) → there'.entry above = some .directory →
        ∀ above ∈ properPrefixes path, above ∈ rest ∨ there'.entry above = some .directory := by
      intro there' kept made other inside
      rcases passed other inside with due | done
      · rcases List.mem_cons.mp due with rfl | later
        · exact .inr made
        · exact .inl later
      · exact .inr (kept other done)
    rw [makeInside, wp_atomic]
    refine ⟨fun on => ?_, ?_⟩
    · exact ⟨step _ _ _ _ _ _ trading holds trading holds,
        fun message => failed _ _ message trading holds (.inl on)⟩
    · simp only [trading.there]
      cases found : there.entry above with
      | none =>
        have made := keeps.made holds chosen member
        have arrived := trading.arrive apart ⟨there.entries ++ [(above, .directory)]⟩
        refine ⟨step _ _ _ _ _ _ trading holds arrived made, trivial, _, arrived, made,
          vacant.made chosen member, ?_, ?_⟩
        · exact fun other inside => listed other (List.mem_cons_of_mem _ inside)
        · refine next (fun other done => Tree.entry_append done _) ?_
          have absent := Tree.entry_eq_none_iff.mp found
          simp only [Tree.exists', List.any_eq_false, decide_eq_true_eq] at absent
          have unseen : there.entries.find? (·.1 = above) = none := by
            simpa using absent
          simp [Tree.entry, List.find?_append, unseen]
      | some kind =>
        cases kind with
        | file content =>
          refine failed _ _ _ trading holds (.inr fun movable => ?_)
          exact (movable path chosen).2 above member content found
        | directory =>
          refine ⟨step _ _ _ _ _ _ trading holds trading holds, trivial, there, trading, holds, vacant,
            fun other inside => listed other (List.mem_cons_of_mem _ inside), ?_⟩
          exact next (fun _ done => done) found
  · rintro ⟨disk, locals'⟩ ⟨rfl, there, trading, holds, vacant, -, passed⟩
    refine ended disk there trading holds vacant ?_
    intro above inside content found
    rcases passed above inside with due | done
    · simp at due
    · simp [found] at done

/-- Moving one directory. -/
theorem moveMutable_wp
    (ended : ∀ disk there, Trading base source destination (origin.without path) there disk →
      inv (origin.without path) there → Vacant parents (origin.without path) there →
      post (.ok ()) (disk, locals)) :
    (moveMutable source destination path).wp faulty allowed post (disk, locals) := by
  unfold moveMutable
  -- A step that raises has changed nothing.
  have raised : ∀ {disk there}, Trading base source destination origin there disk →
      inv origin there → faulty = true → allowed (disk, locals) (disk, locals) ∧
        ∀ message, post (.error message) (disk, locals) := fun trading holds on =>
    ⟨step _ _ _ _ _ _ trading holds trading holds,
      fun message => failed _ _ message trading holds (.inl on)⟩
  rw [wp_andThen, makeRoot, wp_atomic]
  refine ⟨raised trading holds, ?_⟩
  simp only [trading.there, if_true]
  refine ⟨step _ _ _ _ _ _ trading holds trading holds, ?_⟩
  rw [wp_andThen]
  refine makeParents_wp apart keeps step chosen failed trading holds vacant ?_
  intro disk there trading holds vacant clear
  dsimp only
  rw [moveDirectory, wp_atomic]
  refine ⟨raised trading holds, ?_⟩
  have present := Tree.exists_of_mem_candidates chosen
  have absent := vacant path chosen
  simp only [trading.origin, trading.there, present, absent, Bool.not_true, Bool.false_eq_true,
    if_false]
  have moved := keeps.moved holds chosen absent clear
  have traded := (trading.leave apart (origin.without path)).arrive apart
    ⟨there.entries ++ origin.below path⟩
  exact ⟨step _ _ _ _ _ _ trading holds traded moved, ended _ _ traded moved (vacant.moved chosen)⟩

end Candidate

/-- A transfer moves every candidate, unless something is in its way. -/
theorem transferMutable_wp {host : ReleaseHost} (apart : source ≠ destination)
    (keeps : SurvivesTransfer host.parents inv)
    (step : ∀ before after origin there origin' there',
      Trading base source destination origin there before → inv origin there →
      Trading base source destination origin' there' after → inv origin' there' →
      allowed (before, locals) (after, locals))
    (failed : ∀ disk origin there message, Trading base source destination origin there disk →
      inv origin there → (faulty = true ∨ ¬Movable host.parents origin there) →
      post (.error message) (disk, locals))
    (ended : ∀ disk origin there, Trading base source destination origin there disk →
      inv origin there → origin.candidates host.parents = [] → post (.ok ()) (disk, locals))
    {disk : ReleaseDisk} {origin there : Tree}
    (trading : Trading base source destination origin there disk) (holds : inv origin there) :
    (transferMutable host source destination).wp faulty allowed post (disk, locals) := by
  unfold transferMutable
  rw [wp_get_andThen]
  simp only [trading.origin]
  rw [wp_andThen]
  -- First no path may be taken, then the directories are moved one after another.
  refine wp_forEach (fun rest state => state = (disk, locals) ∧
    (∀ path ∈ rest, path ∈ origin.candidates host.parents) ∧
    ∀ path ∈ origin.candidates host.parents, path ∈ rest ∨ there.exists' path = false) ?_ ?_
    ⟨rfl, fun _ member => member, fun _ member => .inl member⟩
  · rintro path rest state ⟨rfl, listed, passed⟩
    rw [wp_get_andThen, wp_reject]
    simp only [trading.there, Option.any_some]
    split
    · next taken =>
      refine failed _ _ _ _ trading holds (.inr fun movable => ?_)
      rw [(movable path (listed path List.mem_cons_self)).1] at taken
      cases taken
    · next free =>
      refine ⟨trivial, fun other inside => listed other (List.mem_cons_of_mem _ inside), ?_⟩
      intro other outer
      rcases passed other outer with due | done
      · rcases List.mem_cons.mp due with rfl | later
        · exact .inr (by simpa using free)
        · exact .inl later
      · exact .inr done
  · rintro state ⟨rfl, -, passed⟩
    have vacant : Vacant host.parents origin there := by
      intro path chosen
      rcases passed path chosen with due | done
      · simp at due
      · exact done
    refine wp_forEach (fun rest state => state.2 = locals ∧ ∃ origin there,
      Trading base source destination origin there state.1 ∧ inv origin there ∧
      Vacant host.parents origin there ∧ rest.Nodup ∧
      ∀ path, path ∈ origin.candidates host.parents ↔ path ∈ rest) ?_ ?_
      ⟨rfl, origin, there, trading, holds, vacant, Tree.candidates_nodup, fun _ => Iff.rfl⟩
    · rintro path rest ⟨disk, locals'⟩ ⟨rfl, origin, there, trading, holds, vacant, distinct, due⟩
      have chosen := (due path).mpr List.mem_cons_self
      refine moveMutable_wp apart keeps step chosen (fun disk there => failed disk origin there)
        trading holds vacant ?_
      intro disk there trading holds vacant
      obtain ⟨new, distinct⟩ := List.nodup_cons.mp distinct
      refine ⟨rfl, _, there, trading, holds, vacant, distinct, fun other => ?_⟩
      rw [Tree.mem_candidates_without chosen, due other, List.mem_cons]
      constructor
      · rintro ⟨rfl | later, differs⟩
        · exact absurd rfl differs
        · exact later
      · intro later
        refine ⟨.inr later, ?_⟩
        rintro rfl
        exact new later
    · rintro ⟨disk, locals'⟩ ⟨rfl, origin, there, trading, holds, -, -, due⟩
      refine ended disk origin there trading holds (List.eq_nil_iff_forall_not_mem.mpr ?_)
      intro path chosen
      simpa using (due path).mp chosen

end Transfer

end PocoDDS.Tools
