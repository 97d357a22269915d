import PocoDDS.Lib.SlidingWindow

/-! The launch loop of the launcher: a child is launched again while the restart budget lasts. -/

namespace PocoDDS.Launcher

open SlidingWindow

/-- The restart budget, as it is read from the configuration. -/
structure RestartBudget where
  maximumRestarts : Int
  restartWindow : Int
  nonneg : 0 ≤ maximumRestarts
  fits : maximumRestarts < 2 ^ 31
  positive : 1 ≤ restartWindow

/-- `restartBudget.maxRestarts` and `restartBudget.windowMilliseconds`, none of them too small. -/
def RestartBudget.read (maxRestarts windowMilliseconds : Int32) : RestartBudget where
  maximumRestarts := max 0 maxRestarts.toInt
  restartWindow := max 1 windowMilliseconds.toInt
  nonneg := le_max_left _ _
  fits := max_lt (by norm_num) maxRestarts.toInt_lt
  positive := le_max_left _ _

/-- The restart window in ticks of the steady clock, which are nanoseconds. -/
def RestartBudget.ticks (budget : RestartBudget) : Int :=
  1000000 * budget.restartWindow

/-- `static_cast<int>` of a size. -/
def intOf (size : Nat) : Int :=
  (size : Int).bmod (2 ^ 32)

/-- How the loop ends. -/
inductive Ending
  | stopped
  | exhausted
  deriving DecidableEq, Repr

/-- The loop: its deque, the instants at which it scheduled a relaunch, and how it ended. -/
structure LaunchLoop where
  restarts : List Int := []
  relaunches : List Int := []
  restartBudgetExhausted : Bool := false
  ended : Option Ending := none
  deriving DecidableEq, Repr

/-- One pass of the loop. The launcher may have been stopped before it or when the child has exited;
a launch that fails is logged and counts as an exit. -/
structure Pass where
  stoppedBefore : Bool := false
  stoppedAfter : Bool := false
  now : Int

/-- What is done when a child has exited and the launcher is not stopped. -/
def childExited (budget : RestartBudget) (now : Int) (loop : LaunchLoop) : LaunchLoop :=
  -- The oldest restarts leave the window first; the comparison is against the size as an int.
  let restarts := loop.restarts.dropWhile fun front => now - front ≥ budget.ticks
  if budget.maximumRestarts = 0 ∨ intOf restarts.length ≥ budget.maximumRestarts then
    { loop with restarts, restartBudgetExhausted := true, ended := some .exhausted }
  else
    { loop with restarts := restarts ++ [now], relaunches := loop.relaunches ++ [now] }

def launchPass (budget : RestartBudget) (loop : LaunchLoop) (pass : Pass) : LaunchLoop :=
  match loop.ended with
  | some _ => loop
  | none =>
    -- The flag is never reset, so the loop condition sees it after the exit too.
    if pass.stoppedBefore || pass.stoppedAfter then { loop with ended := some .stopped }
    else childExited budget pass.now loop

def launch (budget : RestartBudget) (passes : List Pass) : LaunchLoop :=
  passes.foldl (launchPass budget) {}

section Invariant

variable {budget : RestartBudget} {loop : LaunchLoop}
variable {earlier : Int}

/-- The maximum as a number of relaunches. -/
def RestartBudget.maximum (budget : RestartBudget) : Nat :=
  budget.maximumRestarts.toNat

theorem RestartBudget.ticks_pos (budget : RestartBudget) : 0 < budget.ticks := by
  have positive := budget.positive
  unfold RestartBudget.ticks
  omega

/-- A size that does not exceed the maximum is converted without loss. -/
theorem intOf_of_le {size : Nat} (small : size ≤ budget.maximum) : intOf size = size := by
  have fits := budget.fits
  have nonneg := budget.nonneg
  unfold RestartBudget.maximum at small
  unfold intOf
  rw [Int.bmod_eq_of_le] <;> omega

/-- The deque holds the relaunches that were recent at the last exit, none of the relaunches is in
the future, and the budget was never exceeded. -/
structure Budgeted (budget : RestartBudget) (now : Int) (loop : LaunchLoop) : Prop where
  sorted : loop.relaunches.Pairwise (· ≤ ·)
  past : ∀ time ∈ loop.relaunches, time ≤ now
  deque : loop.restarts = recent budget.ticks now loop.relaunches
  within : Within budget.ticks budget.maximum loop.relaunches
  flagged : loop.restartBudgetExhausted = true ↔ loop.ended = some .exhausted

variable {now : Int} (budgeted : Budgeted budget earlier loop) (later : earlier ≤ now)
include budgeted later

/-- At a later exit the old instants are pruned from the deque. -/
theorem Budgeted.pruned : (loop.restarts.dropWhile fun front => now - front ≥ budget.ticks) =
      recent budget.ticks now loop.relaunches := by
  have sorted := budgeted.sorted.sublist (recent_sublist budget.ticks earlier _)
  rw [budgeted.deque]
  exact (prune_eq_recent sorted).trans (recent_recent later _)

theorem childExited_eq : childExited budget now loop =
      if (recent budget.ticks now loop.relaunches).length < budget.maximum then
        { loop with restarts := recent budget.ticks now loop.relaunches ++ [now],
                    relaunches := loop.relaunches ++ [now] }
      else
        { loop with restarts := recent budget.ticks now loop.relaunches,
                    restartBudgetExhausted := true, ended := some .exhausted } := by
  -- The recent relaunches lie in one window, so their number fits an `int`.
  obtain ⟨start, -, -, same⟩ := exists_window budget.ticks_pos budgeted.sorted
    (fun time member => (budgeted.past time member).trans later)
  have small : (recent budget.ticks now loop.relaunches).length ≤ budget.maximum := by
    rw [← same]
    exact budgeted.within start
  have nonneg := budget.nonneg
  unfold childExited
  dsimp only
  rw [budgeted.pruned later, intOf_of_le small]
  unfold RestartBudget.maximum at small ⊢
  by_cases room : (recent budget.ticks now loop.relaunches).length < budget.maximumRestarts.toNat
  · rw [if_neg (by omega), if_pos room]
  · rw [if_pos (by omega), if_neg room]

theorem Budgeted.childExited : Budgeted budget now (childExited budget now loop) := by
  have past : ∀ time ∈ loop.relaunches, time ≤ now :=
    fun time member => (budgeted.past time member).trans later
  rw [childExited_eq budgeted later]
  split
  · next room =>
    constructor
    · rw [List.pairwise_append]
      refine ⟨budgeted.sorted, List.pairwise_singleton _ _, ?_⟩
      simpa using past
    · intro time member
      rcases List.mem_append.mp member with old | new
      · exact past time old
      · exact (List.mem_singleton.mp new).le
    · rw [recent_append, recent_now budget.ticks_pos]
    · exact (within_push_iff budget.ticks_pos budgeted.sorted past budgeted.within).mpr room
    · exact budgeted.flagged
  · exact ⟨budgeted.sorted, past, rfl, budgeted.within, by simp⟩

omit budgeted later

/-- The budget is kept by a pass, which reads the clock only if it ends with an exit. -/
theorem Budgeted.pass {pass : Pass} (budgeted : Budgeted budget earlier loop)
    (later : earlier ≤ pass.now) :
    ∃ last ≤ pass.now, Budgeted budget last (launchPass budget loop pass) := by
  unfold launchPass
  split
  · exact ⟨earlier, later, budgeted⟩
  · next running =>
    have unflagged : loop.restartBudgetExhausted ≠ true := by simp [budgeted.flagged, running]
    split
    · exact ⟨earlier, later, budgeted.sorted, budgeted.past, budgeted.deque, budgeted.within,
        by simp [unflagged]⟩
    · exact ⟨pass.now, le_rfl, budgeted.childExited later⟩

end Invariant

section Runs

variable (budget : RestartBudget)
variable {passes : List Pass}

/-- The clock does not go back from pass to pass. -/
def Monotone (passes : List Pass) : Prop :=
  passes.Pairwise fun earlier later => earlier.now ≤ later.now

instance (passes : List Pass) : Decidable (Monotone passes) :=
  inferInstanceAs (Decidable (passes.Pairwise _))

theorem launch_append (earlier later : List Pass) :
    launch budget (earlier ++ later) = later.foldl (launchPass budget) (launch budget earlier) :=
  List.foldl_append ..

theorem launch_ended (ended : (launch budget passes).ended.isSome) (later : List Pass) :
    launch budget (passes ++ later) = launch budget passes := by
  rw [launch_append]
  induction later with
  | nil => rfl
  | cons pass later ih =>
    obtain ⟨ending, same⟩ := Option.isSome_iff_exists.mp ended
    rw [List.foldl_cons]
    have still : launchPass budget (launch budget passes) pass = launch budget passes := by
      simp [launchPass, same]
    rw [still]
    exact ih

/-- The budget is kept by every run. -/
theorem launch_budgeted (monotone : Monotone passes) {now : Int}
    (past : ∀ pass ∈ passes, pass.now ≤ now) :
    ∃ last ≤ now, Budgeted budget last (launch budget passes) := by
  -- The last pass of the run is one step after the run without it.
  induction passes using List.reverseRecOn generalizing now with
  | nil =>
    refine ⟨now, le_rfl, List.Pairwise.nil, ?_, rfl, Within.nil, by simp [launch]⟩
    intro time member
    cases member
  | append_singleton earlier pass ih =>
    obtain ⟨sorted, -, before⟩ := List.pairwise_append.mp monotone
    obtain ⟨last, order, budgeted⟩ :=
      ih sorted fun other member => before other member pass (List.mem_singleton_self pass)
    obtain ⟨last', order', budgeted'⟩ := budgeted.pass order
    refine ⟨last', order'.trans (past pass (by simp)), ?_⟩
    rw [launch_append]
    exact budgeted'

/-- A pass of a running loop that ends with an exit of the child. -/
structure Exits (passes : List Pass) (exit : Pass) : Prop where
  running : (launch budget passes).ended = none
  unstopped : exit.stoppedBefore = false ∧ exit.stoppedAfter = false

theorem launch_exit {exit : Pass} (monotone : Monotone (passes ++ [exit]))
    (exits : Exits budget passes exit) :
    (Within budget.ticks budget.maximum ((launch budget passes).relaunches ++ [exit.now]) →
      (launch budget (passes ++ [exit])).ended = none ∧
      (launch budget (passes ++ [exit])).relaunches =
        (launch budget passes).relaunches ++ [exit.now]) ∧
    (¬ Within budget.ticks budget.maximum ((launch budget passes).relaunches ++ [exit.now]) →
      (launch budget (passes ++ [exit])).ended = some .exhausted ∧
      (launch budget (passes ++ [exit])).relaunches = (launch budget passes).relaunches) := by
  obtain ⟨sorted, -, before⟩ := List.pairwise_append.mp monotone
  obtain ⟨last, order, budgeted⟩ := launch_budgeted budget sorted
    fun other member => before other member exit (List.mem_singleton_self exit)
  have past : ∀ time ∈ (launch budget passes).relaunches, time ≤ exit.now :=
    fun time member => (budgeted.past time member).trans order
  have step : launch budget (passes ++ [exit]) =
      childExited budget exit.now (launch budget passes) := by
    rw [launch_append]
    simp [launchPass, exits.running, exits.unstopped]
  -- Room among the recent relaunches is room in every window.
  rw [step, childExited_eq budgeted order,
    within_push_iff budget.ticks_pos budgeted.sorted past budgeted.within]
  constructor
  · intro room
    rw [if_pos room]
    exact ⟨exits.running, rfl⟩
  · intro full
    rw [if_neg full]
    exact ⟨rfl, rfl⟩

theorem exists_exit_of_exhausted (monotone : Monotone passes)
    (exhausted : (launch budget passes).ended = some .exhausted) :
    ∃ earlier exit later, passes = earlier ++ exit :: later ∧ Exits budget earlier exit ∧
      ¬ Within budget.ticks budget.maximum ((launch budget earlier).relaunches ++ [exit.now]) := by
  induction passes using List.reverseRecOn with
  | nil => cases exhausted
  | append_singleton earlier pass ih =>
    have sorted := (List.pairwise_append.mp monotone).1
    cases ended : (launch budget earlier).ended with
    | some ending =>
      -- It had given up before the last pass.
      rw [launch_ended budget (by simp [ended])] at exhausted
      obtain ⟨front, exit, later, rfl, exits, exceeded⟩ := ih sorted exhausted
      exact ⟨front, exit, later ++ [pass], by simp, exits, exceeded⟩
    | none =>
      by_cases unstopped : pass.stoppedBefore = false ∧ pass.stoppedAfter = false
      · have exits : Exits budget earlier pass := ⟨ended, unstopped⟩
        refine ⟨earlier, pass, [], rfl, exits, fun fits => ?_⟩
        rw [((launch_exit budget monotone exits).1 fits).1] at exhausted
        cases exhausted
      · -- A stopped loop has not exhausted its budget.
        have stopped : (pass.stoppedBefore || pass.stoppedAfter) = true := by
          rw [Bool.or_eq_true]
          by_contra neither
          simp only [not_or, Bool.not_eq_true] at neither
          exact unstopped neither
        rw [launch_append] at exhausted
        simp [launchPass, ended, stopped] at exhausted

/-- The launcher relaunches within its budget in every window. It gives up exactly when the child
exits and one more relaunch would exceed the budget in some window, and relaunches otherwise. -/
theorem launch_slidingWindow (passes : List Pass) (monotone : Monotone passes) :
    Within budget.ticks budget.maximum (launch budget passes).relaunches ∧
    ((launch budget passes).restartBudgetExhausted = true ↔
      (launch budget passes).ended = some .exhausted) ∧
    ((launch budget passes).ended = some .exhausted ↔
      ∃ earlier exit later, passes = earlier ++ exit :: later ∧ Exits budget earlier exit ∧
        ¬ Within budget.ticks budget.maximum
          ((launch budget earlier).relaunches ++ [exit.now])) ∧
    ∀ earlier exit later, passes = earlier ++ exit :: later → Exits budget earlier exit →
      (Within budget.ticks budget.maximum ((launch budget earlier).relaunches ++ [exit.now]) →
        (launch budget (earlier ++ [exit])).ended = none ∧
        (launch budget (earlier ++ [exit])).relaunches =
          (launch budget earlier).relaunches ++ [exit.now]) ∧
      (¬ Within budget.ticks budget.maximum ((launch budget earlier).relaunches ++ [exit.now]) →
        launch budget passes = launch budget (earlier ++ [exit]) ∧
        (launch budget passes).relaunches = (launch budget earlier).relaunches) := by
  obtain ⟨now, past⟩ : ∃ now, ∀ pass ∈ passes, pass.now ≤ now := by
    obtain ⟨now, bounded⟩ := (passes.map Pass.now).toFinset.bddAbove
    exact ⟨now, fun pass member => bounded (by simpa using ⟨pass, member, rfl⟩)⟩
  obtain ⟨last, -, budgeted⟩ := launch_budgeted budget monotone past
  -- At every exit of the run the loop gives up or relaunches.
  have each : ∀ {earlier exit later}, passes = earlier ++ exit :: later →
      Monotone (earlier ++ [exit]) ∧ passes = (earlier ++ [exit]) ++ later := by
    rintro earlier exit later rfl
    have whole : earlier ++ exit :: later = (earlier ++ [exit]) ++ later := by simp
    rw [whole] at monotone
    exact ⟨(List.pairwise_append.mp monotone).1, whole⟩
  refine ⟨budgeted.within, budgeted.flagged, ⟨exists_exit_of_exhausted budget monotone, ?_⟩, ?_⟩
  · rintro ⟨earlier, exit, later, split, exits, exceeded⟩
    obtain ⟨sorted, whole⟩ := each split
    have gaveUp := ((launch_exit budget sorted exits).2 exceeded).1
    rw [whole, launch_ended budget (by simp [gaveUp]), gaveUp]
  · intro earlier exit later split exits
    obtain ⟨sorted, whole⟩ := each split
    refine ⟨(launch_exit budget sorted exits).1, fun exceeded => ?_⟩
    obtain ⟨gaveUp, kept⟩ := (launch_exit budget sorted exits).2 exceeded
    rw [whole, launch_ended budget (by simp [gaveUp])]
    exact ⟨rfl, kept⟩

/-- Two relaunches in a window of a millisecond, and a third exit within it. -/
theorem launch_slidingWindow_third :
    Within (RestartBudget.read 2 1).ticks (RestartBudget.read 2 1).maximum
      (launch (RestartBudget.read 2 1) [⟨false, false, 0⟩, ⟨false, false, 500000⟩,
        ⟨false, false, 999999⟩]).relaunches :=
  (launch_slidingWindow (RestartBudget.read 2 1) [⟨false, false, 0⟩, ⟨false, false, 500000⟩,
    ⟨false, false, 999999⟩] (by decide)).1

end Runs

end PocoDDS.Launcher
