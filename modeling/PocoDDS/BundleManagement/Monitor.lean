import PocoDDS.Lib.OrderedMap
import PocoDDS.Lib.Run

/-! The bundle monitor: when it reloads, and whether what it has applied is what is loaded. -/

namespace PocoDDS.BundleManagement

open RunLogic OrderedMap

/-- The time and the size of each file, by its path. -/
structure Snapshot where
  entries : List (String × (Int × UInt64))
  ordered : Ordered entries
  deriving DecidableEq

def Snapshot.empty : Snapshot := ⟨[], List.Pairwise.nil⟩

structure BundleManagerOptions where
  intervalMilliseconds : Int := 1000
  stableScanCount : UInt64 := 2

/-- The options as the constructor keeps them. -/
def BundleManagerOptions.adopt (options : BundleManagerOptions) : BundleManagerOptions where
  intervalMilliseconds := max 250 options.intervalMilliseconds
  stableScanCount := max 2 options.stableScanCount

/-- How `reload` ends: it may throw while the old bundles are loaded, or later, with the bundles that
are loaded then. -/
inductive ReloadOutcome (Bundles : Type)
  | success
  | threwBefore
  | threwAfter (remaining : Bundles)
  deriving DecidableEq

/-- A turn of the loop: what `scan` returns, if it does not throw, and how a reload would end. -/
structure Turn (Bundles : Type) where
  scan : Option Snapshot
  reload : ReloadOutcome Bundles

/-- The local variables of `monitor`, the counters, and the bundles that are loaded. -/
structure Monitor (Bundles : Type) where
  applied : Snapshot
  pending : Snapshot := .empty
  stableScans : UInt64 := 0
  successfulReloads : UInt64 := 0
  failedReloads : UInt64 := 0
  loaded : Bundles

variable {Bundles : Type} (bundlesOf : Snapshot → Bundles) (options : BundleManagerOptions)

namespace Monitor

variable (monitor : Monitor Bundles)

/-- Whether `reload` returns, and the bundles loaded behind it; it reads the repository that has just
been scanned. -/
def reload (current : Snapshot) : ReloadOutcome Bundles → Bool × Bundles
  | .success => (true, bundlesOf current)
  | .threwBefore => (false, monitor.loaded)
  | .threwAfter remaining => (false, remaining)

/-- What a scan does to the variables, and whether the turn goes on to the reload. -/
def consider (current : Snapshot) : Bool × Monitor Bundles :=
  if current = monitor.applied then (false, { monitor with stableScans := 0, pending := .empty })
  else if monitor.stableScans = 0 ∨ current ≠ monitor.pending then
    (false, { monitor with pending := current, stableScans := 1 })
  else
    let monitor := { monitor with stableScans := monitor.stableScans + 1 }
    if monitor.stableScans < options.stableScanCount then (false, monitor) else (true, monitor)

/-- One turn of the loop in `monitor`. -/
def turn (taken : Turn Bundles) : Monitor Bundles :=
  match taken.scan with
  | none => { monitor with failedReloads := monitor.failedReloads + 1 }
  | some current =>
    match monitor.consider options current with
    | (false, monitor) => monitor
    | (true, monitor) =>
      match monitor.reload bundlesOf current taken.reload with
      | (true, loaded) => { monitor with
          loaded
          successfulReloads := monitor.successfulReloads + 1
          applied := current
          pending := .empty
          stableScans := 0 }
      | (false, loaded) => { monitor with loaded, failedReloads := monitor.failedReloads + 1 }

end Monitor

/-- The monitor, and the memory of the successful scans and of how the reloads have ended, both with
the last one first. -/
structure Observed (Bundles : Type) where
  monitor : Monitor Bundles
  scans : List Snapshot
  reloads : List (ReloadOutcome Bundles) := []

/-- The first scan describes the bundles loaded at the start. -/
def Observed.start (initial : Snapshot) : Observed Bundles where
  monitor := { applied := initial, loaded := bundlesOf initial }
  scans := [initial]

def Observed.step (observed : Observed Bundles) (taken : Turn Bundles) : Observed Bundles where
  monitor := observed.monitor.turn bundlesOf options taken
  scans := taken.scan.toList ++ observed.scans
  reloads := match taken.scan with
    | none => observed.reloads
    | some current =>
      if (observed.monitor.consider options current).1 then taken.reload :: observed.reloads
      else observed.reloads

/-- A reload comes with as many equal scans as are asked for, and they differ from what is applied;
and a scan that equals what is applied finds its bundles loaded. -/
structure Described (observed : Observed Bundles) (taken : Turn Bundles) : Prop where
  stable : ∀ current, taken.scan = some current →
    (observed.monitor.consider options current).1 = true →
    (current :: observed.scans).take options.stableScanCount.toNat =
      List.replicate options.stableScanCount.toNat current ∧ current ≠ observed.monitor.applied
  settled : taken.scan = some observed.monitor.applied →
    observed.monitor.loaded = bundlesOf observed.monitor.applied

/-- Whether the reloads since the last success have left other bundles than these: the last of them
that got past the old bundles has. -/
def Replaced (bundles : Bundles) : List (ReloadOutcome Bundles) → Prop
  | [] => False
  | .success :: _ => False
  | .threwBefore :: earlier => Replaced bundles earlier
  | .threwAfter remaining :: _ => remaining ≠ bundles

/-- The repository does not go back to what is applied after a failed reload has left other bundles. -/
def Forward (observed : Observed Bundles) (taken : Turn Bundles) : Prop :=
  taken.scan = some observed.monitor.applied →
    ¬Replaced (bundlesOf observed.monitor.applied) observed.reloads

section Invariant

variable {bundlesOf options} {observed : Observed Bundles}
variable {current : Snapshot}

/-- What holds of the monitor in every run. -/
structure Sound (bundlesOf : Snapshot → Bundles) (observed : Observed Bundles) : Prop where
  counted : observed.scans.take observed.monitor.stableScans.toNat =
    List.replicate observed.monitor.stableScans.toNat observed.monitor.pending
  replaced_iff : Replaced (bundlesOf observed.monitor.applied) observed.reloads ↔
    observed.monitor.loaded ≠ bundlesOf observed.monitor.applied

/-- Fewer of the last elements are equal, too. -/
theorem take_replicate_of_le {α : Type} {entries : List α} {entry : α} {few many : Nat}
    (equal : entries.take many = List.replicate many entry) (le : few ≤ many) :
    entries.take few = List.replicate few entry := by
  have shorter := congrArg (List.take few) equal
  rwa [List.take_take, List.take_replicate, Nat.min_eq_left le] at shorter

/-- The counter may wrap around, but it never gets ahead. -/
theorem toNat_add_one_le (count : UInt64) : (count + 1).toNat ≤ count.toNat + 1 := by
  rw [UInt64.toNat_add]
  exact Nat.mod_le _ _

theorem Sound.counted_cons (sound : Sound bundlesOf observed) {few : Nat}
    (le : few ≤ observed.monitor.stableScans.toNat + 1) :
    (observed.monitor.pending :: observed.scans).take few =
      List.replicate few observed.monitor.pending := by
  apply take_replicate_of_le _ le
  rw [List.take_succ_cons, List.replicate_succ, sound.counted]

/-- What the scan has done to the variables if the turn goes on to the reload. -/
theorem consider_true {monitor : Monitor Bundles}
    (reached : (monitor.consider options current).1 = true) :
    current ≠ monitor.applied ∧ current = monitor.pending ∧
      options.stableScanCount ≤ monitor.stableScans + 1 ∧
      monitor.consider options current =
        (true, { monitor with stableScans := monitor.stableScans + 1 }) := by
  -- Each branch before the last returns without a reload.
  unfold Monitor.consider at reached ⊢
  split at reached
  · cases reached
  · rename_i different
    split at reached
    · cases reached
    · rename_i again
      dsimp only at reached
      split at reached
      · cases reached
      · rename_i enough
        obtain ⟨-, same⟩ := not_or.mp again
        rw [if_neg different, if_neg again, if_neg enough]
        exact ⟨different, not_not.mp same, UInt64.not_lt.mp enough, rfl⟩

/-- The scans that bring a reload about. -/
theorem Sound.stable (sound : Sound bundlesOf observed)
    (reached : (observed.monitor.consider options current).1 = true) :
    (current :: observed.scans).take options.stableScanCount.toNat =
      List.replicate options.stableScanCount.toNat current ∧ current ≠ observed.monitor.applied := by
  obtain ⟨different, rfl, enough, -⟩ := consider_true reached
  have le : options.stableScanCount.toNat ≤ observed.monitor.stableScans.toNat + 1 :=
    (UInt64.le_iff_toNat_le.mp enough).trans (toNat_add_one_le _)
  exact ⟨sound.counted_cons le, different⟩

/-- A scan that brings no reload about leaves what is applied and what is loaded. -/
theorem consider_kept (monitor : Monitor Bundles) (current : Snapshot) :
    (monitor.consider options current).2.applied = monitor.applied ∧
      (monitor.consider options current).2.loaded = monitor.loaded := by
  unfold Monitor.consider
  split
  · exact ⟨rfl, rfl⟩
  · split
    · exact ⟨rfl, rfl⟩
    · dsimp only
      split <;> exact ⟨rfl, rfl⟩

theorem Sound.consider_counted (sound : Sound bundlesOf observed) (current : Snapshot) :
    let after := (observed.monitor.consider options current).2
    (current :: observed.scans).take after.stableScans.toNat =
      List.replicate after.stableScans.toNat after.pending := by
  unfold Monitor.consider
  split
  · simp
  · split
    · simp
    · rename_i again
      -- The scan is the pending one, and is counted with the scans before.
      have same : current = observed.monitor.pending := not_not.mp (not_or.mp again).2
      have counted := sound.counted_cons (toNat_add_one_le observed.monitor.stableScans)
      dsimp only
      split <;> simpa [same] using counted

/-- A turn whose scan brings a reload about ends as the reload does. -/
theorem Sound.reload (sound : Sound bundlesOf observed)
    (reached : (observed.monitor.consider options current).1 = true)
    (outcome : ReloadOutcome Bundles) :
    Sound bundlesOf (observed.step bundlesOf options ⟨some current, outcome⟩) := by
  have counted := @Sound.consider_counted _ _ options _ sound current
  have known := (consider_true reached).2.2.2
  unfold Observed.step Monitor.turn
  dsimp only
  rw [known] at counted ⊢
  -- Only a success moves what is applied; a failure leaves the counter where the scan has put it.
  cases outcome with
  | success =>
    constructor
    · simp [Monitor.reload]
    · simp [Monitor.reload, Replaced]
  | threwBefore =>
    constructor
    · exact counted
    · exact sound.replaced_iff
  | threwAfter remaining =>
    constructor
    · exact counted
    · exact Iff.rfl

theorem Sound.step (sound : Sound bundlesOf observed) (taken : Turn Bundles) :
    Sound bundlesOf (observed.step bundlesOf options taken) := by
  obtain ⟨scan, outcome⟩ := taken
  cases scan with
  | none => exact ⟨sound.counted, sound.replaced_iff⟩
  | some current =>
    cases reached : (observed.monitor.consider options current).1 with
    | true => exact sound.reload reached outcome
    | false =>
      have counted := @Sound.consider_counted _ _ options _ sound current
      obtain ⟨applied, loaded⟩ := @consider_kept _ options observed.monitor current
      -- Without a reload the turn ends behind the scan.
      have ended : observed.monitor.turn bundlesOf options ⟨some current, outcome⟩ =
          (observed.monitor.consider options current).2 := by
        unfold Monitor.turn
        dsimp only
        split
        · rename_i known
          rw [known]
        · rename_i known
          simp [known] at reached
      unfold Observed.step
      rw [ended]
      constructor
      · exact counted
      · simpa [reached, applied, loaded] using sound.replaced_iff

theorem sound_start (initial : Snapshot) : Sound bundlesOf (Observed.start bundlesOf initial) := by
  constructor
  · simp [Observed.start]
  · simp [Observed.start, Replaced]

/-- Where the monitor is sound, only a repository that goes back finds other bundles. -/
theorem described_iff (sound : Sound bundlesOf observed) (taken : Turn Bundles) :
    Described bundlesOf options observed taken ↔ Forward bundlesOf observed taken := by
  constructor
  · intro described same replaced
    exact sound.replaced_iff.mp replaced (described.settled same)
  · intro forward
    constructor
    · intro current _ reached
      exact sound.stable reached
    · intro same
      by_contra other
      exact forward same (sound.replaced_iff.mpr other)

end Invariant

/-- Along every run, the reloads come in time and what is applied is what is loaded if and only if the
repository does not go back behind a failed reload. -/
theorem applied_describes_loaded_iff (initial : Snapshot) (turns : List (Turn Bundles)) :
    Along (Observed.step bundlesOf options.adopt) (Described bundlesOf options.adopt)
        (Observed.start bundlesOf initial) turns ↔
      Along (Observed.step bundlesOf options.adopt) (Forward bundlesOf)
        (Observed.start bundlesOf initial) turns := by
  -- The invariant holds of every run, so that the two conditions agree in each of its states.
  have kept (observed : Observed Bundles) (taken : Turn Bundles) (sound : Sound bundlesOf observed)
      (_ : Forward bundlesOf observed taken) :
      Sound bundlesOf (observed.step bundlesOf options.adopt taken) := sound.step taken
  have same (observed : Observed Bundles) (taken : Turn Bundles) (sound : Sound bundlesOf observed) :
      Described bundlesOf options.adopt observed taken ↔ Forward bundlesOf observed taken :=
    described_iff sound taken
  exact Along.congr kept same (sound_start initial) turns

/-- The repository changes, the reload throws when the old bundles are unloaded, and the repository
changes back: nothing is loaded, and the monitor has nothing left to do. -/
theorem nothing_left_loaded :
    let before : Snapshot := ⟨[("bundles/a.bndl", 1, 10)], List.pairwise_singleton _ _⟩
    let after : Snapshot := ⟨[("bundles/a.bndl", 2, 10)], List.pairwise_singleton _ _⟩
    let bundlesOf (snapshot : Snapshot) : List String := snapshot.entries.map Prod.fst
    let taken (current : Snapshot) : Turn (List String) := ⟨some current, .threwAfter []⟩
    let observed := [taken after, taken after].foldl
      (Observed.step bundlesOf (BundleManagerOptions.adopt {})) (Observed.start bundlesOf before)
    observed.monitor.applied = before ∧ observed.monitor.loaded = [] ∧
      bundlesOf before = ["bundles/a.bndl"] ∧
      ¬Described bundlesOf (BundleManagerOptions.adopt {}) observed (taken before) ∧
      (observed.step bundlesOf (BundleManagerOptions.adopt {}) (taken before)).monitor.stableScans =
        0 := by
  refine ⟨by decide, by decide, by decide, ?_, by decide⟩
  intro described
  exact absurd (described.settled (by decide)) (by decide)

end PocoDDS.BundleManagement
