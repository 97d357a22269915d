import Mathlib.Data.List.Chain
import Mathlib.Tactic

/-! Counters that are sampled over a run, and what the samples reveal where a restart resets them. -/

namespace CounterRuns

/-- What consecutive samples reveal: each increase, and the whole value after a reset. -/
def revealed : List Int → Int
  | before :: after :: rest =>
    (if after < before then after else after - before) + revealed (after :: rest)
  | _ => 0

/-- The difference between the last sample and the first one. -/
def change : List Int → Int
  | [] => 0
  | first :: rest => rest.getLastD first - first

/-- A counter that goes down between no two consecutive samples. -/
def Rising (values : List Int) : Prop := values.IsChain (· ≤ ·)

/-- Without a reset the increases add up to the difference between both ends. -/
theorem revealed_eq_change {values : List Int} (rising : Rising values) :
    revealed values = change values := by
  -- Each sample is the last one of what came before and the first one of what comes.
  induction values with
  | nil => rfl
  | cons before rest ih =>
    cases rest with
    | nil => simp [revealed, change]
    | cons after rest =>
      obtain ⟨step, later⟩ := List.isChain_cons_cons.mp rising
      rw [revealed, if_neg (Int.not_lt.mpr step), ih later]
      simp only [change, List.getLastD_cons]
      omega

section Samples

variable {σ : Type} (read : σ → String → Int) (names : List String)
  (maximums : List (String × Int)) (samples : List σ)

/-- The values of one counter. -/
def readings (name : String) : List Int := samples.map (read · name)

/-- What the samples reveal is within the maximums, and no counter went down. -/
structure Covered : Prop where
  within : ∀ entry ∈ maximums, revealed (readings read samples entry.1) ≤ entry.2
  rising : ∀ name ∈ names, Rising (readings read samples name)

variable {read names maximums samples}

/-- Where both ends are within the maximums, all that matters is whether a counter went down. -/
theorem covered_iff_rising (listed : ∀ entry ∈ maximums, entry.1 ∈ names)
    (ends : ∀ entry ∈ maximums, change (readings read samples entry.1) ≤ entry.2) :
    Covered read names maximums samples ↔ ∀ name ∈ names, Rising (readings read samples name) := by
  refine ⟨Covered.rising, fun rising => ⟨fun entry member => ?_, rising⟩⟩
  rw [revealed_eq_change (rising entry.1 (listed entry member))]
  exact ends entry member

end Samples

end CounterRuns
