import Mathlib.Data.Finset.Card
import PocoDDS.Lib.Recent

/-! The idempotency window remembers exactly the keys it accepted last. -/

namespace PocoDDS.Reliability

open RecentList

/-- The remembered keys, and the order in which they were accepted. -/
structure IdempotencyWindow where
  capacity : Nat
  keys : Finset String := ∅
  order : List String := []
  deriving DecidableEq

/-- The key accepted first is forgotten. -/
def IdempotencyWindow.popFront (window : IdempotencyWindow) : IdempotencyWindow :=
  match window.order with
  | [] => window
  | front :: rest => { window with keys := window.keys.erase front, order := rest }

/-- Whether a key is new, and the window after it was asked for. -/
def IdempotencyWindow.accept (window : IdempotencyWindow) (key : String) :
    Bool × IdempotencyWindow :=
  if key ∈ window.keys then (false, window)
  else
    let pushed := { window with keys := insert key window.keys, order := window.order ++ [key] }
    (true, if pushed.order.length > window.capacity then pushed.popFront else pushed)

/-- The window after a sequence of calls. -/
def IdempotencyWindow.run (window : IdempotencyWindow) (calls : List String) : IdempotencyWindow :=
  calls.foldl (fun current key => (current.accept key).2) window

/-- The keys that a sequence of calls accepts, oldest first. -/
def IdempotencyWindow.accepted (window : IdempotencyWindow) : List String → List String
  | [] => []
  | key :: rest =>
    if (window.accept key).1 then key :: (window.accept key).2.accepted rest
    else (window.accept key).2.accepted rest

section Invariant

/-- A window holds the recent keys of its history, in which no key came back too early. -/
structure Remembers (capacity : Nat) (window : IdempotencyWindow) (history : List String) :
    Prop where
  bound : window.capacity = capacity
  order : window.order = recent capacity history
  keys : window.keys = window.order.toFinset
  spaced : Spaced capacity history

variable {capacity : Nat} {window : IdempotencyWindow} {history : List String}

theorem remembers_start (capacity : Nat) : Remembers capacity { capacity } [] where
  bound := rfl
  order := (recent_nil capacity).symm
  keys := rfl
  spaced := Spaced.nil capacity

variable (remembers : Remembers capacity window history)
include remembers

theorem Remembers.distinct :
    window.order.Nodup := by
  rw [remembers.order]
  exact remembers.spaced.nodup_recent

/-- The set and the queue answer the same question. -/
theorem Remembers.mem_keys (key : String) : key ∈ window.keys ↔ key ∈ recent capacity history := by
  rw [remembers.keys, List.mem_toFinset, remembers.order]

theorem Remembers.refused_iff (key : String) :
    (window.accept key).1 = false ↔ key ∈ recent capacity history := by
  rw [← remembers.mem_keys]
  unfold IdempotencyWindow.accept
  split
  · next member => simpa using member
  · next fresh => simpa using fresh

/-- Between two calls the set is within the capacity, also where that is zero. -/
theorem Remembers.card_keys_le : window.keys.card ≤ capacity := by
  calc window.keys.card = window.order.length := by
        rw [remembers.keys, List.toFinset_card_of_nodup remembers.distinct]
    _ ≤ capacity := by
        rw [remembers.order]
        exact length_recent_le capacity history

omit remembers

theorem popFront_eq {front : String} {rest : List String} (queued : window.order = front :: rest)
    (keys : window.keys = window.order.toFinset) (distinct : window.order.Nodup) :
    window.popFront = { window with keys := rest.toFinset, order := rest } := by
  have absent : front ∉ rest := by
    rw [queued] at distinct
    exact (List.nodup_cons.mp distinct).1
  have erased : window.keys.erase front = rest.toFinset := by
    rw [keys, queued, List.toFinset_cons, Finset.erase_insert (by simpa using absent)]
  simp only [IdempotencyWindow.popFront, queued, erased]

theorem Remembers.refuse (remembers : Remembers capacity window history) {key : String}
    (refused : (window.accept key).1 = false) : (window.accept key).2 = window := by
  have member := (remembers.mem_keys key).mpr ((remembers.refused_iff key).mp refused)
  simp only [IdempotencyWindow.accept, member, if_true]

/-- An accepted key becomes the most recent one, whether or not another has to leave for it. -/
theorem Remembers.push (remembers : Remembers capacity window history) {key : String}
    (accepted : (window.accept key).1 = true) :
    Remembers capacity (window.accept key).2 (history ++ [key]) := by
  have fresh : key ∉ recent capacity history := by
    rw [← remembers.refused_iff, accepted]
    exact Bool.noConfusion
  have spaced := remembers.spaced.push fresh
  have unknown : key ∉ window.keys := by rwa [remembers.mem_keys]
  -- The key is in neither place yet, so after the insertion both still agree.
  have keys : insert key window.keys = (window.order ++ [key]).toFinset := by
    rw [remembers.keys, List.toFinset_append, Finset.insert_eq, Finset.union_comm]
    rfl
  have next : recent capacity (window.order ++ [key]) = recent capacity (history ++ [key]) := by
    rw [remembers.order]
    exact recent_push capacity history key
  have short : window.order.length ≤ capacity := by
    rw [remembers.order]
    exact length_recent_le capacity history
  have distinct : (window.order ++ [key]).Nodup := by
    rw [← remembers.order] at fresh
    exact List.nodup_append_comm.mp (List.nodup_cons.mpr ⟨fresh, remembers.distinct⟩)
  obtain rfl := remembers.bound
  simp only [IdempotencyWindow.accept, unknown, if_false]
  split
  · next full =>
    -- One key too many: the recent ones are all but the front.
    obtain ⟨front, rest, queued⟩ := List.exists_cons_of_ne_nil
      (List.append_ne_nil_of_right_ne_nil window.order (List.cons_ne_nil key []))
    have left : rest = recent window.capacity (history ++ [key]) := by
      rw [← next, queued]
      have long := congrArg List.length queued
      simp only [List.length_append, List.length_cons, List.length_nil] at long full
      have one : (front :: rest).length - window.capacity = 1 := by
        rw [List.length_cons]
        omega
      rw [recent, one, List.drop_one, List.tail_cons]
    rw [popFront_eq queued keys distinct]
    exact ⟨rfl, left, rfl, spaced⟩
  · next room =>
    have whole : recent window.capacity (window.order ++ [key]) = window.order ++ [key] := by
      rw [recent, Nat.sub_eq_zero_of_le (Nat.le_of_not_gt room), List.drop_zero]
    exact ⟨rfl, whole.symm.trans next, keys, spaced⟩

theorem Remembers.run (remembers : Remembers capacity window history) (calls : List String) :
    Remembers capacity (window.run calls) (history ++ window.accepted calls) := by
  induction calls generalizing window history with
  | nil => simpa [IdempotencyWindow.run, IdempotencyWindow.accepted] using remembers
  | cons key rest ih =>
    rw [IdempotencyWindow.accepted, IdempotencyWindow.run, List.foldl_cons]
    split
    · next accepted =>
      rw [List.append_cons]
      exact ih (remembers.push accepted)
    · next refused =>
      rw [remembers.refuse (Bool.eq_false_of_not_eq_true refused)]
      exact ih remembers

end Invariant

section Results

variable (capacity : Nat) (calls : List String)

/-- After any calls, a key is refused exactly if it is among the keys accepted last, as many of
them as the capacity says, and the set is the queue without duplicates and within the capacity. -/
theorem refuses_recent (key : String) :
    let window := IdempotencyWindow.run { capacity } calls
    let accepted := IdempotencyWindow.accepted { capacity } calls
    ((window.accept key).1 = false ↔ key ∈ recent capacity accepted) ∧
      (recent capacity accepted).length = min capacity accepted.length ∧
      window.keys = window.order.toFinset ∧ window.order.Nodup ∧
      window.keys.card ≤ capacity := by
  have remembers := (remembers_start capacity).run calls
  exact ⟨remembers.refused_iff key, length_recent capacity _, remembers.keys, remembers.distinct,
    remembers.card_keys_le⟩

/-- Between two times at which one key is accepted there are as many keys as the capacity says. -/
theorem accepted_again {start between finish : List String} {key : String}
    (twice : IdempotencyWindow.accepted { capacity } calls =
      start ++ key :: between ++ key :: finish) :
    capacity ≤ between.dedup.length := by
  have spaced := ((remembers_start capacity).run calls).spaced
  rw [List.nil_append, twice] at spaced
  exact spaced.le_distinct_between

theorem accepted_again_after_one : 1 ≤ (["b"] : List String).dedup.length :=
  accepted_again 1 ["a", "b", "a"] (show IdempotencyWindow.accepted { capacity := 1 } ["a", "b", "a"] =
    [] ++ "a" :: ["b"] ++ "a" :: [] by decide)

-- Without capacity every key is new; with room for two, the third one makes the first one new.
example : IdempotencyWindow.accepted ⟨0, ∅, []⟩ ["a", "a"] = ["a", "a"] := by decide

example : IdempotencyWindow.accepted ⟨2, ∅, []⟩ ["a", "b", "a", "c", "a"] = ["a", "b", "c", "a"] := by
  decide

end Results

end PocoDDS.Reliability
