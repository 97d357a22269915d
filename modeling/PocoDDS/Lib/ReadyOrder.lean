import Mathlib.Data.List.Perm.Basic
import Mathlib.Tactic

/-! Sorting nodes so that each comes after what it needs, by taking the first one that is ready. -/

namespace ReadyOrder

variable {N K : Type} (key : N → K) (needs : N → List K)

/-- Each node comes after what it needs. -/
inductive InOrder : List N → Prop
  | nil : InOrder []
  | snoc {order : List N} {node : N} : InOrder order → needs node ⊆ order.map key →
      InOrder (order ++ [node])

variable {key needs} {remaining taken order : List N} {node : N}

variable (inOrder : InOrder key needs order)
include inOrder

theorem InOrder.subset (member : node ∈ order) :
    needs node ⊆ order.map key := by
  induction inOrder with
  | nil => cases member
  | snoc _ earlier ih =>
    rw [List.map_append]
    rcases List.mem_append.mp member with old | new
    · exact List.subset_append_of_subset_left _ (ih old)
    · exact List.subset_append_of_subset_left _ (List.mem_singleton.mp new ▸ earlier)

theorem InOrder.congr {needs' : N → List K} (same : ∀ node ∈ order, needs' node = needs node) :
    InOrder key needs' order := by
  induction inOrder with
  | nil => exact .nil
  | snoc _ earlier ih =>
    refine .snoc (ih fun node member => same node (List.mem_append_left _ member)) ?_
    rwa [same _ (by simp)]

/-- Nodes that no other node needs can be left out. -/
theorem InOrder.filter {keep : N → Bool}
    (kept : ∀ node ∈ order, keep node → ∀ other ∈ order, key other ∈ needs node → keep other) :
    InOrder key needs (order.filter keep) := by
  induction inOrder with
  | nil => exact .nil
  | @snoc order node _ earlier ih =>
    have ih := ih fun node member keeps other listed =>
      kept node (List.mem_append_left _ member) keeps other (List.mem_append_left _ listed)
    rw [List.filter_append]
    cases keeps : keep node with
    | false => simpa [keeps] using ih
    | true =>
      rw [List.filter_singleton, keeps]
      refine ih.snoc fun need needed => ?_
      obtain ⟨other, listed, rfl⟩ := List.mem_map.mp (earlier needed)
      exact List.mem_map_of_mem (List.mem_filter.mpr
        ⟨listed, kept node (by simp) keeps other (List.mem_append_left _ listed) needed⟩)

/-- As long as not all of an order has been taken, some node of it can be taken next. -/
theorem InOrder.next (left : ∃ node ∈ order, node ∈ remaining)
    (listed : ∀ node ∈ order, node ∈ remaining ∨ node ∈ taken) :
    ∃ node ∈ remaining, needs node ⊆ taken.map key := by
  induction inOrder with
  | nil => simp at left
  | @snoc order node _ earlier ih =>
    by_cases before : ∃ node ∈ order, node ∈ remaining
    · exact ih before fun other member => listed other (List.mem_append_left _ member)
    · obtain ⟨last, member, here⟩ := left
      rcases List.mem_append.mp member with old | new
      · exact absurd ⟨last, old, here⟩ before
      · rw [List.mem_singleton.mp new] at here
        refine ⟨node, here, fun need needed => ?_⟩
        obtain ⟨other, old, rfl⟩ := List.mem_map.mp (earlier needed)
        have taken := (listed other (List.mem_append_left _ old)).resolve_left fun later =>
          before ⟨other, old, later⟩
        exact List.mem_map_of_mem taken

omit inOrder

variable [DecidableEq N] [DecidableEq K] (key needs)

/-- The first node that has its needs among what was taken. -/
def nextReady (remaining taken : List N) : Option N :=
  remaining.find? fun node => needs node ⊆ taken.map key

/-- Taking nodes for as long as one is ready. The result is none when nodes are left that wait for
each other, or for something that is not there. -/
def takeReady (remaining taken : List N) : Option (List N) :=
  match _next : nextReady key needs remaining taken with
  | some node => takeReady (remaining.erase node) (taken ++ [node])
  | none => if remaining = [] then some taken else none
termination_by remaining.length
decreasing_by
  have member := List.mem_of_find?_eq_some _next
  have some := List.length_pos_of_mem member
  rw [List.length_erase_of_mem member]
  omega

variable {key needs}

theorem takeReady_some (next : nextReady key needs remaining taken = some node) :
    takeReady key needs remaining taken =
      takeReady key needs (remaining.erase node) (taken ++ [node]) := by
  rw [takeReady]
  split
  · next next' => rw [Option.some.inj (next.symm.trans next')]
  · next none => cases next.symm.trans none

theorem takeReady_none (next : nextReady key needs remaining taken = none) :
    takeReady key needs remaining taken = if remaining = [] then some taken else none := by
  rw [takeReady]
  split
  · next some => cases next.symm.trans some
  · rfl

omit [DecidableEq N] in
theorem nextReady_spec (next : nextReady key needs remaining taken = some node) :
    node ∈ remaining ∧ needs node ⊆ taken.map key := by
  unfold nextReady at next
  exact ⟨List.mem_of_find?_eq_some next, by simpa using List.find?_some next⟩

theorem takeReady_inOrder (inOrder : InOrder key needs taken)
    (taking : takeReady key needs remaining taken = some order) :
    InOrder key needs order ∧ order.Perm (taken ++ remaining) := by
  induction remaining, taken using takeReady.induct key needs with
  | case1 remaining taken node next ih =>
    obtain ⟨member, ready⟩ := nextReady_spec next
    rw [takeReady_some next] at taking
    obtain ⟨ordered, perm⟩ := ih (inOrder.snoc ready) taking
    refine ⟨ordered, perm.trans ?_⟩
    rw [List.append_assoc]
    exact (List.perm_cons_erase member).symm.append_left taken
  | case2 taken next =>
    rw [takeReady_none next, if_pos rfl, Option.some.injEq] at taking
    exact taking ▸ ⟨inOrder, by simp⟩
  | case3 remaining taken next left =>
    rw [takeReady_none next, if_neg left] at taking
    cases taking

theorem takeReady_isSome (inOrder : InOrder key needs order)
    (listed : ∀ node ∈ order, node ∈ remaining ∨ node ∈ taken)
    (free : ∀ node ∈ remaining, node ∉ order → needs node = []) :
    (takeReady key needs remaining taken).isSome := by
  induction remaining, taken using takeReady.induct key needs with
  | case1 remaining taken node next ih =>
    rw [takeReady_some next]
    refine ih (fun other member => ?_) fun other member =>
      free other (List.mem_of_mem_erase member)
    rw [List.mem_append, List.mem_singleton]
    rcases listed other member with later | old
    · by_cases same : other = node
      · exact .inr (.inr same)
      · exact .inl ((List.mem_erase_of_ne same).mpr later)
    · exact .inr (.inl old)
  | case2 taken next => rw [takeReady_none next, if_pos rfl]; rfl
  | case3 remaining taken next left =>
    -- A node outside the order could be taken, and otherwise the first one of the order that is left.
    obtain ⟨node, member, ready⟩ : ∃ node ∈ remaining, needs node ⊆ taken.map key := by
      obtain ⟨first, here⟩ := List.exists_mem_of_ne_nil remaining left
      by_cases ordered : first ∈ order
      · exact inOrder.next ⟨first, ordered, here⟩ listed
      · exact ⟨first, here, by simp [free first here ordered]⟩
    have none := List.find?_eq_none.mp next node member
    exact absurd (decide_eq_true ready) none

end ReadyOrder
