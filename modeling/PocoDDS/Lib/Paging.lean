import Mathlib.Data.List.Sort
import Mathlib.Tactic

/-! Pages of what several parts hold: each part is sorted and cut, the rest is merged, and a slice
of that is returned. -/

namespace Paging

variable {α κ : Type} [LinearOrder κ] {key : α → κ}

/-- The rows with the largest keys first; rows of one key may come in any order. -/
def Ordered (key : α → κ) (rows sorted : List α) : Prop :=
  sorted.Perm rows ∧ sorted.Pairwise fun left right => key right ≤ key left

structure Page (α : Type) where
  rows : List α
  more : Bool

/-- The rows from an offset on, up to a limit, and whether there are more. -/
def slice (merged : List α) (offset limit : Nat) : Page α :=
  let first := min offset merged.length
  let last := min (first + limit) merged.length
  ⟨(merged.take last).drop first, decide (last < merged.length)⟩

/-- What the cut of each part, the merge and the slice may return. -/
def Answer (key : α → κ) (parts : List (List α)) (cap offset limit : Nat) (page : Page α) : Prop :=
  ∃ selected merged,
    List.Forall₂ (fun part chosen => ∃ sorted, Ordered key part sorted ∧ chosen = sorted.take cap)
      parts selected ∧
    Ordered key selected.flatten merged ∧ page = slice merged offset limit

theorem slice_rows (merged : List α) (offset limit : Nat) :
    (slice merged offset limit).rows = (merged.drop offset).take limit := by
  unfold slice
  dsimp only
  rcases Nat.le_total merged.length offset with beyond | within
  · simp [beyond]
  · rw [Nat.min_eq_left within, List.drop_take, List.take_eq_take_iff, List.length_drop]
    omega

theorem slice_more (merged : List α) (offset limit : Nat) :
    (slice merged offset limit).more = true ↔ offset + limit < merged.length := by
  unfold slice
  simp only [decide_eq_true_eq]
  omega

section Cuts

/-- A set of rows that contains every row above one of its own. -/
def Upper (key : α → κ) (cut : α → Bool) : Prop :=
  ∀ left right, key left ≤ key right → cut left = true → cut right = true

variable {cut : α → Bool} {sorted : List α} (upper : Upper key cut)
  (ordered : sorted.Pairwise fun left right => key right ≤ key left)
include upper ordered

/-- In order, the rows of an upper set come first. -/
theorem Upper.filter_eq_take : sorted.filter cut = sorted.take (sorted.countP cut) := by
  induction sorted with
  | nil => rfl
  | cons row rest ih =>
    obtain ⟨above, ordered⟩ := List.pairwise_cons.mp ordered
    cases chosen : cut row with
    | true => simp [chosen, ih ordered]
    | false =>
      -- Nothing below a row that is left out is chosen.
      have none : ∀ other ∈ rest, ¬ cut other = true := by
        intro other member taken
        rw [upper other row (above other member) taken] at chosen
        cases chosen
      rw [List.filter_cons_of_neg (by simp [chosen]), List.filter_eq_nil_iff.mpr none,
        List.countP_cons_of_neg (by simp [chosen]), List.countP_eq_zero.mpr none, List.take_zero]

/-- Behind as many rows as an upper set has, there is none of it. -/
theorem Upper.notMem_drop {cap : Nat} (fits : sorted.countP cut ≤ cap) {row : α}
    (member : row ∈ sorted.drop cap) :
    cut row = false := by
  have front := upper.filter_eq_take ordered
  have split : sorted.filter cut ++ (sorted.drop (sorted.countP cut)).filter cut =
      sorted.filter cut := by
    conv_rhs => rw [← List.take_append_drop (sorted.countP cut) sorted, List.filter_append, ← front,
      List.filter_filter]
    simp
  have none := List.filter_eq_nil_iff.mp (List.append_right_eq_self.mp split) row
    ((List.drop_sublist_drop_left sorted fits).subset member)
  simpa using none

/-- What a cut leaves of a part has all of an upper set that is no larger than it. -/
theorem Upper.filter_take {cap : Nat} (fits : sorted.countP cut ≤ cap) :
    (sorted.take cap).filter cut = sorted.filter cut := by
  have none : (sorted.drop cap).filter cut = [] := by
    rw [List.filter_eq_nil_iff]
    intro row member
    simp [upper.notMem_drop ordered fits member]
  conv_rhs => rw [← List.take_append_drop cap sorted, List.filter_append, none, List.append_nil]

omit upper ordered

variable {parts selected : List (List α)} {merged : List α} {cap : Nat}

theorem Upper.filter_selected {cut : α → Bool} (upper : Upper key cut)
    (chosen : List.Forall₂ (fun part chosen => ∃ sorted, Ordered key part sorted ∧
      chosen = sorted.take cap) parts selected)
    (fits : ∀ part ∈ parts, part.countP cut ≤ cap) :
    (selected.flatten.filter cut).Perm (parts.flatten.filter cut) := by
  induction chosen with
  | nil => exact List.Perm.refl _
  | @cons part rows parts selected head tail ih =>
    obtain ⟨sorted, ⟨same, ordered⟩, rfl⟩ := head
    have small := fits part List.mem_cons_self
    rw [List.flatten_cons, List.flatten_cons, List.filter_append, List.filter_append,
      upper.filter_take ordered (by rw [same.countP_eq]; exact small)]
    exact (same.filter cut).append (ih fun other member => fits other (List.mem_cons_of_mem _ member))

/-- The merged rows start with every such set. -/
theorem Upper.merged_take {cut : α → Bool} (upper : Upper key cut)
    (chosen : List.Forall₂ (fun part chosen => ∃ sorted, Ordered key part sorted ∧
      chosen = sorted.take cap) parts selected)
    (ordered : Ordered key selected.flatten merged)
    (fits : ∀ part ∈ parts, part.countP cut ≤ cap) :
    (merged.take (parts.flatten.countP cut)).Perm (parts.flatten.filter cut) ∧
      ∀ row ∈ merged.drop (parts.flatten.countP cut), cut row = false := by
  have filtered := (ordered.1.filter cut).trans (upper.filter_selected chosen fits)
  have counted : merged.countP cut = parts.flatten.countP cut := by
    rw [List.countP_eq_length_filter, List.countP_eq_length_filter, filtered.length_eq]
  constructor
  · rw [← counted, ← upper.filter_eq_take ordered.2]
    exact filtered
  · exact fun row member => upper.notMem_drop ordered.2 counted.le member

/-- A part has no more rows of a set than all parts together. -/
theorem countP_part_le {cut : α → Bool} {part : List α} (member : part ∈ parts) :
    part.countP cut ≤ parts.flatten.countP cut :=
  (List.sublist_flatten_of_mem member).countP_le

/-- No more rows are merged than there are, and no fewer than the cut lets through. -/
theorem merged_length (chosen : List.Forall₂ (fun part chosen => ∃ sorted, Ordered key part sorted ∧
      chosen = sorted.take cap) parts selected)
    (ordered : Ordered key selected.flatten merged) :
    merged.length ≤ parts.flatten.length ∧ min parts.flatten.length cap ≤ merged.length ∧
      ((∀ part ∈ parts, part.length ≤ cap) → merged.length = parts.flatten.length) := by
  rw [ordered.1.length_eq]
  clear ordered
  induction chosen with
  | nil => simp
  | @cons part rows parts selected head tail ih =>
    obtain ⟨sorted, ⟨same, -⟩, rfl⟩ := head
    obtain ⟨most, least, all⟩ := ih
    simp only [List.flatten_cons, List.length_append, List.length_take, same.length_eq]
    refine ⟨by omega, by omega, fun small => ?_⟩
    have whole := all fun other member => small other (List.mem_cons_of_mem _ member)
    have fits := small part List.mem_cons_self
    omega

end Cuts

section Boundaries

variable {rows : List α}

/-- The keys of the rows, the largest first. -/
def ranked (key : α → κ) (rows : List α) : List κ :=
  (rows.map key).mergeSort fun left right => decide (right ≤ left)

/-- No two rows of one key stand on the two sides of a place. -/
def Separated (key : α → κ) (rows : List α) (place : Nat) : Prop :=
  ∀ before after, ((ranked key rows).take place).getLast? = some before →
    (ranked key rows)[place]? = some after → after < before

theorem pairwise_ranked (key : α → κ) (rows : List α) :
    (ranked key rows).Pairwise fun left right => right ≤ left := by
  have sorted : (ranked key rows).Pairwise fun left right => decide (right ≤ left) = true :=
    List.pairwise_mergeSort (fun first second third below further => by
      simp only [decide_eq_true_eq] at below further ⊢
      exact further.trans below) (fun first second => by simpa using le_total second first) _
  exact sorted.imp fun below => by simpa using below

theorem perm_ranked (key : α → κ) (rows : List α) : (ranked key rows).Perm (rows.map key) :=
  List.mergeSort_perm _ _

/-- The rows before a separated place form an upper set. -/
theorem Separated.exists_upper {place : Nat} (separated : Separated key rows place)
    (within : place ≤ rows.length) : ∃ cut, Upper key cut ∧ rows.countP cut = place := by
  rcases Nat.eq_or_lt_of_le within with rfl | inside
  · exact ⟨fun _ => true, fun _ _ _ _ => rfl, by simp⟩
  have size : (ranked key rows).length = rows.length := by
    rw [(perm_ranked key rows).length_eq, List.length_map]
  have bound : place < (ranked key rows).length := by omega
  obtain ⟨limit, here⟩ : ∃ limit, (ranked key rows)[place] = limit := ⟨_, rfl⟩
  have sorted := pairwise_ranked key rows
  -- Every key before the place is above the one there, and none after it is.
  have later : ∀ value ∈ (ranked key rows).drop place, value ≤ limit := by
    intro value member
    rw [List.drop_eq_getElem_cons bound, here] at member
    rcases List.mem_cons.mp member with rfl | further
    · exact le_rfl
    · have ordered := sorted.sublist (List.drop_sublist place _)
      rw [List.drop_eq_getElem_cons bound, here] at ordered
      exact (List.pairwise_cons.mp ordered).1 value further
  have earlier : ∀ value ∈ (ranked key rows).take place, limit < value := by
    intro value member
    obtain ⟨front, before, shape⟩ : ∃ front before,
        (ranked key rows).take place = front ++ [before] :=
      List.eq_nil_or_concat' _ |>.resolve_left (List.ne_nil_of_mem member)
    have above : limit < before := by
      refine separated before limit (by rw [shape]; simp) ?_
      rw [List.getElem?_eq_getElem bound, here]
    have ordered := sorted.sublist (List.take_sublist place _)
    rw [shape] at member ordered
    rcases List.mem_append.mp member with first | final
    · exact above.trans_le ((List.pairwise_append.mp ordered).2.2 value first before (by simp))
    · rw [List.mem_singleton.mp final]
      exact above
  refine ⟨fun row => decide (limit < key row), ?_, ?_⟩
  · intro left right below taken
    simp only [decide_eq_true_eq] at taken ⊢
    exact taken.trans_le below
  have same : rows.countP (fun row => decide (limit < key row)) =
      (ranked key rows).countP fun value => decide (limit < value) := by
    rw [(perm_ranked key rows).countP_eq, List.countP_map]
    rfl
  have none : ((ranked key rows).drop place).countP (fun value => decide (limit < value)) = 0 := by
    rw [List.countP_eq_zero]
    intro value member
    simpa using later value member
  have every : ((ranked key rows).take place).countP (fun value => decide (limit < value)) =
      ((ranked key rows).take place).length := by
    rw [List.countP_eq_length]
    intro value member
    simpa using earlier value member
  rw [same, ← List.take_append_drop place (ranked key rows), List.countP_append, none, every,
    List.length_take]
  omega

theorem exists_ordered (key : α → κ) (rows : List α) : ∃ order, Ordered key rows order := by
  refine ⟨rows.mergeSort fun left right => decide (key right ≤ key left),
    List.mergeSort_perm _ _, ?_⟩
  have sorted : (rows.mergeSort fun left right => decide (key right ≤ key left)).Pairwise
      fun left right => decide (key right ≤ key left) = true :=
    List.pairwise_mergeSort (fun first second third below further => by
      simp only [decide_eq_true_eq] at below further ⊢
      exact further.trans below)
      (fun first second => by simpa using le_total (key second) (key first)) _
  exact sorted.imp fun below => by simpa using below

/-- All orders of the rows have the same keys. -/
theorem Ordered.map_key {order : List α} (ordered : Ordered key rows order) :
    order.map key = ranked key rows := by
  refine List.Perm.eq_of_pairwise (fun left right _ _ below above => le_antisymm above below)
    (List.pairwise_map.mpr ordered.2) (pairwise_ranked key rows) ?_
  exact (ordered.1.map key).trans (perm_ranked key rows).symm

theorem Ordered.trans_perm {others order : List α} (ordered : Ordered key rows order)
    (same : rows.Perm others) : Ordered key others order :=
  ⟨ordered.1.trans same, ordered.2⟩

/-- What stands at a place does not depend on how the rows are listed. -/
theorem Separated.perm {others : List α} {place : Nat} (separated : Separated key rows place)
    (same : rows.Perm others) : Separated key others place := by
  obtain ⟨order, ordered⟩ := exists_ordered key rows
  unfold Separated at separated ⊢
  rwa [← (ordered.trans_perm same).map_key, ordered.map_key]

end Boundaries

section Pages

variable {parts : List (List α)} {caps : Nat → Nat} {size : Nat} {pages : Nat → Page α}

/-- The rows of the first pages. -/
def listed (pages : Nat → Page α) (count : Nat) : List α :=
  (List.range count).flatMap fun call => (pages call).rows

/-- The pages up to the first that announces no more list all rows in order, and a page announces
more exactly if a later one has some. -/
def Partitions (key : α → κ) (rows : List α) (pages : Nat → Page α) : Prop :=
  (∃ last, (∀ call < last, (pages call).more = true) ∧ (pages last).more = false ∧
    Ordered key rows (listed pages (last + 1))) ∧
  ∀ call, (pages call).more = true ↔ ∃ later > call, (pages later).rows ≠ []

/-- The cuts leave the rows of every page that has some, and one row more. -/
def Enough (parts : List (List α)) (caps : Nat → Nat) (size : Nat) : Prop :=
  ∀ call, call * size < parts.flatten.length →
    call * size + size < caps call ∨ ∀ part ∈ parts, part.length ≤ caps call

variable (answers : ∀ call, Answer key parts (caps call) (call * size) size (pages call))
  (positive : 0 < size) (enough : Enough parts caps size)

include answers positive enough

theorem page_more_iff (call : Nat) :
    (pages call).more = true ↔ (call + 1) * size < parts.flatten.length := by
  obtain ⟨selected, merged, chosen, ordered, answer⟩ := answers call
  obtain ⟨most, least, all⟩ := merged_length chosen ordered
  rw [answer, slice_more, Nat.succ_mul]
  by_cases inside : call * size < parts.flatten.length
  · rcases enough call inside with wide | small
    · omega
    · rw [all small]
  · omega

theorem page_rows_iff (call : Nat) :
    (pages call).rows ≠ [] ↔ call * size < parts.flatten.length := by
  obtain ⟨selected, merged, chosen, ordered, answer⟩ := answers call
  obtain ⟨most, least, all⟩ := merged_length chosen ordered
  rw [answer, slice_rows, ← List.length_pos_iff, List.length_take, List.length_drop]
  by_cases inside : call * size < parts.flatten.length
  · rcases enough call inside with wide | small
    · omega
    · rw [all small]
      omega
  · omega

/-- A page carries on from the rows before its place. -/
theorem page_extends (call : Nat) {cut next : α → Bool} (upper : Upper key cut)
    (nextUpper : Upper key next)
    (counted : parts.flatten.countP cut = min (call * size) parts.flatten.length)
    (nextCounted : parts.flatten.countP next = min ((call + 1) * size) parts.flatten.length) :
    (parts.flatten.filter cut ++ (pages call).rows).Perm (parts.flatten.filter next) ∧
      ((pages call).rows.Pairwise fun left right => key right ≤ key left) ∧
      ∀ row ∈ (pages call).rows, cut row = false := by
  obtain ⟨selected, merged, chosen, ordered, answer⟩ := answers call
  obtain ⟨most, least, all⟩ := merged_length chosen ordered
  rw [answer, slice_rows]
  have sliced := ordered.2.sublist
    ((List.take_sublist size _).trans (List.drop_sublist (call * size) merged))
  rw [Nat.succ_mul] at nextCounted
  by_cases inside : call * size < parts.flatten.length
  · have room {set : α → Bool} (few : parts.flatten.countP set ≤ call * size + size) :
        ∀ part ∈ parts, part.countP set ≤ caps call := by
      intro part member
      rcases enough call inside with wide | small
      · exact (countP_part_le member).trans (by omega)
      · exact List.countP_le_length.trans (small part member)
    obtain ⟨front, behind⟩ := upper.merged_take chosen ordered (room (by omega))
    obtain ⟨longer, -⟩ := nextUpper.merged_take chosen ordered (room (by omega))
    rw [counted, Nat.min_eq_left (by omega)] at front behind
    refine ⟨(front.symm.append_right _).trans (List.Perm.trans (List.Perm.of_eq ?_) longer), sliced,
      fun row member => behind row (List.mem_of_mem_take member)⟩
    -- The page ends with its size or with the last of all rows.
    rw [nextCounted, ← List.take_add, List.take_eq_take_iff]
    omega
  · -- There is nothing at this place, and the rows before it are all rows.
    rw [List.drop_eq_nil_of_le (by omega)]
    have every {set : α → Bool} (full : parts.flatten.countP set = parts.flatten.length) :
        parts.flatten.filter set = parts.flatten :=
      List.filter_eq_self.mpr (List.countP_eq_length.mp full)
    rw [every (by omega), every (by omega)]
    simp

omit answers positive enough in
/-- A condition at each place gives the rows before it. -/
theorem exists_cuts (separated : ∀ call, Separated key parts.flatten (call * size)) (call : Nat) :
    ∃ cut, Upper key cut ∧ parts.flatten.countP cut = min (call * size) parts.flatten.length := by
  rcases Nat.le_total (call * size) parts.flatten.length with within | beyond
  · rw [Nat.min_eq_left within]
    exact (separated call).exists_upper within
  · rw [Nat.min_eq_right beyond]
    exact ⟨fun _ => true, fun _ _ _ _ => rfl, by simp⟩

/-- The pages list the rows before their last place, in order. -/
theorem listed_perm (separated : ∀ call, Separated key parts.flatten (call * size)) (count : Nat)
    {cut : α → Bool} (upper : Upper key cut)
    (counted : parts.flatten.countP cut = min (count * size) parts.flatten.length) :
    Ordered key (parts.flatten.filter cut) (listed pages count) := by
  induction count generalizing cut with
  | zero =>
    have none : parts.flatten.filter cut = [] := by
      rw [← List.length_eq_zero_iff, ← List.countP_eq_length_filter, counted]
      simp
    rw [none]
    exact ⟨List.Perm.refl _, List.Pairwise.nil⟩
  | succ count ih =>
    obtain ⟨before, beforeUpper, beforeCounted⟩ := exists_cuts separated count
    obtain ⟨same, sorted⟩ := ih beforeUpper beforeCounted
    obtain ⟨extended, ordered, behind⟩ := page_extends answers positive enough count beforeUpper
      upper beforeCounted counted
    have split : listed pages (count + 1) = listed pages count ++ (pages count).rows := by
      simp [listed, List.range_succ]
    rw [split]
    refine ⟨(same.append_right _).trans extended, List.pairwise_append.mpr ⟨sorted, ordered, ?_⟩⟩
    -- A later row above an earlier one would belong to the rows before the place.
    intro first listed second member
    by_contra above
    have chosen := (List.mem_filter.mp (same.subset listed)).2
    have taken := beforeUpper first second (not_le.mp above).le chosen
    rw [behind second member] at taken
    cases taken

/-- Pages of rows whose keys differ wherever a page ends partition the rows. -/
theorem partitions_of_separated (separated : ∀ call, Separated key parts.flatten (call * size)) :
    Partitions key parts.flatten pages := by
  have more := page_more_iff answers positive enough
  have rows := page_rows_iff answers positive enough
  constructor
  · -- The last page is the first that reaches the end.
    have reaches : ∃ call, parts.flatten.length ≤ (call + 1) * size :=
      ⟨parts.flatten.length, by nlinarith⟩
    refine ⟨Nat.find reaches, fun call sooner => ?_, ?_, ?_⟩
    · have short := Nat.find_min reaches sooner
      exact (more call).mpr (by omega)
    · have reached := Nat.find_spec reaches
      rw [Bool.eq_false_iff, ne_eq, more]
      omega
    · have reached := Nat.find_spec reaches
      obtain ⟨cut, upper, counted⟩ := exists_cuts separated (Nat.find reaches + 1)
      have every : parts.flatten.filter cut = parts.flatten :=
        List.filter_eq_self.mpr (List.countP_eq_length.mp (by omega))
      have ordered := listed_perm answers positive enough separated _ upper counted
      rwa [every] at ordered
  · intro call
    rw [more call]
    constructor
    · exact fun further => ⟨call + 1, Nat.lt_succ_self call, (rows (call + 1)).mpr further⟩
    · rintro ⟨later, after, some⟩
      refine lt_of_le_of_lt ?_ ((rows later).mp some)
      exact Nat.mul_le_mul_right size after

end Pages

section Orders

/-- What a filter keeps of the first rows it keeps first. -/
theorem filter_take_of_kept {rows : List α} {keep : α → Bool} {count : Nat}
    (kept : ∀ row ∈ rows.take count, keep row = true) :
    (rows.filter keep).take count = rows.take count := by
  conv_lhs => rw [← List.take_append_drop count rows, List.filter_append,
    List.filter_eq_self.mpr kept]
  rcases Nat.le_total count rows.length with within | beyond
  · rw [List.take_left' (by rw [List.length_take, Nat.min_eq_left within])]
  · rw [List.drop_eq_nil_of_le beyond, List.filter_nil, List.append_nil, List.take_take, Nat.min_self]

variable [DecidableEq α] {parts : List (List α)} {order : List α} {cap : Nat}

/-- What the cuts leave of the parts when rows of one key come as in a given order. -/
def selection (order : List α) (parts : List (List α)) (cap : Nat) : List (List α) :=
  parts.map fun part => (order.filter (· ∈ part)).take cap

/-- A page when rows of one key come as in a given order. -/
def follow (order : List α) (parts : List (List α)) (cap offset limit : Nat) : Page α :=
  slice (order.filter (· ∈ (selection order parts cap).flatten)) offset limit

variable (distinct : parts.flatten.Nodup) (ordered : Ordered key parts.flatten order)

include distinct ordered

omit [DecidableEq α] in
theorem nodup_order : order.Nodup := ordered.1.nodup_iff.mpr distinct

/-- A set of rows comes in the given order. -/
theorem ordered_filter {rows : List α} (some : ∀ row ∈ rows, row ∈ parts.flatten)
    (once : rows.Nodup) : Ordered key rows (order.filter (· ∈ rows)) := by
  refine ⟨(List.perm_ext_iff_of_nodup ((nodup_order distinct ordered).filter _) once).mpr ?_,
    ordered.2.sublist List.filter_sublist⟩
  intro row
  rw [List.mem_filter, decide_eq_true_eq, and_iff_right_iff_imp]
  exact fun member => ordered.1.mem_iff.mpr (some row member)

theorem follow_answer (offset limit : Nat) :
    Answer key parts cap offset limit (follow order parts cap offset limit) := by
  obtain ⟨once, apart⟩ := List.nodup_flatten.mp distinct
  refine ⟨_, _, ?_, ordered_filter distinct ordered ?_ ?_, rfl⟩
  · rw [selection, List.forall₂_map_right_iff, List.forall₂_same]
    intro part member
    refine ⟨_, ordered_filter distinct ordered ?_ (once part member), rfl⟩
    exact fun row inside => List.mem_flatten_of_mem member inside
  · intro row member
    obtain ⟨rows, chosen, inside⟩ := List.mem_flatten.mp member
    obtain ⟨part, listed, rfl⟩ := List.mem_map.mp chosen
    have kept := (List.mem_filter.mp (List.mem_of_mem_take inside)).2
    exact List.mem_flatten_of_mem listed (by simpa using kept)
  · refine List.nodup_flatten.mpr ⟨?_, ?_⟩
    · intro rows chosen
      obtain ⟨part, -, rfl⟩ := List.mem_map.mp chosen
      exact ((nodup_order distinct ordered).filter _).sublist (List.take_sublist _ _)
    · refine List.pairwise_map.mpr (apart.imp fun separate row first second => ?_)
      have left := (List.mem_filter.mp (List.mem_of_mem_take first)).2
      have right := (List.mem_filter.mp (List.mem_of_mem_take second)).2
      exact separate (by simpa using left) (by simpa using right)

omit distinct in
/-- The first rows of the order pass the cuts. -/
theorem mem_selection {row : α} (early : row ∈ order.take cap) :
    row ∈ (selection order parts cap).flatten := by
  obtain ⟨part, listed, inside⟩ :=
    List.mem_flatten.mp (ordered.1.mem_iff.mp (List.mem_of_mem_take early))
  refine List.mem_flatten_of_mem (List.mem_map_of_mem listed) ?_
  -- In its part the row comes no later than in the whole order.
  have front : (order.take cap).filter (· ∈ part) <+: order.filter (· ∈ part) :=
    (List.take_prefix cap order).filter _
  have few : ((order.take cap).filter (· ∈ part)).length ≤ cap :=
    (List.length_filter_le _ _).trans (List.length_take_le _ _)
  exact (List.prefix_take_iff.mpr ⟨front, few⟩).subset (List.mem_filter.mpr ⟨early, by simpa using inside⟩)

theorem follow_rows {offset limit : Nat}
    (wide : offset + limit ≤ cap ∨ ∀ part ∈ parts, part.length ≤ cap) :
    (follow order parts cap offset limit).rows = (order.drop offset).take limit := by
  have kept : ∀ row ∈ order.take (offset + limit), row ∈ (selection order parts cap).flatten := by
    intro row early
    rcases wide with within | small
    · exact mem_selection ordered ((List.take_prefix_take_left within).subset early)
    · -- No part is cut.
      obtain ⟨part, listed, inside⟩ :=
        List.mem_flatten.mp (ordered.1.mem_iff.mp (List.mem_of_mem_take early))
      refine List.mem_flatten_of_mem (List.mem_map_of_mem listed) ?_
      have whole := (ordered_filter distinct ordered
        (fun row member => List.mem_flatten_of_mem listed member)
        ((List.nodup_flatten.mp distinct).1 part listed)).1
      rw [List.take_of_length_le (by rw [whole.length_eq]; exact small part listed)]
      exact whole.mem_iff.mpr inside
  rw [follow, slice_rows, List.take_drop, List.take_drop, filter_take_of_kept]
  exact fun row early => decide_eq_true (kept row early)

/-- A cut that the rows of a part exceed hides one of them from every page. -/
theorem exists_hidden {bound : Nat} {part : List α} (listed : part ∈ parts)
    (large : bound < part.length) :
    ∃ row ∈ parts.flatten, ∀ cap ≤ bound, ∀ offset limit,
      row ∉ (follow order parts cap offset limit).rows := by
  obtain ⟨once, apart⟩ := List.nodup_flatten.mp distinct
  have whole := ordered_filter distinct ordered
    (fun row member => List.mem_flatten_of_mem listed member) (once part listed)
  have inside : bound < (order.filter (· ∈ part)).length := by rw [whole.1.length_eq]; exact large
  have own : (order.filter (· ∈ part))[bound] ∈ part :=
    whole.1.mem_iff.mp (List.getElem_mem inside)
  refine ⟨(order.filter (· ∈ part))[bound], List.mem_flatten_of_mem listed own, ?_⟩
  intro cap narrow offset limit shown
  rw [follow, slice_rows] at shown
  have passed := (List.mem_filter.mp (List.mem_of_mem_drop (List.mem_of_mem_take shown))).2
  obtain ⟨rows, chosen, among⟩ := List.mem_flatten.mp (of_decide_eq_true passed)
  obtain ⟨other, otherListed, rfl⟩ := List.mem_map.mp chosen
  have foreign := (List.mem_filter.mp (List.mem_of_mem_take among)).2
  -- The row is in no other part, and in its own it comes after the cut.
  rcases eq_or_ne other part with rfl | different
  · obtain ⟨place, early, same⟩ := List.mem_take_iff_getElem.mp among
    have equal := (List.Nodup.getElem_inj_iff ((nodup_order distinct ordered).filter _)).mp same
    omega
  · have symmetric : Std.Symm (@List.Disjoint α) := ⟨fun _ _ disjoint => disjoint.symm⟩
    have separate : List.Disjoint other part := apart.forall otherListed listed different
    exact separate (of_decide_eq_true foreign) own

end Orders

section Converse

variable [DecidableEq α] {parts : List (List α)} {caps : Nat → Nat} {size : Nat}

variable (distinct : parts.flatten.Nodup)
  (partitions : ∀ pages : Nat → Page α,
    (∀ call, Answer key parts (caps call) (call * size) size (pages call)) →
      Partitions key parts.flatten pages)

include distinct partitions

theorem small_of_partitions {bound : Nat} (narrow : ∀ call, caps call ≤ bound) {part : List α}
    (listed : part ∈ parts) : part.length ≤ bound := by
  by_contra large
  obtain ⟨order, ordered⟩ := exists_ordered key parts.flatten
  obtain ⟨row, member, hidden⟩ := exists_hidden distinct ordered listed (not_le.mp large)
  obtain ⟨⟨last, -, -, same, -⟩, -⟩ := partitions
    (fun call => follow order parts (caps call) (call * size) size)
    fun call => follow_answer distinct ordered _ _
  obtain ⟨call, -, shown⟩ := List.mem_flatMap.mp (same.mem_iff.mpr member)
  exact hidden (caps call) (narrow call) _ _ shown

/-- If rows of one key stand on the two sides of a page's place, two pages can show the same row. -/
theorem separated_of_partitions (positive : 0 < size) (enough : Enough parts caps size)
    (call : Nat) : Separated key parts.flatten (call * size) := by
  intro before after ends starts
  by_contra tied
  obtain ⟨order, ordered⟩ := exists_ordered key parts.flatten
  rw [← ordered.map_key] at ends starts
  -- The place has a row before it, so there is a page before it.
  obtain ⟨place, placed⟩ : ∃ place, call * size = place + 1 := by
    refine Nat.exists_eq_succ_of_ne_zero fun front => ?_
    rw [front] at ends
    cases ends
  obtain ⟨previous, rfl⟩ : ∃ previous, call = previous + 1 := by
    refine Nat.exists_eq_succ_of_ne_zero fun front => ?_
    rw [front] at placed
    omega
  rw [placed] at ends starts
  obtain ⟨inside, starts⟩ := List.getElem?_eq_some_iff.mp starts
  rw [List.length_map] at inside
  rw [List.getLast?_take, List.getElem?_eq_getElem (by rw [List.length_map]; omega)] at ends
  have size_order := ordered.1.length_eq
  have shape : order = order.take place ++
      order[place] :: order[place + 1] :: order.drop (place + 2) := by
    conv_lhs => rw [← List.take_append_drop place order, List.drop_eq_getElem_cons (by omega),
      List.drop_eq_getElem_cons inside]
  have equal : key order[place] = key order[place + 1] := by
    rw [List.getElem_map] at starts
    simp only [Nat.add_sub_cancel, List.getElem_map, Option.some_or, Nat.succ_ne_zero, if_false,
      Option.some.injEq] at ends
    have below : key order[place + 1] ≤ key order[place] :=
      List.pairwise_iff_getElem.mp ordered.2 place (place + 1) (by omega) inside (by omega)
    rw [← ends, ← starts] at tied
    exact le_antisymm (not_lt.mp tied) below
  -- The same rows with the two exchanged are in order as well.
  obtain ⟨swapped, exchanged⟩ : ∃ swapped, swapped = order.take place ++
      order[place + 1] :: order[place] :: order.drop (place + 2) := ⟨_, rfl⟩
  have swappedOrdered : Ordered key parts.flatten swapped := by
    have same : swapped.Perm order := by
      rw [exchanged]
      conv_rhs => rw [shape]
      exact (List.Perm.swap _ _ _).append_left _
    have keys : swapped.map key = order.map key := by
      rw [exchanged]
      conv_rhs => rw [shape]
      simp only [List.map_append, List.map_cons, equal]
    have sorted : (swapped.map key).Pairwise fun left right => right ≤ left := by
      rw [keys]
      exact List.pairwise_map.mpr ordered.2
    exact ⟨same.trans ordered.1, List.pairwise_map.mp sorted⟩
  have within : (previous + 1) * size < parts.flatten.length := by omega
  have stepped : (previous + 1) * size = previous * size + size := Nat.succ_mul previous size
  have wide (call : Nat) (early : call * size < parts.flatten.length) :
      call * size + size ≤ caps call ∨ ∀ part ∈ parts, part.length ≤ caps call :=
    (enough call early).imp_left Nat.le_of_lt
  -- Up to the place the pages follow one order, and from there on the other.
  have answers (call : Nat) : Answer key parts (caps call) (call * size) size
      (if call ≤ previous then follow order parts (caps call) (call * size) size
        else follow swapped parts (caps call) (call * size) size) := by
    split
    · exact follow_answer distinct ordered _ _
    · exact follow_answer distinct swappedOrdered _ _
  obtain ⟨⟨last, -, final, same, -⟩, -⟩ := partitions _ answers
  have reached : previous + 1 ≤ last := by
    by_contra early
    have more := (page_more_iff answers positive enough last).mpr
      (lt_of_le_of_lt (Nat.mul_le_mul_right size (by omega)) within)
    rw [final] at more
    cases more
  have once := same.nodup_iff.mpr distinct
  have apart := List.pairwise_iff_getElem.mp (List.nodup_flatMap.mp once).2 previous (previous + 1)
    (by rw [List.length_range]; omega) (by rw [List.length_range]; omega) (by omega)
  simp only [List.getElem_range, Function.onFun, Nat.le_refl, if_true] at apart
  rw [if_neg (by omega), follow_rows distinct ordered (wide previous (by omega)),
    follow_rows distinct swappedOrdered (wide _ within)] at apart
  -- The row before the place ends the one page and starts the next.
  refine apart (a := order[place]) ?_ ?_
  · refine List.mem_take_iff_getElem.mpr ⟨place - previous * size, ?_, ?_⟩
    · rw [List.length_drop]
      omega
    · rw [List.getElem_drop]
      congr 1
      omega
  · have starting : swapped.drop (place + 1) = order[place] :: order.drop (place + 2) := by
      have count : (order.take place ++ [order[place + 1]]).length = place + 1 := by
        rw [List.length_append, List.length_take, List.length_singleton]
        omega
      rw [exchanged, show order.take place ++ order[place + 1] :: order[place] ::
          order.drop (place + 2) = (order.take place ++ [order[place + 1]]) ++
            order[place] :: order.drop (place + 2) by simp, List.drop_left' count]
    rw [placed, starting]
    obtain ⟨count, rfl⟩ := Nat.exists_eq_succ_of_ne_zero positive.ne'
    exact List.mem_cons_self

end Converse

end Paging
