import Mathlib.Data.List.Nodup
import Mathlib.Data.List.Perm.Basic
import Mathlib.Tactic

/-! Association lists with distinct keys, as finite maps in iteration order. -/

namespace AssocList

variable {κ ν : Type} [DecidableEq κ]

/-- The keys in iteration order. -/
def keys (entries : List (κ × ν)) : List κ :=
  entries.map Prod.fst

/-- Removing the entry under a key. -/
def eraseKey (key : κ) (entries : List (κ × ν)) : List (κ × ν) :=
  entries.filter fun entry => entry.1 ≠ key

/-- Assigning a key: its old entry, if any, is replaced by one at the end. -/
def assign (key : κ) (value : ν) (entries : List (κ × ν)) : List (κ × ν) :=
  eraseKey key entries ++ [(key, value)]

/-- Changing the value under a key in place. -/
def adjust (key : κ) (change : ν → ν) (entries : List (κ × ν)) : List (κ × ν) :=
  entries.map fun entry => if entry.1 = key then (entry.1, change entry.2) else entry

/-- Adding a new key at the end, or changing the value of a known one in place. -/
def upsert (key : κ) (fresh : ν) (change : ν → ν) (entries : List (κ × ν)) : List (κ × ν) :=
  if key ∈ keys entries then adjust key change entries else entries ++ [(key, fresh)]

/-- A key is found exactly when it is listed. -/
theorem lookup_isSome_iff {key : κ} {entries : List (κ × ν)} :
    (entries.lookup key).isSome ↔ key ∈ keys entries := by
  induction entries with
  | nil => simp [keys]
  | cons entry rest ih =>
    obtain ⟨head, value⟩ := entry
    by_cases same : key = head
    · simp [keys, List.lookup_cons, List.lookup_nil, same]
    · have differs : (key == head) = false := by simpa using same
      rw [List.lookup_cons, differs, ih]
      simp [keys, same]

theorem lookup_eq_none_iff {key : κ} {entries : List (κ × ν)} :
    entries.lookup key = none ↔ key ∉ keys entries := by
  rw [← lookup_isSome_iff]
  cases entries.lookup key <;> simp

theorem lookup_eq_some_iff {key : κ} {value : ν} {entries : List (κ × ν)}
    (distinct : (keys entries).Nodup) :
    entries.lookup key = some value ↔ (key, value) ∈ entries := by
  induction entries with
  | nil => simp
  | cons entry rest ih =>
    obtain ⟨head, first⟩ := entry
    simp only [keys, List.map_cons, List.nodup_cons] at distinct
    by_cases same : key = head
    · subst same
      have absent : (key, value) ∉ rest := by
        intro member
        exact distinct.1 (List.mem_map.mpr ⟨_, member, rfl⟩)
      simp [List.lookup_cons, List.lookup_nil, absent, eq_comm]
    · have differs : (key == head) = false := by simpa using same
      rw [List.lookup_cons, differs, ih distinct.2]
      simp [same]

/-- The value under a key, for keys that have a Boolean equality of their own. -/
def valueAt (entries : List (κ × ν)) (key : κ) : Option ν :=
  entries.lookup key

theorem valueAt_eq_none_iff {key : κ} {entries : List (κ × ν)} :
    valueAt entries key = none ↔ key ∉ keys entries :=
  lookup_eq_none_iff

theorem valueAt_eq_some_iff {key : κ} {value : ν} {entries : List (κ × ν)}
    (distinct : (keys entries).Nodup) :
    valueAt entries key = some value ↔ (key, value) ∈ entries :=
  lookup_eq_some_iff distinct

theorem mem_of_valueAt {key : κ} {value : ν} {entries : List (κ × ν)}
    (found : valueAt entries key = some value) : (key, value) ∈ entries := by
  obtain ⟨before, after, shape, -⟩ := List.lookup_eq_some_iff.mp found
  rw [shape]
  simp

omit [DecidableEq κ] in
theorem nodup_keys_filter {entries : List (κ × ν)} (distinct : (keys entries).Nodup)
    (keep : κ × ν → Bool) : (keys (entries.filter keep)).Nodup :=
  distinct.sublist (List.filter_sublist.map Prod.fst)

/-- A filtered map agrees with the original wherever it still has an entry. -/
theorem lookup_filter {key : κ} {value : ν} {entries : List (κ × ν)}
    (distinct : (keys entries).Nodup) (keep : κ × ν → Bool) :
    (entries.filter keep).lookup key = some value ↔
      entries.lookup key = some value ∧ keep (key, value) = true := by
  rw [lookup_eq_some_iff (nodup_keys_filter distinct keep), lookup_eq_some_iff distinct,
    List.mem_filter]

@[simp] theorem lookup_eraseKey_self (key : κ) (entries : List (κ × ν)) :
    (eraseKey key entries).lookup key = none := by
  rw [lookup_eq_none_iff]
  simp [keys, eraseKey]

/-- Erasing one key leaves the others alone. -/
theorem lookup_eraseKey_ne {key other : κ} (differs : other ≠ key) (entries : List (κ × ν)) :
    (eraseKey key entries).lookup other = entries.lookup other := by
  induction entries with
  | nil => rfl
  | cons entry rest ih =>
    obtain ⟨head, value⟩ := entry
    simp only [eraseKey, ne_eq, decide_not] at ih
    by_cases dropped : head = key
    · have skipped : (other == head) = false := by simpa [dropped] using differs
      simp [eraseKey, dropped, List.lookup_cons, List.lookup_nil, ih, dropped ▸ skipped]
    · by_cases same : other = head
      · simp [eraseKey, dropped, List.lookup_cons, List.lookup_nil, same]
      · have skipped : (other == head) = false := by simpa using same
        simp [eraseKey, dropped, List.lookup_cons, List.lookup_nil, skipped, ih]

theorem lookup_append (key : κ) (left right : List (κ × ν)) :
    (left ++ right).lookup key = (left.lookup key).or (right.lookup key) := by
  induction left with
  | nil => simp
  | cons entry rest ih =>
    obtain ⟨head, value⟩ := entry
    by_cases same : key = head
    · simp [List.lookup_cons, List.lookup_nil, same]
    · have skipped : (key == head) = false := by simpa using same
      simp [List.lookup_cons, List.lookup_nil, skipped, ih]

@[simp] theorem lookup_assign_self (key : κ) (value : ν) (entries : List (κ × ν)) :
    (assign key value entries).lookup key = some value := by
  simp [assign, lookup_append, List.lookup_cons, List.lookup_nil]

theorem lookup_assign_ne {key other : κ} (differs : other ≠ key) (value : ν)
    (entries : List (κ × ν)) :
    (assign key value entries).lookup other = entries.lookup other := by
  have skipped : (other == key) = false := by simpa using differs
  simp [assign, lookup_append, lookup_eraseKey_ne differs, List.lookup_cons, List.lookup_nil, skipped]

/-- What every key is mapped to after one has been removed. -/
theorem lookup_eraseKey (key other : κ) (entries : List (κ × ν)) :
    (eraseKey key entries).lookup other = if other = key then none else entries.lookup other := by
  split
  · next same => rw [same, lookup_eraseKey_self]
  · next differs => exact lookup_eraseKey_ne differs entries

/-- What every key is mapped to after one has been assigned. -/
theorem lookup_assign (key other : κ) (value : ν) (entries : List (κ × ν)) :
    (assign key value entries).lookup other =
      if other = key then some value else entries.lookup other := by
  split
  · next same => rw [same, lookup_assign_self]
  · next differs => exact lookup_assign_ne differs value entries

theorem mem_keys_eraseKey {key other : κ} {entries : List (κ × ν)} :
    other ∈ keys (eraseKey key entries) ↔ other ≠ key ∧ other ∈ keys entries := by
  rw [← lookup_isSome_iff, ← lookup_isSome_iff, lookup_eraseKey]
  by_cases same : other = key <;> simp [same]

theorem mem_keys_assign {key other : κ} {value : ν} {entries : List (κ × ν)} :
    other ∈ keys (assign key value entries) ↔ other = key ∨ other ∈ keys entries := by
  rw [← lookup_isSome_iff, ← lookup_isSome_iff, lookup_assign]
  by_cases same : other = key <;> simp [same]

@[simp] theorem keys_adjust (key : κ) (change : ν → ν) (entries : List (κ × ν)) :
    keys (adjust key change entries) = keys entries := by
  simp only [keys, adjust, List.map_map]
  apply List.map_congr_left
  intro entry _
  by_cases same : entry.1 = key <;> simp [same]

theorem lookup_adjust (key other : κ) (change : ν → ν) (entries : List (κ × ν)) :
    (adjust key change entries).lookup other =
      if other = key then (entries.lookup other).map change else entries.lookup other := by
  induction entries with
  | nil => simp [adjust]
  | cons entry rest ih =>
    obtain ⟨head, value⟩ := entry
    simp only [adjust] at ih
    by_cases found : other = head
    · subst found
      by_cases same : other = key <;> simp [adjust, List.lookup_cons, List.lookup_nil, same]
    · have skipped : (other == head) = false := by simpa using found
      by_cases changed : head = key
      · simp [adjust, List.lookup_cons, List.lookup_nil, changed, changed ▸ skipped, ih]
      · simp [adjust, List.lookup_cons, List.lookup_nil, changed, skipped, ih]

theorem adjust_append_self {key : κ} {entries : List (κ × ν)} (absent : key ∉ keys entries)
    (change : ν → ν) (value : ν) :
    adjust key change (entries ++ [(key, value)]) = entries ++ [(key, change value)] := by
  have others : adjust key change entries = entries := by
    have unchanged : ∀ entry ∈ entries,
        (if entry.1 = key then (entry.1, change entry.2) else entry) = entry := by
      intro entry member
      refine if_neg ?_
      intro same
      exact absent (List.mem_map.mpr ⟨entry, member, same⟩)
    rw [adjust, List.map_congr_left unchanged, List.map_id']
  rw [adjust, List.map_append]
  simpa [adjust] using others

/-- Erasing or appending a fresh key keeps keys distinct. -/
theorem nodup_keys_eraseKey {entries : List (κ × ν)} (distinct : (keys entries).Nodup) (key : κ) :
    (keys (eraseKey key entries)).Nodup :=
  nodup_keys_filter distinct _

theorem nodup_keys_assign {entries : List (κ × ν)} (distinct : (keys entries).Nodup) (key : κ)
    (value : ν) : (keys (assign key value entries)).Nodup := by
  unfold assign keys
  rw [List.map_append]
  refine List.Nodup.append (nodup_keys_eraseKey distinct key) (by simp) ?_
  intro other member listed
  simp only [List.map_cons, List.map_nil, List.mem_singleton] at listed
  subst listed
  exact lookup_eq_none_iff.mp (lookup_eraseKey_self other entries) member

/-- A part of a map agrees with the whole on the keys it kept. -/
theorem lookup_sublist {part whole : List (κ × ν)} (distinct : (keys whole).Nodup)
    (sub : part.Sublist whole) {key : κ} (kept : key ∈ keys part) :
    part.lookup key = whole.lookup key := by
  have distinct' : (keys part).Nodup := distinct.sublist (sub.map Prod.fst)
  obtain ⟨value, found⟩ := Option.isSome_iff_exists.mp (lookup_isSome_iff.mpr kept)
  rw [found, eq_comm, lookup_eq_some_iff distinct]
  exact sub.subset ((lookup_eq_some_iff distinct').mp found)

/-- The order of iteration does not change what is found. -/
theorem lookup_perm {left right : List (κ × ν)} (distinct : (keys left).Nodup)
    (same : left.Perm right) (key : κ) : left.lookup key = right.lookup key := by
  have distinct' : (keys right).Nodup := (same.map Prod.fst).nodup_iff.mp distinct
  cases found : right.lookup key with
  | none =>
    rw [lookup_eq_none_iff] at found ⊢
    intro member
    exact found ((same.map Prod.fst).mem_iff.mp member)
  | some value =>
    rw [lookup_eq_some_iff distinct'] at found
    rw [lookup_eq_some_iff distinct]
    exact same.mem_iff.mpr found

theorem eraseKey_eq_self {key : κ} {entries : List (κ × ν)} (absent : key ∉ keys entries) :
    eraseKey key entries = entries := by
  apply List.filter_eq_self.mpr
  intro entry member
  have differs : entry.1 ≠ key := by
    intro same
    exact absent (List.mem_map.mpr ⟨entry, member, same⟩)
  simpa using differs

/-- Erasing a key that was appended last gives back the map before it. -/
theorem eraseKey_append_self {key : κ} {value : ν} {entries : List (κ × ν)}
    (absent : key ∉ keys entries) : eraseKey key (entries ++ [(key, value)]) = entries := by
  rw [eraseKey, List.filter_append]
  simpa [eraseKey] using eraseKey_eq_self absent

theorem foldl_assign {entries : List (κ × ν)} (distinct : (keys entries).Nodup)
    (start : List (κ × ν)) (fresh : ∀ key ∈ keys entries, key ∉ keys start) :
    entries.foldl (fun table entry => assign entry.1 entry.2 table) start = start ++ entries := by
  induction entries generalizing start with
  | nil => simp
  | cons entry rest ih =>
    obtain ⟨head, value⟩ := entry
    simp only [keys, List.map_cons, List.nodup_cons] at distinct
    have absent : head ∉ keys start := fresh head (by simp [keys])
    have assigned : assign head value start = start ++ [(head, value)] := by
      rw [assign, eraseKey_eq_self absent]
    rw [List.foldl_cons, assigned, ih distinct.2]
    · simp
    · intro key member listed
      simp only [keys, List.map_append, List.map_cons, List.map_nil, List.mem_append,
        List.mem_singleton] at listed
      rcases listed with old | same
      · exact fresh key (by simp only [keys, List.map_cons]; exact List.mem_cons_of_mem _ member) old
      · exact distinct.1 (same ▸ member)

theorem lookup_map_values {μ : Type} (change : ν → μ) (key : κ) (entries : List (κ × ν)) :
    (entries.map fun entry => (entry.1, change entry.2)).lookup key =
      (entries.lookup key).map change := by
  induction entries with
  | nil => rfl
  | cons entry rest ih =>
    obtain ⟨head, value⟩ := entry
    by_cases same : key = head
    · simp [List.lookup_cons, List.lookup_nil, same]
    · have skipped : (key == head) = false := by simpa using same
      simp only [List.map_cons, List.lookup_cons, List.lookup_nil, skipped, ih]

/-- What a part of a map in any order finds, the whole map finds. -/
theorem lookup_of_subperm {part whole : List (κ × ν)} (distinct : (keys whole).Nodup)
    (sub : part.Subperm whole) {key : κ} {value : ν} (found : part.lookup key = some value) :
    whole.lookup key = some value := by
  obtain ⟨before, after, split, -⟩ := List.lookup_eq_some_iff.mp found
  rw [lookup_eq_some_iff distinct]
  exact sub.subset (by simp [split])

theorem lookup_upsert (key other : κ) (fresh : ν) (change : ν → ν) (entries : List (κ × ν)) :
    (upsert key fresh change entries).lookup other =
      if other = key then some (((entries.lookup key).map change).getD fresh)
      else entries.lookup other := by
  unfold upsert
  split
  · next listed =>
    rw [lookup_adjust]
    split
    · next same =>
      -- A listed key has a value, so the fresh one is not used.
      subst same
      obtain ⟨value, found⟩ := Option.isSome_iff_exists.mp (lookup_isSome_iff.mpr listed)
      simp [found]
    · rfl
  · next absent =>
    have missing := lookup_eq_none_iff.mpr absent
    rw [lookup_append]
    split
    · next same =>
      subst same
      simp [missing, List.lookup_cons, List.lookup_nil]
    · next differs =>
      have skipped : (other == key) = false := by simpa using differs
      simp [List.lookup_cons, List.lookup_nil, skipped]

theorem keys_upsert (key : κ) (fresh : ν) (change : ν → ν) (entries : List (κ × ν)) :
    keys (upsert key fresh change entries) =
      if key ∈ keys entries then keys entries else keys entries ++ [key] := by
  unfold upsert
  split
  · exact keys_adjust key change entries
  · simp [keys]

theorem nodup_keys_upsert {entries : List (κ × ν)} (distinct : (keys entries).Nodup) (key : κ)
    (fresh : ν) (change : ν → ν) : (keys (upsert key fresh change entries)).Nodup := by
  rw [keys_upsert]
  split
  · exact distinct
  · next absent => exact distinct.append (by simp) (List.disjoint_singleton.mpr absent)

/-- An entry after an upsert is an old one, the new one, or a changed one. -/
theorem mem_upsert {key : κ} {fresh : ν} {change : ν → ν} {entries : List (κ × ν)} {entry : κ × ν}
    (member : entry ∈ upsert key fresh change entries) :
    entry ∈ entries ∨ entry = (key, fresh) ∨
      ∃ value, (key, value) ∈ entries ∧ entry = (key, change value) := by
  unfold upsert at member
  split at member
  · obtain ⟨old, listed, rfl⟩ := List.mem_map.mp member
    split
    · next same =>
      subst same
      exact .inr (.inr ⟨old.2, listed, rfl⟩)
    · exact .inl listed
  · rcases List.mem_append.mp member with old | new
    · exact .inl old
    · exact .inr (.inl (List.mem_singleton.mp new))

omit [DecidableEq κ] in
theorem nodup_keys_subperm {part whole : List (κ × ν)} (distinct : (keys whole).Nodup)
    (sub : part.Subperm whole) : (keys part).Nodup := by
  obtain ⟨middle, same, inside⟩ := sub
  exact (same.map Prod.fst).nodup_iff.mp (distinct.sublist (inside.map Prod.fst))

theorem filter_key {key : κ} {value : ν} {entries : List (κ × ν)} (distinct : (keys entries).Nodup)
    (listed : (key, value) ∈ entries) :
    entries.filter (fun entry => entry.1 = key) = [(key, value)] := by
  induction entries with
  | nil => cases listed
  | cons entry rest ih =>
    obtain ⟨absent, distinct⟩ := List.nodup_cons.mp distinct
    rcases List.mem_cons.mp listed with same | inside
    · -- The key is that of the first entry, and none of the others has it.
      subst same
      have others : rest.filter (fun entry => entry.1 = key) = [] := by
        rw [List.filter_eq_nil_iff]
        intro other member
        have differs : other.1 ≠ key := fun same => absent (List.mem_map.mpr ⟨other, member, same⟩)
        simpa using differs
      rw [List.filter_cons_of_pos (by simp), others]
    · have differs : entry.1 ≠ key := by
        intro same
        exact absent (List.mem_map.mpr ⟨_, inside, same.symm⟩)
      rw [List.filter_cons_of_neg (by simpa using differs)]
      exact ih distinct inside

/-- The value that a key has been given last. -/
def lastValue (entries : List (κ × ν)) (key : κ) : Option ν :=
  entries.reverse.lookup key

theorem lastValue_append (before after : List (κ × ν)) (key : κ) :
    lastValue (before ++ after) key = (lastValue after key).or (lastValue before key) := by
  rw [lastValue, List.reverse_append, lookup_append]
  rfl

theorem lastValue_singleton (key other : κ) (value : ν) :
    lastValue [(key, value)] other = if other = key then some value else none := by
  unfold lastValue
  by_cases same : other = key
  · simp [same]
  · have skipped : (other == key) = false := by simpa using same
    simp [List.lookup_cons, List.lookup_nil, skipped, same]

theorem lastValue_concat (entries : List (κ × ν)) (key other : κ) (value : ν) :
    lastValue (entries ++ [(key, value)]) other =
      if other = key then some value else lastValue entries other := by
  rw [lastValue_append, lastValue_singleton]
  split <;> rfl

theorem lastValue_cons (entries : List (κ × ν)) (key other : κ) (value : ν) :
    lastValue ((key, value) :: entries) other =
      (lastValue entries other).or (if other = key then some value else none) := by
  rw [← List.singleton_append, lastValue_append, lastValue_singleton]

theorem mem_of_lastValue {entries : List (κ × ν)} {key : κ} {value : ν}
    (found : lastValue entries key = some value) : (key, value) ∈ entries := by
  obtain ⟨before, after, split, -⟩ := List.lookup_eq_some_iff.mp found
  have member : (key, value) ∈ entries.reverse := by simp [split]
  exact List.mem_reverse.mp member

theorem lastValue_eq_none_iff {entries : List (κ × ν)} {key : κ} :
    lastValue entries key = none ↔ key ∉ keys entries := by
  rw [lastValue, lookup_eq_none_iff, keys, keys, List.map_reverse, List.mem_reverse]

end AssocList
