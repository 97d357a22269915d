import PocoDDS.Tools.SubprocessReading

/-! What the edits of isolated plugins do to the subprocesses that the runtime starts. -/

namespace PocoDDS.Tools

open AssocList JsonModel OutcomeLogic
open ProcessManagement (ConfiguredProcess Host Properties ReadFault Text decimal entryProperties
  getBool getInt getString readCount readEntries readEntry readSteps)

section Deriving

variable (host : Host)

/-- The entries of sections of properties, in their order. -/
def readAll (sections : List Properties) : Except ReadFault (List ConfiguredProcess) := do
  let entries ← sections.mapM (readEntry host)
  return entries.filterMap id

/-- The entries that `start` derives from properties, apart from that of one number. -/
def otherEntries (properties : Properties) (skip : Option Nat) :
    Except ReadFault (List ConfiguredProcess) := do
  let count ← readCount host properties
  readAll host (((List.range count).filter fun index => some index ≠ skip).map
    (entryProperties properties))

/-- The entries that `start` derives from a file, which `load` reads. -/
def derivedEntries (load : List Text → Properties) (skip : Option Nat) :
    SubprocessFile → Except ReadFault (List ConfiguredProcess)
  | none => .ok []
  | some lines => otherEntries host (load lines) skip

end Deriving

/-- The number of the first slot with a name. -/
def managedNumber (name : Text) : SubprocessFile → Option Nat
  | none => none
  | some lines => ((sortedSlots lines).find? fun entry => named name entry.2).map Prod.fst

/-- The slots that are numbered count or above are disabled, apart from that of an instance. -/
def ExcessDisabled (host : Host) (load : List Text → Properties) (name : Text) :
    SubprocessFile → Prop
  | none => True
  | some lines => ∀ count, readCount host (load lines) = .ok count →
      ∀ entry ∈ sortedSlots lines, count ≤ entry.1 →
        some entry.1 ≠ managedNumber name (some lines) →
          getBool host (valueAt entry.2) "enabled".toList true = .ok false

/-- The slot of an instance is in the file as it would be written. -/
def AlreadyApplied (workspace : Workspace) (name : Text) (file : SubprocessFile) : Prop :=
  ∃ current, (parseSubprocessConfiguration file).2.find? (named name) = some current ∧
    sameSlot current (managedSlot name (workspace.snippet name)) = true

/-- No slot of the file has the name of an instance. -/
def NotRegistered (name : Text) (file : SubprocessFile) : Prop :=
  ∀ slot ∈ (parseSubprocessConfiguration file).2, named name slot = false

section Reading

variable {host : Host}
variable {entries : List ConfiguredProcess}

theorem readEntry_congr {first second : Properties}
    (same : ∀ field ≠ [], first field = second field) :
    readEntry host first = readEntry host second := by
  have enabled := same "enabled".toList (by decide)
  have path := same "path".toList (by decide)
  have count := same "argument.count".toList (by decide)
  have directory := same "workingDirectory".toList (by decide)
  have name := same "name".toList (by decide)
  have location := same "location".toList (by decide)
  have required := same "required".toList (by decide)
  have argument (index : Nat) := same ("argument.".toList ++ decimal index)
    (List.append_ne_nil_of_left_ne_nil (by decide) _)
  simp only [readEntry, getBool, getString, getInt, enabled, path, count, directory, name, location,
    required, argument]

theorem readEntry_empty {properties : Properties} (empty : ∀ field ≠ [], properties field = none) :
    readEntry host properties = .error (.notFound "path".toList) := by
  rw [@readEntry_congr host properties (fun _ => none) empty]
  rfl

/-- A sequence whose last step leaves nothing out leaves nothing out. -/
theorem bind_ne_none {α β : Type} {first : Except ReadFault α}
    {next : α → Except ReadFault (Option β)} (rest : ∀ value, next value ≠ .ok none) :
    first >>= next ≠ .ok none := by
  intro left
  obtain ⟨value, -, done⟩ := bind_eq_ok.mp left
  exact rest value done

/-- An entry is left out exactly when it is disabled. -/
theorem readEntry_eq_none {properties : Properties} : readEntry host properties = .ok none ↔
    getBool host properties "enabled".toList true = .ok false := by
  constructor
  · intro read
    simp only [readEntry, bind_eq_ok] at read
    obtain ⟨enabled, asked, read⟩ := read
    cases enabled with
    | false => exact asked
    | true =>
      -- An enabled entry is returned, or an exception is thrown.
      refine absurd read (bind_ne_none fun path => bind_ne_none fun executable => ?_)
      split
      · exact fun thrown => nomatch thrown
      refine bind_ne_none fun count => bind_ne_none fun arguments => ?_
      split
      · refine bind_ne_none fun directory => bind_ne_none fun initial => ?_
        split
        · exact fun thrown => nomatch thrown
        · exact bind_ne_none fun required returned => nomatch returned
      · refine bind_ne_none fun initial => ?_
        split
        · exact fun thrown => nomatch thrown
        · exact bind_ne_none fun required returned => nomatch returned
  · intro disabled
    simp only [readEntry, disabled]
    rfl

theorem readAll_eq_ok {sections : List Properties} : readAll host sections = .ok entries ↔
      ∃ found, sections.mapM (readEntry host) = .ok found ∧ found.filterMap id = entries := by
  simp only [readAll, bind_eq_ok, pure_eq_ok]

/-- Sections that are read alike. -/
theorem readAll_congr {first second : List Properties}
    (same : List.Forall₂ (fun one other => readEntry host one = readEntry host other) first
      second) :
    readAll host first = readAll host second := by
  have steps : first.mapM (readEntry host) = second.mapM (readEntry host) := by
    induction same with
    | nil => rfl
    | cons alike _ ih => rw [List.mapM_cons, List.mapM_cons, alike, ih]
  rw [readAll, readAll, steps]

/-- Sections at the end add nothing exactly when all of them are left out. -/
theorem readAll_append {first second : List Properties}
    (before : readAll host first = .ok entries) :
    readAll host (first ++ second) = .ok entries ↔
      ∀ added ∈ second, readEntry host added = .ok none := by
  obtain ⟨found, read, rfl⟩ := readAll_eq_ok.mp before
  have split : ∀ {more}, (first ++ second).mapM (readEntry host) = .ok more ↔
      ∃ extra, second.mapM (readEntry host) = .ok extra ∧ found ++ extra = more := by
    intro more
    rw [List.mapM_append, read]
    simp only [bind_eq_ok, Except.ok.injEq, exists_eq_left', pure_eq_ok]
  rw [readAll_eq_ok]
  constructor
  · rintro ⟨more, all, same⟩ added member
    obtain ⟨extra, read', rfl⟩ := split.mp all
    -- Nothing that was found at the end is an entry.
    have nothing : extra.filterMap id = [] := by
      rw [List.filterMap_append] at same
      exact List.append_cancel_left (same.trans (List.append_nil _).symm)
    obtain ⟨result, listed, step⟩ := mapM_visits read' member
    rw [List.filterMap_eq_nil_iff] at nothing
    exact step.trans (congrArg _ (nothing result listed))
  · intro left
    have extra : second.mapM (readEntry host) = .ok (second.map fun _ => none) :=
      mapM_of_forall left
    have nothing : (second.map fun _ => (none : Option ConfiguredProcess)).filterMap id = [] := by
      rw [List.filterMap_eq_nil_iff]
      intro result listed
      obtain ⟨_, -, rfl⟩ := List.mem_map.mp listed
      rfl
    exact ⟨_, split.mpr ⟨_, extra, rfl⟩, by rw [List.filterMap_append, nothing, List.append_nil]⟩

end Reading

/-- Leaving out the number of the first entry with a property is leaving out that entry. -/
theorem filter_found {slots : List (Nat × Slot)} (distinct : (keys slots).Nodup)
    (test : Nat × Slot → Bool) :
    (slots.filter fun entry => some entry.1 ≠ (slots.find? test).map Prod.fst) =
      slots.eraseP test := by
  induction slots with
  | nil => rfl
  | cons first rest ih =>
    obtain ⟨absent, distinct⟩ := List.nodup_cons.mp distinct
    by_cases passes : test first = true
    · -- The others have other numbers.
      rw [List.find?_cons_of_pos passes, List.eraseP_cons_of_pos passes,
        List.filter_cons_of_neg (by simp), List.filter_eq_self]
      intro entry member
      have differs : entry.1 ≠ first.1 := fun same =>
        absent (List.mem_map.mpr ⟨entry, member, same⟩)
      simpa using differs
    · rw [List.find?_cons_of_neg passes, List.eraseP_cons_of_neg passes,
        List.filter_cons_of_pos, ih distinct]
      rw [decide_eq_true_eq]
      intro same
      -- The number that is left out is one of the rest.
      obtain ⟨entry, found, number⟩ := Option.map_eq_some_iff.mp same.symm
      exact absent (List.mem_map.mpr ⟨entry, List.mem_of_find?_eq_some found, number⟩)

theorem filter_below {slots : List (Nat × Slot)} (sorted : (keys slots).SortedLT) (bound : Nat) :
    slots = slots.filter (fun entry => entry.1 < bound) ++
      slots.filter fun entry => bound ≤ entry.1 := by
  induction slots with
  | nil => rfl
  | cons first rest ih =>
    obtain ⟨later, sorted⟩ := List.pairwise_cons.mp sorted.pairwise
    by_cases low : first.1 < bound
    · rw [List.filter_cons_of_pos (by simpa using low),
        List.filter_cons_of_neg (by simpa using low), List.cons_append, ← ih sorted.sortedLT]
    · -- The first number is not below the bound, so none is.
      have none : (first :: rest).filter (fun entry => entry.1 < bound) = [] := by
        rw [List.filter_eq_nil_iff]
        intro entry member
        rcases List.mem_cons.mp member with rfl | behind
        · simpa using low
        · have greater := later entry.1 (List.mem_map_of_mem behind)
          simp
          omega
      have all : (first :: rest).filter (fun entry => bound ≤ entry.1) = first :: rest := by
        rw [List.filter_eq_self]
        intro entry member
        rcases List.mem_cons.mp member with rfl | behind
        · simpa using low
        · have greater := later entry.1 (List.mem_map_of_mem behind)
          simp
          omega
      rw [none, all, List.nil_append]

section Lines

variable {host : Host} {lines : List Text} (plain : ∀ line ∈ lines, EqualsSyntax line)
  (spelled : ∀ line ∈ lines, SpelledLine line)

include plain spelled

theorem readEntry_missing {index : Nat} (missing : index ∉ keys (sortedSlots lines)) :
    readEntry host (entryProperties (lineProperties lines) index) =
      .error (.notFound "path".toList) := by
  refine readEntry_empty fun field filled => ?_
  have read := lineProperties_entry plain spelled index filled
  rw [fieldAt, ← lookup_sortedSlots, lookup_eq_none_iff.mpr missing] at read
  exact read

theorem readEntry_slot {entry : Nat × Slot} (listed : entry ∈ sortedSlots lines) :
    readEntry host (entryProperties (lineProperties lines) entry.1) =
      readEntry host (valueAt entry.2) := by
  refine readEntry_congr fun field filled => ?_
  have found : (sortedSlots lines).lookup entry.1 = some entry.2 :=
    (lookup_eq_some_iff (nodup_sortedSlots lines)).mpr listed
  have read := lineProperties_entry plain spelled entry.1 filled
  rw [fieldAt, ← lookup_sortedSlots, found] at read
  exact read

theorem otherEntries_eq_readAll {count : Nat} {skip : Option Nat}
    (counted : readCount host (lineProperties lines) = .ok count)
    (dense : ∀ index < count, some index ≠ skip → index ∈ keys (sortedSlots lines)) :
    otherEntries host (lineProperties lines) skip =
      readAll host (((sortedSlots lines).filter fun entry => some entry.1 ≠ skip).filter
        (fun entry => entry.1 < count) |>.map fun entry => valueAt entry.2) := by
  have sorted := sortedLT_sortedSlots lines
  -- The numbers that are read are those of the slots.
  have numbers : (List.range count).filter (fun index => some index ≠ skip) =
      keys (((sortedSlots lines).filter fun entry => some entry.1 ≠ skip).filter
        fun entry => entry.1 < count) := by
    have ascending : ((List.range count).filter fun index => some index ≠ skip).SortedLT :=
      (List.sortedLT_range count).pairwise.filter _ |>.sortedLT
    have ascending' : (keys (((sortedSlots lines).filter fun entry => some entry.1 ≠ skip).filter
        fun entry => entry.1 < count)).SortedLT :=
      (sorted.pairwise.sublist
        ((List.filter_sublist.trans List.filter_sublist).map Prod.fst)).sortedLT
    refine ascending.eq_of_mem_iff ascending' fun index => ?_
    simp only [List.mem_filter, List.mem_range, decide_eq_true_eq, keys, List.mem_map]
    constructor
    · rintro ⟨below, other⟩
      obtain ⟨entry, listed, rfl⟩ := List.mem_map.mp (dense index below other)
      exact ⟨entry, ⟨⟨listed, other⟩, below⟩, rfl⟩
    · rintro ⟨entry, ⟨⟨-, other⟩, below⟩, rfl⟩
      exact ⟨below, other⟩
  simp only [otherEntries, counted, bind, Except.bind]
  rw [numbers, keys, List.map_map]
  refine readAll_congr ?_
  rw [List.forall₂_map_left_iff, List.forall₂_map_right_iff, List.forall₂_same]
  intro entry member
  exact readEntry_slot plain spelled (List.mem_of_mem_filter (List.mem_of_mem_filter member))

theorem dense_of_otherEntries {skip : Option Nat} {entries : List ConfiguredProcess}
    (derived : otherEntries host (lineProperties lines) skip = .ok entries) :
    ∃ count, readCount host (lineProperties lines) = .ok count ∧
      ∀ index < count, some index ≠ skip → index ∈ keys (sortedSlots lines) := by
  obtain ⟨count, counted, all⟩ := bind_eq_ok.mp derived
  refine ⟨count, counted, fun index below other => ?_⟩
  by_contra missing
  obtain ⟨found, read, -⟩ := readAll_eq_ok.mp all
  -- The entry of a missing number has no path.
  have listed : entryProperties (lineProperties lines) index ∈
      ((List.range count).filter fun index => some index ≠ skip).map
        (entryProperties (lineProperties lines)) :=
    List.mem_map_of_mem (List.mem_filter.mpr ⟨List.mem_range.mpr below, by simpa using other⟩)
  obtain ⟨result, -, step⟩ := mapM_visits read listed
  rw [readEntry_missing plain spelled missing] at step
  cases step

end Lines

/-- The slots of a file apart from the first with a name. -/
def otherSlots (name : Text) (lines : List Text) : List (Nat × Slot) :=
  (sortedSlots lines).eraseP fun entry => named name entry.2

theorem filter_managedNumber (name : Text) (lines : List Text) :
    (sortedSlots lines).filter (fun entry => some entry.1 ≠ managedNumber name (some lines)) =
      otherSlots name lines :=
  filter_found (nodup_sortedSlots lines) _

theorem map_otherSlots (name : Text) (lines : List Text) : (otherSlots name lines).map Prod.snd =
      (parseSubprocessConfiguration (some lines)).2.eraseP (named name) := by
  rw [parseSubprocessConfiguration, List.eraseP_map]
  rfl

theorem readAll_otherSlots {host : Host} {load : List Text → Properties} {name : Text}
    {lines : List Text} (plain : ∀ line ∈ lines, EqualsSyntax line)
    (spelled : ∀ line ∈ lines, SpelledLine line) (loads : load lines = lineProperties lines)
    {entries : List ConfiguredProcess}
    (derived : otherEntries host (load lines) (managedNumber name (some lines)) = .ok entries) :
    readAll host ((otherSlots name lines).map fun entry => valueAt entry.2) = .ok entries ↔
      ExcessDisabled host load name (some lines) := by
  rw [loads] at derived
  obtain ⟨count, counted, dense⟩ := dense_of_otherEntries plain spelled derived
  rw [otherEntries_eq_readAll plain spelled counted dense, filter_managedNumber] at derived
  -- The slots below the count come first; the runtime reads those.
  have sorted : (keys (otherSlots name lines)).SortedLT :=
    ((sortedLT_sortedSlots lines).pairwise.sublist (List.eraseP_sublist.map Prod.fst)).sortedLT
  rw [filter_below sorted count, List.map_append, readAll_append derived]
  constructor
  · intro left count' counted' entry listed high other
    obtain rfl : count = count' := by
      rw [loads, counted] at counted'
      exact Except.ok.inj counted'
    refine readEntry_eq_none.mp (left _ (List.mem_map_of_mem ?_))
    rw [List.mem_filter, ← filter_managedNumber, List.mem_filter]
    exact ⟨⟨listed, by simpa using other⟩, by simpa using high⟩
  · intro disabled added member
    obtain ⟨entry, listed, rfl⟩ := List.mem_map.mp member
    rw [List.mem_filter, ← filter_managedNumber, List.mem_filter] at listed
    obtain ⟨⟨there, other⟩, high⟩ := listed
    exact readEntry_eq_none.mpr (disabled count (loads ▸ counted) entry there
      (by simpa using high) (by simpa using other))

/-- What an edit may write: preserved lines that are plain and set nothing, and slots that can be
read back by the tools and by the runtime. -/
structure Writing (preserved : List Text) (slots : List Slot) : Prop where
  plain : ∀ line ∈ preserved, EqualsSyntax line
  free : ∀ line ∈ preserved, slotLine line = none ∧ countLine line = false
  writable : ∀ slot ∈ slots, Writable slot
  fields : ∀ slot ∈ slots, ∀ field ∈ slot, PlainField field.1 field.2
  short : slots.length < 2 ^ 31

section Written

variable {host : Host} (numerals : ∀ number < 2 ^ 31, host.parseInt (decimal number) = some number)
  {preserved : List Text} {slots : List Slot} (writing : Writing preserved slots)

include numerals writing

theorem readCount_written :
    readCount host (lineProperties (writeSubprocessConfiguration preserved slots)) =
      .ok slots.length := by
  have count := written_count writing.plain writing.free writing.writable writing.fields
  simp only [readCount, getInt, count, numerals _ writing.short]
  rfl

theorem otherEntries_written (skip : Option Nat) :
    otherEntries host (lineProperties (writeSubprocessConfiguration preserved slots)) skip =
      readAll host (((sortedSlots (writeSubprocessConfiguration preserved slots)).filter
        fun entry => some entry.1 ≠ skip).map fun entry => valueAt entry.2) := by
  have numbers := numbers_written (fun line member => (writing.free line member).1) writing.writable
  rw [otherEntries_eq_readAll (written_plain writing.plain writing.writable writing.fields)
    (written_spelled writing.free writing.writable writing.fields)
    (readCount_written numerals writing)]
  · -- All numbers are below the count.
    rw [List.filter_eq_self.mpr]
    intro entry member
    have listed : entry.1 ∈ keys (sortedSlots (writeSubprocessConfiguration preserved slots)) :=
      List.mem_map_of_mem (List.mem_of_mem_filter member)
    rw [numbers, List.mem_range] at listed
    simpa using listed
  · intro index below _
    rw [numbers]
    exact List.mem_range.mpr below

omit numerals in
/-- The fields of the slots that are read back. -/
theorem valueAt_written :
    ((sortedSlots (writeSubprocessConfiguration preserved slots)).map fun entry =>
      valueAt entry.2) = slots.map valueAt := by
  have back := parse_write (fun line member => (writing.free line member).1) writing.writable
  rw [parseSubprocessConfiguration, List.forall₂_map_left_iff] at back
  generalize sortedSlots (writeSubprocessConfiguration preserved slots) = found at back ⊢
  clear writing
  induction back with
  | nil => rfl
  | cons same _ ih => rw [List.map_cons, List.map_cons, ih, funext same]

theorem derived_written :
    otherEntries host (lineProperties (writeSubprocessConfiguration preserved slots)) none =
      readAll host (slots.map valueAt) := by
  rw [otherEntries_written numerals writing, ← valueAt_written writing, List.filter_eq_self.mpr]
  intro entry _
  simp

theorem derived_written_managed (name : Text) :
    otherEntries host (lineProperties (writeSubprocessConfiguration preserved slots))
        (managedNumber name (some (writeSubprocessConfiguration preserved slots))) =
      readAll host ((slots.eraseP (named name)).map valueAt) := by
  -- Whether a slot has the name depends on its fields.
  have erased : ∀ list : List Slot, (list.eraseP (named name)).map valueAt =
      (list.map valueAt).eraseP fun fields => fields "name".toList = some name := by
    intro list
    rw [List.eraseP_map]
    rfl
  rw [otherEntries_written numerals writing, filter_managedNumber, erased,
    ← valueAt_written writing, otherSlots, List.eraseP_map]
  rfl

end Written

theorem findIdx?_named {name : Text} {slots : List Slot} {index : Nat}
    (found : slots.findIdx? (named name) = some index) : ∃ front current back,
      slots = front ++ current :: back ∧ index = front.length ∧ named name current = true ∧
        ∀ slot ∈ front, ¬named name slot = true := by
  obtain ⟨inside, passes, before⟩ := List.findIdx?_eq_some_iff_getElem.mp found
  refine ⟨slots.take index, slots[index], slots.drop (index + 1), ?_, ?_, passes, ?_⟩
  · rw [List.cons_getElem_drop_succ, List.take_append_drop]
  · rw [List.length_take]
    omega
  · intro slot member
    obtain ⟨position, low, rfl⟩ := List.mem_iff_getElem.mp member
    rw [List.length_take] at low
    rw [List.getElem_take]
    simpa using before position (by omega)

/-- What is written by an edit that applies a slot. -/
theorem placeSlot_eq_ok {name : Text} {slot : Slot} (own : named name slot = true)
    {slots : List Slot} {placed : Option (List Slot)}
    (done : placeSlot name slot slots = .ok placed) :
    (placed = none ∧ ∃ current, slots.find? (named name) = some current ∧
      sameSlot current slot = true) ∨
    ∃ slots', placed = some slots' ∧
      (¬∃ current, slots.find? (named name) = some current ∧ sameSlot current slot = true) ∧
      slots'.eraseP (named name) = slots.eraseP (named name) ∧
      (∀ other ∈ slots', other ∈ slots ∨ other = slot) ∧ slots'.length ≤ slots.length + 1 := by
  unfold placeSlot at done
  cases found : slots.findIdx? (named name) with
  | none =>
    have unnamed := List.findIdx?_eq_none_iff.mp found
    rw [found] at done
    obtain rfl := Except.ok.inj done
    refine .inr ⟨_, rfl, ?_, ?_, ?_, by simp⟩
    · rintro ⟨current, there, -⟩
      have passes := List.find?_some there
      rw [unnamed current (List.mem_of_find?_eq_some there)] at passes
      cases passes
    · -- The new slot is the only one with the name.
      have others : ∀ other ∈ slots, ¬named name other = true := fun other member => by
        rw [unnamed other member]
        decide
      rw [List.eraseP_append_right _ others, List.eraseP_cons_of_pos own, List.append_nil,
        List.eraseP_of_forall_not others]
    · intro other member
      simpa using member
  | some index =>
    obtain ⟨front, current, back, rfl, rfl, passes, unnamed⟩ := findIdx?_named found
    have at_index : (front ++ current :: back).getD front.length [] = current := by simp
    have first : (front ++ current :: back).find? (named name) = some current := by
      rw [List.find?_append, List.find?_eq_none.mpr unnamed, Option.none_or,
        List.find?_cons_of_pos passes]
    rw [found] at done
    simp only [at_index] at done
    obtain ⟨-, done⟩ := andThen_eq_ok.mp done
    obtain rfl := pure_eq_ok.mp done
    by_cases same : sameSlot current slot = true
    · exact .inl ⟨if_pos same, current, first, same⟩
    · refine .inr ⟨_, if_neg same, ?_, ?_, ?_, by simp⟩
      · rintro ⟨other, there, equal⟩
        obtain rfl := Option.some.inj (first.symm.trans there)
        exact same equal
      · -- The slot takes the place of the one that it replaces.
        have replaced :
            (front ++ current :: back).set front.length slot = front ++ slot :: back := by simp
        rw [replaced, List.eraseP_append_right _ unnamed, List.eraseP_append_right _ unnamed,
          List.eraseP_cons_of_pos own, List.eraseP_cons_of_pos passes]
      · intro other member
        exact List.mem_or_eq_of_mem_set member

/-- What is written by an edit that removes a slot. -/
theorem dropSlot_eq_ok {name : Text} {slots : List Slot} {left : Option (List Slot)}
    (done : dropSlot name slots = .ok left) :
    (left = none ∧ ∀ slot ∈ slots, named name slot = false) ∨
    ∃ slots', left = some slots' ∧ (¬∀ slot ∈ slots, named name slot = false) ∧
      slots' = slots.eraseP (named name) := by
  unfold dropSlot at done
  cases found : slots.findIdx? (named name) with
  | none =>
    rw [found] at done
    exact .inl ⟨(Except.ok.inj done).symm, List.findIdx?_eq_none_iff.mp found⟩
  | some index =>
    obtain ⟨front, current, back, rfl, rfl, passes, unnamed⟩ := findIdx?_named found
    rw [found] at done
    obtain ⟨-, done⟩ := andThen_eq_ok.mp done
    obtain rfl := pure_eq_ok.mp done
    refine .inr ⟨_, rfl, fun none => ?_, ?_⟩
    · rw [none current (by simp)] at passes
      cases passes
    · rw [List.eraseIdx_append_of_length_le (Nat.le_refl _), Nat.sub_self, List.eraseIdx_cons_zero,
        List.eraseP_append_right _ unnamed, List.eraseP_cons_of_pos passes]

theorem applyIsolatedPlugin_eq_ok {workspace : Workspace} {arguments : EditArguments}
    {file : SubprocessFile} {edit : Edit}
    (done : applyIsolatedPlugin workspace arguments file = .ok edit) :
    validInstanceName arguments.instanceName = true ∧
      named arguments.instanceName (managedSlot arguments.instanceName
        (workspace.snippet arguments.instanceName)) = true ∧
      ∃ placed, placeSlot arguments.instanceName (managedSlot arguments.instanceName
          (workspace.snippet arguments.instanceName)) (parseSubprocessConfiguration file).2 =
            .ok placed ∧
        edit.written = placed.map ((parseSubprocessConfiguration file).1, ·) := by
  unfold applyIsolatedPlugin at done
  -- The confirmation, the scaffold report, the path, the snippet and the lock.
  obtain ⟨-, done⟩ := andThen_eq_ok.mp done
  obtain ⟨manifest, done⟩ := andThen_eq_ok.mp done
  obtain ⟨-, done⟩ := andThen_eq_ok.mp done
  obtain ⟨-, done⟩ := andThen_eq_ok.mp done
  obtain ⟨identity, done⟩ := andThen_eq_ok.mp done
  obtain ⟨-, done⟩ := andThen_eq_ok.mp done
  obtain ⟨placed, placing, done⟩ := bind_eq_ok.mp done
  obtain rfl := pure_eq_ok.mp done
  have valid := require_eq_ok.mp (andThen_eq_ok.mp manifest).1
  have own := (Bool.and_eq_true_iff.mp (require_eq_ok.mp identity)).1
  refine ⟨valid, ?_, placed, placing, rfl⟩
  -- The marks of a managed slot leave its name alone.
  rw [named, decide_eq_true_eq, managedSlot, valueAt_setField, if_neg (by decide),
    valueAt_setField, if_neg (by decide)]
  simpa [named] using own

theorem removeIsolatedPlugin_eq_ok {workspace : Workspace} {arguments : EditArguments}
    {file : SubprocessFile} {edit : Edit}
    (done : removeIsolatedPlugin workspace arguments file = .ok edit) :
    ∃ left, dropSlot arguments.instanceName (parseSubprocessConfiguration file).2 = .ok left ∧
      edit.written = left.map ((parseSubprocessConfiguration file).1, ·) := by
  unfold removeIsolatedPlugin at done
  -- The confirmation, the two paths and the lock.
  obtain ⟨-, done⟩ := andThen_eq_ok.mp done
  obtain ⟨-, done⟩ := andThen_eq_ok.mp done
  obtain ⟨-, done⟩ := andThen_eq_ok.mp done
  obtain ⟨-, done⟩ := andThen_eq_ok.mp done
  obtain ⟨left, dropping, done⟩ := bind_eq_ok.mp done
  refine ⟨left, dropping, ?_⟩
  simp only at done
  split at done
  · obtain ⟨-, done⟩ := andThen_eq_ok.mp done
    rw [← pure_eq_ok.mp done]
  · rw [← pure_eq_ok.mp done]

/-- A file has no more slots than lines. -/
theorem length_parseLines (lines : List Text) : (parseLines lines).2.length ≤ lines.length := by
  induction lines using List.reverseRecOn with
  | nil => simp [parseLines]
  | append_singleton lines line ih =>
    rw [parseLines_concat, List.length_append]
    unfold parseLine
    split
    · next index field value _ =>
      have size := congrArg List.length
        (keys_upsert index [(field, value)] (setField field value) (parseLines lines).2)
      rw [keys, List.length_map] at size
      simp only [size]
      split
      · simpa [keys] using Nat.le_succ_of_le ih
      · simpa [keys] using ih
    · split
      · exact Nat.le_succ_of_le ih
      · exact Nat.le_succ_of_le ih

/-- No character of an instance's name is a blank, a backslash or a dollar sign. -/
theorem unescaped_name {name : Text} (valid : validInstanceName name = true) : Unescaped name := by
  have letters : ∀ character ∈ name, character.isAlphanum = true ∨ character = '.' ∨
      character = '_' ∨ character = '-' := by
    cases name with
    | nil => simp
    | cons first rest =>
      simp only [validInstanceName, Bool.and_eq_true, List.all_eq_true, Bool.or_eq_true,
        decide_eq_true_eq] at valid
      intro character member
      rcases List.mem_cons.mp member with rfl | behind
      · exact .inl valid.1
      · have allowed := valid.2 character behind
        tauto
  have unblank : ∀ character : Char, character.isAlphanum = true → isSpace character = false := by
    intro character alphanumeric
    delta Char.isAlphanum Char.isAlpha Char.isUpper Char.isLower Char.isDigit at alphanumeric
    simp only [Bool.or_eq_true, Bool.and_eq_true, decide_eq_true_eq, ge_iff_le,
      UInt32.le_iff_toNat_le] at alphanumeric
    have code : character.val.toNat = character.toNat := rfl
    have bounds : (65 ≤ character.toNat ∧ character.toNat ≤ 90 ∨
        97 ≤ character.toNat ∧ character.toNat ≤ 122) ∨
        48 ≤ character.toNat ∧ character.toNat ≤ 57 := by simpa [code] using alphanumeric
    simp only [isSpace, Bool.or_eq_false_iff, Bool.and_eq_false_iff, decide_eq_false_iff_not,
      beq_eq_false_iff_ne, ne_eq]
    omega
  refine ⟨fun character member => ?_, fun member => ?_, fun member => ?_⟩
  · rcases letters character member with alphanumeric | rfl | rfl | rfl
    · exact unblank character alphanumeric
    · decide
    · decide
    · decide
  · exact absurd (letters _ member) (by decide)
  · exact absurd (letters _ member) (by decide)

theorem plainField_managedSlot {name : Text} (valid : validInstanceName name = true)
    {snippet : List Text} (plain : ∀ line ∈ snippet, EqualsSyntax line) :
    ∀ field ∈ managedSlot name snippet, PlainField field.1 field.2 := by
  refine forall_setField (forall_setField (fun field listed => ?_) ?_) ?_
  · obtain ⟨line, member, read⟩ := (snippetSlot_spec snippet).2 field listed
    exact plainField_of_snippetLine (plain line member) read
  · exact ⟨by decide, by decide, by decide⟩
  · have manifest : PlainText "pdrInstanceManifest".toList ∧
        ':' ∉ "pdrInstanceManifest".toList := by decide
    have front : Unescaped "processes/".toList := by decide
    have back : Unescaped "/scaffold-report.json".toList := by decide
    exact ⟨manifest.1, manifest.2, ((front.append (unescaped_name valid)).append back).plainText⟩

/-- A file whose lines are in the `=` syntax, with keys that are spelled as the runtime spells
them, and no more of them than the runtime can count. -/
structure Readable (file : SubprocessFile) : Prop where
  plain : ∀ lines ∈ file, ∀ line ∈ lines, EqualsSyntax line
  spelled : ∀ lines ∈ file, ∀ line ∈ lines, SpelledLine line
  short : ∀ lines ∈ file, lines.length + 1 < 2 ^ 31

/-- The slots of a file, and one more that can be read back. -/
theorem Readable.writing {file : SubprocessFile} (readable : Readable file) {slots : List Slot}
    (known : ∀ slot ∈ slots, slot ∈ (parseSubprocessConfiguration file).2 ∨
      Writable slot ∧ ∀ field ∈ slot, PlainField field.1 field.2)
    (most : slots.length ≤ (parseSubprocessConfiguration file).2.length + 1) :
    Writing (parseSubprocessConfiguration file).1 slots where
  plain line member := by
    cases file with
    | none => cases member
    | some lines =>
      have kept : line ∈ (parseLines lines).1 := member
      rw [preserved_parseLines] at kept
      exact readable.plain lines rfl line (List.mem_of_mem_filter kept)
  free line member := by
    cases file with
    | none => cases member
    | some lines =>
      have kept : line ∈ (parseLines lines).1 := member
      rw [preserved_parseLines, List.mem_filter, Bool.and_eq_true, Option.isNone_iff_eq_none,
        Bool.not_eq_true'] at kept
      exact kept.2
  writable slot member := (known slot member).elim writable_parsed And.left
  fields slot member := by
    refine (known slot member).elim (fun parsed => ?_) And.right
    cases file with
    | none => cases parsed
    | some lines =>
      obtain ⟨entry, listed, rfl⟩ := List.mem_map.mp parsed
      intro field inside
      -- The field has been set by a line of the file.
      obtain ⟨line, among, read⟩ := (parseLines_readFrom lines).lines entry
        ((sortedSlots_perm lines).mem_iff.mp listed) field inside
      exact plainField_of_slotLine (readable.plain lines rfl line among) read
  short := by
    refine Nat.lt_of_le_of_lt most ?_
    cases file with
    | none => simp [parseSubprocessConfiguration]
    | some lines =>
      have bound := readable.short lines rfl
      have size := length_parseLines lines
      have same := (sortedSlots_perm lines).length_eq
      simp only [parseSubprocessConfiguration, List.length_map]
      omega

section Edits

variable {host : Host} {load : List Text → Properties}
  (numerals : ∀ number < 2 ^ 31, host.parseInt (decimal number) = some number)
  (loading : ∀ lines, (∀ line ∈ lines, EqualsSyntax line) → load lines = lineProperties lines)

include loading
variable {entries : List ConfiguredProcess}

theorem readAll_others_iff {file : SubprocessFile} (readable : Readable file) {name : Text}
    (before : derivedEntries host load (managedNumber name file) file = .ok entries) :
    readAll host (((parseSubprocessConfiguration file).2.eraseP (named name)).map valueAt) =
      .ok entries ↔ ExcessDisabled host load name file := by
  cases file with
  | none => exact iff_of_true before trivial
  | some lines =>
    have plain := readable.plain lines rfl
    rw [← map_otherSlots, List.map_map]
    exact readAll_otherSlots plain (readable.spelled lines rfl) (loading lines plain) before

include numerals

/-- Applying an instance leaves the entries of the others alone exactly when the runtime has left
out none of them, or when there is nothing to write. -/
theorem applied_iff {workspace : Workspace} {arguments : EditArguments} {file : SubprocessFile}
    (readable : Readable file)
    (snippet : ∀ line ∈ workspace.snippet arguments.instanceName, EqualsSyntax line)
    (before : derivedEntries host load (managedNumber arguments.instanceName file) file =
      .ok entries) {edit : Edit} (done : applyIsolatedPlugin workspace arguments file = .ok edit) :
    derivedEntries host load (managedNumber arguments.instanceName (edit.after file))
        (edit.after file) = .ok entries ↔
      ExcessDisabled host load arguments.instanceName file ∨
        AlreadyApplied workspace arguments.instanceName file := by
  obtain ⟨valid, own, placed, placing, written⟩ := applyIsolatedPlugin_eq_ok done
  rcases placeSlot_eq_ok own placing with ⟨rfl, applied⟩ |
    ⟨slots, rfl, unlike, others, members, most⟩
  · -- Nothing is written.
    have same : edit.after file = file := by rw [Edit.after, written]; rfl
    rw [same]
    exact iff_of_true before (.inr applied)
  · have writing : Writing (parseSubprocessConfiguration file).1 slots := by
      refine readable.writing (fun slot member => ?_) most
      rcases members slot member with parsed | rfl
      · exact .inl parsed
      · exact .inr ⟨writable_managedSlot _ _, plainField_managedSlot valid snippet⟩
    have after : edit.after file =
        some (writeSubprocessConfiguration (parseSubprocessConfiguration file).1 slots) := by
      rw [Edit.after, written]
      rfl
    rw [after, derivedEntries,
      loading _ (written_plain writing.plain writing.writable writing.fields),
      derived_written_managed numerals writing, others,
      readAll_others_iff loading readable before]
    exact (or_iff_left unlike).symm

theorem removed_iff {workspace : Workspace} {arguments : EditArguments} {file : SubprocessFile}
    (readable : Readable file)
    (before : derivedEntries host load (managedNumber arguments.instanceName file) file =
      .ok entries) {edit : Edit} (done : removeIsolatedPlugin workspace arguments file = .ok edit) :
    derivedEntries host load none (edit.after file) = .ok entries ↔
      ExcessDisabled host load arguments.instanceName file ∨
        NotRegistered arguments.instanceName file := by
  obtain ⟨left, dropping, written⟩ := removeIsolatedPlugin_eq_ok done
  rcases dropSlot_eq_ok dropping with ⟨rfl, missing⟩ | ⟨slots, rfl, present, rest⟩
  · have same : edit.after file = file := by rw [Edit.after, written]; rfl
    -- No slot has the name, so none was left out of the list before.
    have number : managedNumber arguments.instanceName file = none := by
      cases file with
      | none => rfl
      | some lines =>
        rw [managedNumber, Option.map_eq_none_iff, List.find?_eq_none]
        intro entry member
        rw [missing entry.2 (List.mem_map_of_mem member)]
        decide
    rw [same, ← number]
    exact iff_of_true before (.inr missing)
  · subst rest
    have writing : Writing (parseSubprocessConfiguration file).1
        ((parseSubprocessConfiguration file).2.eraseP (named arguments.instanceName)) :=
      readable.writing (fun slot member => .inl (List.mem_of_mem_eraseP member))
        (Nat.le_succ_of_le List.length_eraseP_le)
    have after : edit.after file =
        some (writeSubprocessConfiguration (parseSubprocessConfiguration file).1
          ((parseSubprocessConfiguration file).2.eraseP (named arguments.instanceName))) := by
      rw [Edit.after, written]
      rfl
    rw [after, derivedEntries,
      loading _ (written_plain writing.plain writing.writable writing.fields),
      derived_written numerals writing, readAll_others_iff loading readable before]
    exact (or_iff_left present).symm

end Edits

theorem edited_reads_back {workspace : Workspace} {arguments : EditArguments}
    {file : SubprocessFile} {edit : Edit}
    (done : applyIsolatedPlugin workspace arguments file = .ok edit ∨
      removeIsolatedPlugin workspace arguments file = .ok edit)
    {preserved : List Text} {slots : List Slot} (written : edit.written = some (preserved, slots)) :
    List.Forall₂ SameFields (parseSubprocessConfiguration (edit.after file)).2 slots := by
  rw [Edit.after, written]
  rcases done with applied | removed
  · obtain ⟨-, own, placed, placing, same⟩ := applyIsolatedPlugin_eq_ok applied
    rw [same] at written
    rcases placeSlot_eq_ok own placing with ⟨rfl, -⟩ | ⟨slots', rfl, -, -, members, -⟩
    · cases written
    · obtain ⟨rfl, rfl⟩ := Prod.mk.inj (Option.some.inj written)
      refine parse_write (fun line => preserved_free) fun slot member => ?_
      rcases members slot member with parsed | rfl
      · exact writable_parsed parsed
      · exact writable_managedSlot _ _
  · obtain ⟨left, dropping, same⟩ := removeIsolatedPlugin_eq_ok removed
    rw [same] at written
    rcases dropSlot_eq_ok dropping with ⟨rfl, -⟩ | ⟨slots', rfl, -, rest⟩
    · cases written
    · obtain ⟨rfl, rfl⟩ := Prod.mk.inj (Option.some.inj written)
      subst rest
      exact parse_write (fun line => preserved_free) fun slot member =>
        writable_parsed (List.mem_of_mem_eraseP member)

/-- Editing the isolated plugins leaves the other subprocesses alone exactly when those that are
numbered count or above are disabled, or when nothing is written; and what is written is read
back. -/
theorem isolatedEdits_leave_others_iff (host : Host) (load : List Text → Properties)
    (numerals : ∀ number < 2 ^ 31, host.parseInt (decimal number) = some number)
    (loading : ∀ lines, (∀ line ∈ lines, EqualsSyntax line) → load lines = lineProperties lines)
    (workspace : Workspace) (arguments : EditArguments)
    (snippet : ∀ line ∈ workspace.snippet arguments.instanceName, EqualsSyntax line) :
    (∀ file entries, Readable file →
      derivedEntries host load (managedNumber arguments.instanceName file) file = .ok entries →
        (∀ edit, applyIsolatedPlugin workspace arguments file = .ok edit →
          (derivedEntries host load (managedNumber arguments.instanceName (edit.after file))
              (edit.after file) = .ok entries ↔
            ExcessDisabled host load arguments.instanceName file ∨
              AlreadyApplied workspace arguments.instanceName file)) ∧
        ∀ edit, removeIsolatedPlugin workspace arguments file = .ok edit →
          (derivedEntries host load none (edit.after file) = .ok entries ↔
            ExcessDisabled host load arguments.instanceName file ∨
              NotRegistered arguments.instanceName file)) ∧
    ∀ file edit, (applyIsolatedPlugin workspace arguments file = .ok edit ∨
        removeIsolatedPlugin workspace arguments file = .ok edit) →
      ∀ preserved slots, edit.written = some (preserved, slots) →
        List.Forall₂ SameFields (parseSubprocessConfiguration (edit.after file)).2 slots := by
  refine ⟨fun file entries readable before => ⟨fun edit done => ?_, fun edit done => ?_⟩,
    fun file edit done preserved slots written => edited_reads_back done written⟩
  · exact applied_iff numerals loading readable snippet before done
  · exact removed_iff numerals loading readable before done

/-- A host that reads decimal numbers and Boolean words, on which every path is a file. -/
def decimalHost : Host where
  parseInt text :=
    if text ≠ [] ∧ text.all Char.isDigit then some (Nat.ofDigitChars 10 text 0) else none
  parseBool text :=
    if text = "true".toList then some true else if text = "false".toList then some false else none
  resolveRelativePath := some
  isFile _ := true
  parentDirectory _ := []
  baseName := id

theorem decimalHost_numerals (number : Nat) :
    decimalHost.parseInt (decimal number) = some (number : Int) := by
  have digits : (decimal number).all Char.isDigit = true :=
    List.all_eq_true.mpr fun _ => Nat.isDigit_of_mem_toDigits (by decide) (by decide)
  have read : Nat.ofDigitChars 10 (decimal number) 0 = number := Nat.ofDigitChars_ten_toDigits
  simp only [decimalHost, decimal_ne_nil, ne_eq, not_false_eq_true, digits, and_self, if_true, read]

def sampleWorkspace : Workspace where
  configurationPath := .ok ()
  scaffoldReport _ := .ok ()
  snippet name := ["# Merge this slot.".toList, "subprocess.N.enabled = true".toList,
    "subprocess.N.name = ".toList ++ name, "subprocess.N.path = launcher".toList]
  insideProcesses _ := true
  instanceExists _ := false
  lock := .ok ()

def sampleArguments : EditArguments := ⟨"host".toList, true, false⟩

/-- One worker, and a slot that the count leaves out. -/
def sampleFile (spare : String) : SubprocessFile :=
  some (["# workers", "subprocess.count = 1", "subprocess.0.name = worker",
    "subprocess.0.path = worker", "subprocess.4.enabled = " ++ spare,
    "subprocess.4.path = spare"].map String.toList)

def sampleEntry (name : String) : ConfiguredProcess :=
  { name := name.toList, executable := name.toList, arguments := [], initialDirectory := [] }

theorem readable_sampleFile {spare : String} (known : spare = "true" ∨ spare = "false") :
    Readable (sampleFile spare) := by
  rcases known with rfl | rfl
  all_goals
    constructor
    all_goals
      intro lines read
      obtain rfl := Option.some.inj read
      decide +kernel

/-- Applying an instance beside a disabled slot starts the same worker. -/
theorem isolatedEdits_leave_others_sample : ∃ edit,
    applyIsolatedPlugin sampleWorkspace sampleArguments (sampleFile "false") = .ok edit ∧
      derivedEntries decimalHost lineProperties
          (managedNumber "host".toList (edit.after (sampleFile "false")))
          (edit.after (sampleFile "false")) = .ok [sampleEntry "worker"] := by
  have rule := isolatedEdits_leave_others_iff decimalHost lineProperties
    (fun number _ => decimalHost_numerals number) (fun _ _ => rfl) sampleWorkspace sampleArguments
    (by decide +kernel)
  have before : derivedEntries decimalHost lineProperties
      (managedNumber "host".toList (sampleFile "false")) (sampleFile "false") =
        .ok [sampleEntry "worker"] := by decide +kernel
  have disabled : ExcessDisabled decimalHost lineProperties "host".toList (sampleFile "false") := by
    intro count counted
    have one : readCount decimalHost (lineProperties ((sampleFile "false").getD [])) = .ok 1 := by
      decide +kernel
    obtain rfl := Except.ok.inj (one.symm.trans counted)
    decide +kernel
  refine ⟨_, rfl, ?_⟩
  exact ((rule.1 _ _ (readable_sampleFile (.inr rfl)) before).1 _ rfl).mpr (.inl disabled)

/-- Applying an instance starts a slot that the count has left out. -/
theorem excess_slot_started : Readable (sampleFile "true") ∧
    derivedEntries decimalHost lineProperties
        (managedNumber "host".toList (sampleFile "true")) (sampleFile "true") =
      .ok [sampleEntry "worker"] ∧
    ∃ edit, applyIsolatedPlugin sampleWorkspace sampleArguments (sampleFile "true") = .ok edit ∧
      derivedEntries decimalHost lineProperties
          (managedNumber "host".toList (edit.after (sampleFile "true")))
          (edit.after (sampleFile "true")) =
        .ok [sampleEntry "worker", sampleEntry "spare"] := by
  refine ⟨readable_sampleFile (.inl rfl), by decide +kernel, _, rfl, by decide +kernel⟩

end PocoDDS.Tools
