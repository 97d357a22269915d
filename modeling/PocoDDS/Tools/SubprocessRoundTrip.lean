import PocoDDS.Lib.Outcome
import PocoDDS.Tools.SubprocessFile

/-! The slots that are written to the subprocess file are the slots that are read back. -/

namespace PocoDDS.Tools

open AssocList JsonModel TrimLogic
open ProcessManagement (Text decimal)

theorem digitValue_decimal {character : Char} (digit : character.isDigit = true) :
    digitValue character = some (character.toNat - '0'.toNat) := by
  simp only [Char.isDigit, ge_iff_le, Bool.and_eq_true, decide_eq_true_eq] at digit
  have least : 48 ≤ character.toNat := UInt32.le_iff_toNat_le.mp digit.1
  have most : character.toNat ≤ 57 := UInt32.le_iff_toNat_le.mp digit.2
  rw [digitValue, digitZeros, List.find?_cons_of_pos (by simpa using ⟨least, by omega⟩)]
  rfl

theorem isDigit_decimal {number : Nat} {character : Char} (member : character ∈ decimal number) :
    isDigit character = true := by
  rw [isDigit, digitValue_decimal (Nat.isDigit_of_mem_toDigits (by decide) (by decide) member)]
  rfl

theorem digitsValue_decimal (number : Nat) : digitsValue (decimal number) = number := by
  have agree : digitsValue (decimal number) = Nat.ofDigitChars 10 (decimal number) 0 := by
    refine List.foldl_ext _ _ _ fun sofar digit member => ?_
    rw [digitValue_decimal (Nat.isDigit_of_mem_toDigits (by decide) (by decide) member)]
    rfl
  rw [agree]
  exact Nat.ofDigitChars_ten_toDigits

theorem decimal_ne_nil (number : Nat) : decimal number ≠ [] :=
  Nat.toDigits_ne_nil

theorem cut_decimal (number : Nat) {first : Char} (other : isDigit first = false) (rest : Text) :
    (decimal number ++ first :: rest).takeWhile isDigit = decimal number ∧
      (decimal number ++ first :: rest).dropWhile isDigit = first :: rest := by
  constructor
  · rw [List.takeWhile_append_of_pos fun _ => isDigit_decimal,
      List.takeWhile_cons_of_neg (by simp [other]), List.append_nil]
  · rw [List.dropWhile_append_of_pos fun _ => isDigit_decimal,
      List.dropWhile_cons_of_neg (by simp [other])]

theorem dropPrefix?_eq_some {text front rest : Text} :
    text.dropPrefix? front = some rest ↔ text = front ++ rest := by
  rw [List.dropPrefix?_eq_some_iff]
  constructor
  · rintro ⟨front', shape, same⟩
    rw [shape, eq_of_beq same]
  · exact fun shape => ⟨front, shape, beq_self_eq_true front⟩

theorem assignment_eq_some {text field value : Text} :
    assignment text = some (field, value) ↔ ∃ before after, '=' ∉ before ∧ before ≠ [] ∧
      text = before ++ '=' :: after ∧ field = stripText before ∧ value = stripText after := by
  constructor
  · intro read
    simp only [assignment] at read
    split at read
    · cases read
    · next first after shape =>
      split at read
      · cases read
      · next filled =>
        simp only [Option.some.injEq, Prod.mk.injEq] at read
        -- The cut stops at the separator.
        have present : '=' ∈ text := by
          by_contra missing
          have passed : text.dropWhile (· ≠ '=') = [] := by
            rw [List.dropWhile_eq_nil_iff]
            intro item member
            simpa using fun same : item = '=' => missing (same ▸ member)
          rw [passed] at shape
          cases shape
        obtain ⟨back, cut, whole⟩ := cut_split present
        obtain ⟨-, rfl⟩ := List.cons.inj (cut.symm.trans shape)
        exact ⟨_, back, cut_free '=' text, filled, whole, read.1.symm, read.2.symm⟩
  · rintro ⟨before, after, free, filled, rfl, rfl, rfl⟩
    obtain ⟨front, back⟩ := cut_append free after
    simp only [assignment, front, back, if_neg filled]

/-- What a line that sets a field of a slot looks like. -/
theorem slotLine_eq_some {raw : Text} {index : Nat} {field value : Text} :
    slotLine raw = some (index, field, value) ↔ ∃ digits before after,
      (∀ digit ∈ digits, isDigit digit = true) ∧ digits ≠ [] ∧ '=' ∉ before ∧ before ≠ [] ∧
      raw.dropWhile isSpace = "subprocess.".toList ++ digits ++ '.' :: before ++ '=' :: after ∧
      index = digitsValue digits ∧ field = stripText before ∧ value = stripText after := by
  have point : isDigit '.' = false := by decide
  constructor
  · intro read
    simp only [slotLine, Option.bind_eq_bind, Option.bind_eq_some_iff] at read
    obtain ⟨rest, lead, read⟩ := read
    split at read
    · cases read
    · next filled =>
      simp only [Option.bind_eq_some_iff] at read
      obtain ⟨tail, dot, pair, assigned, read⟩ := read
      obtain ⟨rfl, rfl⟩ : digitsValue (rest.takeWhile isDigit) = index ∧ pair = (field, value) := by
        simpa using read
      obtain ⟨before, after, free, some, shape, first, second⟩ := assignment_eq_some.mp assigned
      refine ⟨rest.takeWhile isDigit, before, after, fun _ => List.mem_takeWhile_imp, filled, free,
        some, ?_, rfl, first, second⟩
      -- The line is its prefix, its digits, the point and the assignment.
      have whole : rest = rest.takeWhile isDigit ++ '.' :: before ++ '=' :: after := by
        have cut := dropPrefix?_eq_some.mp dot
        rw [shape] at cut
        simpa [cut] using (List.takeWhile_append_dropWhile (p := isDigit) (l := rest)).symm
      rw [dropPrefix?_eq_some.mp lead]
      simpa using whole
  · rintro ⟨digits, before, after, digital, filled, free, some, shape, rfl, rfl, rfl⟩
    have lead : (raw.dropWhile isSpace).dropPrefix? "subprocess.".toList =
        Option.some (digits ++ '.' :: (before ++ '=' :: after)) := by
      rw [dropPrefix?_eq_some, shape]
      simp
    have front : (digits ++ '.' :: (before ++ '=' :: after)).takeWhile isDigit = digits := by
      rw [List.takeWhile_append_of_pos digital, List.takeWhile_cons_of_neg (by simp [point]),
        List.append_nil]
    have back : (digits ++ '.' :: (before ++ '=' :: after)).dropWhile isDigit =
        '.' :: (before ++ '=' :: after) := by
      rw [List.dropWhile_append_of_pos digital, List.dropWhile_cons_of_neg (by simp [point])]
    have assigned : assignment (before ++ '=' :: after) =
        Option.some (stripText before, stripText after) :=
      assignment_eq_some.mpr ⟨before, after, free, some, rfl, rfl, rfl⟩
    have dot : ('.' :: (before ++ '=' :: after)).dropPrefix? ['.'] =
        Option.some (before ++ '=' :: after) := dropPrefix?_eq_some.mpr rfl
    simp only [slotLine, lead, Option.bind_eq_bind, Option.bind_some, front, if_neg filled, back,
      dot, assigned]
    rfl

theorem getLast?_of_forall {values : List Text} {value? : Option Text}
    (same : ∀ value, value ∈ values ↔ value? = some value) : values.getLast? = value? := by
  cases value? with
  | none =>
    rw [List.getLast?_eq_none_iff, List.eq_nil_iff_forall_not_mem]
    intro value member
    cases (same value).mp member
  | some value =>
    have listed := (same value).mpr rfl
    have last := List.getLast_mem (List.ne_nil_of_mem listed)
    rw [List.getLast?_eq_some_getLast (List.ne_nil_of_mem listed)]
    exact ((same _).mp last).symm

def slotValue (index : Nat) (field line : Text) : Option Text :=
  match slotLine line with
  | some (number, name, value) => if number = index ∧ name = field then some value else none
  | none => none

def fieldAt (slots : List (Nat × Slot)) (index : Nat) (field : Text) : Option Text :=
  (slots.lookup index).bind fun slot => valueAt slot field

theorem parseLines_concat (lines : List Text) (line : Text) :
    parseLines (lines ++ [line]) = parseLine (parseLines lines) line := by
  simp [parseLines]

theorem valueAt_setField (name field value : Text) (slot : Slot) :
    valueAt (setField name value slot) field =
      if field = name then some value else valueAt slot field := by
  -- Whether the field has a value already or not, it gets this one.
  have fixed : ∀ old : Option Text, (old.map fun _ => value).getD value = value := by
    intro old
    cases old <;> rfl
  unfold valueAt setField
  rw [lookup_upsert, fixed]

theorem fieldAt_upsert (slots : List (Nat × Slot)) (number index : Nat) (name field value : Text) :
    fieldAt (upsert number [(name, value)] (setField name value) slots) index field =
      if number = index ∧ name = field then some value else fieldAt slots index field := by
  unfold fieldAt
  rw [lookup_upsert]
  by_cases same : index = number
  · subst same
    simp only [if_true, Option.bind_some, true_and, eq_comm (a := name)]
    cases slots.lookup index with
    | none => exact valueAt_setField name field value []
    | some slot => exact valueAt_setField name field value slot
  · simp [same, Ne.symm same]

theorem fieldAt_parseLines (lines : List Text) (index : Nat) (field : Text) :
    fieldAt (parseLines lines).2 index field =
      (lines.filterMap (slotValue index field)).getLast? := by
  induction lines using List.reverseRecOn with
  | nil => rfl
  | append_singleton lines line ih =>
    rw [parseLines_concat, List.filterMap_append, List.getLast?_append]
    cases read : slotLine line with
    | none =>
      -- The line sets nothing.
      have kept : (parseLine (parseLines lines) line).2 = (parseLines lines).2 := by
        simp only [parseLine, read]
        split <;> rfl
      simp [kept, ih, slotValue, read]
    | some entry =>
      obtain ⟨number, name, value⟩ := entry
      simp only [parseLine, read, fieldAt_upsert, ih, slotValue, List.filterMap_cons,
        List.filterMap_nil]
      by_cases same : number = index ∧ name = field <;> simp [same]

/-- What is known of the slots that have been read from lines. -/
structure ReadFrom (lines : List Text) (slots : List (Nat × Slot)) : Prop where
  numbers : (keys slots).Nodup
  fields : ∀ entry ∈ slots, (keys entry.2).Nodup
  filled : ∀ entry ∈ slots, entry.2 ≠ []
  lines : ∀ entry ∈ slots, ∀ field ∈ entry.2,
    ∃ line ∈ lines, slotLine line = some (entry.1, field.1, field.2)

theorem setField_ne_nil (field value : Text) (slot : Slot) : setField field value slot ≠ [] := by
  intro empty
  have found := valueAt_setField field field value slot
  rw [empty] at found
  simp [valueAt] at found

theorem mem_setField {field value : Text} {slot : Slot} {entry : Text × Text}
    (member : entry ∈ setField field value slot) : entry ∈ slot ∨ entry = (field, value) := by
  rcases mem_upsert member with old | new | ⟨_, _, changed⟩
  · exact .inl old
  · exact .inr new
  · exact .inr changed

theorem parseLines_readFrom (lines : List Text) : ReadFrom lines (parseLines lines).2 := by
  induction lines using List.reverseRecOn with
  | nil => exact ⟨List.nodup_nil, by simp [parseLines], by simp [parseLines], by simp [parseLines]⟩
  | append_singleton lines line ih =>
    have longer : ∀ entry ∈ (parseLines lines).2, ∀ field ∈ entry.2,
        ∃ other ∈ lines ++ [line], slotLine other = some (entry.1, field.1, field.2) := by
      intro entry member field listed
      obtain ⟨other, earlier, read⟩ := ih.lines entry member field listed
      exact ⟨other, List.mem_append_left _ earlier, read⟩
    rw [parseLines_concat]
    cases read : slotLine line with
    | none =>
      have kept : (parseLine (parseLines lines) line).2 = (parseLines lines).2 := by
        simp only [parseLine, read]
        split <;> rfl
      rw [kept]
      exact ⟨ih.numbers, ih.fields, ih.filled, longer⟩
    | some found =>
      obtain ⟨number, name, value⟩ := found
      simp only [parseLine, read]
      refine ⟨nodup_keys_upsert ih.numbers _ _ _, fun entry member => ?_, fun entry member => ?_,
        fun entry member field listed => ?_⟩
      all_goals rcases mem_upsert member with old | rfl | ⟨slot, old, rfl⟩
      · exact ih.fields entry old
      · simp [keys]
      · exact nodup_keys_upsert (ih.fields _ old) _ _ _
      · exact ih.filled entry old
      · simp
      · exact setField_ne_nil name value slot
      · exact longer entry old field listed
      · obtain rfl : field = (name, value) := by simpa using listed
        exact ⟨line, by simp, read⟩
      · rcases mem_setField listed with before | rfl
        · exact longer _ old field before
        · exact ⟨line, by simp, read⟩

theorem preserved_parseLines (lines : List Text) :
    (parseLines lines).1 = lines.filter fun line => (slotLine line).isNone && !countLine line := by
  induction lines using List.reverseRecOn with
  | nil => rfl
  | append_singleton lines line ih =>
    rw [parseLines_concat, List.filter_append, ← ih]
    cases read : slotLine line with
    | some found => simp [parseLine, read]
    | none => by_cases counts : countLine line = true <;> simp [parseLine, read, counts]

theorem mem_keys_parseLines {lines : List Text} {index : Nat} : index ∈ keys (parseLines lines).2 ↔
      ∃ line ∈ lines, ∃ field value, slotLine line = some (index, field, value) := by
  constructor
  · intro member
    obtain ⟨entry, listed, rfl⟩ := List.mem_map.mp member
    have known := parseLines_readFrom lines
    -- A slot has a field, which a line has set.
    obtain ⟨field, inside⟩ := List.exists_mem_of_ne_nil _ (known.filled entry listed)
    obtain ⟨line, among, read⟩ := known.lines entry listed field inside
    exact ⟨line, among, field.1, field.2, read⟩
  · rintro ⟨line, among, field, value, read⟩
    rw [← lookup_isSome_iff]
    have sets : value ∈ lines.filterMap (slotValue index field) :=
      List.mem_filterMap.mpr ⟨line, among, by simp [slotValue, read]⟩
    -- The field has a value, so its slot is there.
    have found := fieldAt_parseLines lines index field
    rw [List.getLast?_eq_some_getLast (List.ne_nil_of_mem sets), fieldAt] at found
    obtain ⟨slot, there, -⟩ := Option.bind_eq_some_iff.mp found
    rw [there]
    rfl

theorem sortedSlots_perm (lines : List Text) : (sortedSlots lines).Perm (parseLines lines).2 :=
  List.perm_insertionSort _ _

theorem nodup_sortedSlots (lines : List Text) : (keys (sortedSlots lines)).Nodup :=
  ((sortedSlots_perm lines).map Prod.fst).nodup_iff.mpr (parseLines_readFrom lines).numbers

theorem sortedLT_sortedSlots (lines : List Text) : (keys (sortedSlots lines)).SortedLT := by
  have ascending := List.pairwise_insertionSort
    (fun first second : Nat × Slot => first.1 ≤ second.1) (parseLines lines).2
  have weakly : (keys (sortedSlots lines)).Pairwise (· ≤ ·) := List.pairwise_map.mpr ascending
  -- No number occurs twice, so none is followed by itself.
  exact (weakly.and (nodup_sortedSlots lines)).imp
    (fun both => Nat.lt_of_le_of_ne both.1 both.2) |>.sortedLT

theorem lookup_sortedSlots (lines : List Text) (index : Nat) :
    (sortedSlots lines).lookup index = (parseLines lines).2.lookup index :=
  lookup_perm (nodup_sortedSlots lines) (sortedSlots_perm lines) index

/-- The name of a field has no `=`, and neither the name nor the value has blanks at its ends. -/
def Clean (field value : Text) : Prop :=
  Stripped isSpace field ∧ '=' ∉ field ∧ Stripped isSpace value

instance (field value : Text) : Decidable (Clean field value) :=
  inferInstanceAs (Decidable (_ ∧ _))

/-- A slot that can be written and read back: it has fields, each of them once, and all clean. -/
structure Writable (slot : Slot) : Prop where
  filled : slot ≠ []
  distinct : (keys slot).Nodup
  clean : ∀ field ∈ slot, Clean field.1 field.2

theorem mem_orderedFields {slot : Slot} {field : Text} :
    field ∈ orderedFields slot ↔ field ∈ keys slot := by
  simp only [orderedFields, List.mem_append, List.mem_filter, List.mem_insertionSort,
    decide_eq_true_eq]
  constructor
  · rintro (⟨-, there⟩ | ⟨there, -⟩) <;> exact there
  · intro there
    by_cases early : field ∈ preferredFields <;> simp [early, there]

theorem slotFieldLine_cons (index : Nat) (field value : Text) :
    ∃ rest, slotFieldLine index field value = 's' :: rest :=
  ⟨"ubprocess.".toList ++ decimal index ++ '.' :: field ++ " = ".toList ++ value, rfl⟩

/-- The blank behind a field's name and the blank before its value are stripped. -/
theorem slotLine_slotFieldLine (index : Nat) {field value : Text} (clean : Clean field value) :
    slotLine (slotFieldLine index field value) = some (index, field, value) := by
  obtain ⟨name, unequal, plain⟩ := clean
  rw [slotLine_eq_some]
  refine ⟨decimal index, field ++ [' '], ' ' :: value, fun _ => isDigit_decimal,
    decimal_ne_nil index, by simp [unequal], by simp, ?_, (digitsValue_decimal index).symm, ?_, ?_⟩
  · have start : (slotFieldLine index field value).dropWhile isSpace =
        slotFieldLine index field value := by
      obtain ⟨rest, shape⟩ := slotFieldLine_cons index field value
      rw [shape]
      exact List.dropWhile_cons_of_neg (by decide)
    -- The blanks around the separator belong to the name and to the value.
    have blanks : ∀ lead digits : Text, lead ++ digits ++ '.' :: field ++ [' ', '=', ' '] ++ value =
        lead ++ digits ++ '.' :: (field ++ [' ']) ++ '=' :: ' ' :: value := by simp
    rw [start]
    exact blanks _ _
  · exact (name.concat (by decide)).symm
  · rw [stripText, strip_cons (by decide)]
    exact plain.symm

theorem slotLine_nil : slotLine [] = none := by decide

theorem slotLine_count (number : Nat) :
    slotLine ("subprocess.count = ".toList ++ decimal number) = none := by
  refine Option.eq_none_iff_forall_ne_some.mpr fun ⟨index, field, value⟩ read => ?_
  obtain ⟨digits, before, after, digital, filled, -, -, shape, -⟩ := slotLine_eq_some.mp read
  have start : ("subprocess.count = ".toList ++ decimal number).dropWhile isSpace =
      "subprocess.".toList ++ "count = ".toList ++ decimal number := rfl
  rw [start, List.append_assoc, List.append_assoc, List.append_assoc] at shape
  have tails := List.append_cancel_left shape
  -- No digit stands behind the prefix.
  cases digits with
  | nil => exact filled rfl
  | cons first rest =>
    have head : 'c' = first := by
      have := congrArg List.head? tails
      simpa using this
    have digit := digital first (by simp)
    rw [← head] at digit
    revert digit
    decide

theorem mem_writeSubprocessConfiguration {preserved : List Text} {slots : List Slot} {line : Text}
    (member : line ∈ writeSubprocessConfiguration preserved slots) :
    line ∈ preserved ∨ line = [] ∨ line = "subprocess.count = ".toList ++ decimal slots.length ∨
      ∃ index slot field, slots[index]? = some slot ∧ field ∈ keys slot ∧
        line = slotFieldLine index field ((valueAt slot field).getD []) := by
  have cut : ∀ other ∈ preserved.rdropWhile (fun line => (stripText line).isEmpty),
      other ∈ preserved := fun _ inside =>
    List.IsPrefix.subset ( List.rdropWhile_prefix _ preserved) inside
  simp only [writeSubprocessConfiguration, List.mem_append, List.mem_singleton, List.mem_flatMap]
    at member
  rcases member with (lead | count) | ⟨⟨slot, index⟩, listed, inside⟩
  · -- The preserved lines, and the blank line behind them.
    split at lead
    · exact .inl (cut line lead)
    · rcases List.mem_append.mp lead with kept | blank
      · exact .inl (cut line kept)
      · exact .inr (.inl (List.mem_singleton.mp blank))
  · exact .inr (.inr (.inl count))
  · rcases List.mem_cons.mp inside with blank | set
    · exact .inr (.inl blank)
    · obtain ⟨field, ordered, rfl⟩ := List.mem_map.mp set
      exact .inr (.inr (.inr ⟨index, slot, field, List.mk_mem_zipIdx_iff_getElem?.mp listed,
        mem_orderedFields.mp ordered, rfl⟩))

theorem slotFieldLine_mem {preserved : List Text} {slots : List Slot} {index : Nat} {slot : Slot}
    {field : Text} (there : slots[index]? = some slot) (listed : field ∈ keys slot) :
    slotFieldLine index field ((valueAt slot field).getD []) ∈
      writeSubprocessConfiguration preserved slots := by
  refine List.mem_append_right _ (List.mem_flatMap.mpr ⟨(slot, index), ?_, ?_⟩)
  · exact List.mk_mem_zipIdx_iff_getElem?.mpr there
  · exact List.mem_cons_of_mem _ (List.mem_map_of_mem (mem_orderedFields.mpr listed))

section Written

variable {preserved : List Text} {slots : List Slot}
  (free : ∀ line ∈ preserved, slotLine line = none) (writable : ∀ slot ∈ slots, Writable slot)

include free writable

theorem written_sets {index : Nat} {field value : Text} :
    (∃ line ∈ writeSubprocessConfiguration preserved slots,
        slotLine line = some (index, field, value)) ↔
      ∃ slot, slots[index]? = some slot ∧ valueAt slot field = some value := by
  -- The line of a field sets that field, to its value.
  have own {number : Nat} {slot : Slot} {name text : Text} (there : slots[number]? = some slot)
      (found : valueAt slot name = some text) :
      slotLine (slotFieldLine number name text) = some (number, name, text) := by
    have known := writable slot (List.mem_of_getElem? there)
    exact slotLine_slotFieldLine number (known.clean _ (mem_of_valueAt found))
  constructor
  · rintro ⟨line, member, read⟩
    rcases mem_writeSubprocessConfiguration member with kept | rfl | rfl |
      ⟨number, slot, name, there, listed, rfl⟩
    · rw [free line kept] at read
      cases read
    · rw [slotLine_nil] at read
      cases read
    · rw [slotLine_count] at read
      cases read
    · obtain ⟨text, found⟩ : ∃ text, valueAt slot name = some text :=
        Option.ne_none_iff_exists'.mp fun missing => valueAt_eq_none_iff.mp missing listed
      rw [found, Option.getD_some, own there found] at read
      obtain ⟨rfl, rfl, rfl⟩ : number = index ∧ name = field ∧ text = value := by simpa using read
      exact ⟨slot, there, found⟩
  · rintro ⟨slot, there, found⟩
    have listed : field ∈ keys slot := List.mem_map.mpr ⟨_, mem_of_valueAt found, rfl⟩
    have line := @slotFieldLine_mem preserved _ _ _ _ there listed
    rw [found, Option.getD_some] at line
    exact ⟨_, line, own there found⟩

theorem fieldAt_written (index : Nat) (field : Text) :
    fieldAt (parseLines (writeSubprocessConfiguration preserved slots)).2 index field =
      slots[index]?.bind fun slot => valueAt slot field := by
  rw [fieldAt_parseLines]
  have values : ∀ value, value ∈ (writeSubprocessConfiguration preserved slots).filterMap
      (slotValue index field) ↔
        (slots[index]?.bind fun slot => valueAt slot field) = some value := by
    intro value
    rw [List.mem_filterMap, Option.bind_eq_some_iff, ← written_sets free writable]
    refine exists_congr fun line => and_congr_right fun _ => ?_
    cases read : slotLine line with
    | none => simp [slotValue, read]
    | some entry =>
      obtain ⟨number, name, text⟩ := entry
      simp only [slotValue, read]
      split
      · next same => simp [same]
      · next differs =>
        simp only [reduceCtorEq, Option.some.injEq, Prod.mk.injEq, false_iff]
        exact fun same => differs ⟨same.1, same.2.1⟩
  exact getLast?_of_forall values

theorem numbers_written : keys (sortedSlots (writeSubprocessConfiguration preserved slots)) =
      List.range slots.length := by
  refine (sortedLT_sortedSlots _).eq_of_mem_iff (List.sortedLT_range _) fun index => ?_
  rw [keys, ((sortedSlots_perm _).map Prod.fst).mem_iff, ← keys, mem_keys_parseLines,
    List.mem_range]
  constructor
  · rintro ⟨line, member, field, value, read⟩
    obtain ⟨slot, there, -⟩ := (written_sets free writable).mp ⟨line, member, read⟩
    exact (List.getElem?_eq_some_iff.mp there).1
  · intro inside
    -- The slot has a field, whose line has the number.
    have known := writable slots[index] (List.getElem_mem inside)
    obtain ⟨field, listed⟩ := List.exists_mem_of_ne_nil _ known.filled
    have found : valueAt slots[index] field.1 = some field.2 :=
      (valueAt_eq_some_iff known.distinct).mpr listed
    obtain ⟨line, member, read⟩ := (written_sets free writable).mpr
      ⟨slots[index], List.getElem?_eq_getElem inside, found⟩
    exact ⟨line, member, _, _, read⟩

end Written

def SameFields (first second : Slot) : Prop :=
  ∀ field, valueAt first field = valueAt second field

/-- Reading a written file gives back the slots. -/
theorem parse_write {preserved : List Text} {slots : List Slot}
    (free : ∀ line ∈ preserved, slotLine line = none) (writable : ∀ slot ∈ slots, Writable slot) :
    List.Forall₂ SameFields
      (parseSubprocessConfiguration (some (writeSubprocessConfiguration preserved slots))).2
      slots := by
  have numbers := numbers_written free writable
  have size : (sortedSlots (writeSubprocessConfiguration preserved slots)).length =
      slots.length := by simpa [keys] using congrArg List.length numbers
  rw [List.forall₂_iff_get]
  refine ⟨by simpa [parseSubprocessConfiguration] using size, fun index inside inside' => ?_⟩
  intro field
  -- The slot at a position has the position as its number.
  have position : index < (sortedSlots (writeSubprocessConfiguration preserved slots)).length := by
    rw [size]
    exact inside'
  have own : (sortedSlots (writeSubprocessConfiguration preserved slots))[index].1 = index := by
    have entry := congrArg (fun list => list[index]?) numbers
    simpa [keys, position, inside'] using entry
  have found : (sortedSlots (writeSubprocessConfiguration preserved slots)).lookup index =
      some (sortedSlots (writeSubprocessConfiguration preserved slots))[index].2 := by
    rw [lookup_eq_some_iff (nodup_sortedSlots _)]
    exact List.mem_of_getElem (Prod.ext own rfl)
  have value := fieldAt_written free writable index field
  rw [fieldAt, ← lookup_sortedSlots, found, List.getElem?_eq_getElem inside'] at value
  simpa [parseSubprocessConfiguration] using value

theorem slotLine_clean {raw : Text} {index : Nat} {field value : Text}
    (read : slotLine raw = some (index, field, value)) : Clean field value := by
  obtain ⟨_, before, after, -, -, free, -, -, -, rfl, rfl⟩ := slotLine_eq_some.mp read
  exact ⟨stripped_strip before, fun member => free (mem_strip member), stripped_strip after⟩

theorem snippetLine_clean {raw field value : Text} (read : snippetLine raw = some (field, value)) :
    Clean field value := by
  obtain ⟨rest, -, assigned⟩ := Option.bind_eq_some_iff.mp read
  obtain ⟨before, after, free, -, -, rfl, rfl⟩ := assignment_eq_some.mp assigned
  exact ⟨stripped_strip before, fun member => free (mem_strip member), stripped_strip after⟩

theorem writable_parseLines {lines : List Text} {entry : Nat × Slot}
    (member : entry ∈ (parseLines lines).2) : Writable entry.2 := by
  have known := parseLines_readFrom lines
  refine ⟨known.filled entry member, known.fields entry member, fun field listed => ?_⟩
  obtain ⟨line, -, read⟩ := known.lines entry member field listed
  exact slotLine_clean read

theorem writable_parsed {file : SubprocessFile} {slot : Slot}
    (member : slot ∈ (parseSubprocessConfiguration file).2) : Writable slot := by
  cases file with
  | none => cases member
  | some lines =>
    obtain ⟨entry, listed, rfl⟩ := List.mem_map.mp member
    exact writable_parseLines ((sortedSlots_perm lines).mem_iff.mp listed)

theorem preserved_free {file : SubprocessFile} {line : Text}
    (member : line ∈ (parseSubprocessConfiguration file).1) : slotLine line = none := by
  cases file with
  | none => cases member
  | some lines =>
    have kept : line ∈ (parseLines lines).1 := member
    rw [preserved_parseLines, List.mem_filter, Bool.and_eq_true, Option.isNone_iff_eq_none] at kept
    exact kept.2.1

theorem forall_setField {property : Text × Text → Prop} {field value : Text} {slot : Slot}
    (before : ∀ entry ∈ slot, property entry) (new : property (field, value)) :
    ∀ entry ∈ setField field value slot, property entry := by
  intro entry member
  rcases mem_setField member with old | rfl
  · exact before entry old
  · exact new

theorem snippetSlot_spec (snippet : List Text) : (keys (snippetSlot snippet)).Nodup ∧
    ∀ field ∈ snippetSlot snippet, ∃ line ∈ snippet, snippetLine line = some field := by
  induction snippet using List.reverseRecOn with
  | nil => exact ⟨List.nodup_nil, by simp [snippetSlot]⟩
  | append_singleton lines line ih =>
    have earlier : ∀ field ∈ snippetSlot lines, ∃ other ∈ lines ++ [line],
        snippetLine other = some field := by
      intro field listed
      obtain ⟨other, member, read⟩ := ih.2 field listed
      exact ⟨other, List.mem_append_left _ member, read⟩
    rw [snippetSlot, List.foldl_append, ← snippetSlot]
    simp only [List.foldl_cons, List.foldl_nil]
    cases read : snippetLine line with
    | none => exact ⟨ih.1, earlier⟩
    | some entry =>
      exact ⟨nodup_keys_upsert ih.1 _ _ _, forall_setField earlier ⟨line, by simp, read⟩⟩

/-- The path of the scaffold report begins and ends with a letter. -/
theorem stripped_report (name : Text) :
    Stripped isSpace ("processes/".toList ++ name ++ "/scaffold-report.json".toList) := by
  apply Stripped.of_ends
  · intro item leads
    obtain rfl : 'p' = item := Option.some.inj leads
    decide
  · intro item ends
    rw [List.getLast?_append_of_ne_nil _ (by decide)] at ends
    obtain rfl : 'n' = item := Option.some.inj ends
    decide

theorem writable_managedSlot (name : Text) (snippet : List Text) :
    Writable (managedSlot name snippet) := by
  obtain ⟨distinct, fields⟩ := snippetSlot_spec snippet
  refine ⟨setField_ne_nil _ _ _, nodup_keys_upsert (nodup_keys_upsert distinct _ _ _) _ _ _, ?_⟩
  -- The fields of the snippet, and the two that mark the slot as managed.
  refine forall_setField (forall_setField (fun field listed => ?_) (by decide)) ?_
  · obtain ⟨line, -, read⟩ := fields field listed
    exact snippetLine_clean read
  · have known : Stripped isSpace "pdrInstanceManifest".toList ∧
        '=' ∉ "pdrInstanceManifest".toList := by decide
    exact ⟨known.1, known.2, stripped_report name⟩

end PocoDDS.Tools
