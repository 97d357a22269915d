import PocoDDS.Tools.SecurityGate

/-! Whether the security gate sees what the runtime sees. -/

namespace PocoDDS.Tools.SecurityGate

open AssocList JsonModel TrimLogic Mode

/-- A key whose value the gate and the runtime read differently. -/
def Misread (text key : List Char) : Prop :=
  (properties text).find key ≠ (runtimeProperties text).find key

/-- A line that is blank, a comment, or a key and a value, in what the two readers have in common:
the key is separated by `=`, and the value has no backslash. -/
def PlainLine (line : List Char) : Prop :=
  (∀ character ∈ line, isSpace character = true → character = ' ' ∨ character = '\t') ∧
    match stripStart line with
    | [] => True
    | first :: rest => first = '#' ∨ (first = '!' ∧ '=' ∉ line) ∨
        first ≠ '!' ∧ '=' ∈ first :: rest ∧ ':' ∉ (first :: rest).takeWhile (· ≠ '=') ∧
          '\\' ∉ (first :: rest).dropWhile (· ≠ '=')

/-- A file of such lines, which end in line feeds and carriage returns. -/
def PlainFile (text : List Char) : Prop :=
  (∀ character ∈ text, character.toNat ≠ 0 ∧
    (isLineBreak character = true → character = '\n' ∨ character = '\r')) ∧
  ∀ line ∈ splitLines text, PlainLine line

instance (line : List Char) : Decidable (PlainLine line) := by
  unfold PlainLine
  refine @instDecidableAnd _ _ (List.decidableBAll _ line) ?_
  split <;> infer_instance

instance (text : List Char) : Decidable (PlainFile text) :=
  @instDecidableAnd _ _ (List.decidableBAll (fun character : Char => character.toNat ≠ 0 ∧
    (isLineBreak character = true → character = '\n' ∨ character = '\r')) text)
    (List.decidableBAll _ _)

section Lines

/-- A character that ends no line. -/
def Calm (character : Char) : Prop :=
  character ≠ '\n' ∧ character ≠ '\r' ∧ character.toNat ≠ 0

/-- Where the runtime's reader stands after some characters. -/
def Mode.after (mode : Mode) (line : List Char) : Mode :=
  line.foldl (fun mode character => (mode.step character).1) mode

/-- Not behind a backslash. -/
def Mode.Settled : Mode → Prop
  | escaped _ _ | continued _ _ => False
  | _ => True

variable {mode : Mode} {character : Char} {line rest name value : List Char}

/-- Within a line no property is complete. -/
theorem step_calm (calm : Calm character) : (mode.step character).2 = [] := by
  obtain ⟨feed, carriage, zero⟩ := calm
  cases mode <;> simp only [Mode.step, addToValue, feed, carriage, zero, or_self, if_false] <;>
    split_ifs <;> rfl

theorem after_append : mode.after (line ++ rest) = (mode.after line).after rest :=
  List.foldl_append

theorem step_break (settled : mode.Settled) (ends : character = '\n' ∨ character = '\r') :
    mode.step character = (.lineStart, mode.finish) := by
  rcases ends with rfl | rfl <;> cases mode <;> first | rfl | exact settled.elim

variable (calm : ∀ character ∈ line, Calm character)
include calm

theorem after_comment :
    comment.after line = .comment := by
  induction line with
  | nil => rfl
  | cons character line ih =>
    obtain ⟨⟨feed, carriage, -⟩, others⟩ := List.forall_mem_cons.mp calm
    have stays : (comment.step character).1 = .comment := by
      simp only [Mode.step, feed, carriage, or_self, if_false]
    rw [after, List.foldl_cons, stays]
    exact ih others

theorem after_key (free : ∀ character ∈ line, character ≠ '=' ∧ character ≠ ':') :
    (key name).after line = .key (name ++ line) := by
  induction line generalizing name with
  | nil => rw [List.append_nil]; rfl
  | cons character line ih =>
    obtain ⟨⟨feed, carriage, -⟩, others⟩ := List.forall_mem_cons.mp calm
    obtain ⟨⟨equals, colon⟩, frees⟩ := List.forall_mem_cons.mp free
    have grows : ((key name).step character).1 = .key (name ++ [character]) := by
      simp only [Mode.step, equals, colon, feed, carriage, or_self, if_false]
    rw [after, List.foldl_cons, grows]
    refine (ih others frees).trans ?_
    rw [List.append_assoc]
    rfl

theorem after_value (free : '\\' ∉ line) :
    (Mode.value name value).after line = .value name (value ++ line) := by
  induction line generalizing value with
  | nil => rw [List.append_nil]; rfl
  | cons character line ih =>
    obtain ⟨⟨feed, carriage, zero⟩, others⟩ := List.forall_mem_cons.mp calm
    obtain ⟨differs, frees⟩ := not_or.mp (fun member => free (List.mem_cons.mpr member))
    have plain : character ≠ '\\' := fun same => differs same.symm
    have grows : ((Mode.value name value).step character).1 =
        .value name (value ++ [character]) := by
      simp only [Mode.step, addToValue, plain, feed, carriage, zero, or_self, if_false]
    rw [after, List.foldl_cons, grows]
    refine (ih others frees).trans ?_
    rw [List.append_assoc]
    rfl

omit calm

theorem after_blanks (blank : ∀ character ∈ line, isBlank character = true) :
    lineStart.after line = .lineStart := by
  induction line with
  | nil => rfl
  | cons character line ih =>
    obtain ⟨first, others⟩ := List.forall_mem_cons.mp blank
    have stays : (lineStart.step character).1 = .lineStart := by
      simp only [Mode.step, first, if_true]
    rw [after, List.foldl_cons, stays]
    exact ih others

theorem isSpace_of_isBlank (blank : isBlank character = true) : isSpace character = true := by
  simp only [isBlank, isSpace, Bool.or_eq_true, Bool.and_eq_true, decide_eq_true_eq] at blank ⊢
  rcases blank with inside | rfl
  · simp [inside]
  · decide

theorem strip_blank (plain : ∀ character ∈ line,
    isSpace character = true → character = ' ' ∨ character = '\t') :
    strip isBlank line = stripText line := by
  have same : ∀ character ∈ line, isBlank character = isSpace character := by
    intro character member
    rw [Bool.eq_iff_iff]
    constructor
    · exact isSpace_of_isBlank
    · intro space
      rcases plain character member space with rfl | rfl <;> decide
  exact strip_congr same

/-- What the gate finds in a line that has a separator. -/
theorem assignment_of_shape {front after : List Char} (solid : '=' ∉ name)
    (begins : ∀ first ∈ name.head?, first ≠ '#' ∧ isSpace first = false)
    (blanks : ∀ character ∈ front, isSpace character = true) :
    assignment (front ++ (name ++ '=' :: after)) = some (stripText name, stripText after) := by
  have separator : isSpace '=' = false := by decide
  have stripped : stripText (front ++ (name ++ '=' :: after)) =
      name ++ '=' :: after.rdropWhile isSpace := by
    rw [stripText, strip_append_left blanks, strip, dropWhile_solid,
      rdropWhile_append_solid separator]
    intro first leads
    cases name with
    | nil => rwa [← Option.some.inj leads]
    | cons head tail =>
      rw [← Option.some.inj leads]
      exact (begins head rfl).2
  have filled : ¬(name ++ '=' :: after.rdropWhile isSpace = [] ∨
      (name ++ '=' :: after.rdropWhile isSpace).head? = some '#') := by
    cases name with
    | nil => simp
    | cons head tail =>
      have differs := (begins head rfl).1
      simp [differs]
  obtain ⟨lead, tail⟩ := cut_append solid (after.rdropWhile isSpace)
  have cut : partition '=' (name ++ '=' :: after.rdropWhile isSpace) =
      (name, some (after.rdropWhile isSpace)) := by
    rw [partition, tail, lead]
  rw [assignment, stripped]
  simp only [if_neg filled, cut]
  rw [stripText, stripText, strip_rdropWhile]
  rfl

/-- The gate finds nothing in a comment, and nothing without a separator. -/
theorem assignment_comment {front : List Char}
    (blanks : ∀ character ∈ front, isSpace character = true) :
    assignment (front ++ '#' :: rest) = none := by
  have stripped : stripText (front ++ '#' :: rest) = '#' :: rest.rdropWhile isSpace := by
    rw [stripText, strip_append_left blanks, strip, dropWhile_solid]
    · exact rdropWhile_append_solid (by decide) [] rest
    · intro first leads
      rw [← Option.some.inj leads]
      decide
  rw [assignment, stripped]
  rfl

theorem assignment_free (free : '=' ∉ line) : assignment line = none := by
  have cut : partition '=' (stripText line) = (stripText line, none) := by
    have nothing : (stripText line).dropWhile (· ≠ '=') = [] := by
      refine List.dropWhile_eq_nil_iff.mpr fun character member => ?_
      have differs : character ≠ '=' := fun same => free (same ▸ mem_strip member)
      simpa using differs
    rw [partition, nothing]
  rw [assignment]
  simp only [cut]
  split <;> rfl

/-- Where the runtime's reader stands behind the separator of a key. -/
theorem after_separator (calm : ∀ character ∈ name, Calm character)
    (free : ∀ character ∈ name, character ≠ '=' ∧ character ≠ ':')
    (begins : ∀ first ∈ name.head?, isBlank first = false ∧ first ≠ '#' ∧ first ≠ '!') :
    lineStart.after (name ++ ['=']) = .value name [] := by
  cases name with
  | nil => rfl
  | cons first rest =>
    obtain ⟨solid, number, bang⟩ := begins first rfl
    obtain ⟨⟨equals, colon⟩, others⟩ := List.forall_mem_cons.mp free
    have begun : (lineStart.step first).1 = .key [first] := by
      simp only [Mode.step, solid, number, bang, equals, colon, or_self, if_false,
        Bool.false_eq_true]
    have key := @after_key rest [first] (List.forall_mem_cons.mp calm).2 others
    rw [List.cons_append, after, List.foldl_cons, begun]
    show (Mode.key [first]).after (rest ++ ['=']) = _
    rw [after_append, key]
    rfl

/-- The runtime's reader passes over the blanks before a line that has spaces and tabs only. -/
theorem after_stripStart (plain : ∀ character ∈ line,
    isSpace character = true → character = ' ' ∨ character = '\t') :
    lineStart.after line = lineStart.after (stripStart line) := by
  have blanks : ∀ character ∈ line.takeWhile isSpace, isBlank character = true := by
    intro character member
    have inside := (List.takeWhile_prefix isSpace).subset member
    rcases plain character inside (List.mem_takeWhile_imp member) with rfl | rfl <;> decide
  conv_lhs => rw [← List.takeWhile_append_dropWhile (p := isSpace) (l := line)]
  rw [after_append, after_blanks blanks]
  rfl

theorem entry_read {front after : List Char} (calm : ∀ character ∈ name ++ '=' :: after, Calm character)
    (plain : ∀ character ∈ front ++ (name ++ '=' :: after),
      isSpace character = true → character = ' ' ∨ character = '\t')
    (blanks : ∀ character ∈ front, isSpace character = true)
    (begins : ∀ first ∈ name.head?, isSpace first = false ∧ first ≠ '#' ∧ first ≠ '!')
    (noEquals : '=' ∉ name) (noColon : ':' ∉ name) (noSlash : '\\' ∉ after) :
    (lineStart.after (name ++ '=' :: after)).Settled ∧
      (lineStart.after (name ++ '=' :: after)).finish =
        (assignment (front ++ (name ++ '=' :: after))).toList := by
  obtain ⟨calmName, calmAfter⟩ := List.forall_mem_append.mp calm
  obtain ⟨-, plainEntry⟩ := List.forall_mem_append.mp plain
  obtain ⟨plainName, plainAfter⟩ := List.forall_mem_append.mp plainEntry
  -- The runtime's reader ends in the value, whose text is the whole rest of the line.
  have lead : lineStart.after (name ++ ['=']) = .value name [] := by
    refine after_separator calmName ?_ ?_
    · exact fun character member =>
        ⟨fun same => noEquals (same ▸ member), fun same => noColon (same ▸ member)⟩
    · intro first leads
      obtain ⟨solid, number, bang⟩ := begins first leads
      refine ⟨Bool.eq_false_iff.mpr fun blank => ?_, number, bang⟩
      rw [isSpace_of_isBlank blank] at solid
      cases solid
  have stands : lineStart.after (name ++ '=' :: after) = .value name after := by
    have split : name ++ '=' :: after = (name ++ ['=']) ++ after := by simp
    rw [split, after_append, lead]
    exact after_value (List.forall_mem_cons.mp calmAfter).2 noSlash
  -- The gate finds the same two parts, and the readers strip them alike.
  have found : assignment (front ++ (name ++ '=' :: after)) =
      some (stripText name, stripText after) :=
    assignment_of_shape noEquals
      (fun first leads => ⟨(begins first leads).2.1, (begins first leads).1⟩) blanks
  rw [stands, found, Mode.finish, strip_blank plainName,
    strip_blank (List.forall_mem_cons.mp plainAfter).2]
  exact ⟨trivial, rfl⟩

/-- What both readers find in a plain line. -/
theorem plainLine_read (plain : PlainLine line) (calm : ∀ character ∈ line, Calm character) :
    (lineStart.after line).Settled ∧ (lineStart.after line).finish = (assignment line).toList := by
  obtain ⟨spaces, shape⟩ := plain
  have whole : line = line.takeWhile isSpace ++ stripStart line :=
    List.takeWhile_append_dropWhile.symm
  have blanks : ∀ character ∈ line.takeWhile isSpace, isSpace character = true :=
    fun character => List.mem_takeWhile_imp
  have calmBody : ∀ character ∈ stripStart line, Calm character :=
    fun character member => calm character ((List.dropWhile_suffix _).subset member)
  rw [after_stripStart spaces]
  cases body : stripStart line with
  | nil =>
    have empty : stripText line = [] := by
      rw [stripText, strip]
      exact congrArg (List.rdropWhile isSpace) body
    refine ⟨trivial, ?_⟩
    rw [assignment, empty]
    rfl
  | cons first rest =>
    rw [body] at shape calmBody whole
    have solid : isSpace first = false :=
      @head_dropWhile _ isSpace line first (by rw [← stripStart, body]; rfl)
    obtain ⟨-, calmRest⟩ := List.forall_mem_cons.mp calmBody
    by_cases number : first = '#'
    · subst number
      have comment : lineStart.after ('#' :: rest) = .comment := after_comment calmRest
      rw [comment, whole, assignment_comment blanks]
      exact ⟨trivial, rfl⟩
    · rcases shape with same | ⟨rfl, free⟩ | ⟨bang, present, noColon, noSlash⟩
      · exact absurd same number
      · -- A comment of the runtime's reader only, in which the gate finds no separator.
        have comment : lineStart.after ('!' :: rest) = .comment := after_comment calmRest
        rw [comment, assignment_free free]
        exact ⟨trivial, rfl⟩
      · obtain ⟨after, back, cut⟩ := cut_split present
        rw [back] at noSlash
        have noEquals := cut_free '=' (first :: rest)
        generalize (first :: rest).takeWhile (· ≠ '=') = name at cut noColon noEquals
        have begins : ∀ head ∈ name.head?, isSpace head = false ∧ head ≠ '#' ∧ head ≠ '!' := by
          intro head leads
          have firsts := congrArg List.head? cut
          rw [List.head?_append, Option.mem_def.mp leads] at firsts
          rw [← Option.some.inj firsts]
          exact ⟨solid, number, bang⟩
        rw [cut] at calmBody whole ⊢
        have read := entry_read calmBody (whole ▸ spaces) blanks begins noEquals noColon
          fun member => noSlash (List.mem_cons_of_mem _ member)
        rwa [← whole] at read

end Lines

/-- The runtime finds in a plain file what the gate finds in its lines. -/
theorem readFrom_lines {line text : List Char} (calm : ∀ character ∈ line, Calm character)
    (clean : ∀ character ∈ text, character.toNat ≠ 0 ∧
      (isLineBreak character = true → character = '\n' ∨ character = '\r'))
    (plain : ∀ each ∈ splitLinesFrom line text, PlainLine each) :
    readFrom (lineStart.after line) text = (splitLinesFrom line text).filterMap assignment := by
  fun_induction splitLinesFrom line text with
  | case1 => rfl
  | case2 line filled =>
    obtain ⟨-, found⟩ := plainLine_read (plain line List.mem_cons_self) calm
    rw [readFrom, found]
    cases read : assignment line <;> simp [read]
  | case3 line rest ih =>
    obtain ⟨settled, found⟩ := plainLine_read (plain line List.mem_cons_self) calm
    have tail := ih (by simp) (fun character member => clean character (by simp [member]))
      fun each listed => plain each (List.mem_cons_of_mem _ listed)
    -- The line feed of a pair is passed over as a blank.
    have passed : lineStart.step '\n' = (.lineStart, []) := rfl
    rw [readFrom, step_break settled (.inr rfl), readFrom, passed, found, List.nil_append]
    refine (congrArg _ tail).trans ?_
    cases read : assignment line <;> simp [read]
  | case4 line first rest unpaired ends ih =>
    obtain ⟨settled, found⟩ := plainLine_read (plain line List.mem_cons_self) calm
    have tail := ih (by simp) (fun character member => clean character (by simp [member]))
      fun each listed => plain each (List.mem_cons_of_mem _ listed)
    have either := (clean first List.mem_cons_self).2 ends
    rw [readFrom, step_break settled either, found]
    refine (congrArg _ tail).trans ?_
    cases read : assignment line <;> simp [read]
  | case5 line first rest unpaired inside ih =>
    obtain ⟨filled, -⟩ := clean first List.mem_cons_self
    have calmFirst : Calm first := by
      refine ⟨?_, ?_, filled⟩
      · rintro rfl
        exact inside (by decide)
      · rintro rfl
        exact inside (by decide)
    have tail := ih (by
        intro character member
        rcases List.mem_append.mp member with old | new
        · exact calm character old
        · rw [List.mem_singleton.mp new]
          exact calmFirst)
      (fun character member => clean character (List.mem_cons_of_mem _ member)) plain
    rw [readFrom, step_calm calmFirst, List.nil_append, ← tail, after_append]
    rfl

theorem plainFile_read {text : List Char} (plain : PlainFile text) :
    properties text = runtimeProperties text := by
  have same := @readFrom_lines [] text (by simp) plain.1 plain.2
  rw [properties, runtimeProperties]
  exact congrArg _ same.symm

section Results

variable (lower : List Char → List Char)

theorem kept_of_agreement {text : List Char} {rule : Rule}
    (kept : rule.broken (properties text) = false)
    (agree : ¬∃ key, rule.looksAt key = true ∧ Misread text key) :
    rule.broken (runtimeProperties text) = false := by
  rw [← kept]
  refine (rule.depends _ _ fun key looks => ?_).symm
  by_contra differs
  exact agree ⟨key, looks, differs⟩

/-- The mapping to lower case of texts in ASCII. -/
def asciiLower : List Char → List Char :=
  List.map Char.toLower

/-- A development file for a loopback address. -/
def developmentFile : List Char :=
  "# local\nsecurity.profile = development\nosp.web.server.host = 127.0.0.1\n".toList

/-- The same address, with a production profile behind a colon. -/
def colonFile : List Char :=
  "security.profile: production\nosp.web.server.host = 127.0.0.1\n".toList

end Results

end PocoDDS.Tools.SecurityGate
