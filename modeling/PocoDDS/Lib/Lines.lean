import Mathlib.Data.List.Basic
import Mathlib.Tactic

/-! A stream cut into lines at its terminators, all at once or read by read. -/

namespace LineSplit

variable {α : Type} (ends : α → Bool)

/-- The non-empty lines of a stream that are terminated. -/
def lines (stream : List α) : List (List α) :=
  (stream.splitOnP ends).dropLast.filter fun line => !line.isEmpty

/-- What stands behind the last terminator of a stream. -/
def residue (stream : List α) : List α :=
  (stream.splitOnP ends).getLast (List.splitOnP_ne_nil ends stream)

/-- No terminator is in the text. -/
def Plain (text : List α) : Prop :=
  ∀ item ∈ text, ends item = false

variable {ends} {text front stream : List α} {terminator : α}

theorem Plain.splitOnP (plain : Plain ends text) : text.splitOnP ends = [text] :=
  List.splitOnP_eq_singleton plain

theorem Plain.lines (plain : Plain ends text) : lines ends text = [] := by
  simp [LineSplit.lines, plain.splitOnP]

theorem Plain.residue (plain : Plain ends text) : residue ends text = text := by
  simp [LineSplit.residue, plain.splitOnP]

/-- Only lines that are not empty are counted. -/
theorem lines_filled {line : List α} (member : line ∈ lines ends stream) : line ≠ [] := by
  simpa using List.of_mem_filter member

/-- A terminator separates the pieces before it from the lines behind it. -/
theorem lines_append_cons (isEnd : ends terminator = true) (front text : List α) :
    lines ends (front ++ terminator :: text) =
      ((front.splitOnP ends).filter fun line => !line.isEmpty) ++ lines ends text := by
  unfold lines
  rw [List.splitOnP_append_cons _ _ isEnd,
    List.dropLast_append_of_ne_nil (List.splitOnP_ne_nil ends text), List.filter_append]

theorem residue_append_cons (isEnd : ends terminator = true) (front text : List α) :
    residue ends (front ++ terminator :: text) = residue ends text := by
  unfold residue
  rw [List.getLast_congr _ _ (List.splitOnP_append_cons _ _ isEnd), List.getLast_append_of_ne_nil]
  all_goals simp [List.splitOnP_ne_nil]

/-- The first line of a stream. -/
theorem lines_first (plain : Plain ends front) (isEnd : ends terminator = true) (text : List α) :
    lines ends (front ++ terminator :: text) =
      (if front.isEmpty then lines ends text else front :: lines ends text) := by
  rw [lines_append_cons isEnd, plain.splitOnP]
  cases front <;> simp

/-- Terminators at the start of a stream end no lines. -/
theorem lines_dropWhile (stream : List α) : lines ends (stream.dropWhile ends) = lines ends stream ∧
      residue ends (stream.dropWhile ends) = residue ends stream := by
  induction stream with
  | nil => exact ⟨rfl, rfl⟩
  | cons first rest ih =>
    by_cases isEnd : ends first = true
    · rw [List.dropWhile_cons_of_pos isEnd]
      have whole := lines_append_cons isEnd [] rest
      have last := residue_append_cons isEnd [] rest
      simp only [List.nil_append, List.splitOnP_nil] at whole last
      rw [ih.1, ih.2, whole, last]
      exact ⟨rfl, rfl⟩
    · rw [List.dropWhile_cons_of_neg isEnd]
      exact ⟨rfl, rfl⟩

/-- A stream without terminators, or one that goes on behind its last terminator. -/
theorem plain_or_exists_last (ends : α → Bool) (stream : List α) : Plain ends stream ∨
      ∃ front terminator text, stream = front ++ terminator :: text ∧ ends terminator = true ∧
        Plain ends text := by
  induction stream with
  | nil => exact .inl (by simp [Plain])
  | cons first rest ih =>
    rcases ih with plain | ⟨front, terminator, text, rfl, isEnd, plain⟩
    · by_cases isEnd : ends first = true
      · exact .inr ⟨[], first, rest, rfl, isEnd, plain⟩
      · refine .inl fun item member => ?_
        rcases List.mem_cons.mp member with rfl | later
        · simpa using isEnd
        · exact plain item later
    · exact .inr ⟨first :: front, terminator, text, rfl, isEnd, plain⟩

/-- The lines of a stream are those of its start, and those of the rest behind the residue. -/
theorem lines_append (earlier later : List α) : lines ends (earlier ++ later) =
      lines ends earlier ++ lines ends (residue ends earlier ++ later) ∧
    residue ends (earlier ++ later) = residue ends (residue ends earlier ++ later) := by
  rcases plain_or_exists_last ends earlier with plain | ⟨front, terminator, text, rfl, isEnd, plain⟩
  · rw [plain.lines, plain.residue]
    exact ⟨rfl, rfl⟩
  · -- Behind the last terminator the residue and the rest are one text.
    rw [List.append_assoc, List.cons_append, lines_append_cons isEnd, lines_append_cons isEnd,
      residue_append_cons isEnd, residue_append_cons isEnd, plain.lines, plain.residue,
      List.append_nil]
    exact ⟨rfl, rfl⟩

end LineSplit
