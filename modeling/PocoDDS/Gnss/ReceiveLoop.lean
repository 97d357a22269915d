import PocoDDS.Lib.Lines

/-! The receive loop of the serial receiver: its reads are cut into sentences at the terminators. -/

namespace PocoDDS.Gnss

open LineSplit

/-- The two characters that end a sentence. -/
def isTerminator (byte : UInt8) : Bool :=
  byte == 13 || byte == 10

/-- `find_first_of("\r\n")`. -/
def findFirstOf (buffer : List UInt8) : Option Nat :=
  buffer.findIdx? isTerminator

/-- `find_first_not_of("\r\n", start)`. -/
def findFirstNotOf (buffer : List UInt8) (start : Nat) : Option Nat :=
  ((buffer.drop start).findIdx? fun byte => !isTerminator byte).map (start + ·)

theorem findFirstOf_eq_some {buffer : List UInt8} {newline : Nat}
    (found : findFirstOf buffer = some newline) :
    ∃ line terminator rest, buffer = line ++ terminator :: rest ∧ line.length = newline ∧
      Plain isTerminator line ∧ isTerminator terminator = true := by
  obtain ⟨inside, isEnd, before⟩ := List.findIdx?_eq_some_iff_getElem.mp found
  refine ⟨buffer.take newline, buffer[newline], buffer.drop (newline + 1), ?_, ?_, ?_, isEnd⟩
  · rw [List.getElem_cons_drop, List.take_append_drop]
  · rw [List.length_take]
    omega
  · intro byte member
    obtain ⟨position, small, rfl⟩ := List.mem_iff_getElem.mp member
    rw [List.length_take] at small
    rw [List.getElem_take]
    simpa using before position (by omega)

theorem drop_findFirstNotOf (line rest : List UInt8) {terminator : UInt8}
    (isEnd : isTerminator terminator = true) :
    (line ++ terminator :: rest).drop
        ((findFirstNotOf (line ++ terminator :: rest) line.length).getD
          (line ++ terminator :: rest).length) =
      rest.dropWhile isTerminator := by
  -- The second search starts at the terminator that was found.
  have skipped : ∀ text : List UInt8,
      text.drop ((text.findIdx? fun byte => !isTerminator byte).getD text.length) =
        text.dropWhile isTerminator := by
    intro text
    induction text with
    | nil => rfl
    | cons first rest ih =>
      by_cases blank : isTerminator first = true
      · rw [List.dropWhile_cons_of_pos blank, ← ih, List.findIdx?_cons]
        cases rest.findIdx? fun byte => !isTerminator byte <;> simp [blank]
      · rw [List.dropWhile_cons_of_neg blank, List.findIdx?_cons]
        simp [blank]
  unfold findFirstNotOf
  rw [List.drop_left]
  have whole := skipped (terminator :: rest)
  rw [List.dropWhile_cons_of_pos isEnd] at whole
  rw [← whole]
  cases (terminator :: rest).findIdx? fun byte => !isTerminator byte with
  | none => simp
  | some next => simp [List.drop_append]

/-- The inner loop: the sentences that it passes on, and what it leaves in the buffer. -/
def splitBuffer (buffer : List UInt8) : List (List UInt8) × List UInt8 :=
  match _found : findFirstOf buffer with
  | none => ([], buffer)
  | some newline =>
    let line := buffer.take newline
    let next := findFirstNotOf buffer newline
    let (sentences, rest) := splitBuffer (buffer.drop (next.getD buffer.length))
    (if line.isEmpty then sentences else line :: sentences, rest)
termination_by buffer.length
decreasing_by
  obtain ⟨front, terminator, rest, rfl, rfl, -, isEnd⟩ := findFirstOf_eq_some _found
  have shorter := (List.dropWhile_sublist isTerminator (l := rest)).length_le
  rw [drop_findFirstNotOf front rest isEnd, List.length_append, List.length_cons]
  omega

/-- What the receive loop has passed on, and its buffer. -/
structure Received where
  sentences : List (List UInt8) := []
  buffer : List UInt8 := []
  deriving DecidableEq, Repr

/-- One pass of the receive loop; an empty read is a timeout. -/
def receive (received : Received) (bytes : List UInt8) : Received :=
  if bytes.isEmpty then received
  else
    let (sentences, buffer) := splitBuffer (received.buffer ++ bytes)
    ⟨received.sentences ++ sentences, buffer⟩

/-- The receive loop over the reads of a connection. -/
def receiveAll (received : Received) (reads : List (List UInt8)) : Received :=
  reads.foldl receive received

theorem findFirstOf_line {line : List UInt8} (plain : Plain isTerminator line) {terminator : UInt8}
    (isEnd : isTerminator terminator = true) (rest : List UInt8) :
    findFirstOf (line ++ terminator :: rest) = some line.length := by
  unfold findFirstOf
  rw [List.findIdx?_append, List.findIdx?_eq_none_iff.mpr (by simpa [Plain] using plain),
    List.findIdx?_cons]
  simp [isEnd]

theorem splitBuffer_plain {buffer : List UInt8} (plain : Plain isTerminator buffer) :
    splitBuffer buffer = ([], buffer) := by
  have absent : findFirstOf buffer = none :=
    List.findIdx?_eq_none_iff.mpr (by simpa [Plain] using plain)
  rw [splitBuffer]
  split
  · rfl
  · next found =>
    rw [absent] at found
    cases found

theorem splitBuffer_line {line : List UInt8} (plain : Plain isTerminator line) {terminator : UInt8}
    (isEnd : isTerminator terminator = true) (rest : List UInt8) :
    splitBuffer (line ++ terminator :: rest) =
      (if line.isEmpty then (splitBuffer (rest.dropWhile isTerminator)).1
        else line :: (splitBuffer (rest.dropWhile isTerminator)).1,
        (splitBuffer (rest.dropWhile isTerminator)).2) := by
  rw [splitBuffer]
  split
  · next found =>
    rw [findFirstOf_line plain isEnd rest] at found
    cases found
  · next newline found =>
    rw [findFirstOf_line plain isEnd rest] at found
    obtain rfl := Option.some.inj found
    dsimp only
    rw [drop_findFirstNotOf line rest isEnd, List.take_left]

theorem splitBuffer_eq (buffer : List UInt8) :
    splitBuffer buffer = (lines isTerminator buffer, residue isTerminator buffer) := by
  -- Every pass makes the buffer shorter.
  induction size : buffer.length using Nat.strong_induction_on generalizing buffer with
  | _ size' ih =>
    cases found : findFirstOf buffer with
    | none =>
      have plain : Plain isTerminator buffer := by
        simpa [Plain] using List.findIdx?_eq_none_iff.mp found
      rw [splitBuffer_plain plain, plain.lines, plain.residue]
    | some newline =>
      obtain ⟨line, terminator, rest, rfl, -, plain, isEnd⟩ := findFirstOf_eq_some found
      have shorter := (List.dropWhile_sublist isTerminator (l := rest)).length_le
      rw [List.length_append, List.length_cons] at size
      rw [splitBuffer_line plain isEnd, ih _ (by omega) (rest.dropWhile isTerminator) rfl,
        lines_first plain isEnd, residue_append_cons isEnd, (lines_dropWhile rest).1,
        (lines_dropWhile rest).2]

/-- A read adds the lines that it completes. -/
theorem receive_eq (received : Received) {bytes : List UInt8} (filled : bytes ≠ []) :
    receive received bytes = ⟨received.sentences ++ lines isTerminator (received.buffer ++ bytes),
        residue isTerminator (received.buffer ++ bytes)⟩ := by
  unfold receive
  rw [if_neg (by simpa using filled), splitBuffer_eq]

/-- The loop passes on the lines of the whole stream, whatever its buffer holds at first. -/
theorem receiveAll_eq (received : Received) {reads : List (List UInt8)}
    (filled : ∀ bytes ∈ reads, bytes ≠ []) (some' : reads ≠ []) :
    receiveAll received reads =
      ⟨received.sentences ++ lines isTerminator (received.buffer ++ reads.flatten),
        residue isTerminator (received.buffer ++ reads.flatten)⟩ := by
  -- The last read is one pass after the reads before it.
  induction reads using List.reverseRecOn with
  | nil => exact absurd rfl some'
  | append_singleton earlier bytes ih =>
    have last := filled bytes (by simp)
    have before : receiveAll received (earlier ++ [bytes]) =
        receive (receiveAll received earlier) bytes := by
      simp [receiveAll]
    rw [before, receive_eq _ last, List.flatten_append, List.flatten_singleton, ← List.append_assoc]
    by_cases first : earlier = []
    · subst first
      simp [receiveAll]
    · obtain ⟨whole, rest⟩ := @lines_append _ isTerminator
        (received.buffer ++ earlier.flatten) bytes
      rw [ih (fun other member => filled other (by simp [member])) first, whole, rest,
        ← List.append_assoc]

/-- Two ways of cutting a stream into reads pass on the same lines, none of them empty, and leave
the same bytes in the buffer. -/
theorem receiveAll_independent (received : Received) (reads reads' : List (List UInt8))
    (filled : ∀ bytes ∈ reads, bytes ≠ []) (filled' : ∀ bytes ∈ reads', bytes ≠ [])
    (same : reads.flatten = reads'.flatten) :
    receiveAll received reads = receiveAll received reads' ∧
      ∃ passed, (receiveAll received reads).sentences = received.sentences ++ passed ∧
        ∀ sentence ∈ passed, sentence ≠ [] := by
  by_cases silent : reads = []
  · -- A stream without bytes is cut into no reads.
    subst silent
    have silent' : reads' = [] := by
      cases reads' with
      | nil => rfl
      | cons bytes rest =>
        rw [List.flatten_nil, List.flatten_cons] at same
        exact absurd (List.append_eq_nil_iff.mp same.symm).1 (filled' bytes (by simp))
    subst silent'
    exact ⟨rfl, [], by simp [receiveAll], by simp⟩
  · have some' : reads' ≠ [] := by
      rintro rfl
      obtain ⟨bytes, member⟩ := List.exists_mem_of_ne_nil _ silent
      rw [List.flatten_nil, List.flatten_eq_nil_iff] at same
      exact filled bytes member (same bytes member)
    rw [receiveAll_eq received filled silent, receiveAll_eq received filled' some', same]
    exact ⟨rfl, _, rfl, fun sentence member => lines_filled member⟩

/-- Terminators may be cut apart. -/
theorem receiveAll_independent_split :
    receiveAll {} [[36, 65, 13], [10, 66]] = receiveAll {} [[36], [65, 13, 10, 66]] :=
  (receiveAll_independent {} [[36, 65, 13], [10, 66]] [[36], [65, 13, 10, 66]] (by decide)
    (by decide) rfl).1

end PocoDDS.Gnss
