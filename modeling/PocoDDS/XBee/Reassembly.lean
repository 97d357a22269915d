import PocoDDS.XBee.Port

/-! Reassembly succeeds exactly while every read leaves the receive buffer below its bound. -/

namespace PocoDDS.XBee

/-- The wire image of a frame sequence. -/
def stream (escaped : Bool) (frames : List XBeeFrame) : List UInt8 :=
  frames.flatMap fun frame => frame.encode escaped

/-- The reads cut the stream into non-empty pieces of at most one serial read. -/
structure CutsStream (escaped : Bool) (frames : List XBeeFrame) (reads : List (List UInt8)) :
    Prop where
  whole : reads.flatten = stream escaped frames
  nonempty : ∀ read ∈ reads, read ≠ []
  bounded : ∀ read ∈ reads, read.length ≤ 64

/-- Successive calls return the frames in order and leave nothing buffered. -/
def Reassembles (escaped : Bool) (output : XBeeFrame) (frames : List XBeeFrame)
    (reads : List (List UInt8)) : Prop :=
  let calls := receiveCalls frames.length (openPort escaped output reads)
  calls.1 = frames.map (fun frame => .ok (true, frame)) ∧ calls.2.receiveBuffer = []

/-- The bytes occupied by the frames that lie entirely within the bytes received so far. -/
def completeBytes : List Nat → Nat → Nat
  | [], _ => 0
  | length :: rest, received =>
    if length ≤ received then length + completeBytes rest (received - length) else 0

/-- Counting from the first incomplete frame, every read ends below the buffer bound. -/
def FitsFrom (buffered : Nat) (lengths : List Nat) (reads : List (List UInt8)) : Prop :=
  ∀ earlier read later, reads = earlier ++ read :: later →
    buffered + earlier.flatten.length + read.length <
      completeBytes lengths (buffered + earlier.flatten.length) + maxFrameLength * 2

/-- No read takes the bytes since the start of the first incomplete frame up to the bound. -/
def ReadsFit (lengths : List Nat) (reads : List (List UInt8)) : Prop :=
  FitsFrom 0 lengths reads

theorem FitsFrom.nil (buffered : Nat) (lengths : List Nat) : FitsFrom buffered lengths [] := by
  intro earlier read later split
  simp at split

theorem fitsFrom_cons (buffered : Nat) (lengths : List Nat) (read : List UInt8)
    (reads : List (List UInt8)) :
    FitsFrom buffered lengths (read :: reads) ↔
      buffered + read.length < completeBytes lengths buffered + maxFrameLength * 2 ∧
        FitsFrom (buffered + read.length) lengths reads := by
  constructor
  · intro fits
    constructor
    · simpa using fits [] read reads rfl
    · intro earlier next later split
      have bound := fits (read :: earlier) next later (by simp [split])
      simpa [Nat.add_assoc] using bound
  · rintro ⟨first, others⟩ earlier next later split
    cases earlier with
    | nil =>
      simp only [List.nil_append, List.cons.injEq] at split
      obtain ⟨rfl, rfl⟩ := split
      simpa using first
    | cons head earlier =>
      simp only [List.cons_append, List.cons.injEq] at split
      obtain ⟨rfl, split⟩ := split
      have bound := others earlier next later split
      simpa [Nat.add_assoc] using bound

/-- A complete first frame no longer counts once it has been taken from the buffer. -/
theorem fitsFrom_complete {buffered length : Nat} (complete : length ≤ buffered)
    (lengths : List Nat) (reads : List (List UInt8)) :
    FitsFrom buffered (length :: lengths) reads ↔ FitsFrom (buffered - length) lengths reads := by
  -- Removing the frame lowers both sides of every bound by its length.
  have shift : ∀ extra, completeBytes (length :: lengths) (buffered + extra) =
      length + completeBytes lengths (buffered - length + extra) := by
    intro extra
    rw [completeBytes, if_pos (by omega), show buffered + extra - length =
      buffered - length + extra by omega]
  constructor
  · intro fits earlier read later split
    have bound := fits earlier read later split
    rw [shift] at bound
    omega
  · intro fits earlier read later split
    have bound := fits earlier read later split
    rw [shift]
    omega

/-- The buffer and the reads to come spell out the frames not yet returned. -/
structure Pending (state : PortState) (frames : List XBeeFrame) : Prop where
  whole : state.receiveBuffer ++ state.reads.flatten = stream state.escapedApiMode frames
  nonempty : ∀ read ∈ state.reads, read ≠ []
  below : state.receiveBuffer.length < maxFrameLength * 2

section

variable {frames : List XBeeFrame} {frame : XBeeFrame} {state : PortState}
  (pending : Pending state (frame :: frames))
include pending

theorem Pending.prefixes : state.receiveBuffer <+: stream state.escapedApiMode (frame :: frames) ∧
      frame.encode state.escapedApiMode <+: stream state.escapedApiMode (frame :: frames) := by
  constructor
  · exact ⟨state.reads.flatten, pending.whole⟩
  · exact ⟨stream state.escapedApiMode frames, by simp [stream]⟩

theorem receive_buffered
    (complete : (frame.encode state.escapedApiMode).length ≤ state.receiveBuffer.length) :
    ∃ rest, state.receiveBuffer = frame.encode state.escapedApiMode ++ rest ∧
      receive state = (.ok true, { state with receiveBuffer := rest, frame := frame }) := by
  obtain ⟨buffer, encoded⟩ := pending.prefixes
  -- Of two prefixes of one stream, the shorter one opens the longer one.
  obtain ⟨rest, opened⟩ := List.prefix_of_prefix_length_le encoded buffer complete
  refine ⟨rest, opened.symm, ?_⟩
  have parsed := parse_complete frame state.frame state.escapedApiMode rest
  rw [opened] at parsed
  have pass : receivePass state =
      .ended (.ok true) { state with receiveBuffer := rest, frame := frame } := by
    simp only [receivePass, parsed]
    congr 2
    rw [← opened, List.drop_left]
  rw [receive, if_pos pending.below]
  split
  · rename_i outcome last ended
    rw [pass] at ended
    cases ended
    rfl
  · rename_i next continued
    rw [pass] at continued
    cases continued

theorem Pending.taken {rest : List UInt8}
    (opened : state.receiveBuffer = frame.encode state.escapedApiMode ++ rest) :
    Pending { state with receiveBuffer := rest, frame := frame } frames := by
  have whole := pending.whole
  have below := pending.below
  rw [opened] at whole below
  refine ⟨?_, pending.nonempty, ?_⟩
  · simpa [stream] using whole
  · simp only [List.length_append] at below
    show rest.length < maxFrameLength * 2
    omega

/-- A call whose frame is still arriving takes the next read and looks again. -/
theorem receive_reads
    (short : state.receiveBuffer.length < (frame.encode state.escapedApiMode).length) :
    ∃ read reads, state.reads = read :: reads ∧
      receive state = receive { state with
        receiveBuffer := state.receiveBuffer ++ read, reads := reads } := by
  obtain ⟨buffer, encoded⟩ := pending.prefixes
  have inside := List.prefix_of_prefix_length_le buffer encoded short.le
  have cut : state.receiveBuffer =
      (frame.encode state.escapedApiMode).take state.receiveBuffer.length :=
    List.prefix_iff_eq_take.mp inside
  -- The stream is longer than the buffer, so at least one read is still to come.
  cases pendingReads : state.reads with
  | nil =>
    have whole := pending.whole
    rw [pendingReads] at whole
    have lengths := congrArg List.length whole
    simp [stream] at lengths
    omega
  | cons read reads =>
    refine ⟨read, reads, rfl, ?_⟩
    have filled : read ≠ [] := pending.nonempty read (by simp [pendingReads])
    have parsed := parse_partial frame state.frame state.escapedApiMode _ short
    rw [← cut] at parsed
    have pass : receivePass state = .again { state with
        receiveBuffer := state.receiveBuffer ++ read, reads := reads } := by
      simp only [receivePass, parsed, gt_iff_lt, lt_irrefl, if_false, readChunk, pendingReads]
    rw [receive, if_pos pending.below]
    split
    · rename_i outcome last ended
      rw [pass] at ended
      cases ended
    · rename_i next continued
      rw [pass] at continued
      cases continued
      rfl

end

/-- The buffer bound from this state on, with the given frame still to be returned first. -/
def PortState.Fits (state : PortState) (frame : XBeeFrame) (lengths : List Nat) : Prop :=
  FitsFrom state.receiveBuffer.length
    ((frame.encode state.escapedApiMode).length :: lengths) state.reads

/-- A call has returned the frame, and whether the later reads fit is unchanged. -/
structure Returned (frame : XBeeFrame) (frames : List XBeeFrame) (lengths : List Nat)
    (state next : PortState) : Prop where
  result : receive state = (.ok true, next)
  named : next.frame = frame
  mode : next.escapedApiMode = state.escapedApiMode
  pending : Pending next frames
  fits : state.Fits frame lengths ↔ FitsFrom next.receiveBuffer.length lengths next.reads

theorem returned_buffered {state : PortState} {frame : XBeeFrame} {frames : List XBeeFrame}
    (lengths : List Nat) (pending : Pending state (frame :: frames))
    (complete : (frame.encode state.escapedApiMode).length ≤ state.receiveBuffer.length) :
    ∃ next, Returned frame frames lengths state next := by
  obtain ⟨rest, opened, result⟩ := receive_buffered pending complete
  refine ⟨_, result, rfl, rfl, pending.taken opened, ?_⟩
  unfold PortState.Fits
  rw [fitsFrom_complete complete]
  simp [opened]

theorem Pending.advanced {state : PortState} {frames : List XBeeFrame}
    (pending : Pending state frames) {read : List UInt8} {reads : List (List UInt8)}
    (split : state.reads = read :: reads)
    (below : state.receiveBuffer.length + read.length < maxFrameLength * 2) :
    Pending { state with receiveBuffer := state.receiveBuffer ++ read, reads := reads } frames := by
  refine ⟨?_, ?_, ?_⟩
  · have whole := pending.whole
    rw [split] at whole
    simpa [List.append_assoc] using whole
  · intro other member
    exact pending.nonempty other (by rw [split]; exact List.mem_cons_of_mem _ member)
  · simpa using below

/-- A call either returns the next frame or throws because some read does not fit. -/
theorem receive_next {frame : XBeeFrame} {frames : List XBeeFrame} (lengths : List Nat) :
    ∀ (reads : List (List UInt8)) (state : PortState), state.reads = reads →
      Pending state (frame :: frames) →
      (∃ next, Returned frame frames lengths state next) ∨
      (∃ message last, receive state = (.error message, last) ∧ ¬ state.Fits frame lengths) := by
  -- The induction is on the reads still to come, since each incomplete pass takes one.
  intro reads
  induction reads with
  | nil =>
    intro state none pending
    by_cases complete : (frame.encode state.escapedApiMode).length ≤ state.receiveBuffer.length
    · exact Or.inl (returned_buffered lengths pending complete)
    · obtain ⟨read, others, some, -⟩ := receive_reads pending (by omega)
      rw [none] at some
      cases some
  | cons first others ih =>
    intro state split pending
    by_cases complete : (frame.encode state.escapedApiMode).length ≤ state.receiveBuffer.length
    · exact Or.inl (returned_buffered lengths pending complete)
    · obtain ⟨read, later, same, continued⟩ := receive_reads pending (by omega)
      rw [split] at same
      obtain ⟨rfl, rfl⟩ := List.cons.inj same
      -- The frame is incomplete before this read, so the bound is on the buffer alone.
      have bound : state.Fits frame lengths ↔
          state.receiveBuffer.length + first.length < maxFrameLength * 2 ∧
            FitsFrom (state.receiveBuffer.length + first.length)
              ((frame.encode state.escapedApiMode).length :: lengths) others := by
        unfold PortState.Fits
        rw [split, fitsFrom_cons, completeBytes, if_neg complete, Nat.zero_add]
      by_cases below : state.receiveBuffer.length + first.length < maxFrameLength * 2
      · rcases ih _ rfl (pending.advanced split below) with ⟨next, returned⟩ | threw
        · refine Or.inl ⟨next, continued.trans returned.result, returned.named, returned.mode,
            returned.pending, ?_⟩
          rw [bound, ← returned.fits]
          simp [below, PortState.Fits]
        · obtain ⟨message, last, result, broken⟩ := threw
          refine Or.inr ⟨message, last, continued.trans result, ?_⟩
          intro fits
          apply broken
          simpa [PortState.Fits] using (bound.mp fits).2
      · refine Or.inr ⟨"XBee frame exceeds receive buffer", { state with
          receiveBuffer := state.receiveBuffer ++ first, reads := others }, ?_, ?_⟩
        · rw [continued, receive, if_neg (by simpa using below)]
        · intro fits
          exact below (bound.mp fits).1

theorem receiveCalls_iff : ∀ (frames : List XBeeFrame) (state : PortState), Pending state frames →
      (((receiveCalls frames.length state).1 = frames.map (fun frame => .ok (true, frame)) ∧
        (receiveCalls frames.length state).2.receiveBuffer = []) ↔
        FitsFrom state.receiveBuffer.length
          (frames.map fun frame => (frame.encode state.escapedApiMode).length) state.reads) := by
  intro frames
  induction frames with
  | nil =>
    intro state pending
    -- Nothing is left to return, so nothing is buffered and no read is to come.
    have whole := pending.whole
    simp only [stream, List.flatMap_nil, List.append_eq_nil_iff] at whole
    have drained : state.reads = [] := by
      apply List.eq_nil_iff_forall_not_mem.mpr
      intro read member
      exact pending.nonempty read member (List.flatten_eq_nil_iff.mp whole.2 read member)
    rw [drained]
    simp [receiveCalls, whole.1, FitsFrom.nil]
  | cons frame frames ih =>
    intro state pending
    rcases receive_next (frames.map fun frame => (frame.encode state.escapedApiMode).length)
      state.reads state rfl pending with ⟨next, returned⟩ | ⟨message, last, threw, broken⟩
    · have later := ih next returned.pending
      rw [returned.mode] at later
      show _ ↔ state.Fits frame _
      rw [returned.fits, ← later]
      simp [receiveCalls, returned.result, returned.named, Except.map]
    · constructor
      · intro calls
        simp [receiveCalls, threw, Except.map] at calls
      · intro fits
        exact absurd fits broken

/-- Bytes past the last complete frame are fewer than one frame. -/
theorem lt_completeBytes_add {bound : Nat} (positive : 0 < bound) :
    ∀ (lengths : List Nat), (∀ length ∈ lengths, length ≤ bound) → ∀ received,
      received ≤ lengths.sum → received < completeBytes lengths received + bound := by
  intro lengths
  induction lengths with
  | nil => intro _ received within; simp at within; simp [completeBytes, within, positive]
  | cons length lengths ih =>
    intro small received within
    simp only [List.sum_cons] at within
    rw [completeBytes]
    split
    · have := ih (fun other member => small other (by simp [member])) (received - length) (by omega)
      omega
    · have := small length (by simp)
      omega

/-- Without escapes a frame is at most half the buffer, so every read fits. -/
theorem readsFit_plain {frames : List XBeeFrame} {reads : List (List UInt8)}
    (cut : CutsStream false frames reads) :
    ReadsFit (frames.map fun frame => (frame.encode false).length) reads := by
  intro earlier read later split
  -- Less than one frame is buffered before a read, and a read adds at most 64 bytes.
  have short : ∀ length ∈ frames.map (fun frame => (frame.encode false).length),
      length ≤ maxFrameLength := by
    intro length member
    obtain ⟨frame, -, rfl⟩ := List.mem_map.mp member
    rw [frame.encode_plain, frame.raw_length]
    exact frame.admitted
  have total : earlier.flatten.length ≤
      (frames.map fun frame => (frame.encode false).length).sum := by
    have whole := congrArg List.length cut.whole
    simp only [split, stream, List.flatten_append, List.length_append, List.length_flatMap] at whole
    omega
  have buffered := lt_completeBytes_add (by decide : 0 < maxFrameLength) _ short _ total
  have chunk := cut.bounded read (by simp [split])
  rw [Nat.zero_add]
  simp only [maxFrameLength] at buffered ⊢
  omega

theorem CutsStream.pending {escaped : Bool} {frames : List XBeeFrame}
    {reads : List (List UInt8)} (cut : CutsStream escaped frames reads) (output : XBeeFrame) :
    Pending (openPort escaped output reads) frames := by
  refine ⟨?_, cut.nonempty, by simp [openPort, maxFrameLength]⟩
  simpa [openPort] using cut.whole

/--
Reassembly is exact in plain mode, and in escaped mode exactly while every read ends
less than two maximum frames after the start of the first frame still incomplete before it.
-/
theorem reassembles_iff_readsFit (escaped : Bool) (output : XBeeFrame) (frames : List XBeeFrame)
    (reads : List (List UInt8)) (cut : CutsStream escaped frames reads) :
    Reassembles escaped output frames reads ↔
      (escaped = true →
        ReadsFit (frames.map fun frame => (frame.encode escaped).length) reads) := by
  have calls := receiveCalls_iff frames _ (cut.pending output)
  unfold Reassembles
  rw [calls]
  show ReadsFit _ reads ↔ _
  cases escaped with
  | true => simp [openPort]
  | false => simpa [openPort] using readsFit_plain cut

theorem escapeBytes_length (bytes : List UInt8) :
    (escapeBytes bytes).length = bytes.length + bytes.countP requiresEscape := by
  induction bytes with
  | nil => rfl
  | cons byte rest ih =>
    by_cases special : requiresEscape byte
    · simp [escapeBytes, special, ih]
      omega
    · simp [escapeBytes, special, ih]
      omega

/-- Reads of the full serial width, and one read for what is left. -/
def cutReads : Nat → List UInt8 → List (List UInt8)
  | 0, wire => [wire]
  | count + 1, wire => wire.take 64 :: cutReads count (wire.drop 64)

theorem cutReads_cut : ∀ (count : Nat) (wire : List UInt8), 64 * count < wire.length →
      wire.length ≤ 64 * (count + 1) →
      (cutReads count wire).flatten = wire ∧
        ∀ read ∈ cutReads count wire, read ≠ [] ∧ read.length ≤ 64 := by
  intro count
  induction count with
  | zero =>
    intro wire some few
    have filled : wire ≠ [] := List.ne_nil_of_length_pos (by omega)
    simp [cutReads, filled]
    omega
  | succ count ih =>
    intro wire some few
    obtain ⟨whole, each⟩ := ih (wire.drop 64) (by simp; omega) (by simp; omega)
    refine ⟨by simp [cutReads, whole], ?_⟩
    intro read member
    rcases List.mem_cons.mp member with same | later
    · subst same
      refine ⟨List.ne_nil_of_length_pos ?_, by simp⟩
      simp
      omega
    · exact each read later

/-- Full-width reads overflow the bound once they reach it within the first frame. -/
theorem not_fitsFrom_cutReads {length : Nat} (lengths : List Nat) :
    ∀ (before count buffered : Nat) (wire : List UInt8),
      buffered + 64 * before < length → maxFrameLength * 2 ≤ buffered + 64 * (before + 1) →
      64 * (before + 1) ≤ wire.length →
      ¬ FitsFrom buffered (length :: lengths) (cutReads (before + count + 1) wire) := by
  -- Each of the first reads leaves the frame incomplete, and the next one reaches the bound.
  intro before
  induction before with
  | zero =>
    intro count buffered wire short reached enough fits
    rw [show 0 + count + 1 = count + 1 by omega, cutReads, fitsFrom_cons] at fits
    have bound := fits.1
    rw [completeBytes, if_neg (by omega)] at bound
    simp only [List.length_take] at bound
    omega
  | succ before ih =>
    intro count buffered wire short reached enough fits
    rw [show before + 1 + count + 1 = before + count + 1 + 1 by omega, cutReads,
      fitsFrom_cons] at fits
    have taken : (wire.take 64).length = 64 := by simp; omega
    rw [taken] at fits
    exact ih count (buffered + 64) (wire.drop 64) (by omega) (by omega) (by simp; omega) fits.2

/-- A full-size payload in which every byte must be escaped. -/
def escapedPayload : XBeeFrame where
  type := 0x08
  data := List.replicate 1019 0x7E
  admitted := by rw [List.length_replicate]; decide

/-- A short frame that follows it on the wire. -/
def shortFollower : XBeeFrame where
  type := 0x08
  data := [0x42]
  admitted := by decide

theorem encode_escaped_length (frame : XBeeFrame) :
    frame.data.length + frame.data.countP requiresEscape + 5 ≤ (frame.encode true).length ∧
      (frame.encode true).length ≤ frame.data.length + frame.data.countP requiresEscape + 9 := by
  rw [frame.encode_escaped]
  simp only [XBeeFrame.body, XBeeFrame.raw, List.cons_append, List.tail_cons, List.nil_append]
  generalize UInt8.ofNat ((frame.data.length + 1) >>> 8) = high
  generalize UInt8.ofNat (frame.data.length + 1) = low
  generalize UInt8.ofNat (0xFF - (byteSum (frame.type :: frame.data) &&& 0xFF)) = checksum
  rw [show high :: low :: frame.type :: (frame.data ++ [checksum]) =
    [high, low, frame.type] ++ (frame.data ++ [checksum]) by rfl]
  have header : [high, low, frame.type].countP requiresEscape ≤ 3 := List.countP_le_length
  have last : [checksum].countP requiresEscape ≤ 1 := List.countP_le_length
  simp only [List.length_cons, escapeBytes_length, List.length_append, List.countP_append,
    List.length_nil]
  omega

/-- The fully escaped payload nearly fills the receive buffer on its own. -/
theorem escapedPayload_length :
    2043 ≤ (escapedPayload.encode true).length ∧ (escapedPayload.encode true).length ≤ 2047 := by
  have size : escapedPayload.data.length = 1019 := List.length_replicate
  have escapes : escapedPayload.data.countP requiresEscape = 1019 := by
    have all : ∀ byte ∈ escapedPayload.data, requiresEscape byte = true := by
      intro byte member
      rw [List.eq_of_mem_replicate member]
      decide
    rw [List.countP_eq_length.mpr all, size]
  have bounds := encode_escaped_length escapedPayload
  omega

/-- The two frames cut into full-width serial reads. -/
def fullReads : List (List UInt8) :=
  cutReads 32 (stream true [escapedPayload, shortFollower])

/-- The stream of the two frames needs thirty-three reads. -/
theorem stream_length : 64 * 32 < (stream true [escapedPayload, shortFollower]).length ∧
      (stream true [escapedPayload, shortFollower]).length ≤ 64 * 33 := by
  have first := escapedPayload_length
  have second : (shortFollower.encode true).length = 6 := by decide
  simp only [stream, List.flatMap_cons, List.flatMap_nil, List.append_nil, List.length_append,
    second]
  omega

/-- The thirty-second read would complete the first frame but takes the buffer to its bound. -/
theorem not_reassembles_fullReads :
    CutsStream true [escapedPayload, shortFollower] fullReads ∧
      ¬ Reassembles true XBeeFrame.default [escapedPayload, shortFollower] fullReads := by
  obtain ⟨some, few⟩ := stream_length
  obtain ⟨whole, each⟩ := cutReads_cut 32 _ some few
  have cut : CutsStream true [escapedPayload, shortFollower] fullReads :=
    ⟨whole, fun read member => (each read member).1, fun read member => (each read member).2⟩
  refine ⟨cut, ?_⟩
  intro reassembled
  have fits := (receiveCalls_iff _ _ (cut.pending XBeeFrame.default)).mp reassembled
  have long := escapedPayload_length.1
  exact not_fitsFrom_cutReads _ 31 0 0 _ (by simp only [openPort]; omega) (by decide)
    (by omega) fits

/-- The theorem applied to two short frames whose stream arrives in one read. -/
theorem reassembles_short_frames :
    CutsStream true [shortFollower, shortFollower] [stream true [shortFollower, shortFollower]] ∧
      (Reassembles true XBeeFrame.default [shortFollower, shortFollower]
        [stream true [shortFollower, shortFollower]] ↔
        (true = true → ReadsFit
          ([shortFollower, shortFollower].map fun frame => (frame.encode true).length)
          [stream true [shortFollower, shortFollower]])) := by
  have cut : CutsStream true [shortFollower, shortFollower]
      [stream true [shortFollower, shortFollower]] := ⟨by simp, by decide, by decide⟩
  exact ⟨cut, reassembles_iff_readsFit _ _ _ _ cut⟩

end PocoDDS.XBee
