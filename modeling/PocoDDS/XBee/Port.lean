import PocoDDS.XBee.FrameLaws

/-! The serial port: reassembly of frames from the reads a channel delivers. -/

namespace PocoDDS.XBee

/-- A port with its receive buffer, the caller's frame variable, and the reads still to come. -/
structure PortState where
  escapedApiMode : Bool
  receiveBuffer : List UInt8
  frame : XBeeFrame
  reads : List (List UInt8)

/-- Opening a port clears its buffer. -/
def openPort (escapedApiMode : Bool) (frame : XBeeFrame) (reads : List (List UInt8)) : PortState :=
  ⟨escapedApiMode, [], frame, reads⟩

/-- One pass of the receive loop: either the call ends, or the loop continues in a new state. -/
inductive Pass
  | ended (outcome : Except String Bool) (state : PortState)
  | again (state : PortState)

/-- A read appends its bytes, or ends the call with a timeout when there are none. -/
def readChunk (state : PortState) : Pass :=
  match state.reads with
  | [] => .ended (.ok false) state
  | [] :: reads => .ended (.ok false) { state with reads }
  | chunk :: reads =>
    .again { state with receiveBuffer := state.receiveBuffer ++ chunk, reads }

/-- The body of the receive loop. -/
def receivePass (state : PortState) : Pass :=
  match XBeeFrame.parse state.frame state.receiveBuffer state.escapedApiMode with
  | .error message => .ended (.error message) state
  | .ok result =>
    let erased := { state with
      receiveBuffer := state.receiveBuffer.drop result.consumed, frame := result.frame }
    match result.status with
    | .ok => .ended (.ok true) erased
    | .badChecksum => .ended (.error "invalid XBee frame checksum") erased
    -- Bytes before a delimiter are dropped, and only then may the loop read again.
    | .notFound => if result.consumed > 0 then .again erased else readChunk state
    | .notEnoughData => if result.consumed > 0 then readChunk erased else readChunk state

theorem parse_notFound_nonempty {frame : XBeeFrame} {bytes : List UInt8} {escaped : Bool}
    {result : ParseResult} (parsed : XBeeFrame.parse frame bytes escaped = .ok result)
    (missing : result.status = .notFound) : bytes ≠ [] := by
  -- An empty buffer is answered with a request for more data.
  rintro rfl
  simp only [XBeeFrame.parse, List.isEmpty_nil, if_true, Except.ok.injEq] at parsed
  subst parsed
  cases missing

/-- The bytes still to be handled: those buffered and those not yet read. -/
def PortState.measure (state : PortState) : Nat × Nat :=
  (state.reads.length, state.receiveBuffer.length)

theorem readChunk_reads {state next : PortState} (continued : readChunk state = .again next) :
    next.reads.length < state.reads.length := by
  unfold readChunk at continued
  split at continued
  · cases continued
  · cases continued
  · rename_i chunk reads nonempty pending
    cases continued
    simp [pending]

/-- Every continued pass either takes a read or shortens the buffer. -/
theorem receivePass_decreases {state next : PortState}
    (continued : receivePass state = .again next) :
    Prod.Lex (· < ·) (· < ·) next.measure state.measure := by
  unfold receivePass at continued
  cases parsed : XBeeFrame.parse state.frame state.receiveBuffer state.escapedApiMode with
  | error message => simp [parsed] at continued
  | ok result =>
    simp only [parsed] at continued
    cases status : result.status with
    | ok => simp [status] at continued
    | badChecksum => simp [status] at continued
    | notFound =>
      simp only [status] at continued
      split at continued
      · rename_i consumed
        cases continued
        have nonempty := parse_notFound_nonempty parsed status
        have := List.length_pos_of_ne_nil nonempty
        apply Prod.Lex.right
        simp only [List.length_drop]
        omega
      · exact Prod.Lex.left _ _ (readChunk_reads continued)
    | notEnoughData =>
      simp only [status] at continued
      split at continued
      · have fewer := readChunk_reads continued
        exact Prod.Lex.left _ _ fewer
      · exact Prod.Lex.left _ _ (readChunk_reads continued)

/-- One receive call: the loop runs while the buffer is below its bound. -/
def receive (state : PortState) : Except String Bool × PortState :=
  if state.receiveBuffer.length < maxFrameLength * 2 then
    match _continued : receivePass state with
    | .ended outcome last => (outcome, last)
    | .again next => receive next
  else (.error "XBee frame exceeds receive buffer", state)
termination_by state.measure
decreasing_by exact receivePass_decreases _continued

/-- Successive receive calls, each recorded with the frame it left in the caller's variable. -/
def receiveCalls : Nat → PortState → List (Except String (Bool × XBeeFrame)) × PortState
  | 0, state => ([], state)
  | count + 1, state =>
    let (outcome, next) := receive state
    let (outcomes, last) := receiveCalls count next
    (outcome.map (·, next.frame) :: outcomes, last)

end PocoDDS.XBee
