import PocoDDS.Ros.BridgeClient

/-! The messages that are put together from the frames of a connection, however they are cut. -/

namespace PocoDDS.Ros

open JsonModel

/-- A frame that the bridge sends. -/
inductive PeerFrame
  | text (last : Bool) (payload : List UInt8)
  | continuation (last : Bool) (payload : List UInt8)
  | ping (payload : List UInt8)
  | pong (payload : List UInt8)

/-- A frame as it is received; every pong can be sent. -/
def PeerFrame.attempt : PeerFrame → Attempt
  | .text last payload => .frame (if last then 0x81 else 0x01) payload (.ok ())
  | .continuation last payload => .frame (if last then 0x80 else 0x00) payload (.ok ())
  | .ping payload => .frame 0x89 payload (.ok ())
  | .pong payload => .frame 0x8A payload (.ok ())

/-- The frames carry these texts, when so much of the first has been sent before. -/
inductive Carries : Option (List UInt8) → List PeerFrame → List (List UInt8) → Prop
  | nothing : Carries none [] []
  | ping {part frames texts} (payload : List UInt8) :
      Carries part frames texts → Carries part (.ping payload :: frames) texts
  | pong {part frames texts} (payload : List UInt8) :
      Carries part frames texts → Carries part (.pong payload :: frames) texts
  | whole {frames texts} (payload : List UInt8) :
      Carries none frames texts → Carries none (.text true payload :: frames) (payload :: texts)
  | first {frames texts} (payload : List UInt8) :
      Carries (some payload) frames texts → Carries none (.text false payload :: frames) texts
  | next {front frames texts} (payload : List UInt8) :
      Carries (some (front ++ payload)) frames texts →
        Carries (some front) (.continuation false payload :: frames) texts
  | last {front frames texts} (payload : List UInt8) :
      Carries none frames texts →
        Carries (some front) (.continuation true payload :: frames) ((front ++ payload) :: texts)

/-- Whether a message is open behind a frame, if one was before it. -/
def PeerFrame.opens (before : Bool) : PeerFrame → Bool
  | .text last _ => !last
  | .continuation last _ => !last
  | _ => before

/-- Whether a frame is the last of its message. -/
def PeerFrame.finishes : PeerFrame → Bool
  | .text last _ => last
  | .continuation last _ => last
  | _ => false

/-- The pongs that answer frames. -/
def pongs (frames : List PeerFrame) : List Sent :=
  frames.filterMap fun
    | .ping payload => some (.pong payload)
    | _ => none

/-- A call of `receiveMessage`: its timeout, and how many frames can be read before that. -/
structure Call where
  now : Int
  timeout : Nat
  readable : Nat

def receiveCall (library : Library) (client : BridgeClient) (frames : List PeerFrame) (call : Call) :
    BridgeClient.Outcome × BridgeClient × List PeerFrame :=
  let (outcome, after, taken) := client.receiveMessage library call.now call.timeout
    ((frames.take call.readable).map PeerFrame.attempt)
  (outcome, after, frames.drop taken)

def receiveCalls (library : Library) (client : BridgeClient) (frames : List PeerFrame) :
    List Call → List BridgeClient.Outcome × BridgeClient × List PeerFrame
  | [] => ([], client, frames)
  | call :: calls =>
    let (outcome, after, unread) := receiveCall library client frames call
    let (outcomes, last, rest) := receiveCalls library after unread calls
    (outcome :: outcomes, last, rest)

def BridgeClient.Outcome.value? : BridgeClient.Outcome → Option Json
  | .object value => some value
  | _ => none

/-- What the calls have made of the frames they have read: the objects that are finished, the pongs,
and whether a message is open. -/
structure Reassembled (expected : List Json) (read : List PeerFrame)
    (outcomes : List BridgeClient.Outcome) (after : BridgeClient) : Prop where
  calm : ∀ message, .error message ∉ outcomes
  objects : outcomes.filterMap (·.value?) = expected.take (read.countP PeerFrame.finishes)
  answered : after.socket = some ⟨pongs read⟩
  started : after.receivingTextFragments = read.foldl PeerFrame.opens false

section Rounds

variable {client : BridgeClient} {connection : Connection} {payload : List UInt8}

theorem receiveFrame_ping : client.receiveFrame connection 0x89 payload (.ok ()) =
    .again { client with
      socket := some { connection with sent := connection.sent ++ [.pong payload] } } := rfl

theorem receiveFrame_pong :
    client.receiveFrame connection 0x8A payload (.ok ()) = .again client := rfl

/-- A text frame starts a message, which it may finish as well. -/
theorem receiveFrame_text (idle : client.receivingTextFragments = false) (last : Bool) :
    client.receiveFrame connection (if last then 0x81 else 0x01) payload (.ok ()) =
      BridgeClient.accept { client with
        receiveBuffer := payload, receivingTextFragments := !last } := by
  -- The flag is known, so that the branch of the frame can be computed.
  obtain ⟨_, _, _, started, _, _, _⟩ := client
  subst idle
  cases last <;> rfl

theorem receiveFrame_continuation (started : client.receivingTextFragments = true) (last : Bool) :
    client.receiveFrame connection (if last then 0x80 else 0x00) payload (.ok ()) =
      BridgeClient.accept { client with
        receiveBuffer := client.receiveBuffer ++ payload, receivingTextFragments := !last } := by
  obtain ⟨_, _, _, flag, _, _, _⟩ := client
  subst started
  cases last <;> rfl

/-- A part of a message that fits is kept until its last frame. -/
theorem BridgeClient.accept_eq (fits : client.receiveBuffer.length ≤ client.maximumMessageSize) :
    client.accept = if client.receivingTextFragments then .again client
      else .ended (.complete client.receiveBuffer) { client with receiveBuffer := [] } :=
  if_neg (Nat.not_lt.mpr fits)

end Rounds

section Loop

variable {library : Library}

/-- The client holds so much of the message that the connection is sending. -/
def Holds (client : BridgeClient) (connection : Connection) : Option (List UInt8) → Prop
  | none => client.socket = some connection ∧ client.receivingTextFragments = false
  | some front => client.socket = some connection ∧ client.receivingTextFragments = true ∧
      client.receiveBuffer = front

theorem Holds.connected {client : BridgeClient} {connection : Connection}
    {part : Option (List UInt8)} (holds : Holds client connection part) :
    client.socket = some connection := by
  cases part with
  | none => exact holds.1
  | some front => exact holds.1

theorem Holds.started {client : BridgeClient} {connection : Connection}
    {part : Option (List UInt8)} (holds : Holds client connection part) :
    client.receivingTextFragments = part.isSome := by
  cases part with
  | none => exact holds.2
  | some front => exact holds.2.1

/-- What has been sent of a message stands at the start of its text. -/
theorem Carries.front {front : List UInt8} {frames : List PeerFrame} {texts : List (List UInt8)}
    (carried : Carries (some front) frames texts) :
    ∃ behind later, texts = (front ++ behind) :: later := by
  -- The part that is open is fixed, so that only the frames within a message remain.
  generalize shape : some front = part at carried
  induction carried generalizing front with
  | nothing => cases shape
  | ping payload _ ih => exact ih shape
  | pong payload _ ih => exact ih shape
  | whole payload _ ih => cases shape
  | first payload _ ih => cases shape
  | next payload _ ih =>
    cases shape
    obtain ⟨behind, later, rfl⟩ := ih rfl
    exact ⟨payload ++ behind, later, by rw [List.append_assoc]⟩
  | last payload _ ih =>
    cases shape
    exact ⟨payload, _, rfl⟩

/-- Without frames there is nothing to finish. -/
theorem Carries.of_nil {part : Option (List UInt8)} {texts : List (List UInt8)}
    (carried : Carries part [] texts) : texts = [] := by
  cases carried
  rfl

/-- The state of a loop that has read frames of a connection. -/
structure LoopRead (client after : BridgeClient) (connection : Connection) (read : List PeerFrame)
    (part : Option (List UInt8)) : Prop where
  holds : Holds after ⟨connection.sent ++ pongs read⟩ part
  maximum : after.maximumMessageSize = client.maximumMessageSize
  started : part.isSome = read.foldl PeerFrame.opens client.receivingTextFragments

/-- The loop reads until a message is complete, or no more frames can be read. -/
def LoopSpec (client : BridgeClient) (connection : Connection) (frames : List PeerFrame)
    (texts : List (List UInt8)) (readable : Nat) : Prop :=
  ∃ loopEnd after taken,
    client.receiveLoop ((frames.take readable).map PeerFrame.attempt) = (loopEnd, after, taken) ∧
    ((loopEnd = .timedOut ∧ taken = min readable frames.length ∧
        (frames.take taken).countP PeerFrame.finishes = 0 ∧
        ∃ part, LoopRead client after connection (frames.take taken) part ∧
          Carries part (frames.drop taken) texts) ∨
      ∃ text later, texts = text :: later ∧ loopEnd = .complete text ∧
        (frames.take taken).countP PeerFrame.finishes = 1 ∧
        LoopRead client after connection (frames.take taken) none ∧
        Carries none (frames.drop taken) later)

section Round

variable {client after : BridgeClient} {connection : Connection} {frame : PeerFrame}
  {frames : List PeerFrame} {texts : List (List UInt8)} {flags : UInt8} {payload : List UInt8}

theorem LoopSpec.again {readable : Nat} (connected : client.socket = some connection)
    (shape : frame.attempt = .frame flags payload (.ok ()))
    (round : client.receiveFrame connection flags payload (.ok ()) = .again after)
    (unfinished : frame.finishes = false)
    (maximum : after.maximumMessageSize = client.maximumMessageSize)
    (started : after.receivingTextFragments = frame.opens client.receivingTextFragments)
    (rest : LoopSpec after ⟨connection.sent ++ pongs [frame]⟩ frames texts readable) :
    LoopSpec client connection (frame :: frames) texts (readable + 1) := by
  obtain ⟨loopEnd, last, taken, loop, result⟩ := rest
  -- The state behind the frame is that of the whole once the frame is counted in.
  have extend : ∀ {part}, LoopRead after last ⟨connection.sent ++ pongs [frame]⟩
      (frames.take taken) part →
      LoopRead client last connection ((frame :: frames).take (taken + 1)) part := by
    rintro part ⟨holds, maximum', started'⟩
    refine ⟨?_, maximum'.trans maximum, ?_⟩
    · rw [List.append_assoc, pongs, pongs, ← List.filterMap_append] at holds
      exact holds
    · rw [started', started]
      rfl
  refine ⟨loopEnd, last, taken + 1, ?_, ?_⟩
  · rw [List.take_succ_cons, List.map_cons, shape, BridgeClient.receiveLoop, connected]
    simp only [round, loop]
  · rcases result with ⟨ends, count, none, part, read, carried⟩ |
      ⟨text, later, same, ends, one, read, carried⟩
    · refine .inl ⟨ends, by simp [count, Nat.succ_min_succ], ?_, part, extend read, carried⟩
      rw [List.take_succ_cons, List.countP_cons_of_neg (by simp [unfinished])]
      exact none
    · refine .inr ⟨text, later, same, ends, ?_, extend read, carried⟩
      rw [List.take_succ_cons, List.countP_cons_of_neg (by simp [unfinished])]
      exact one

theorem LoopSpec.complete {readable : Nat} {text : List UInt8} {later : List (List UInt8)}
    (connected : client.socket = some connection)
    (shape : frame.attempt = .frame flags payload (.ok ()))
    (round : client.receiveFrame connection flags payload (.ok ()) = .ended (.complete text) after)
    (finishes : frame.finishes = true) (silent : pongs [frame] = [])
    (maximum : after.maximumMessageSize = client.maximumMessageSize)
    (connected' : after.socket = some connection) (idle : after.receivingTextFragments = false)
    (closes : frame.opens client.receivingTextFragments = false)
    (carried : Carries none frames later) :
    LoopSpec client connection (frame :: frames) (text :: later) (readable + 1) := by
  -- One frame is taken, and the message ends with it.
  refine ⟨.complete text, after, 1, ?_, .inr ⟨text, later, rfl, rfl, ?_, ⟨?_, maximum, ?_⟩, carried⟩⟩
  · rw [List.take_succ_cons, List.map_cons, shape, BridgeClient.receiveLoop, connected]
    simp only [round]
  · simp [finishes]
  · exact ⟨by simpa [silent] using connected', idle⟩
  · exact closes.symm

end Round

theorem LoopSpec.idle {client : BridgeClient} {connection : Connection}
    {part : Option (List UInt8)} {frames : List PeerFrame} {texts : List (List UInt8)}
    {readable : Nat} (carried : Carries part frames texts) (holds : Holds client connection part)
    (none : min readable frames.length = 0) :
    LoopSpec client connection frames texts readable := by
  have empty : frames.take readable = [] := by
    rcases Nat.min_eq_zero_iff.mp none with zero | past
    · rw [zero, List.take_zero]
    · rw [List.length_eq_zero_iff.mp past, List.take_nil]
  refine ⟨.timedOut, client, 0, ?_, .inl ⟨rfl, none.symm, by simp, part, ⟨?_, rfl, ?_⟩, carried⟩⟩
  · rw [empty, List.map_nil, BridgeClient.receiveLoop]
  · simpa [pongs] using holds
  · exact holds.started.symm

/-- What the loop makes of the frames of a connection. -/
theorem receiveLoop_spec {client : BridgeClient} {connection : Connection}
    {part : Option (List UInt8)} {frames : List PeerFrame} {texts : List (List UInt8)}
    (carried : Carries part frames texts) (holds : Holds client connection part)
    (small : ∀ text ∈ texts, text.length ≤ client.maximumMessageSize) (readable : Nat) :
    LoopSpec client connection frames texts readable := by
  induction readable generalizing client connection part frames texts with
  | zero => exact .idle carried holds (Nat.zero_min _)
  | succ readable ih =>
    have connected := holds.connected
    have started := holds.started
    -- One round per kind of frame; the induction takes up behind it.
    cases carried with
    | nothing => exact .idle .nothing holds (Nat.min_zero _)
    | ping payload carried =>
      refine .again connected rfl receiveFrame_ping rfl rfl rfl (ih carried ?_ small)
      cases part with
      | none => exact ⟨rfl, holds.2⟩
      | some front => exact ⟨rfl, holds.2⟩
    | pong payload carried =>
      have same : pongs [.pong payload] = [] := rfl
      refine .again connected rfl receiveFrame_pong rfl rfl rfl ?_
      rw [same, List.append_nil]
      exact ih carried holds small
    | whole payload carried =>
      have fits := small payload List.mem_cons_self
      have round := @receiveFrame_text client connection payload started true
      rw [BridgeClient.accept_eq fits] at round
      exact .complete connected rfl round rfl rfl rfl connected rfl rfl carried
    | first payload carried =>
      obtain ⟨behind, later, rfl⟩ := carried.front
      have fits : payload.length ≤ client.maximumMessageSize := by
        have whole := small _ List.mem_cons_self
        rw [List.length_append] at whole
        omega
      have round := @receiveFrame_text client connection payload started false
      rw [BridgeClient.accept_eq fits] at round
      refine .again connected rfl round rfl rfl rfl (ih carried ?_ small)
      exact ⟨by simpa [pongs] using connected, rfl, rfl⟩
    | next payload carried =>
      obtain ⟨behind, later, rfl⟩ := carried.front
      have fits : (client.receiveBuffer ++ payload).length ≤ client.maximumMessageSize := by
        have whole := small _ List.mem_cons_self
        rw [List.length_append] at whole
        rw [holds.2.2]
        omega
      have round :=
        @receiveFrame_continuation client connection payload started false
      rw [BridgeClient.accept_eq fits] at round
      refine .again connected rfl round rfl rfl rfl (ih carried ?_ small)
      exact ⟨by simpa [pongs] using connected, rfl, congrArg (· ++ payload) holds.2.2⟩
    | last payload carried =>
      -- What the buffer holds is the text up to its last part.
      have fits : (client.receiveBuffer ++ payload).length ≤ client.maximumMessageSize := by
        rw [holds.2.2]
        exact small _ List.mem_cons_self
      have round :=
        @receiveFrame_continuation client connection payload started true
      rw [BridgeClient.accept_eq fits] at round
      rw [← holds.2.2]
      exact .complete connected rfl round rfl rfl rfl connected rfl rfl carried

end Loop

section Calls

variable {library : Library} {client : BridgeClient} {connection : Connection}
  {part : Option (List UInt8)} {frames : List PeerFrame}
  {messages : List (List UInt8 × List (String × Json))}

theorem LoopRead.append {between after : BridgeClient} {read more : List PeerFrame}
    {part' : Option (List UInt8)} (first : LoopRead client between connection read part)
    (second : LoopRead between after ⟨connection.sent ++ pongs read⟩ more part') :
    LoopRead client after connection (read ++ more) part' := by
  refine ⟨?_, second.maximum.trans first.maximum, ?_⟩
  · rw [pongs, List.filterMap_append, ← List.append_assoc]
    exact second.holds
  · rw [second.started, first.holds.started, first.started, List.foldl_append]

theorem LoopRead.recorded {after : BridgeClient} {read : List PeerFrame}
    (done : LoopRead client after connection read part) (record : Protocols.ProtocolRecord) :
    LoopRead client { after with record } connection read part := by
  obtain ⟨holds, maximum, started⟩ := done
  refine ⟨?_, maximum, started⟩
  cases part with
  | none => exact holds
  | some front => exact holds

theorem deliver_object {text : List UInt8} {members : List (String × Json)}
    (parsed : library.parse text = .ok (.obj members)) (now : Int) :
    ∃ record, client.deliver library now text = (.object (.obj members), { client with record }) := by
  rw [BridgeClient.deliver, parsed]
  exact ⟨_, rfl⟩

theorem receiveCall_spec (carried : Carries part frames (messages.map (·.1)))
    (holds : Holds client connection part)
    (objects : ∀ message ∈ messages, library.parse message.1 = .ok (.obj message.2))
    (small : ∀ message ∈ messages, message.1.length ≤ client.maximumMessageSize) (call : Call) :
    ∃ read unread outcome after part' later,
      receiveCall library client frames call = (outcome, after, unread) ∧
      frames = read ++ unread ∧ LoopRead client after connection read part' ∧
      Carries part' unread (later.map Prod.fst) ∧
      ((outcome = .null ∧ messages = later ∧ read.countP PeerFrame.finishes = 0 ∧
          read.length = min call.readable frames.length) ∨
        ∃ message, outcome = .object (.obj message.2) ∧ messages = message :: later ∧
          read.countP PeerFrame.finishes = 1) := by
  have small' : ∀ text ∈ messages.map (·.1), text.length ≤ client.maximumMessageSize := by
    simpa using fun text members listed => small (text, members) listed
  obtain ⟨loopEnd, after, taken, loop, result⟩ :=
    receiveLoop_spec carried holds small' call.readable
  have start : receiveCall library client frames call =
      ((after.conclude library call.now loopEnd).1, (after.conclude library call.now loopEnd).2,
        frames.drop taken) := by
    rw [receiveCall, BridgeClient.receiveMessage, if_neg (by simp), holds.connected]
    simp only [loop]
  have parts : frames = frames.take taken ++ frames.drop taken := (List.take_append_drop ..).symm
  rcases result with ⟨rfl, count, none, part', read, carried'⟩ |
    ⟨text, later, same, rfl, one, read, carried'⟩
  · exact ⟨_, _, _, _, part', messages, start, parts, read.recorded _, carried',
      .inl ⟨rfl, rfl, none, by simp [count]⟩⟩
  · -- The complete text is that of the next message.
    cases messages with
    | nil => cases same
    | cons message messages =>
      obtain ⟨rfl, rfl⟩ := List.cons.inj same
      obtain ⟨record, delivered⟩ :=
        @deliver_object library after _ _ (objects message List.mem_cons_self) call.now
      rw [BridgeClient.conclude, delivered] at start
      exact ⟨_, _, _, _, none, messages, start, parts, read.recorded record, carried',
        .inr ⟨message, rfl, rfl, one⟩⟩

/-- What calls make of the frames. -/
theorem receiveCalls_spec (carried : Carries part frames (messages.map (·.1)))
    (holds : Holds client connection part)
    (objects : ∀ message ∈ messages, library.parse message.1 = .ok (.obj message.2))
    (small : ∀ message ∈ messages, message.1.length ≤ client.maximumMessageSize)
    (calls : List Call) :
    ∃ read unread outcomes after part' later,
      receiveCalls library client frames calls = (outcomes, after, unread) ∧
      frames = read ++ unread ∧ LoopRead client after connection read part' ∧
      Carries part' unread (later.map Prod.fst) ∧
      (∀ message, .error message ∉ outcomes) ∧
      messages.length = read.countP PeerFrame.finishes + later.length ∧
      outcomes.filterMap (·.value?) ++ later.map (.obj ·.2) = messages.map (.obj ·.2) ∧
      ((∀ call ∈ calls, frames.length ≤ call.readable) → messages.length ≤ calls.length →
        later = []) := by
  induction calls generalizing client connection part frames messages with
  | nil =>
    refine ⟨[], frames, [], client, part, messages, rfl, rfl, ⟨?_, rfl, holds.started.symm⟩, carried,
      by simp, by simp, by simp, fun _ few => ?_⟩
    · simpa [pongs] using holds
    · exact List.length_eq_zero_iff.mp (Nat.le_zero.mp few)
  | cons call calls ih =>
    obtain ⟨read, unread, outcome, between, part', next, one, rfl, first, carried', returned⟩ :=
      receiveCall_spec carried holds objects small call
    -- What the call leaves of the messages is a part of them.
    have left : ∀ message ∈ next, message ∈ messages := by
      rcases returned with ⟨-, rfl, -⟩ | ⟨message, -, rfl, -⟩
      · exact fun _ listed => listed
      · exact fun _ listed => List.mem_cons_of_mem _ listed
    obtain ⟨more, rest, outcomes, after, part'', later, others, rfl, second, carried'', calm, count,
        values, patient⟩ :=
      ih carried' first.holds (fun message listed => objects message (left message listed))
        fun message listed => first.maximum ▸ small message (left message listed)
    have both : receiveCalls library client (read ++ (more ++ rest)) (call :: calls) =
        (outcome :: outcomes, after, rest) := by
      rw [receiveCalls, one]
      simp only [others]
    refine ⟨read ++ more, rest, outcome :: outcomes, after, part'', later, both,
      (List.append_assoc ..).symm, first.append second, carried'', ?_⟩
    rw [List.countP_append]
    have shorter : (more ++ rest).length ≤ (read ++ (more ++ rest)).length := by simp
    have others' : (∀ each ∈ call :: calls, (read ++ (more ++ rest)).length ≤ each.readable) →
        ∀ each ∈ calls, (more ++ rest).length ≤ each.readable :=
      fun all each listed => shorter.trans (all each (List.mem_cons_of_mem _ listed))
    rcases returned with ⟨rfl, rfl, none, all⟩ | ⟨message, rfl, rfl, finished⟩
    · refine ⟨by simpa using calm, by omega, values, fun enough few => ?_⟩
      -- A call that could have read all of the frames has left nothing to read.
      have whole := enough call List.mem_cons_self
      rw [Nat.min_eq_right whole, List.length_append] at all
      have empty : more ++ rest = [] := List.length_eq_zero_iff.mp (by omega)
      rw [empty] at carried'
      have done : messages = [] := by simpa using carried'.of_nil
      exact patient (others' enough) (by simp [done])
    · refine ⟨by simpa using calm, ?_, ?_, fun enough few => ?_⟩
      · rw [List.length_cons]
        omega
      · rw [List.filterMap_cons, List.map_cons, ← values]
        rfl
      · exact patient (others' enough) (by simpa using few)

end Calls

/-- The calls on a connection return its messages in order, and stay in step with its frames. -/
theorem reassembly_exact (library : Library) (messages : List (List UInt8 × List (String × Json)))
    (frames : List PeerFrame) (client : BridgeClient) (now : Int) (closed : client.socket = none)
    (carried : Carries none frames (messages.map (·.1)))
    (objects : ∀ message ∈ messages, library.parse message.1 = .ok (.obj message.2))
    (small : ∀ message ∈ messages, message.1.length ≤ client.maximumMessageSize)
    (calls : List Call) :
    let expected := messages.map fun message => Json.obj message.2
    let connected := (client.connect now (.ok ())).2
    let (outcomes, after, unread) := receiveCalls library connected frames calls
    (∃ read, frames = read ++ unread ∧ Reassembled expected read outcomes after) ∧
    (unread = [] → outcomes.filterMap (·.value?) = expected) ∧
    ((∀ call ∈ calls, frames.length ≤ call.readable) → messages.length ≤ calls.length →
      outcomes.filterMap (·.value?) = expected) := by
  have shape : (client.connect now (.ok ())).2 = { client with
      socket := some {}, receiveBuffer := [], receivingTextFragments := false
      record := client.record.succeeded } := by
    rw [BridgeClient.connect, closed]
  have holds : Holds (client.connect now (.ok ())).2 {} none := by
    rw [shape]
    exact ⟨rfl, rfl⟩
  have room : (client.connect now (.ok ())).2.maximumMessageSize = client.maximumMessageSize := by
    rw [shape]
  have idle : (client.connect now (.ok ())).2.receivingTextFragments = false := holds.2
  obtain ⟨read, unread, outcomes, after, part, later, run, split, loop, carried', calm, count, values,
      patient⟩ := receiveCalls_spec carried holds objects
    (fun message listed => room ▸ small message listed) calls
  -- As many objects have been returned as messages are finished in what has been read.
  have returned : (outcomes.filterMap (·.value?)).length = read.countP PeerFrame.finishes := by
    have lengths := congrArg List.length values
    simp only [List.length_append, List.length_map] at lengths
    omega
  have all : later = [] → outcomes.filterMap (·.value?) =
      messages.map fun message => Json.obj message.2 := by
    rintro rfl
    simpa using values
  dsimp only
  rw [run]
  refine ⟨⟨read, split, calm, ?_, ?_, ?_⟩, fun done => ?_, fun enough few => ?_⟩
  · rw [← values, ← returned, List.take_left]
  · simpa using loop.holds.connected
  · rw [loop.holds.started, loop.started, idle]
  · have none : unread = [] := done
    rw [none] at carried'
    exact all (by simpa using carried'.of_nil)
  · exact all (patient enough few)

/-- A library that knows one text. -/
def sampleLibrary : Library where
  stringify _ := []
  parse text := if text = [123, 125] then .ok (.obj []) else .error "no object"

/-- A message in two parts, with a ping in between, read by three calls. -/
theorem reassembly_exact_sample :
    let frames := [.text false [123], .ping [7], .continuation true [125]]
    let connected := (BridgeClient.connect { maximumMessageSize := 2 } 0 (.ok ())).2
    let (outcomes, after, _) := receiveCalls sampleLibrary connected frames
      [⟨0, 5, 1⟩, ⟨1, 5, 0⟩, ⟨2, 5, 2⟩]
    ∃ read, frames = read ++ [] ∧ Reassembled [.obj []] read outcomes after := by
  have carried : Carries none [.text false [123], .ping [7], .continuation true [125]]
      ([([123, 125], [])].map (·.1 : List UInt8 × List (String × Json) → List UInt8)) :=
    .first _ (.ping _ (.last _ .nothing))
  have exactly := reassembly_exact sampleLibrary [([123, 125], [])] _ { maximumMessageSize := 2 } 0 rfl
    carried (by simp [sampleLibrary]) (by simp) [⟨0, 5, 1⟩, ⟨1, 5, 0⟩, ⟨2, 5, 2⟩]
  exact exactly.1

end PocoDDS.Ros
