import PocoDDS.Lib.Run
import PocoDDS.Protocols.ProtocolService
import PocoDDS.Ros.BridgeClient

/-! When the end of a connection shows, and whose subscriptions are listed. -/

namespace PocoDDS.Ros

open JsonModel Protocols RunLogic BridgeClient BridgeClient

section Specification

/-- A call of the client, with what the transport does in it. -/
inductive Operation
  | connect (handshake : Answer)
  | disconnect (shutdown : Answer)
  | subscribe (topic : String) (options : SubscribeOptions) (id : String) (sending : Answer)
  | unsubscribe (topic id : String) (sending : Answer)
  | unsubscribeAll (sending : String → Answer)
  | receiveMessage (timeout : Int) (attempts : List Attempt)

variable (library : Library)

def BridgeClient.call (client : BridgeClient) (now : Int) : Operation → BridgeClient
  | .connect handshake => (client.connect now handshake).2
  | .disconnect shutdown => (client.disconnect shutdown).2
  | .subscribe topic options id sending => (client.subscribe library now topic options id sending).2
  | .unsubscribe topic id sending => (client.unsubscribe library now topic id sending).2
  | .unsubscribeAll sending => (client.unsubscribeAll library now sending).2
  | .receiveMessage timeout attempts =>
    (client.receiveMessage library now timeout attempts).2.1

/-- How a connection can end. -/
inductive End
  | closeFrame
  | stream
  | exception
  deriving DecidableEq, Repr

/-- The end of the connection that a round of the receive loop meets. -/
def Attempt.end? : Attempt → Option End
  | .timeout => none
  | .frame flags _ pong =>
    if flags &&& opBitmask = opClose then some .closeFrame
    else if flags &&& opBitmask = opPing then
      match pong with
      | .ok () => none
      | .error _ => some .exception
    else none
  | .negative flags => if flags &&& opBitmask = opClose then some .closeFrame else none
  | .ended => some .stream
  | .failed _ => some .exception

def sendingEnd : Answer → Option End
  | .ok () => none
  | .error _ => some .exception

/-- The end of the connection that a call meets; without a connection it meets none. -/
def BridgeClient.meets (client : BridgeClient) (now : Int) : Operation → Option End
  | .connect _ => none
  | .disconnect _ => none
  | .subscribe topic options _ sending =>
    if client.isConnected ∧ topic ≠ "" ∧ 0 ≤ options.throttleRate ∧ 0 ≤ options.queueLength ∧
        0 ≤ options.fragmentSize then sendingEnd sending
    else none
  | .unsubscribe topic _ sending =>
    if client.isConnected ∧ topic ≠ "" then sendingEnd sending else none
  | .unsubscribeAll sending =>
    if client.isConnected then client.subscriptions.findSome? fun entry => sendingEnd (sending entry.1)
    else none
  | .receiveMessage timeout attempts =>
    if client.isConnected then
      let taken := (client.receiveMessage library now timeout attempts).2.2
      (attempts.take taken).findSome? Attempt.end?
    else none

/-- The client with the memory of whether its connection has ended since it was made. -/
structure Observed where
  client : BridgeClient
  lost : Bool := false

/-- A call at a time. -/
structure Step where
  now : Int
  operation : Operation

/-- Whether a call makes a connection. -/
def BridgeClient.opens (client : BridgeClient) : Operation → Bool
  | .connect (.ok ()) => !client.isConnected
  | _ => false

def Observed.step (observed : Observed) (step : Step) : Observed where
  client := observed.client.call library step.now step.operation
  lost := !observed.client.opens step.operation &&
    (observed.lost || (observed.client.meets library step.now step.operation).isSome)

/-- A connection that has ended is seen as such, so that its service opens another, and the
subscriptions are those of the connection. -/
structure Visible (observed : Observed) : Prop where
  disconnected : observed.lost = true → observed.client.isConnected = false
  recovers : observed.lost = true → ∀ {δ : Type} (service : ProtocolService δ) (outcome : OpenOutcome),
    service.protocolOpen = observed.client.isConnected → service.desiredOpen = true →
      (service.recoverIfDesired outcome).1 ≠ .ok false
  subscribed : ∀ connection, observed.client.socket = some connection →
    ∀ entry ∈ observed.client.subscriptions, ∃ topic options,
      .text (makeSubscribeRequest topic entry.1 options) ∈ connection.sent

/-- A call meets no end but a close frame, and makes no connection for subscriptions that were
left from another. -/
def Orderly (observed : Observed) (step : Step) : Prop :=
  (∀ what, observed.client.meets library step.now step.operation = some what →
    what = .closeFrame) ∧
  (observed.client.opens step.operation = true → observed.client.subscriptions = [])

end Specification

section Receiving

variable {client after between : BridgeClient} {connection : Connection}

/-- The client is still connected to the same peer, and lists the same subscriptions. -/
def Continues (client after : BridgeClient) : Prop :=
  ∀ connection, client.socket = some connection → ∃ connection',
    after.socket = some connection' ∧ connection.sent ⊆ connection'.sent ∧
      after.subscriptions = client.subscriptions

theorem Continues.refl (client : BridgeClient) : Continues client client :=
  fun connection connected => ⟨connection, connected, fun _ listed => listed, rfl⟩

theorem Continues.trans (first : Continues client between) (second : Continues between after) :
    Continues client after := by
  intro connection connected
  obtain ⟨connection', connected', grown, same⟩ := first connection connected
  obtain ⟨connection'', connected'', grown', same'⟩ := second connection' connected'
  exact ⟨connection'', connected'', fun _ listed => grown' (grown listed), same'.trans same⟩

/-- Nothing is sent where only the other fields change. -/
theorem Continues.of_same (socket : after.socket = client.socket)
    (subscriptions : after.subscriptions = client.subscriptions) : Continues client after :=
  fun connection connected =>
    ⟨connection, socket.trans connected, fun _ listed => listed, subscriptions⟩

/-- What an end of the connection, or none, means for the client. -/
def EndSeen (client after : BridgeClient) : Option End → Prop
  | none => Continues client after
  | some .closeFrame => after.socket = none
  | some _ => Continues client after

def BridgeClient.Round.state : Round → BridgeClient
  | .ended _ after => after
  | .again after => after

theorem accept_continues (socket : between.socket = client.socket)
    (subscriptions : between.subscriptions = client.subscriptions) :
    Continues client between.accept.state := by
  unfold accept
  split_ifs <;> exact .of_same socket subscriptions

/-- What is met behind other rounds is met from before them. -/
theorem EndSeen.of_continues (first : Continues client between) {what : Option End}
    (seen : EndSeen between after what) : EndSeen client after what := by
  match what, seen with
  | none, later => exact first.trans later
  | some .closeFrame, closed => exact closed
  | some .stream, later => exact first.trans later
  | some .exception, later => exact first.trans later

/-- A part of a message is no end of the connection. -/
theorem receiveFrame_data {flags : UInt8} (open' : flags &&& opBitmask ≠ opClose)
    (silent : flags &&& opBitmask ≠ opPing) (payload : List UInt8) (pong : Answer) :
    Continues client (client.receiveFrame connection flags payload pong).state := by
  unfold receiveFrame
  dsimp only
  rw [if_neg open', if_neg silent]
  split_ifs
  · exact .refl client
  · exact .refl client
  · exact accept_continues rfl rfl
  · exact .refl client
  · exact accept_continues rfl rfl
  · exact .refl client

theorem receiveFrame_end (connected : client.socket = some connection) (flags : UInt8)
    (payload : List UInt8) (pong : Answer) :
    EndSeen client (client.receiveFrame connection flags payload pong).state
      (Attempt.frame flags payload pong).end? ∧
      ((Attempt.frame flags payload pong).end?.isSome → ∃ loopEnd after,
        client.receiveFrame connection flags payload pong = .ended loopEnd after) := by
  by_cases closes : flags &&& opBitmask = opClose
  · unfold receiveFrame Attempt.end?
    simp only [if_pos closes]
    exact ⟨rfl, fun _ => ⟨_, _, rfl⟩⟩
  · by_cases asks : flags &&& opBitmask = opPing
    · unfold receiveFrame Attempt.end?
      simp only [if_neg closes, if_pos asks]
      cases pong with
      | ok =>
        refine ⟨fun connection' same => ?_, by simp⟩
        obtain rfl := Option.some.inj (connected.symm.trans same)
        exact ⟨_, rfl, List.subset_append_left _ _, rfl⟩
      | error message => exact ⟨.refl client, fun _ => ⟨_, _, rfl⟩⟩
    · have calm : (Attempt.frame flags payload pong).end? = none := by
        unfold Attempt.end?
        simp only [if_neg closes, if_neg asks]
      rw [calm]
      exact ⟨receiveFrame_data closes asks payload pong, by simp⟩

/-- The receive loop, by the end of the connection that it meets. -/
theorem receiveLoop_end (connected : client.socket = some connection) (attempts : List Attempt) :
    EndSeen client (client.receiveLoop attempts).2.1
      ((attempts.take (client.receiveLoop attempts).2.2).findSome? Attempt.end?) := by
  induction attempts generalizing client connection with
  | nil => exact .refl client
  | cons attempt rest ih =>
    unfold receiveLoop
    rw [connected]
    cases attempt with
    | timeout => exact .refl client
    | failed message => exact .refl client
    | negative flags =>
      by_cases closes : flags &&& opBitmask = opClose
      · simp only [if_pos closes, List.take_succ_cons, List.take_zero, List.findSome?_cons,
          Attempt.end?]
        rfl
      · simp only [if_neg closes, List.take_succ_cons, List.take_zero, List.findSome?_cons,
          List.findSome?_nil, Attempt.end?]
        exact .refl client
    | ended =>
      -- No bytes without flags are taken for a part of a message.
      have same := @receiveFrame_data client connection 0 (by decide) (by decide) [] (.ok ())
      cases round : client.receiveFrame connection 0 [] (.ok ()) with
      | ended loopEnd after =>
        rw [round] at same
        simp only [round, List.take_succ_cons, List.findSome?_cons, Attempt.end?]
        exact same
      | again after =>
        rw [round] at same
        simp only [round, List.take_succ_cons, List.findSome?_cons, Attempt.end?]
        exact same
    | frame flags payload pong =>
      obtain ⟨seen, ends⟩ := receiveFrame_end connected flags payload pong
      cases round : client.receiveFrame connection flags payload pong with
      | ended loopEnd after =>
        rw [round] at seen
        simp only [round, List.take_succ_cons, List.take_zero, List.findSome?_cons,
          List.findSome?_nil]
        cases met : (Attempt.frame flags payload pong).end? with
        | none => rw [met] at seen; exact seen
        | some what => rw [met] at seen; exact seen
      | again after =>
        rw [round] at seen
        -- The loop goes on only behind a frame that brings no end.
        have calm : (Attempt.frame flags payload pong).end? = none := by
          by_contra met
          obtain ⟨_, _, wrong⟩ := ends (Option.isSome_iff_ne_none.mpr met)
          rw [round] at wrong
          cases wrong
        rw [calm] at seen
        obtain ⟨connection', connected', -, -⟩ := seen connection connected
        have later := ih connected'
        simp only [round, List.take_succ_cons, List.findSome?_cons, calm]
        exact later.of_continues seen

/-- The second half of a call only writes diagnostics. -/
theorem conclude_same (library : Library) (client : BridgeClient) (now : Int) (loopEnd : LoopEnd) :
    (client.conclude library now loopEnd).2.socket = client.socket ∧
      (client.conclude library now loopEnd).2.subscriptions = client.subscriptions := by
  cases loopEnd with
  | timedOut => exact ⟨rfl, rfl⟩
  | peerClosed => exact ⟨rfl, rfl⟩
  | raised message => exact ⟨rfl, rfl⟩
  | complete text =>
    cases parsed : library.parse text with
    | error message => simp [conclude, deliver, parsed]
    | ok value => cases object : value.isObject <;> simp [conclude, deliver, parsed, object]

end Receiving

section Calls

variable {library : Library} {client : BridgeClient} {connection : Connection} {now : Int}

/-- What a call on a connection leaves, by the end that it meets. -/
def CallSeen (client after : BridgeClient) (connection : Connection) : Option End → Prop
  | none => ∀ connection', after.socket = some connection' → connection.sent ⊆ connection'.sent ∧
      ∀ entry ∈ after.subscriptions, entry ∈ client.subscriptions ∨
        ∃ topic options, .text (makeSubscribeRequest topic entry.1 options) ∈ connection'.sent
  | some .closeFrame => after.socket = none
  | some _ => after.isConnected = true

theorem sendText_cases (library : Library) (client : BridgeClient) (now : Int)
    (connection : Connection) (request : Json) (sending : Answer) :
    (sendingEnd sending = none ∧ ∃ record, client.sendText library now connection request sending =
      (.ok (), { client with
        socket := some { connection with sent := connection.sent ++ [.text request] }, record })) ∨
    (sendingEnd sending = some .exception ∧ ∃ message record,
      client.sendText library now connection request sending =
        (.error message, { client with record })) := by
  cases sending with
  | ok => exact .inl ⟨rfl, _, rfl⟩
  | error message => exact .inr ⟨rfl, message, _, rfl⟩

variable (connected : client.socket = some connection)
include connected

theorem receiveMessage_end (timeout : Int) (attempts : List Attempt) :
    CallSeen client (client.call library now (.receiveMessage timeout attempts)) connection
      (client.meets library now (.receiveMessage timeout attempts)) := by
  have online : client.isConnected = true := by simp [isConnected, connected]
  simp only [BridgeClient.call, meets, online, if_true]
  by_cases negative : timeout < 0
  · simp only [receiveMessage, if_pos negative]
    exact fun connection' same => ⟨Option.some.inj (connected.symm.trans same) ▸ fun _ listed => listed,
      fun entry listed => .inl listed⟩
  · have seen := receiveLoop_end connected attempts
    obtain ⟨socket, subscriptions⟩ := conclude_same library (client.receiveLoop attempts).2.1 now
      (client.receiveLoop attempts).1
    simp only [receiveMessage, if_neg negative, connected]
    -- What the loop has met is what the call has met.
    revert seen
    cases (attempts.take (client.receiveLoop attempts).2.2).findSome? Attempt.end? with
    | none =>
      rintro seen connection' same
      obtain ⟨between, connected', grown, kept⟩ := seen connection connected
      rw [socket, connected'] at same
      obtain rfl := Option.some.inj same
      exact ⟨grown, fun entry listed => .inl (kept ▸ subscriptions ▸ listed)⟩
    | some what =>
      intro seen
      cases what with
      | closeFrame => exact socket.trans seen
      | stream =>
        obtain ⟨between, connected', -⟩ := seen connection connected
        simp [CallSeen, isConnected, socket, connected']
      | exception =>
        obtain ⟨between, connected', -⟩ := seen connection connected
        simp [CallSeen, isConnected, socket, connected']

/-- A call that ends before it sends anything. -/
theorem CallSeen.refused : CallSeen client client connection none :=
  fun _ same => ⟨Option.some.inj (connected.symm.trans same) ▸ fun _ listed => listed,
    fun _ listed => .inl listed⟩

theorem subscribe_end (topic id : String) (options : SubscribeOptions) (sending : Answer) :
    CallSeen client (client.call library now (.subscribe topic options id sending)) connection
      (client.meets library now (.subscribe topic options id sending)) := by
  have online : client.isConnected = true := by simp [isConnected, connected]
  simp only [BridgeClient.call, meets, online, true_and]
  -- The arguments are checked in turn before anything is sent.
  by_cases empty : topic = ""
  · simp only [subscribe, empty, ne_eq, not_true_eq_false, false_and, if_false]
    exact .refused connected
  · by_cases invalid : options.throttleRate < 0 ∨ options.queueLength < 0 ∨ options.fragmentSize < 0
    · have unsent : ¬ (topic ≠ "" ∧ 0 ≤ options.throttleRate ∧ 0 ≤ options.queueLength ∧
          0 ≤ options.fragmentSize) := by omega
      simp only [subscribe, if_neg empty, if_pos invalid, if_neg unsent]
      exact .refused connected
    · have sent : topic ≠ "" ∧ 0 ≤ options.throttleRate ∧ 0 ≤ options.queueLength ∧
          0 ≤ options.fragmentSize := by
        refine ⟨empty, ?_⟩
        omega
      simp only [subscribe, if_neg empty, if_neg invalid, if_pos sent, connected]
      rcases sendText_cases library client now connection (makeSubscribeRequest topic id options)
        sending with ⟨calm, record, done⟩ | ⟨met, message, record, done⟩
      · -- The new subscription is listed, and its request is the last that has been sent.
        rw [calm, done]
        rintro connection' same
        obtain rfl := Option.some.inj same
        refine ⟨List.subset_append_left _ _, fun entry listed => ?_⟩
        dsimp only at listed
        split_ifs at listed with known
        · exact .inl listed
        · rcases (List.mem_orderedInsert _).mp listed with rfl | old
          · exact .inr ⟨topic, options, List.mem_append_right _ List.mem_cons_self⟩
          · exact .inl old
      · rw [met, done]
        simp [CallSeen, isConnected, connected]

theorem unsubscribe_end (topic id : String) (sending : Answer) :
    CallSeen client (client.call library now (.unsubscribe topic id sending)) connection
      (client.meets library now (.unsubscribe topic id sending)) := by
  have online : client.isConnected = true := by simp [isConnected, connected]
  simp only [BridgeClient.call, meets, online, true_and]
  by_cases empty : topic = ""
  · simp only [unsubscribe, empty, ne_eq, not_true_eq_false, if_false]
    exact .refused connected
  · rw [if_pos empty]
    simp only [unsubscribe, if_neg empty, connected]
    rcases sendText_cases library client now connection (makeUnsubscribeRequest topic id)
      sending with ⟨calm, record, done⟩ | ⟨met, message, record, done⟩
    -- The request is sent; only with an id is the subscription taken off the list.
    · rw [calm, done]
      dsimp only
      rintro connection' same
      by_cases anonymous : id = ""
      · simp only [if_pos anonymous] at same ⊢
        obtain rfl := Option.some.inj same
        exact ⟨List.subset_append_left _ _, fun entry listed => .inl listed⟩
      · simp only [if_neg anonymous] at same ⊢
        obtain rfl := Option.some.inj same
        exact ⟨List.subset_append_left _ _, fun entry listed => .inl (List.mem_of_mem_filter listed)⟩
    · rw [met, done]
      simp [CallSeen, isConnected, connected]

/-- The loop of `unsubscribeAll` sends all requests, or its sending ends the connection. -/
theorem unsubscribeEach_end (sending : String → Answer) (entries : List (String × String)) :
    ((entries.findSome? fun entry => sendingEnd (sending entry.1)) = none ∧
      (unsubscribeEach library now client sending entries).2.subscriptions = [] ∧
      ∃ connection', (unsubscribeEach library now client sending entries).2.socket =
        some connection' ∧ connection.sent ⊆ connection'.sent) ∨
    ((entries.findSome? fun entry => sendingEnd (sending entry.1)) = some .exception ∧
      (unsubscribeEach library now client sending entries).2.isConnected = true) := by
  -- Each round leaves a connection that has sent one request more, or ends the loop.
  induction entries generalizing client connection with
  | nil => exact .inl ⟨rfl, rfl, connection, connected, fun _ listed => listed⟩
  | cons entry rest ih =>
    obtain ⟨id, topic⟩ := entry
    simp only [unsubscribeEach, connected, List.findSome?_cons]
    rcases sendText_cases library client now connection (makeUnsubscribeRequest topic id)
      (sending id) with ⟨calm, record, done⟩ | ⟨met, message, record, done⟩
    · rw [calm, done]
      refine (ih rfl).imp_left fun ⟨quiet, cleared, connection', same, grown⟩ => ?_
      exact ⟨quiet, cleared, connection', same,
        fun _ listed => grown (List.mem_append_left _ listed)⟩
    · rw [met, done]
      exact .inr ⟨rfl, by simp [isConnected, connected]⟩

theorem unsubscribeAll_end (sending : String → Answer) :
    CallSeen client (client.call library now (.unsubscribeAll sending)) connection
      (client.meets library now (.unsubscribeAll sending)) := by
  have online : client.isConnected = true := by simp [isConnected, connected]
  simp only [BridgeClient.call, meets, online, if_true, unsubscribeAll, connected]
  rcases @unsubscribeEach_end library client connection now connected sending client.subscriptions
    with ⟨calm, cleared, connection', connected', grown⟩ | ⟨met, online'⟩
  · rw [calm]
    rintro connection'' same
    obtain rfl := Option.some.inj (connected'.symm.trans same)
    exact ⟨grown, fun entry listed => by simp [cleared] at listed⟩
  · rw [met]
    exact online'

omit connected

theorem disconnect_end (shutdown : Answer) :
    CallSeen client (client.call library now (.disconnect shutdown)) connection
      (client.meets library now (.disconnect shutdown)) := by
  have closed : (client.disconnect shutdown).2.socket = none := by
    unfold disconnect
    cases client.socket <;> rfl
  intro connection' same
  rw [BridgeClient.call, closed] at same
  cases same

theorem call_end (connected : client.socket = some connection) (operation : Operation) :
    CallSeen client (client.call library now operation) connection
      (client.meets library now operation) := by
  -- On a connection `connect` returns at once, and the other calls have their lemmas.
  cases operation with
  | connect handshake =>
    have unchanged : client.call library now (.connect handshake) = client := by
      simp [BridgeClient.call, connect, connected]
    rw [unchanged]
    exact .refused connected
  | disconnect shutdown => exact disconnect_end shutdown
  | subscribe topic options id sending => exact subscribe_end connected topic id options sending
  | unsubscribe topic id sending => exact unsubscribe_end connected topic id sending
  | unsubscribeAll sending => exact unsubscribeAll_end connected sending
  | receiveMessage timeout attempts => exact receiveMessage_end connected timeout attempts

theorem call_offline (offline : client.socket = none) (operation : Operation) :
    client.meets library now operation = none ∧
      if client.opens operation then (client.call library now operation).socket = some {} ∧
        (client.call library now operation).subscriptions = client.subscriptions
      else (client.call library now operation).socket = none := by
  have closed : client.isConnected = false := by simp [isConnected, offline]
  -- Only `connect` makes a connection; every other call reports that there is none.
  cases operation with
  | connect handshake =>
    cases handshake with
    | ok => simp [meets, opens, BridgeClient.call, connect, offline, closed]
    | error message =>
      simp [meets, opens, BridgeClient.call, connect, offline, BridgeClient.failed]
  | disconnect shutdown =>
    simp [meets, opens, BridgeClient.call, disconnect, offline]
  | subscribe topic options id sending =>
    refine ⟨by simp [meets, closed], ?_⟩
    simp only [opens, BridgeClient.call, subscribe, offline, Bool.false_eq_true, if_false]
    split_ifs <;> exact offline
  | unsubscribe topic id sending =>
    refine ⟨by simp [meets, closed], ?_⟩
    simp only [opens, BridgeClient.call, unsubscribe, offline, Bool.false_eq_true, if_false]
    split_ifs <;> exact offline
  | unsubscribeAll sending =>
    simp [meets, opens, BridgeClient.call, unsubscribeAll, offline, closed]
  | receiveMessage timeout attempts =>
    refine ⟨by simp [meets, closed], ?_⟩
    simp only [opens, BridgeClient.call, receiveMessage, offline, Bool.false_eq_true, if_false]
    split_ifs
    · exact offline
    · exact ((conclude_same library client now _).1).trans offline

end Calls

section Runs

variable {library : Library} {observed : Observed} {step : Step}

theorem Visible.of_disconnected
    (disconnected : observed.lost = true → observed.client.isConnected = false)
    (subscribed : ∀ connection, observed.client.socket = some connection →
      ∀ entry ∈ observed.client.subscriptions, ∃ topic options,
        .text (makeSubscribeRequest topic entry.1 options) ∈ connection.sent) :
    Visible observed := by
  refine ⟨disconnected, fun lost δ service outcome same desired => ?_, subscribed⟩
  have closed : service.protocolOpen = false := same.trans (disconnected lost)
  simp only [ProtocolService.recoverIfDesired, desired, closed, Bool.not_true, Bool.false_eq_true,
    if_false]
  cases outcome with
  | opened stays =>
    intro refused
    cases refused
  | failed message =>
    intro refused
    cases refused

/-- Behind a visible state the orderly steps are those that lead to a visible one. -/
theorem visible_step_iff (visible : Visible observed) :
    Visible (observed.step library step) ↔ Orderly library observed step := by
  cases online : observed.client.socket with
  | none =>
    -- Without a connection only a call that makes one matters.
    obtain ⟨calm, effect⟩ := @call_offline library observed.client step.now online step.operation
    have first : ∀ what,
        observed.client.meets library step.now step.operation = some what → what = .closeFrame := by
      rw [calm]
      nofun
    cases opens : observed.client.opens step.operation with
    | false =>
      rw [opens] at effect
      have closed : (observed.step library step).client.socket = none := effect
      refine iff_of_true (.of_disconnected (fun _ => by simp [isConnected, closed]) ?_)
        ⟨first, by simp [opens]⟩
      intro connection same
      rw [closed] at same
      cases same
    | true =>
      rw [opens] at effect
      obtain ⟨socket, kept⟩ := effect
      have found : (observed.step library step).client.subscriptions =
        observed.client.subscriptions := kept
      constructor
      · rintro ⟨-, -, subscribed⟩
        refine ⟨first, fun _ => List.eq_nil_iff_forall_not_mem.mpr fun entry listed => ?_⟩
        obtain ⟨_, _, sent⟩ := subscribed {} socket entry (found ▸ listed)
        cases sent
      · rintro ⟨-, empty⟩
        refine .of_disconnected (fun lost => ?_) fun connection _ entry listed => ?_
        · simp [Observed.step, opens] at lost
        · rw [found, empty opens] at listed
          cases listed
  | some connection =>
    have seen := @call_end library observed.client connection step.now online step.operation
    have unopened : observed.client.opens step.operation = false := by
      have connected : observed.client.isConnected = true := by simp [isConnected, online]
      cases operation : step.operation with
      | connect handshake => cases handshake <;> simp [BridgeClient.opens, connected]
      | _ => rfl
    -- The connection has not ended before, for otherwise it would not be there.
    have alive : observed.lost = false := by
      by_contra lost
      have wrong := visible.disconnected (by simpa using lost)
      simp [isConnected, online] at wrong
    have lost : (observed.step library step).lost =
        (observed.client.meets library step.now step.operation).isSome := by
      simp [Observed.step, unopened, alive]
    cases met : observed.client.meets library step.now step.operation with
    | none =>
      rw [met] at seen lost
      refine iff_of_true (.of_disconnected (fun wrong => ?_) ?_) ⟨by simp [met], by simp [unopened]⟩
      · rw [lost] at wrong
        cases wrong
      · intro connection' same entry listed
        obtain ⟨grown, known⟩ := seen connection' same
        rcases known entry listed with old | new
        · obtain ⟨topic, options, sent⟩ := visible.subscribed connection online entry old
          exact ⟨topic, options, grown sent⟩
        · exact new
    | some what =>
      rw [met] at seen lost
      cases what with
      | closeFrame =>
        have closed : (observed.step library step).client.socket = none := seen
        refine iff_of_true (.of_disconnected (fun _ => by simp [isConnected, closed]) ?_)
          ⟨by simp [met], by simp [unopened]⟩
        intro connection' same
        rw [closed] at same
        cases same
      | stream =>
        refine iff_of_false (fun shown => ?_) fun orderly => absurd (orderly.1 _ met) (by decide)
        exact absurd (seen.symm.trans (shown.disconnected lost)) (by decide)
      | exception =>
        refine iff_of_false (fun shown => ?_) fun orderly => absurd (orderly.1 _ met) (by decide)
        exact absurd (seen.symm.trans (shown.disconnected lost)) (by decide)

/-- A client that has just been constructed. -/
def Observed.initial (maximumMessageSize : Nat) : Observed := ⟨{ maximumMessageSize }, false⟩

/-- Every state of a run is visible if and only if every call of it is orderly. -/
theorem lost_connection_visible_iff (library : Library) (maximumMessageSize : Nat)
    (steps : List Step) :
    Along (Observed.step library) (fun observed step => Visible (observed.step library step))
      (.initial maximumMessageSize) steps ↔
    Along (Observed.step library) (Orderly library) (.initial maximumMessageSize) steps := by
  refine @Along.congr _ _ (Observed.step library) _ _ Visible
    (fun _ _ visible orderly => (visible_step_iff visible).mpr orderly)
    (fun _ _ visible => visible_step_iff visible) _ ?_ steps
  exact .of_disconnected nofun nofun

/-- A connection whose stream ends. -/
def endedRun : List Step :=
  [⟨0, .connect (.ok ())⟩, ⟨1, .receiveMessage 5 [.ended]⟩]

/-- A close frame, after which the client connects again. -/
def reconnectedRun : List Step :=
  [⟨0, .connect (.ok ())⟩, ⟨1, .subscribe "/scan" {} "id-1" (.ok ())⟩,
    ⟨2, .receiveMessage 5 [.frame 0x88 [] (.ok ())]⟩, ⟨3, .connect (.ok ())⟩]

def emptyLibrary : Library := ⟨fun _ => [], fun _ => .error "no text"⟩

/-- What a run leaves of a client. -/
def lastOf (steps : List Step) : Observed :=
  steps.foldl (Observed.step emptyLibrary) (.initial 100)

/-- The client stays connected to a stream that has ended, and lists a subscription that its new
connection has never been asked for. -/
theorem ended_stream_stays_connected :
    (lastOf endedRun).lost = true ∧ (lastOf endedRun).client.isConnected = true ∧
    (lastOf reconnectedRun).client.socket = some {} ∧
    (lastOf reconnectedRun).client.subscriptions = [("id-1", "/scan")] ∧
    ¬ Along (Observed.step emptyLibrary)
      (fun observed step => Visible (observed.step emptyLibrary step)) (.initial 100) endedRun := by
  have lost : (lastOf endedRun).lost = true := by decide +kernel
  have online : (lastOf endedRun).client.isConnected = true := by decide +kernel
  refine ⟨lost, online, ?_, ?_, fun along => ?_⟩
  · rfl
  · rfl
  · obtain ⟨-, visible, -⟩ := along
    have offline := visible.disconnected lost
    exact absurd (online.symm.trans offline) (by decide)

end Runs

end PocoDDS.Ros
