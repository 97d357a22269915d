import PocoDDS.Lib.Json
import PocoDDS.Reliability.Diagnostics

/-! The client of a ROS bridge: its connection, its subscriptions, and the messages it puts together. -/

namespace PocoDDS.Ros

open JsonModel Protocols

structure SubscribeOptions where
  type : String := ""
  throttleRate : Int := 0
  queueLength : Int := 0
  fragmentSize : Int := 0
  compression : String := ""

/-- The texts of JSON values, as the library writes and reads them. -/
structure Library where
  stringify : Json → List UInt8
  parse : List UInt8 → Except String Json

/-- What has been sent on a connection. -/
inductive Sent
  | text (request : Json)
  | pong (payload : List UInt8)

/-- A WebSocket, with what has been sent on it. -/
structure Connection where
  sent : List Sent := []

/-- The client. A handler is given by whether it throws for a message. -/
structure BridgeClient where
  maximumMessageSize : Nat
  socket : Option Connection := none
  receiveBuffer : List UInt8 := []
  receivingTextFragments : Bool := false
  subscriptions : List (String × String) := []
  handler : Option (Json → Bool) := none
  record : ProtocolRecord := {}

/-- What the transport answers to a call: nothing, or the text of an exception. -/
abbrev Answer := Except String Unit

/-- What one round of the receive loop meets. -/
inductive Attempt
  /-- The deadline has passed, or nothing can be read. -/
  | timeout
  /-- A frame, with the answer to the pong, should one be sent. -/
  | frame (flags : UInt8) (payload : List UInt8) (pong : Answer)
  | negative (flags : UInt8)
  /-- The end of the stream, which is reported as no bytes without flags. -/
  | ended
  | failed (message : String)

def frameFin : UInt8 := 0x80
def opBitmask : UInt8 := 0x0F
def opCont : UInt8 := 0x00
def opText : UInt8 := 0x01
def opClose : UInt8 := 0x08
def opPing : UInt8 := 0x09
def opPong : UInt8 := 0x0A

def makeSubscribeRequest (topic id : String) (options : SubscribeOptions) : Json :=
  .obj (([("op", .str "subscribe"), ("topic", .str topic), ("id", .str id)] : List (String × Json)) ++
    (if options.type = "" then [] else [("type", .str options.type)]) ++
    (if options.throttleRate = 0 then [] else [("throttle_rate", .num options.throttleRate)]) ++
    (if options.queueLength = 0 then [] else [("queue_length", .num options.queueLength)]) ++
    (if options.fragmentSize = 0 then [] else [("fragment_size", .num options.fragmentSize)]) ++
    (if options.compression = "" then [] else [("compression", .str options.compression)]))

def makeUnsubscribeRequest (topic id : String) : Json :=
  .obj ([("op", .str "unsubscribe"), ("topic", .str topic)] ++
    (if id = "" then [] else [("id", .str id)]))

namespace BridgeClient

/-- The failures of the client, which are transient but for that of a payload. -/
def failed (client : BridgeClient) (now : Int) (code message : String) : BridgeClient :=
  { client with record := client.record.failed now code .transient true message }

def isConnected (client : BridgeClient) : Bool := client.socket.isSome

/-- `connect`, given how the handshake ends. -/
def connect (client : BridgeClient) (now : Int) (handshake : Answer) : Answer × BridgeClient :=
  match client.socket with
  | some _ => (.ok (), client)
  | none =>
    match handshake with
    | .ok () => (.ok (), { client with
        socket := some {}, receiveBuffer := [], receivingTextFragments := false
        record := client.record.succeeded })
    | .error message => (.error message,
        client.failed now "PDR-PROTOCOL-ROS-CONNECT_FAILED" message)

/-- `disconnect`, given how the shutdown of the socket ends; the client has let go of it by then. -/
def disconnect (client : BridgeClient) (shutdown : Answer) : Answer × BridgeClient :=
  let after := { client with
    socket := none, subscriptions := [], receiveBuffer := [], receivingTextFragments := false }
  match client.socket with
  | some _ => (shutdown, after)
  | none => (.ok (), after)

section Sending

variable (library : Library) (client : BridgeClient) (now : Int)

/-- `sendText`, on a connection. -/
def sendText (connection : Connection) (request : Json) (sending : Answer) :
    Answer × BridgeClient :=
  match sending with
  | .ok () =>
    let size := UInt64.ofNat (library.stringify request).length
    let diagnostics := { client.record.diagnostics with
      sentMessages := client.record.diagnostics.sentMessages + 1
      sentBytes := client.record.diagnostics.sentBytes + size }
    (.ok (), { client with
      socket := some { connection with sent := connection.sent ++ [.text request] }
      record := { client.record with diagnostics }.succeeded })
  | .error message => (.error message, client.failed now "PDR-PROTOCOL-ROS-SEND_FAILED" message)

/-- `subscribe`, with the identifier that is generated for it. -/
def subscribe (topic : String) (options : SubscribeOptions) (id : String) (sending : Answer) :
    Except String String × BridgeClient :=
  if topic = "" then (.error "ROS subscription topic must not be empty", client)
  else if options.throttleRate < 0 ∨ options.queueLength < 0 ∨ options.fragmentSize < 0 then
    (.error "ROS subscription numeric options must be non-negative", client)
  else match client.socket with
  | none => (.error "ROS bridge is not connected", client)
  | some connection =>
    match client.sendText library now connection (makeSubscribeRequest topic id options) sending with
    | (.error message, after) => (.error message, after)
    | (.ok (), after) =>
      -- An identifier that is listed already keeps its topic.
      let listed := after.subscriptions.any (·.1 = id)
      (.ok id, { after with
        subscriptions := if listed then after.subscriptions
          else after.subscriptions.orderedInsert (·.1 ≤ ·.1) (id, topic) })

def unsubscribe (topic id : String) (sending : Answer) : Answer × BridgeClient :=
  if topic = "" then (.error "ROS unsubscribe topic must not be empty", client)
  else match client.socket with
  | none => (.error "ROS bridge is not connected", client)
  | some connection =>
    match client.sendText library now connection (makeUnsubscribeRequest topic id) sending with
    | (.error message, after) => (.error message, after)
    | (.ok (), after) =>
      (.ok (), if id = "" then after
        else { after with subscriptions := after.subscriptions.filter (·.1 ≠ id) })

/-- The loop of `unsubscribeAll`, which ends at the first request that cannot be sent. -/
def unsubscribeEach (client : BridgeClient) (sending : String → Answer) :
    List (String × String) → Answer × BridgeClient
  | [] => (.ok (), { client with subscriptions := [] })
  | (id, topic) :: rest =>
    match client.socket with
    | none => (.ok (), client)
    | some connection =>
      match client.sendText library now connection (makeUnsubscribeRequest topic id) (sending id) with
      | (.error message, after) => (.error message, after)
      | (.ok (), after) => unsubscribeEach after sending rest

def unsubscribeAll (sending : String → Answer) : Answer × BridgeClient :=
  match client.socket with
  | none => (.ok (), client)
  | some _ => unsubscribeEach library now client sending client.subscriptions

end Sending

/-- How the receive loop ends. -/
inductive LoopEnd
  | timedOut
  | peerClosed
  | complete (text : List UInt8)
  | raised (message : String)
  deriving DecidableEq, Repr

/-- One round of the loop: it ends the loop, or the loop goes on. -/
inductive Round
  | ended (loopEnd : LoopEnd) (client : BridgeClient)
  | again (client : BridgeClient)

/-- What follows a part of a message that has been put into the buffer. -/
def accept (client : BridgeClient) : Round :=
  if client.receiveBuffer.length > client.maximumMessageSize then
    .ended (.raised "ROS bridge message exceeds configured maximum")
      { client with receiveBuffer := [], receivingTextFragments := false }
  else if client.receivingTextFragments then .again client
  -- The buffer is swapped with a text that is empty.
  else .ended (.complete client.receiveBuffer) { client with receiveBuffer := [] }

def receiveFrame (client : BridgeClient) (connection : Connection) (flags : UInt8)
    (payload : List UInt8) (pong : Answer) : Round :=
  let opcode := flags &&& opBitmask
  let last := flags &&& frameFin ≠ 0
  if opcode = opClose then
    .ended .peerClosed { client with
      socket := none, receiveBuffer := [], receivingTextFragments := false }
  else if opcode = opPing then
    match pong with
    | .ok () => .again { client with
        socket := some { connection with sent := connection.sent ++ [.pong payload] } }
    | .error message => .ended (.raised message) client
  else if opcode = opPong then .again client
  else if opcode = opText then
    if client.receivingTextFragments then
      .ended (.raised "ROS bridge received a new text frame before continuation completed") client
    else { client with receiveBuffer := payload, receivingTextFragments := !last }.accept
  else if opcode = opCont then
    if !client.receivingTextFragments then
      .ended (.raised "ROS bridge received an unexpected continuation frame") client
    else { client with
        receiveBuffer := client.receiveBuffer ++ payload
        receivingTextFragments := !last }.accept
  else .ended (.raised "ROS bridge only accepts JSON text messages") client

/-- The rounds of the loop, and how many of the attempts they took. When there are no more, nothing
is left to be read before the deadline. -/
def receiveLoop (client : BridgeClient) : List Attempt → LoopEnd × BridgeClient × Nat
  | [] => (.timedOut, client, 0)
  | attempt :: rest =>
    match client.socket with
    | none => (.raised "ROS bridge is not connected", client, 0)
    | some connection =>
      match attempt with
      | .timeout => (.timedOut, client, 1)
      | .failed message => (.raised message, client, 1)
      | .negative flags =>
        if flags &&& opBitmask = opClose then
          (.peerClosed, { client with
            socket := none, receiveBuffer := [], receivingTextFragments := false }, 1)
        else (.raised "ROS bridge returned a negative frame size", client, 1)
      | .ended =>
        match client.receiveFrame connection 0 [] (.ok ()) with
        | .ended loopEnd after => (loopEnd, after, 1)
        -- A stream that has ended is read over and over until the deadline.
        | .again after => (.timedOut, after, 1)
      | .frame flags payload pong =>
        match client.receiveFrame connection flags payload pong with
        | .ended loopEnd after => (loopEnd, after, 1)
        | .again after =>
          let (loopEnd, last, taken) := receiveLoop after rest
          (loopEnd, last, taken + 1)

/-- What a call of `receiveMessage` returns or throws. -/
inductive Outcome
  | null
  | object (value : Json)
  | error (message : String)

/-- The second half of `receiveMessage`, which reads the text of a message. -/
def deliver (library : Library) (client : BridgeClient) (now : Int) (text : List UInt8) :
    Outcome × BridgeClient :=
  let invalid (message : String) : Outcome × BridgeClient :=
    (.error message, { client with
      record := client.record.failed now "PDR-PROTOCOL-ROS-PAYLOAD_INVALID" .permanent false message })
  match library.parse text with
  | .error message => invalid message
  | .ok value =>
    if !value.isObject then invalid "Can not convert to an object"
    else
      let thrown := match client.handler with
        | some throws => throws value
        | none => false
      let before := client.record.diagnostics
      let diagnostics := { before with
        handlerFailures := if thrown then before.handlerFailures + 1 else before.handlerFailures
        receivedMessages := before.receivedMessages + 1
        receivedBytes := before.receivedBytes + UInt64.ofNat text.length }
      (.object value, { client with record := { client.record with diagnostics }.succeeded })

/-- What `receiveMessage` makes of the end of its loop. -/
def conclude (library : Library) (client : BridgeClient) (now : Int) : LoopEnd → Outcome × BridgeClient
  | .timedOut =>
    let diagnostics := { client.record.diagnostics with
      timeouts := client.record.diagnostics.timeouts + 1 }
    (.null, { client with record := { client.record with diagnostics } })
  | .peerClosed =>
    (.null, client.failed now "PDR-PROTOCOL-ROS-PEER_CLOSED" "ROS bridge closed the WebSocket")
  | .raised message =>
    (.error message, client.failed now "PDR-PROTOCOL-ROS-RECEIVE_FAILED" message)
  | .complete text => client.deliver library now text

/-- `receiveMessage`, with the number of the attempts that it took. -/
def receiveMessage (library : Library) (client : BridgeClient) (now timeout : Int)
    (attempts : List Attempt) : Outcome × BridgeClient × Nat :=
  if timeout < 0 then (.error "ROS receive timeout must be non-negative", client, 0)
  else
    let (loopEnd, after, taken) := match client.socket with
      | none => (LoopEnd.raised "ROS bridge is not connected", client, 0)
      | some _ => client.receiveLoop attempts
    let (outcome, last) := after.conclude library now loopEnd
    (outcome, last, taken)

end BridgeClient

end PocoDDS.Ros
