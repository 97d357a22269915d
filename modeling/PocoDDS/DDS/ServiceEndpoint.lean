import PocoDDS.Lib.Assoc
import PocoDDS.DDS.Runtime

/-! The service endpoint: a request queue, a worker, and a cache of recent responses. -/

namespace PocoDDS.FastDDS

open AssocList

/-- Where the worker stands; between two of these places it holds no lock. -/
inductive Worker
  | waiting
  | executing (request : Envelope)
  | storing (request response : Envelope)
  | answering (request response : Envelope)
  | forwarding (event : Envelope)
  | returned
  deriving DecidableEq, Repr

structure ServiceEndpoint where
  /-- Whether tracing is compiled in. -/
  observability : Bool
  eventTopic : String
  requests : List Envelope := []
  events : List Envelope := []
  traceEvents : List Envelope := []
  responses : List (String × Envelope) := []
  responseOrder : List String := []
  stopping : Bool := false
  worker : Worker := .waiting

/-- What the tracer says about the span of a request. -/
structure SpanIdentity where
  businessInstanceId : String
  traceParent : String

/-- The steps of the endpoint's threads, with what the surroundings answer to them. -/
inductive ServiceAction
  | enqueue (request : Envelope)
  | publishEvent (operation payload : String) (sequence : UInt64) (now : Int) (running : Bool)
  | traceChanged (event : Envelope)
  | requestStop
  | take
  | handle (outcome : Except Thrown Envelope) (received finished : Int) (span : SpanIdentity)
  | store
  | publish (written : Bool)
  | clear

/-- What becomes of requests. -/
inductive ServiceEvent
  | arrived (request : Envelope)
  | executed (request response : Envelope)
  | answered (request response : Envelope)
  | lost (request : Envelope)
  deriving DecidableEq, Repr

/-- Quotes and backslashes are escaped. -/
def jsonError (message : String) : String :=
  let escaped := message.toList.flatMap fun ch =>
    if ch = '"' ∨ ch = '\\' then ['\\', ch] else [ch]
  "\x7b\"error\":\"" ++ String.ofList escaped ++ "\"\x7d"

def Thrown.serviceText : Thrown → String
  | .poco _ displayText => displayText
  | .std what => what
  | .unknown => "unknown service error"

/-- The fields of a response that tracing fills in. -/
def traced (observability : Bool) (request : Envelope) (span : SpanIdentity) (response : Envelope) :
    Envelope :=
  if observability then
    { response with
      businessName :=
        if request.businessName.isEmpty then request.operation else request.businessName
      businessInstanceId := span.businessInstanceId
      traceParent := span.traceParent }
  else response

/-- The response to a request whose handler has returned or thrown. -/
def respond (observability : Bool) (request : Envelope) (outcome : Except Thrown Envelope)
    (received finished : Int) (span : SpanIdentity) : Envelope :=
  match outcome with
  | .ok response =>
    traced observability request span { response with
      kind := "response"
      operation := request.operation
      correlationId := request.correlationId
      timestampMicroseconds := finished }
  | .error thrown =>
    { traced observability request span {
        kind := "response"
        operation := request.operation
        correlationId := request.correlationId
        timestampMicroseconds := received } with
      status := 500
      payload := jsonError thrown.serviceText }

/-- How many responses are remembered. -/
def maximumResponses : Nat := 256

/-- The oldest responses are forgotten while there are too many. -/
def trimResponses : List (String × Envelope) → List String →
    List (String × Envelope) × List String
  | responses, [] => (responses, [])
  | responses, oldest :: rest =>
    if (oldest :: rest).length > maximumResponses then trimResponses (eraseKey oldest responses) rest
    else (responses, oldest :: rest)

namespace ServiceEndpoint

/-- The first critical section of the loop. -/
def take (endpoint : ServiceEndpoint) : ServiceEndpoint :=
  match endpoint.requests, endpoint.events, endpoint.traceEvents with
  | request :: rest, _, _ =>
    -- An empty correlation id is never found.
    match if request.correlationId.isEmpty then none
      else endpoint.responses.lookup request.correlationId with
    | some cached => { endpoint with requests := rest, worker := .answering request cached }
    | none => { endpoint with requests := rest, worker := .executing request }
  | [], event :: rest, _ => { endpoint with events := rest, worker := .forwarding event }
  | [], [], event :: rest => { endpoint with traceEvents := rest, worker := .forwarding event }
  | [], [], [] => if endpoint.stopping then { endpoint with worker := .returned } else endpoint

/-- The second critical section: a response with an id is remembered. -/
def store (endpoint : ServiceEndpoint) (request response : Envelope) : ServiceEndpoint :=
  if request.correlationId.isEmpty then { endpoint with worker := .answering request response }
  else
    let trimmed := trimResponses (assign request.correlationId response endpoint.responses)
      (endpoint.responseOrder ++ [request.correlationId])
    { endpoint with
      responses := trimmed.1
      responseOrder := trimmed.2
      worker := .answering request response }

/-- One step. A step that is not the turn of its thread changes nothing. -/
def step (endpoint : ServiceEndpoint) : ServiceAction → ServiceEndpoint × List ServiceEvent
  | .enqueue request =>
    if endpoint.stopping then (endpoint, [])
    else ({ endpoint with requests := endpoint.requests ++ [request] }, [.arrived request])
  | .publishEvent operation payload sequence now running =>
    -- Without a topic this raises, and while the runtime is down the event is discarded.
    if endpoint.eventTopic.isEmpty || endpoint.stopping || !running then (endpoint, [])
    else
      let event : Envelope := {
        sequence, operation, payload
        timestampMicroseconds := now
        kind := "event" }
      ({ endpoint with events := endpoint.events ++ [event] }, [])
  | .traceChanged event =>
    if !endpoint.observability || endpoint.stopping then (endpoint, [])
    else ({ endpoint with traceEvents := endpoint.traceEvents ++ [event] }, [])
  | .requestStop => ({ endpoint with stopping := true }, [])
  | .take =>
    match endpoint.worker with
    | .waiting => (endpoint.take, [])
    | _ => (endpoint, [])
  | .handle outcome received finished span =>
    match endpoint.worker with
    | .executing request =>
      let response := respond endpoint.observability request outcome received finished span
      ({ endpoint with worker := .storing request response }, [.executed request response])
    | _ => (endpoint, [])
  | .store =>
    match endpoint.worker with
    | .storing request response => (endpoint.store request response, [])
    | _ => (endpoint, [])
  | .publish written =>
    match endpoint.worker with
    | .answering request response =>
      ({ endpoint with worker := .waiting },
        [if written then .answered request response else .lost request])
    | .forwarding _ => ({ endpoint with worker := .waiting }, [])
    | _ => (endpoint, [])
  | .clear =>
    -- The end of stop, once the worker has been joined.
    match endpoint.worker with
    | .returned =>
      ({ endpoint with
        requests := []
        events := []
        traceEvents := []
        responses := []
        responseOrder := [] }, [])
    | _ => (endpoint, [])

/-- An endpoint after `start`. -/
def started (observability : Bool) (eventTopic : String) : ServiceEndpoint :=
  { observability, eventTopic }

/-- The state after some steps, and everything that happened to requests on the way. -/
def run (endpoint : ServiceEndpoint) (actions : List ServiceAction) :
    ServiceEndpoint × List ServiceEvent :=
  actions.foldl
    (fun current action =>
      let next := current.1.step action
      (next.1, current.2 ++ next.2))
    (endpoint, [])

end ServiceEndpoint

end PocoDDS.FastDDS
