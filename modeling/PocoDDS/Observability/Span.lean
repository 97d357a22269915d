import PocoDDS.Lib.Assoc
import PocoDDS.Observability.Sanitize

/-! Business spans: handles that own an open span, and the snapshots they publish. -/

namespace PocoDDS.Observability

open AssocList

structure TraceLog where
  timestampUnixMicroseconds : Int
  level : Bytes
  message : Bytes
  fields : Fields

/-- What is shown of a span; host and process data are the same for all of them. -/
structure SpanSnapshot where
  businessName : String
  businessInstanceId : String
  operation : String
  traceId : String
  spanId : String
  parentSpanId : String
  traceParent : String
  status : String := "running"
  errorCode : Bytes := []
  errorMessage : Bytes := []
  startedUnixMicroseconds : Int
  endedUnixMicroseconds : Int := 0
  durationNanoseconds : Int := 0
  inputs : Fields
  outputs : Fields := []
  logs : List TraceLog := []

/-- The identity a new span is given, a fresh instance id, and the clocks at its start. -/
structure SpanContext where
  instanceId : String
  traceId : String
  spanId : String
  traceParent : String
  now : Int
  steady : Int

/-- A clock reading, in both clocks. -/
structure ClockReading where
  now : Int
  steady : Int

structure SpanImpl where
  snapshot : SpanSnapshot
  started : Int
  ended : Bool

/-- The tracer's settings. -/
structure TracerOptions where
  json : JsonText
  dataPolicy : DataPolicy

/-- All spans ever started, the live handles, and what has been published, oldest first. -/
structure Tracing where
  spans : List SpanImpl
  handles : List (Nat × Option Nat)
  published : List (Nat × SpanSnapshot)

def Tracing.initial : Tracing := ⟨[], [], []⟩

/-- What a program may do with handles, which it refers to by number. -/
inductive SpanAction
  | construct (handle : Nat)
  | startBusiness (handle : Nat) (businessName : String) (inputs : Fields)
      (businessInstanceId : String) (context : SpanContext)
  | continueBusiness (handle : Nat) (businessName operation parentTraceParent
      businessInstanceId : String) (inputs : Fields) (context : SpanContext)
  | startStep (handle source : Nat) (operation : String) (inputs : Fields) (context : SpanContext)
  | moveConstruct (handle source : Nat)
  | moveAssign (handle source : Nat)
  | log (handle : Nat) (message level : Bytes) (fields : Fields) (now : Int)
  | success (handle : Nat) (outputs : Fields) (clock : ClockReading)
  | failure (handle : Nat) (errorCode errorMessage : Bytes) (outputs : Fields)
      (clock : ClockReading)
  | cancel (handle : Nat) (reason : Bytes) (clock : ClockReading)
  | destroy (handle : Nat) (clock : ClockReading)

/-- The span a live handle owns. -/
def Tracing.owned (state : Tracing) (handle : Nat) : Option Nat :=
  (state.handles.lookup handle).join

/-- Whether a span is still open. -/
def Tracing.isOpen (state : Tracing) (index : Nat) : Bool :=
  match state.spans[index]? with
  | some impl => !impl.ended
  | none => false

/-- The part of a trace parent that names the parent span. -/
def parentSpan (parentTraceParent : String) : String :=
  if parentTraceParent.utf8ByteSize ≥ 52 then
    String.ofList ((parentTraceParent.toList.drop 36).take 16)
  else ""

/-- A new span is published at once. -/
def Tracing.createSpan (options : TracerOptions) (state : Tracing) (handle : Nat)
    (businessName operation : String) (inputs : Fields) (parentTraceParent businessInstanceId : String)
    (context : SpanContext) : Tracing :=
  let snapshot : SpanSnapshot := {
    businessName, businessInstanceId, operation
    traceId := context.traceId
    spanId := context.spanId
    parentSpanId := parentSpan parentTraceParent
    traceParent := context.traceParent
    startedUnixMicroseconds := context.now
    inputs := sanitize options.json options.dataPolicy inputs }
  { spans := state.spans ++ [⟨snapshot, context.steady, false⟩]
    handles := state.handles ++ [(handle, some state.spans.length)]
    published := state.published ++ [(state.spans.length, snapshot)] }

/-- An open span with its result. -/
def SpanImpl.finished (options : TracerOptions) (impl : SpanImpl) (status : String)
    (outputs : Fields) (errorCode errorMessage : Bytes) (clock : ClockReading) : SpanImpl :=
  { impl with
    snapshot := { impl.snapshot with
      outputs := sanitize options.json options.dataPolicy outputs
      status, errorCode, errorMessage
      endedUnixMicroseconds := clock.now
      durationNanoseconds := clock.steady - impl.started }
    ended := true }

/-- An open span with one more log record. -/
def SpanImpl.logged (options : TracerOptions) (impl : SpanImpl) (message level : Bytes)
    (fields : Fields) (now : Int) : SpanImpl :=
  let record : TraceLog := ⟨now, level, cut options.dataPolicy message,
    sanitize options.json options.dataPolicy fields⟩
  { impl with snapshot := { impl.snapshot with logs := impl.snapshot.logs ++ [record] } }

/-- An open span is changed and published; a missing or an ended one is left alone. -/
def Tracing.publishOpen (state : Tracing) (index : Option Nat) (change : SpanImpl → SpanImpl) :
    Tracing :=
  match index.bind fun index => (state.spans[index]?).map (index, ·) with
  | none => state
  | some (index, impl) =>
    if impl.ended then state
    else { state with
      spans := state.spans.set index (change impl)
      published := state.published ++ [(index, (change impl).snapshot)] }

def Tracing.finishSpan (options : TracerOptions) (state : Tracing) (index : Option Nat)
    (status : String) (outputs : Fields) (errorCode errorMessage : Bytes) (clock : ClockReading) :
    Tracing :=
  state.publishOpen index (·.finished options status outputs errorCode errorMessage clock)

def Tracing.logSpan (options : TracerOptions) (state : Tracing) (index : Option Nat)
    (message level : Bytes) (fields : Fields) (now : Int) : Tracing :=
  state.publishOpen index (·.logged options message level fields now)

/-- Whether a handle is alive. -/
def Tracing.live (state : Tracing) (handle : Nat) : Bool :=
  (state.handles.lookup handle).isSome

/-- One action. A handle that is not alive cannot be used, and one that is cannot be declared. -/
def Tracing.step (options : TracerOptions) (state : Tracing) : SpanAction → Tracing
  | .construct handle =>
    if state.live handle then state
    else { state with handles := state.handles ++ [(handle, none)] }
  | .startBusiness handle businessName inputs businessInstanceId context =>
    if state.live handle then state
    else state.createSpan options handle businessName businessName inputs ""
      (if businessInstanceId.isEmpty then context.instanceId else businessInstanceId) context
  | .continueBusiness handle businessName operation parentTraceParent businessInstanceId inputs
      context =>
    -- A missing parent raises.
    if state.live handle || parentTraceParent.isEmpty then state
    else state.createSpan options handle businessName operation inputs parentTraceParent
      businessInstanceId context
  | .startStep handle source operation inputs context =>
    if state.live handle then state
    else match (state.owned source).bind fun index => state.spans[index]? with
      -- Without an open span this raises.
      | none => state
      | some impl =>
        if impl.ended then state
        else state.createSpan options handle impl.snapshot.businessName operation inputs
          impl.snapshot.traceParent impl.snapshot.businessInstanceId context
  | .moveConstruct handle source =>
    if state.live handle || !state.live source then state
    else { state with
      handles := adjust source (fun _ => none) state.handles ++ [(handle, state.owned source)] }
  | .moveAssign handle source =>
    -- Moving a handle onto itself leaves it as it is.
    if !state.live handle || !state.live source || handle == source then state
    else { state with
      handles := adjust source (fun _ => none)
        (adjust handle (fun _ => state.owned source) state.handles) }
  | .log handle message level fields now =>
    state.logSpan options (state.owned handle) message level fields now
  | .success handle outputs clock =>
    state.finishSpan options (state.owned handle) "success" outputs [] [] clock
  | .failure handle errorCode errorMessage outputs clock =>
    state.finishSpan options (state.owned handle) "failed" outputs errorCode errorMessage clock
  | .cancel handle reason clock =>
    state.finishSpan options (state.owned handle) "cancelled" [] (bytes "cancelled") reason clock
  | .destroy handle clock =>
    let finished := state.finishSpan options (state.owned handle) "cancelled" []
      (bytes "scope_abandoned") (bytes "business span left scope without an explicit result") clock
    { finished with handles := eraseKey handle finished.handles }

/-- The state after a program. -/
def Tracing.run (options : TracerOptions) (actions : List SpanAction) : Tracing :=
  actions.foldl (Tracing.step options) .initial

end PocoDDS.Observability
