import PocoDDS.Lib.Recent
import PocoDDS.DDS.ServiceEndpoint

/-! Requests are served in order, and not again while their id is remembered. -/

namespace PocoDDS.FastDDS

open AssocList RecentList Worker

/-- The requests that were accepted. -/
def arrivals (events : List ServiceEvent) : List Envelope :=
  events.filterMap fun
    | .arrived request => some request
    | _ => none

/-- The requests that were answered, or dropped when their answer could not be published. -/
def settled (events : List ServiceEvent) : List Envelope :=
  events.filterMap fun
    | .answered request _ => some request
    | .lost request => some request
    | _ => none

/-- The handler's runs for requests with an id, and the responses to them. -/
def executions (events : List ServiceEvent) : List (Envelope × Envelope) :=
  events.filterMap fun
    | .executed request response =>
      if request.correlationId.isEmpty then none else some (request, response)
    | _ => none

def executedIds (events : List ServiceEvent) : List String :=
  (executions events).map (·.1.correlationId)

/-- The response of the last run for an id. -/
def lastOf (id : String) (runs : List (Envelope × Envelope)) : Option Envelope :=
  ((runs.filter (·.1.correlationId = id)).getLast?).map (·.2)

def isLost : ServiceEvent → Bool
  | .lost _ => true
  | _ => false

def throws : ServiceAction → Bool
  | .publish written => !written
  | _ => false

/-- The request the worker has taken and not settled yet. -/
def Worker.inFlight : Worker → List Envelope
  | .executing request => [request]
  | .storing request _ => [request]
  | .answering request _ => [request]
  | _ => []

/-- The answers of the surroundings while the worker is left alone. -/
structure Surroundings where
  outcome : Envelope → Except Thrown Envelope
  written : Envelope → Bool
  now : Int
  span : SpanIdentity

/-- The step whose turn it is. -/
def ServiceEndpoint.turn (endpoint : ServiceEndpoint) (surroundings : Surroundings) :
    ServiceAction :=
  match endpoint.worker with
  | .executing request =>
    .handle (surroundings.outcome request) surroundings.now surroundings.now surroundings.span
  | .storing _ _ => .store
  | .answering _ response => .publish (surroundings.written response)
  | .forwarding event => .publish (surroundings.written event)
  | _ => .take

/-- The worker left alone for some steps. -/
def ServiceEndpoint.alone (surroundings : Surroundings) :
    Nat → ServiceEndpoint × List ServiceEvent → ServiceEndpoint × List ServiceEvent
  | 0, current => current
  | steps + 1, current =>
    let next := current.1.step (current.1.turn surroundings)
    alone surroundings steps (next.1, current.2 ++ next.2)

/-- Steps until the worker has settled a request it has taken. -/
def Worker.remaining : Worker → Nat
  | .executing _ => 3
  | .storing _ _ => 2
  | .answering _ _ => 1
  | .forwarding _ => 1
  | _ => 0

/-- What every run of an endpoint keeps. -/
structure ServedOnce (actions : List ServiceAction) (endpoint : ServiceEndpoint)
    (events : List ServiceEvent) : Prop where
  /-- Requests are settled in the order of their arrival; what is not settled is still there. -/
  order : arrivals events = settled events ++ endpoint.worker.inFlight ++ endpoint.requests
  /-- The worker returns only when everything is settled. -/
  complete : endpoint.worker = .returned → settled events = arrivals events
  /-- A worker that is left alone settles everything. -/
  drained : ∀ surroundings,
    let later := ServiceEndpoint.alone surroundings
      (endpoint.worker.remaining + 4 * endpoint.requests.length) (endpoint, events)
    settled later.2 = arrivals events
  /-- Every request that is dropped has a publish that threw. -/
  losses : (events.filter isLost).length ≤ (actions.filter throws).length
  /-- Between two runs for an id the handler ran for 256 distinct others. -/
  once : ∀ before request response middle request' response' after,
    events = before ++ .executed request response :: middle ++
      .executed request' response' :: after →
    request.correlationId ≠ "" → request'.correlationId = request.correlationId →
    request.correlationId ∉ executedIds middle → 256 ≤ (executedIds middle).dedup.length
  /-- Every answer to a request with an id is the response of the last run for that id. -/
  answers : ∀ before request response after,
    events = before ++ .answered request response :: after → request.correlationId ≠ "" →
    lastOf request.correlationId (executions before) = some response
  /-- The cache and the eviction queue hold the same ids. -/
  cached : ∀ id, (endpoint.responses.lookup id).isSome ↔ id ∈ endpoint.responseOrder
  distinct : endpoint.responseOrder.Nodup
  bounded : endpoint.responseOrder.length ≤ 256

section Cache

variable {responses : List (String × Envelope)} {responseOrder : List String}

/-- The cache remembers the last runs. -/
structure Remembers (stored : List (Envelope × Envelope)) (responses : List (String × Envelope))
    (responseOrder : List String) : Prop where
  order : responseOrder = recent maximumResponses (stored.map (·.1.correlationId))
  found : ∀ id ∈ responseOrder, responses.lookup id = lastOf id stored

theorem lastOf_append (id : String) (runs : List (Envelope × Envelope))
    (request response : Envelope) :
    lastOf id (runs ++ [(request, response)]) =
      if request.correlationId = id then some response else lastOf id runs := by
  unfold lastOf
  by_cases same : request.correlationId = id <;> simp [List.filter_append, same]

/-- Trimming drops the same number of the oldest entries from both lists. -/
theorem trimResponses_eq (same : keys responses = responseOrder) (distinct : responseOrder.Nodup) :
    trimResponses responses responseOrder =
      (responses.drop (responseOrder.length - maximumResponses),
        recent maximumResponses responseOrder) := by
  induction responseOrder generalizing responses with
  | nil =>
    have empty : responses = [] := List.map_eq_nil_iff.mp same
    simp [trimResponses, empty]
  | cons oldest rest ih =>
    cases responses with
    | nil => cases same
    | cons entry tail =>
      obtain ⟨key, value⟩ := entry
      simp only [keys, List.map_cons, List.cons.injEq] at same
      obtain ⟨rfl, others⟩ := same
      rw [List.nodup_cons] at distinct
      -- The oldest key is the first entry, and no other.
      have erased : eraseKey key ((key, value) :: tail) = tail := by
        have absent : key ∉ keys tail := by
          rw [keys, others]
          exact distinct.1
        have others' := eraseKey_eq_self absent
        simpa [eraseKey] using others'
      unfold trimResponses
      split
      · next full =>
        rw [erased, ih others distinct.2]
        simp only [List.length_cons] at full ⊢
        have more : rest.length + 1 - maximumResponses = rest.length - maximumResponses + 1 := by
          omega
        simp [recent, more]
      · next room =>
        have none' : (key :: rest).length - maximumResponses = 0 := by omega
        simp only [none', recent, List.drop_zero]

/-- Remembering one more run. -/
theorem Remembers.push {stored : List (Envelope × Envelope)}
    (remembers : Remembers stored responses responseOrder) (same : keys responses = responseOrder)
    (distinct : responseOrder.Nodup) {request response : Envelope}
    (fresh : request.correlationId ∉ responseOrder) {kept : List (String × Envelope)}
    {order : List String} (trim : trimResponses (assign request.correlationId response responses)
      (responseOrder ++ [request.correlationId]) = (kept, order)) :
    Remembers (stored ++ [(request, response)]) kept order ∧
      keys kept = order ∧ order.Nodup ∧ order.length ≤ maximumResponses := by
  -- A new key goes to the end of both lists.
  have assigned : assign request.correlationId response responses =
      responses ++ [(request.correlationId, response)] := by
    rw [assign, eraseKey_eq_self (by rw [same]; exact fresh)]
  have keys' : keys (responses ++ [(request.correlationId, response)]) =
      responseOrder ++ [request.correlationId] := by
    rw [← same]
    simp [keys]
  have distinct' : (responseOrder ++ [request.correlationId]).Nodup :=
    distinct.append (by simp) (List.disjoint_singleton.mpr fresh)
  rw [assigned, trimResponses_eq keys' distinct'] at trim
  obtain ⟨first, second⟩ := Prod.mk.inj trim
  have aligned : keys kept = order := by
    rw [← first, ← second, keys, List.map_drop, ← keys, keys', recent]
  have part : kept.Sublist (responses ++ [(request.correlationId, response)]) := by
    rw [← first]
    exact List.drop_sublist _ _
  have inside : order.Sublist (responseOrder ++ [request.correlationId]) := by
    rw [← second]
    exact recent_sublist _ _
  have short : order.length ≤ maximumResponses := by
    rw [← second]
    exact length_recent_le _ _
  refine ⟨⟨?_, ?_⟩, aligned, distinct'.sublist inside, short⟩
  · rw [← second, remembers.order, recent_push]
    simp
  · intro id listed
    -- What is kept is found as before trimming.
    rw [lookup_sublist (by rw [keys']; exact distinct') part (by rw [aligned]; exact listed),
      lookup_append, lastOf_append]
    by_cases mine : request.correlationId = id
    · have absent : responses.lookup id = none := by
        rw [lookup_eq_none_iff, same, ← mine]
        exact fresh
      simp [absent, mine]
    · have old : id ∈ responseOrder := by
        rcases List.mem_append.mp (inside.subset listed) with old | new
        · exact old
        · exact absurd (List.mem_singleton.mp new).symm mine
      have skipped : (id == request.correlationId) = false := by
        simpa using fun wrong : id = request.correlationId => mine wrong.symm
      rw [remembers.found id old, if_neg mine]
      simp [List.lookup_cons, List.lookup_nil, skipped]

end Cache

section Invariant

variable {endpoint : ServiceEndpoint} {events : List ServiceEvent}

/-- The run that has not been remembered yet. -/
def Worker.unstored : Worker → List (Envelope × Envelope)
  | .storing request response =>
    if request.correlationId.isEmpty then [] else [(request, response)]
  | _ => []

/-- The ids that are not in the cache while the worker holds them. -/
def Worker.missed : Worker → Option String
  | .executing request =>
    if request.correlationId.isEmpty then none else some request.correlationId
  | .storing request _ =>
    if request.correlationId.isEmpty then none else some request.correlationId
  | _ => none

/-- What holds between any two steps. -/
structure Serving (endpoint : ServiceEndpoint) (events : List ServiceEvent) : Prop where
  flow : arrivals events = settled events ++ endpoint.worker.inFlight ++ endpoint.requests
  final : endpoint.worker = .returned → endpoint.stopping = true ∧ endpoint.requests = []
  missing : ∀ id, endpoint.worker.missed = some id → id ∉ endpoint.responseOrder
  spaced : Spaced maximumResponses (executedIds events)
  remembers : endpoint.worker = .returned ∨ ∃ stored,
    executions events = stored ++ endpoint.worker.unstored ∧
      Remembers stored endpoint.responses endpoint.responseOrder
  aligned : keys endpoint.responses = endpoint.responseOrder
  distinct : endpoint.responseOrder.Nodup
  bounded : endpoint.responseOrder.length ≤ maximumResponses
  answering : ∀ request response, endpoint.worker = .answering request response →
    request.correlationId ≠ "" → lastOf request.correlationId (executions events) = some response
  answers : ∀ before request response after,
    events = before ++ .answered request response :: after → request.correlationId ≠ "" →
    lastOf request.correlationId (executions before) = some response

theorem serving_started (observability : Bool) (eventTopic : String) :
    Serving (.started observability eventTopic) [] where
  flow := rfl
  final := by simp [ServiceEndpoint.started]
  missing := by simp [ServiceEndpoint.started, missed]
  spaced := Spaced.nil _
  remembers := .inr ⟨[], rfl, by simp [ServiceEndpoint.started], by simp [ServiceEndpoint.started]⟩
  aligned := rfl
  distinct := List.nodup_nil
  bounded := Nat.zero_le _
  answering := by simp [ServiceEndpoint.started]
  answers := by simp

theorem answers_append {event : ServiceEvent} (answers : ∀ before request response after,
      events = before ++ .answered request response :: after → request.correlationId ≠ "" →
      lastOf request.correlationId (executions before) = some response)
    (new : ∀ request response, event = .answered request response → request.correlationId ≠ "" →
      lastOf request.correlationId (executions events) = some response) :
    ∀ before request response after,
      events ++ [event] = before ++ .answered request response :: after →
      request.correlationId ≠ "" →
      lastOf request.correlationId (executions before) = some response := by
  intro before request response after split named
  rcases List.eq_nil_or_concat after with rfl | ⟨earlier, last, rfl⟩
  · obtain ⟨rfl, same⟩ := List.append_inj' split rfl
    exact new request response (by simpa using same) named
  · rw [List.concat_eq_append, ← List.cons_append, ← List.append_assoc] at split
    obtain ⟨same, -⟩ := List.append_inj' split rfl
    exact answers before request response earlier same named

variable (serving : Serving endpoint events)
include serving

/-- Nothing that concerns requests has changed. -/
theorem Serving.unchanged {after : ServiceEndpoint} (requests : after.requests = endpoint.requests)
    (worker : after.worker = endpoint.worker) (responses : after.responses = endpoint.responses)
    (order : after.responseOrder = endpoint.responseOrder)
    (stopping : endpoint.stopping = true → after.stopping = true) : Serving after events where
  flow := by rw [worker, requests]; exact serving.flow
  final := by
    rw [worker, requests]
    exact fun returned => ⟨stopping (serving.final returned).1, (serving.final returned).2⟩
  missing := by rw [worker, order]; exact serving.missing
  spaced := serving.spaced
  remembers := by rw [worker, responses, order]; exact serving.remembers
  aligned := by rw [responses, order]; exact serving.aligned
  distinct := by rw [order]; exact serving.distinct
  bounded := by rw [order]; exact serving.bounded
  answering := by rw [worker]; exact serving.answering
  answers := serving.answers

theorem Serving.enqueue (open' : endpoint.stopping = false) (request : Envelope) :
    Serving { endpoint with requests := endpoint.requests ++ [request] }
      (events ++ [.arrived request]) where
  flow := by
    have flow := serving.flow
    simp only [arrivals, settled, List.filterMap_append] at flow ⊢
    simp [flow]
  final := by
    intro returned
    rw [(serving.final returned).1] at open'
    cases open'
  missing := serving.missing
  spaced := by simpa [executedIds, executions] using serving.spaced
  remembers := by simpa [executions] using serving.remembers
  aligned := serving.aligned
  distinct := serving.distinct
  bounded := serving.bounded
  answering := by simpa [executions] using serving.answering
  answers := answers_append serving.answers (by simp)

/-- Between two requests every run is remembered. -/
theorem Serving.stored (working : endpoint.worker ≠ .returned)
    (clear : endpoint.worker.unstored = []) :
    Remembers (executions events) endpoint.responses endpoint.responseOrder := by
  rcases serving.remembers with returned | ⟨stored, all, remembers⟩
  · exact absurd returned working
  · rw [all, clear, List.append_nil]
    exact remembers

theorem Serving.taken (waiting : endpoint.worker = .waiting) {request : Envelope}
    {rest : List Envelope} (queued : endpoint.requests = request :: rest) {worker : Worker}
    (held : worker.inFlight = [request]) (working : worker ≠ .returned)
    (clear : worker.unstored = [])
    (missing : ∀ id, worker.missed = some id → id ∉ endpoint.responseOrder)
    (answering : ∀ request response, worker = .answering request response →
      request.correlationId ≠ "" →
      lastOf request.correlationId (executions events) = some response) :
    Serving { endpoint with requests := rest, worker } events where
  flow := by
    rw [serving.flow, waiting, queued, held]
    simp [inFlight]
  final := fun returned => absurd returned working
  missing := missing
  spaced := serving.spaced
  remembers := by
    refine .inr ⟨executions events, by rw [clear, List.append_nil], ?_⟩
    exact serving.stored (by rw [waiting]; simp) (by rw [waiting]; rfl)
  aligned := serving.aligned
  distinct := serving.distinct
  bounded := serving.bounded
  answering := answering
  answers := serving.answers

theorem Serving.idle (free : endpoint.worker.inFlight = []) (clear : endpoint.worker.unstored = [])
    (working : endpoint.worker ≠ .returned) {after : ServiceEndpoint}
    (requests : after.requests = endpoint.requests)
    (responses : after.responses = endpoint.responses)
    (order : after.responseOrder = endpoint.responseOrder) (free' : after.worker.inFlight = [])
    (final : after.worker = .returned → after.stopping = true ∧ after.requests = []) :
    Serving after events := by
  -- A worker that holds no request holds no run either.
  have clear' : after.worker.unstored = [] := by
    cases busy : after.worker <;> simp_all [inFlight, unstored]
  have unmissed : after.worker.missed = none := by
    cases busy : after.worker <;> simp_all [inFlight, Worker.missed]
  refine ⟨?_, final, ?_, serving.spaced, ?_, ?_, ?_, ?_, ?_, serving.answers⟩
  · rw [serving.flow, free, free', requests]
  · intro id missed
    rw [unmissed] at missed
    cases missed
  · refine .inr ⟨executions events, by rw [clear', List.append_nil], ?_⟩
    rw [responses, order]
    exact serving.stored working clear
  · rw [responses, order]
    exact serving.aligned
  · rw [order]
    exact serving.distinct
  · rw [order]
    exact serving.bounded
  · intro request response busy
    rw [busy] at free'
    cases free'

theorem Serving.take (waiting : endpoint.worker = .waiting) : Serving endpoint.take events := by
  have stored := serving.stored (by rw [waiting]; simp) (by rw [waiting]; rfl)
  unfold ServiceEndpoint.take
  split
  · next request rest queued =>
    split
    · next cached found =>
      refine serving.taken waiting queued rfl (by simp) rfl (by simp [Worker.missed]) ?_
      rintro _ _ ⟨rfl, rfl⟩ named
      -- A cached response is that of the last run for its id.
      have nonempty : request.correlationId.isEmpty = false := by simpa using named
      rw [nonempty, if_neg Bool.false_ne_true] at found
      rw [← stored.found, found]
      rw [← serving.aligned, ← lookup_isSome_iff, found]
      rfl
    · next missed =>
      refine serving.taken waiting queued rfl (by simp) rfl ?_ (by simp)
      intro id held
      cases empty : request.correlationId.isEmpty with
      | true => simp [Worker.missed, empty] at held
      | false =>
        rw [empty, if_neg Bool.false_ne_true, lookup_eq_none_iff, serving.aligned] at missed
        have same : request.correlationId = id := by simpa [Worker.missed, empty] using held
        rw [← same]
        exact missed
  · exact serving.idle (by rw [waiting]; rfl) (by rw [waiting]; rfl) (by rw [waiting]; simp) rfl rfl
      rfl rfl (by simp)
  · exact serving.idle (by rw [waiting]; rfl) (by rw [waiting]; rfl) (by rw [waiting]; simp) rfl rfl
      rfl rfl (by simp)
  · next queued _ _ =>
    split
    · next stopping =>
      exact serving.idle (by rw [waiting]; rfl) (by rw [waiting]; rfl) (by rw [waiting]; simp) rfl
        rfl rfl rfl (fun _ => ⟨stopping, queued⟩)
    · exact serving

omit serving

theorem executions_append (events : List ServiceEvent) (request response : Envelope) :
    executions (events ++ [.executed request response]) =
      executions events ++ unstored (.storing request response) := by
  by_cases empty : request.correlationId = "" <;>
    simp [executions, List.filterMap_append, unstored, empty]

theorem Serving.handle (serving : Serving endpoint events) {request : Envelope}
    (executing : endpoint.worker = .executing request) (response : Envelope) :
    Serving { endpoint with worker := .storing request response }
      (events ++ [.executed request response]) := by
  have stored := serving.stored (by rw [executing]; simp) (by rw [executing]; rfl)
  have missing : ∀ id, missed (.storing request response) = some id →
      id ∉ endpoint.responseOrder := by
    have missing := serving.missing
    rw [executing] at missing
    exact missing
  refine ⟨?_, by simp, missing, ?_, ?_, serving.aligned, serving.distinct, serving.bounded,
    by simp, answers_append serving.answers (by simp)⟩
  · have flow := serving.flow
    rw [executing] at flow
    simpa [arrivals, settled, inFlight] using flow
  · have ids := serving.spaced
    unfold executedIds at ids ⊢
    rw [executions_append]
    cases empty : request.correlationId.isEmpty with
    | true => simpa [unstored, empty] using ids
    | false =>
      -- The id is not among those that are remembered, which are the recent ones.
      have fresh := missing request.correlationId (by simp [missed, empty])
      rw [stored.order] at fresh
      simpa [unstored, empty] using ids.push fresh
  · exact .inr ⟨executions events, executions_append events request response, stored⟩

theorem Serving.store (serving : Serving endpoint events) {request response : Envelope}
    (storing : endpoint.worker = .storing request response) :
    Serving (endpoint.store request response) events := by
  have flow : arrivals events = settled events ++ [request] ++ endpoint.requests := by
    have flow := serving.flow
    rw [storing] at flow
    exact flow
  obtain ⟨stored, all, remembers⟩ := serving.remembers.resolve_left (by rw [storing]; simp)
  rw [storing] at all
  unfold ServiceEndpoint.store
  cases empty : request.correlationId.isEmpty with
  | true =>
    rw [if_pos rfl]
    refine ⟨flow, by simp, by simp [missed], serving.spaced, ?_, serving.aligned,
      serving.distinct, serving.bounded, ?_, serving.answers⟩
    · refine .inr ⟨stored, ?_, remembers⟩
      simpa [unstored, empty] using all
    · rintro _ _ ⟨rfl, rfl⟩ named
      exact absurd (by simpa using empty) named
  | false =>
    rw [if_neg Bool.false_ne_true]
    have pushed : executions events = stored ++ [(request, response)] := by
      simpa [unstored, empty] using all
    have fresh : request.correlationId ∉ endpoint.responseOrder :=
      serving.missing _ (by rw [storing]; simp [missed, empty])
    obtain ⟨remembers', aligned, distinct, bounded⟩ := remembers.push serving.aligned
      serving.distinct fresh (Prod.mk.eta (p := trimResponses
        (assign request.correlationId response endpoint.responses)
        (endpoint.responseOrder ++ [request.correlationId]))).symm
    refine ⟨flow, by simp, by simp [missed], serving.spaced, ?_, aligned, distinct, bounded,
      ?_, serving.answers⟩
    · refine .inr ⟨executions events, by simp [unstored], ?_⟩
      rw [pushed]
      exact remembers'
    · rintro _ _ ⟨rfl, rfl⟩ _
      rw [pushed, lastOf_append, if_pos rfl]

theorem Serving.publish (serving : Serving endpoint events) {request response : Envelope}
    (answering : endpoint.worker = .answering request response) (written : Bool) :
    Serving { endpoint with worker := .waiting }
      (events ++ [if written then .answered request response else .lost request]) := by
  have stored := serving.stored (by rw [answering]; simp) (by rw [answering]; rfl)
  have runs : executions (events ++
      [if written then .answered request response else .lost request]) = executions events := by
    cases written <;> simp [executions]
  refine ⟨?_, by simp, by simp [missed], ?_, ?_, serving.aligned, serving.distinct,
    serving.bounded, by simp, ?_⟩
  · have flow := serving.flow
    rw [answering] at flow
    cases written <;> simpa [arrivals, settled, inFlight] using flow
  · rw [executedIds, runs]
    exact serving.spaced
  · refine .inr ⟨executions events, ?_, stored⟩
    rw [runs]
    simp [unstored]
  · apply answers_append serving.answers
    intro other answer same named
    cases written with
    | true =>
      cases same
      exact serving.answering request response answering named
    | false => cases same

/-- Every step keeps the invariant. -/
theorem Serving.step (serving : Serving endpoint events) (action : ServiceAction) :
    Serving (endpoint.step action).1 (events ++ (endpoint.step action).2) := by
  -- A step that is not the turn of its thread changes nothing.
  have still : Serving endpoint (events ++ []) := by simpa using serving
  cases action with
  | enqueue request =>
    simp only [ServiceEndpoint.step]
    split
    · exact still
    · next open' => exact serving.enqueue (by simpa using open') request
  | publishEvent operation payload sequence now running =>
    simp only [ServiceEndpoint.step]
    split
    · exact still
    · exact still.unchanged rfl rfl rfl rfl id
  | traceChanged event =>
    simp only [ServiceEndpoint.step]
    split
    · exact still
    · exact still.unchanged rfl rfl rfl rfl id
  | requestStop => exact still.unchanged rfl rfl rfl rfl fun _ => rfl
  | take =>
    simp only [ServiceEndpoint.step]
    split
    · next waiting => simpa using serving.take waiting
    · exact still
  | handle outcome received finished span =>
    simp only [ServiceEndpoint.step]
    split
    · next request executing => exact serving.handle executing _
    · exact still
  | store =>
    simp only [ServiceEndpoint.step]
    split
    · next request response storing => simpa using serving.store storing
    · exact still
  | publish written =>
    simp only [ServiceEndpoint.step]
    split
    · next request response answering => exact serving.publish answering written
    · next event forwarding =>
      exact still.idle (by rw [forwarding]; rfl) (by rw [forwarding]; rfl)
        (by rw [forwarding]; simp) rfl rfl rfl rfl (by simp)
    · exact still
  | clear =>
    simp only [ServiceEndpoint.step]
    split
    · next returned =>
      obtain ⟨stopping, empty⟩ := serving.final returned
      rw [List.append_nil]
      refine ⟨?_, fun _ => ⟨stopping, rfl⟩, by simp, serving.spaced, .inl returned, rfl,
        List.nodup_nil, Nat.zero_le _, serving.answering, serving.answers⟩
      have flow := serving.flow
      rw [empty] at flow
      exact flow
    · exact still

end Invariant

section Progress

variable {endpoint : ServiceEndpoint} {events : List ServiceEvent} (surroundings : Surroundings)

/-- Steps of the worker until all queued requests are settled. -/
def ServiceEndpoint.left (endpoint : ServiceEndpoint) : Nat :=
  endpoint.worker.remaining + 4 * endpoint.requests.length

/-- The worker accepts nothing. -/
theorem arrivals_turn (endpoint : ServiceEndpoint) :
    arrivals (endpoint.step (endpoint.turn surroundings)).2 = [] := by
  cases busy : endpoint.worker with
  | answering request response =>
    cases written : surroundings.written response <;>
      simp [ServiceEndpoint.step, ServiceEndpoint.turn, busy, arrivals, written]
  | _ => simp [ServiceEndpoint.step, ServiceEndpoint.turn, busy, arrivals]

/-- Every turn of a worker with something to settle brings it nearer to the end. -/
theorem left_turn (serving : Serving endpoint events) (busy : 0 < endpoint.left) :
    (endpoint.step (endpoint.turn surroundings)).1.left < endpoint.left := by
  unfold ServiceEndpoint.left at busy ⊢
  cases at' : endpoint.worker with
  | waiting =>
    rw [at'] at busy
    -- Something is queued, and taking it leaves at most three steps for it.
    cases queued : endpoint.requests with
    | nil => simp [queued, Worker.remaining] at busy
    | cons request rest =>
      simp only [ServiceEndpoint.step, ServiceEndpoint.turn, at', ServiceEndpoint.take, queued]
      split <;> simp only [Worker.remaining, List.length_cons] <;> omega
  | storing request response =>
    simp only [ServiceEndpoint.step, ServiceEndpoint.turn, at', ServiceEndpoint.store]
    split <;> simp only [Worker.remaining] <;> omega
  | returned =>
    rw [at', (serving.final at').2] at busy
    simp [Worker.remaining] at busy
  | _ => simp [ServiceEndpoint.step, ServiceEndpoint.turn, at', Worker.remaining]

theorem Serving.settled_of_left (serving : Serving endpoint events) (done : endpoint.left = 0) :
    settled events = arrivals events := by
  have empty : endpoint.requests = [] := by
    apply List.length_eq_zero_iff.mp
    unfold ServiceEndpoint.left at done
    omega
  have free : endpoint.worker.inFlight = [] := by
    unfold ServiceEndpoint.left at done
    cases at' : endpoint.worker <;> simp_all [Worker.remaining, inFlight]
  rw [serving.flow, empty, free]
  simp

theorem arrivals_append (left right : List ServiceEvent) :
    arrivals (left ++ right) = arrivals left ++ arrivals right :=
  List.filterMap_append

theorem settled_append (left right : List ServiceEvent) :
    settled (left ++ right) = settled left ++ settled right :=
  List.filterMap_append

theorem settled_alone (steps : Nat) (serving : Serving endpoint events)
    (all : settled events = arrivals events) :
    settled (ServiceEndpoint.alone surroundings steps (endpoint, events)).2 = arrivals events := by
  induction steps generalizing endpoint events with
  | zero => exact all
  | succ steps ih =>
    have next := serving.step (endpoint.turn surroundings)
    have same : arrivals (events ++ (endpoint.step (endpoint.turn surroundings)).2) =
        arrivals events := by
      rw [arrivals_append, arrivals_turn, List.append_nil]
    -- Nothing is left to be settled, so the turn settles nothing.
    have still : settled (events ++ (endpoint.step (endpoint.turn surroundings)).2) =
        arrivals events := by
      have flow := next.flow
      rw [same, settled_append, all] at flow
      have none' : settled (endpoint.step (endpoint.turn surroundings)).2 = [] := by
        have lengths := congrArg List.length flow
        simp only [List.length_append] at lengths
        exact List.length_eq_zero_iff.mp (by omega)
      rw [settled_append, none', List.append_nil, all]
    rw [ServiceEndpoint.alone, ih next (still.trans same.symm), same]

theorem settled_alone_of_left {steps : Nat} (serving : Serving endpoint events)
    (enough : endpoint.left ≤ steps) :
    settled (ServiceEndpoint.alone surroundings steps (endpoint, events)).2 = arrivals events := by
  induction steps generalizing endpoint events with
  | zero => exact serving.settled_of_left (by omega)
  | succ steps ih =>
    by_cases done : endpoint.left = 0
    · exact settled_alone surroundings _ serving (serving.settled_of_left done)
    · have next := serving.step (endpoint.turn surroundings)
      have nearer := left_turn surroundings serving (by omega)
      rw [ServiceEndpoint.alone, ih next (by omega), arrivals_append, arrivals_turn,
        List.append_nil]

end Progress

section Runs

variable {observability : Bool} {eventTopic : String}

theorem run_append (endpoint : ServiceEndpoint) (actions : List ServiceAction)
    (action : ServiceAction) :
    endpoint.run (actions ++ [action]) = (((endpoint.run actions).1.step action).1,
        (endpoint.run actions).2 ++ ((endpoint.run actions).1.step action).2) := by
  simp [ServiceEndpoint.run]

theorem serving_run (observability : Bool) (eventTopic : String) (actions : List ServiceAction) :
    Serving ((ServiceEndpoint.started observability eventTopic).run actions).1
      ((ServiceEndpoint.started observability eventTopic).run actions).2 := by
  induction actions using List.reverseRecOn with
  | nil => exact serving_started observability eventTopic
  | append_singleton earlier action ih =>
    rw [run_append]
    exact ih.step action

theorem lost_step (endpoint : ServiceEndpoint) (action : ServiceAction) :
    ((endpoint.step action).2.filter isLost).length ≤ ([action].filter throws).length := by
  cases action with
  | publish written =>
    cases busy : endpoint.worker with
    | answering request response =>
      cases written <;> simp [ServiceEndpoint.step, busy, List.filter, isLost, throws]
    | _ => simp [ServiceEndpoint.step, busy]
  | enqueue request =>
    simp only [ServiceEndpoint.step]
    split <;> simp [isLost]
  | publishEvent operation payload sequence now running =>
    simp only [ServiceEndpoint.step]
    split <;> simp
  | traceChanged event =>
    simp only [ServiceEndpoint.step]
    split <;> simp
  | requestStop => simp [ServiceEndpoint.step]
  | take => cases busy : endpoint.worker <;> simp [ServiceEndpoint.step, busy]
  | handle outcome received finished span =>
    cases busy : endpoint.worker <;> simp [ServiceEndpoint.step, busy, isLost]
  | store => cases busy : endpoint.worker <;> simp [ServiceEndpoint.step, busy]
  | clear => cases busy : endpoint.worker <;> simp [ServiceEndpoint.step, busy]

theorem lost_run (endpoint : ServiceEndpoint) (actions : List ServiceAction) :
    ((endpoint.run actions).2.filter isLost).length ≤ (actions.filter throws).length := by
  induction actions using List.reverseRecOn with
  | nil => simp [ServiceEndpoint.run]
  | append_singleton earlier action ih =>
    have last := lost_step (endpoint.run earlier).1 action
    rw [run_append, List.filter_append, List.filter_append, List.length_append, List.length_append]
    omega

theorem executedIds_append (left right : List ServiceEvent) :
    executedIds (left ++ right) = executedIds left ++ executedIds right := by
  simp [executedIds, executions, List.filterMap_append]

theorem executedIds_cons {request : Envelope} (response : Envelope)
    (named : request.correlationId ≠ "") (rest : List ServiceEvent) :
    executedIds (.executed request response :: rest) =
      request.correlationId :: executedIds rest := by
  simp [executedIds, executions, named]

/-- Every run serves its requests in order and once. -/
theorem requests_served_once (observability : Bool) (eventTopic : String)
    (actions : List ServiceAction) :
    ServedOnce actions ((ServiceEndpoint.started observability eventTopic).run actions).1
      ((ServiceEndpoint.started observability eventTopic).run actions).2 := by
  have serving := serving_run observability eventTopic actions
  refine ⟨serving.flow, ?_, ?_, lost_run _ actions, ?_, serving.answers, ?_, serving.distinct,
    serving.bounded⟩
  · intro returned
    have flow := serving.flow
    rw [returned, (serving.final returned).2] at flow
    simpa [Worker.inFlight] using flow.symm
  · intro surroundings
    exact settled_alone_of_left surroundings serving (Nat.le_refl _)
  · intro before request response middle request' response' after split named same absent
    have spaced := serving.spaced
    rw [split, executedIds_append, executedIds_append, executedIds_cons response named,
      executedIds_cons response' (same ▸ named), same] at spaced
    exact spaced.le_distinct_between
  · intro id
    rw [lookup_isSome_iff, serving.aligned]

end Runs

end PocoDDS.FastDDS
