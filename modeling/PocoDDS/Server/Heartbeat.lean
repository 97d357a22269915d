import Mathlib.Data.Finset.Basic
import PocoDDS.DDS.Runtime
import PocoDDS.Lib.NumberedText
import PocoDDS.Lib.Run

/-! The heartbeat rounds of the server, and the answers of the subprocesses that it collects. -/

namespace PocoDDS.Server

open FastDDS RunLogic

/-- How a step or a business ends for the tracer. -/
inductive SpanResult
  | success (attributes : List (String × String))
  | failure (code message : String) (attributes : List (String × String))
  deriving DecidableEq, Repr

/-- What a round reports when its wait is over. -/
structure Round where
  correlation : String
  confirmation : SpanResult
  business : SpanResult
  deriving DecidableEq, Repr

/-- The counter of the loop, the ids that were answered, and the id that the loop waits for. -/
structure MacchinaServer where
  sequence : UInt64 := 0
  heartbeatResponses : Finset String := ∅
  waiting : Option String := none
  deriving DecidableEq

def correlationOf (now : Int) (sequence : UInt64) : String :=
  "heartbeat-" ++ toString now ++ "-" ++ toString sequence

/-- The broadcast of a round. -/
def heartbeatRequest (correlation : String) (sequence : UInt64) (now : Int) (traceParent : String) :
    Envelope where
  sequence := sequence
  timestampMicroseconds := now
  kind := "process.heartbeat.request"
  operation := "broadcast"
  correlationId := correlation
  traceParent := traceParent
  businessName := "主子进程Fast-DDS心跳"
  businessInstanceId := correlation
  payload := "\x7b\"command\":\"heartbeat\"\x7d"

/-- What a subprocess answers to a broadcast. -/
def heartbeatResponse (request : Envelope) (now : Int) (traceParent : String) : Envelope where
  sequence := request.sequence
  timestampMicroseconds := now
  kind := "process.heartbeat.response"
  operation := "ack"
  correlationId := request.correlationId
  traceParent := traceParent
  businessName := request.businessName
  businessInstanceId := request.businessInstanceId
  status := 200
  payload := "\x7b\"ack\":true\x7d"

/-- The end of a round, answered or not. -/
def report (correlation : String) (answered : Bool) : Round where
  correlation := correlation
  confirmation :=
    if answered then .success [("response", "received"), ("link", "connected")]
    else .failure "heartbeat_timeout" "子进程在3秒内未应答" [("link", "timeout")]
  business :=
    if answered then .success [("link", "connected"), ("result", "success")]
    else .failure "heartbeat_timeout" "Fast-DDS心跳链路未走通" [("link", "timeout")]

def SpanResult.succeeded : SpanResult → Bool
  | .success _ => true
  | .failure _ _ _ => false

namespace MacchinaServer

variable (server : MacchinaServer)

/-- The callback of the response topic. -/
def onResponse (envelope : Envelope) : MacchinaServer :=
  { server with heartbeatResponses := insert envelope.correlationId server.heartbeatResponses }

/-- A round starts with the next number, broadcasts its id and waits for it. -/
def beginRound (started sent : Int) (traceParent : String) : MacchinaServer × Envelope :=
  let sequence := server.sequence + 1
  let correlation := correlationOf started sequence
  ({ server with sequence, waiting := some correlation },
    heartbeatRequest correlation sequence sent traceParent)

/-- The wait predicate takes the id out of the set if it is there, which ends the round. -/
def evaluate : MacchinaServer × Option Round :=
  match server.waiting with
  | none => (server, none)
  | some correlation =>
    if correlation ∈ server.heartbeatResponses then
      ({ server with
          heartbeatResponses := server.heartbeatResponses.erase correlation
          waiting := none },
        some (report correlation true))
    else (server, none)

/-- When the time is up the predicate is evaluated once more, and the round ends either way. -/
def expire : MacchinaServer × Option Round :=
  match server.waiting with
  | none => (server, none)
  | some correlation =>
    match server.evaluate with
    | (after, some round) => (after, some round)
    | (after, none) => ({ after with waiting := none }, some (report correlation false))

end MacchinaServer

/-- Whether the business of a round ended well. -/
def Round.answered (round : Round) : Bool := round.business.succeeded

/-- The server, all it has broadcast and the rounds that are over; and the memory of whether the open
round has been answered, and of whether an answer came while no round waited for it. -/
structure Heartbeats where
  server : MacchinaServer := {}
  broadcasts : List Envelope := []
  finished : List String := []
  arrived : Bool := false
  late : Bool := false

/-- The atomic steps: any subprocess may answer any broadcast, at any time and any number of times. -/
inductive Event
  | broadcast (started sent : Int) (traceParent : String)
  | respond (index : Nat) (now : Int) (traceParent : String)
  | evaluate
  | expire

namespace Heartbeats

variable (heartbeats : Heartbeats)

/-- The loop starts a round only when it waits for none. -/
def broadcast (started sent : Int) (traceParent : String) : Heartbeats :=
  if heartbeats.server.waiting.isSome then heartbeats
  else
    let (server, request) := heartbeats.server.beginRound started sent traceParent
    { heartbeats with server, broadcasts := heartbeats.broadcasts ++ [request], arrived := false }

def respond (index : Nat) (now : Int) (traceParent : String) : Heartbeats :=
  match heartbeats.broadcasts[index]? with
  | none => heartbeats
  | some request =>
    let response := heartbeatResponse request now traceParent
    let awaited := decide (heartbeats.server.waiting = some response.correlationId)
    { heartbeats with
      server := heartbeats.server.onResponse response
      arrived := heartbeats.arrived || awaited
      late := heartbeats.late || !awaited }

/-- The loop goes on with what the wait has come to. -/
def settle (result : MacchinaServer × Option Round) : Heartbeats :=
  { heartbeats with
    server := result.1
    finished := heartbeats.finished ++ (result.2.map Round.correlation).toList }

def step : Event → Heartbeats
  | .broadcast started sent traceParent => heartbeats.broadcast started sent traceParent
  | .respond index now traceParent => heartbeats.respond index now traceParent
  | .evaluate => heartbeats.settle heartbeats.server.evaluate
  | .expire => heartbeats.settle heartbeats.server.expire

end Heartbeats

/-- A round that ends here ends as answered exactly if an answer to it has arrived. -/
def VerdictRight (heartbeats : Heartbeats) : Event → Prop
  | .evaluate => ∀ round ∈ heartbeats.server.evaluate.2, round.answered = heartbeats.arrived
  | .expire => ∀ round ∈ heartbeats.server.expire.2, round.answered = heartbeats.arrived
  | _ => True

/-- A round that starts here finds no id of a round that is over. -/
def NoResidue (heartbeats : Heartbeats) : Event → Prop
  | .broadcast _ _ _ => heartbeats.server.waiting = none →
    ∀ correlation ∈ heartbeats.finished, correlation ∉ heartbeats.server.heartbeatResponses
  | _ => True

/-- What the loop promises of each of its steps. -/
def Clean (heartbeats : Heartbeats) (event : Event) : Prop :=
  VerdictRight heartbeats event ∧ NoResidue heartbeats event

/-- A round starts only if each answer so far came while its round was waiting for it. -/
def Prompt (heartbeats : Heartbeats) : Event → Prop
  | .broadcast _ _ _ => heartbeats.server.waiting = none → heartbeats.late = false
  | _ => True

/-- The counter has numbers left. -/
def Numbered (heartbeats : Heartbeats) (_ : Event) : Prop :=
  heartbeats.server.sequence.toNat + 1 < 2 ^ 64

section Waiting

variable {server : MacchinaServer} {correlation : String}

@[simp] theorem answered_report (correlation : String) (answered : Bool) :
    (report correlation answered).answered = answered := by
  cases answered <;> rfl

@[simp] theorem correlation_report (correlation : String) (answered : Bool) :
    (report correlation answered).correlation = correlation := rfl

theorem evaluate_of_none (idle : server.waiting = none) : server.evaluate = (server, none) := by
  simp only [MacchinaServer.evaluate, idle]

theorem evaluate_of_mem (waiting : server.waiting = some correlation)
    (member : correlation ∈ server.heartbeatResponses) :
    server.evaluate =
      ({ server with
          heartbeatResponses := server.heartbeatResponses.erase correlation
          waiting := none }, some (report correlation true)) := by
  simp only [MacchinaServer.evaluate, waiting, member, if_true]

theorem evaluate_of_not_mem (waiting : server.waiting = some correlation)
    (absent : correlation ∉ server.heartbeatResponses) : server.evaluate = (server, none) := by
  simp only [MacchinaServer.evaluate, waiting, absent, if_false]

theorem expire_of_none (idle : server.waiting = none) : server.expire = (server, none) := by
  simp only [MacchinaServer.expire, idle]

/-- The set gives up the id whether or not it was there. -/
theorem expire_of_some (waiting : server.waiting = some correlation) : server.expire =
      ({ server with
          heartbeatResponses := server.heartbeatResponses.erase correlation
          waiting := none },
        some (report correlation (decide (correlation ∈ server.heartbeatResponses)))) := by
  by_cases member : correlation ∈ server.heartbeatResponses
  · simp only [MacchinaServer.expire, waiting, evaluate_of_mem waiting member, member, decide_true]
  · simp only [MacchinaServer.expire, waiting, evaluate_of_not_mem waiting member, member,
      decide_false, Finset.erase_eq_of_notMem member]

end Waiting

namespace Heartbeats

variable (heartbeats : Heartbeats)

/-- After a broadcast, the loop waits for its id. -/
def begun (started sent : Int) (traceParent : String) : Heartbeats :=
  let sequence := heartbeats.server.sequence + 1
  let correlation := correlationOf started sequence
  { heartbeats with
    server := { heartbeats.server with sequence, waiting := some correlation }
    broadcasts := heartbeats.broadcasts ++ [heartbeatRequest correlation sequence sent traceParent]
    arrived := false }

/-- After an answer, its id is in the set. -/
def replied (correlation : String) : Heartbeats :=
  let awaited := decide (heartbeats.server.waiting = some correlation)
  { heartbeats with
    server := { heartbeats.server with
      heartbeatResponses := insert correlation heartbeats.server.heartbeatResponses }
    arrived := heartbeats.arrived || awaited
    late := heartbeats.late || !awaited }

/-- After a round, its id is not in the set. -/
def ended (correlation : String) : Heartbeats :=
  { heartbeats with
    server := { heartbeats.server with
      heartbeatResponses := heartbeats.server.heartbeatResponses.erase correlation
      waiting := none }
    finished := heartbeats.finished ++ [correlation] }

@[simp] theorem settle_none : heartbeats.settle (heartbeats.server, none) = heartbeats := by
  simp [settle]

theorem step_evaluate : heartbeats.step .evaluate = heartbeats ∨
    ∃ correlation, heartbeats.server.waiting = some correlation ∧
      heartbeats.step .evaluate = heartbeats.ended correlation := by
  cases waiting : heartbeats.server.waiting with
  | none => exact .inl (by rw [step, evaluate_of_none waiting, settle_none])
  | some correlation =>
    by_cases member : correlation ∈ heartbeats.server.heartbeatResponses
    · exact .inr ⟨correlation, rfl, by rw [step, evaluate_of_mem waiting member]; rfl⟩
    · exact .inl (by rw [step, evaluate_of_not_mem waiting member, settle_none])

theorem step_expire : heartbeats.step .expire = heartbeats ∨
    ∃ correlation, heartbeats.server.waiting = some correlation ∧
      heartbeats.step .expire = heartbeats.ended correlation := by
  cases waiting : heartbeats.server.waiting with
  | none => exact .inl (by rw [step, expire_of_none waiting, settle_none])
  | some correlation => exact .inr ⟨correlation, rfl, by rw [step, expire_of_some waiting]; rfl⟩

theorem step_cases (event : Event) : heartbeats.step event = heartbeats ∨
    (∃ started sent traceParent, event = .broadcast started sent traceParent ∧
      heartbeats.server.waiting = none ∧
      heartbeats.step event = heartbeats.begun started sent traceParent) ∨
    (∃ request ∈ heartbeats.broadcasts,
      heartbeats.step event = heartbeats.replied request.correlationId) ∨
    ∃ correlation, heartbeats.server.waiting = some correlation ∧
      heartbeats.step event = heartbeats.ended correlation := by
  cases event with
  | broadcast started sent traceParent =>
    cases waiting : heartbeats.server.waiting with
    | none =>
      refine .inr (.inl ⟨started, sent, traceParent, rfl, rfl, ?_⟩)
      simp only [step, broadcast, waiting, Option.isSome_none, Bool.false_eq_true, if_false]
      rfl
    | some correlation =>
      refine .inl ?_
      simp only [step, broadcast, waiting, Option.isSome_some, if_true]
  | respond index now traceParent =>
    cases found : heartbeats.broadcasts[index]? with
    | none => exact .inl (by simp only [step, respond, found])
    | some request =>
      refine .inr (.inr (.inl ⟨request, List.mem_of_getElem? found, ?_⟩))
      simp only [step, respond, found]
      rfl
  | evaluate =>
    obtain same | ends := heartbeats.step_evaluate
    · exact .inl same
    · exact .inr (.inr (.inr ends))
  | expire =>
    obtain same | ends := heartbeats.step_expire
    · exact .inl same
    · exact .inr (.inr (.inr ends))

end Heartbeats

section Verdicts

variable {heartbeats : Heartbeats}

/-- While a round waits, its id is in the set exactly if an answer to it has arrived. -/
def Awaits (heartbeats : Heartbeats) : Prop :=
  ∀ correlation, heartbeats.server.waiting = some correlation →
    (correlation ∈ heartbeats.server.heartbeatResponses ↔ heartbeats.arrived = true)

/-- A round starts with an id that is not in the set yet. -/
def Fresh (heartbeats : Heartbeats) : Event → Prop
  | .broadcast started _ _ => heartbeats.server.waiting = none →
    correlationOf started (heartbeats.server.sequence + 1) ∉ heartbeats.server.heartbeatResponses
  | _ => True

theorem Awaits.verdictRight (awaits : Awaits heartbeats) (event : Event) :
    VerdictRight heartbeats event := by
  cases event with
  | broadcast => trivial
  | respond => trivial
  | evaluate =>
    intro round ends
    cases waiting : heartbeats.server.waiting with
    | none =>
      rw [evaluate_of_none waiting] at ends
      cases ends
    | some correlation =>
      by_cases member : correlation ∈ heartbeats.server.heartbeatResponses
      · rw [evaluate_of_mem waiting member] at ends
        cases ends
        rw [answered_report, (awaits correlation waiting).mp member]
      · rw [evaluate_of_not_mem waiting member] at ends
        cases ends
  | expire =>
    intro round ends
    cases waiting : heartbeats.server.waiting with
    | none =>
      rw [expire_of_none waiting] at ends
      cases ends
    | some correlation =>
      rw [expire_of_some waiting] at ends
      cases ends
      rw [answered_report, Bool.eq_iff_iff, decide_eq_true_iff]
      exact awaits correlation waiting

theorem Awaits.step (awaits : Awaits heartbeats) {event : Event} (fresh : Fresh heartbeats event) :
    Awaits (heartbeats.step event) := by
  obtain same | ⟨started, sent, traceParent, rfl, idle, same⟩ | ⟨request, -, same⟩ |
    ⟨correlation, -, same⟩ := heartbeats.step_cases event
  · rwa [same]
  · -- A round that starts has no answer, neither in the set nor in the memory.
    rw [same]
    intro correlation waiting
    cases waiting
    simpa [Heartbeats.begun] using fresh idle
  · rw [same]
    intro correlation waiting
    have before := awaits correlation waiting
    simp only [Heartbeats.replied] at waiting ⊢
    rw [Finset.mem_insert, before, waiting, Bool.or_eq_true, decide_eq_true_eq,
      Option.some.injEq, or_comm]
  · rw [same]
    intro other waiting
    cases waiting

end Verdicts

section Residues

variable {heartbeats : Heartbeats}

/-- What the set holds: answers that are waited for, or one of a round that is over as well. -/
structure Accounted (heartbeats : Heartbeats) : Prop where
  awaits : Awaits heartbeats
  /-- What was broadcast is over, or it is waited for. -/
  known : ∀ request ∈ heartbeats.broadcasts,
    request.correlationId ∈ heartbeats.finished ∨
      heartbeats.server.waiting = some request.correlationId
  prompt : heartbeats.late = false → ∀ correlation ∈ heartbeats.server.heartbeatResponses,
    heartbeats.server.waiting = some correlation
  residue : heartbeats.late = true → ∃ correlation ∈ heartbeats.finished,
    correlation ∈ heartbeats.server.heartbeatResponses ∧
      heartbeats.server.waiting ≠ some correlation

theorem awaits_start : Awaits {} := by
  intro correlation waiting
  cases waiting

theorem accounted_start : Accounted {} where
  awaits := awaits_start
  known := fun _ member => absurd member List.not_mem_nil
  prompt := fun _ _ member => absurd member (Finset.notMem_empty _)
  residue := fun late => absurd late Bool.false_ne_true

variable (accounted : Accounted heartbeats)
include accounted

theorem Accounted.fresh {event : Event} (prompt : Prompt heartbeats event) :
    Fresh heartbeats event := by
  cases event with
  | broadcast started sent traceParent =>
    intro idle member
    have waiting := accounted.prompt (prompt idle) _ member
    rw [idle] at waiting
    cases waiting
  | respond => trivial
  | evaluate => trivial
  | expire => trivial

/-- An answer is that of the open round, or it stays behind. -/
theorem Accounted.replied {request : Envelope} (sent : request ∈ heartbeats.broadcasts)
    (awaits : Awaits (heartbeats.replied request.correlationId)) :
    Accounted (heartbeats.replied request.correlationId) := by
  refine ⟨awaits, accounted.known, ?_, ?_⟩
  · intro onTime correlation member
    simp only [Heartbeats.replied, Bool.or_eq_false_iff, Bool.not_eq_false',
      decide_eq_true_eq] at onTime member ⊢
    rcases Finset.mem_insert.mp member with rfl | earlier
    · exact onTime.2
    · exact accounted.prompt onTime.1 correlation earlier
  · intro late
    simp only [Heartbeats.replied, Bool.or_eq_true, Bool.not_eq_true', decide_eq_false_iff_not]
      at late ⊢
    rcases late with before | now
    · obtain ⟨correlation, past, member, other⟩ := accounted.residue before
      exact ⟨correlation, past, Finset.mem_insert_of_mem member, other⟩
    · have past := (accounted.known request sent).resolve_right now
      exact ⟨request.correlationId, past, Finset.mem_insert_self _ _, now⟩

theorem Accounted.ended {correlation : String}
    (waiting : heartbeats.server.waiting = some correlation)
    (awaits : Awaits (heartbeats.ended correlation)) :
    Accounted (heartbeats.ended correlation) := by
  refine ⟨awaits, ?_, ?_, ?_⟩
  · intro request sent
    refine .inl (List.mem_append.mpr ?_)
    rcases accounted.known request sent with past | open'
    · exact .inl past
    · rw [waiting] at open'
      cases open'
      exact .inr (List.mem_singleton_self _)
  · -- Where only the open round had an answer, none is left.
    intro onTime other member
    obtain ⟨differs, earlier⟩ := Finset.mem_erase.mp member
    have same := accounted.prompt onTime other earlier
    rw [waiting] at same
    cases same
    exact absurd rfl differs
  · -- The end of another round does not remove what stayed behind.
    intro late
    obtain ⟨other, past, member, differs⟩ := accounted.residue late
    have apart : other ≠ correlation := fun same => differs (same ▸ waiting)
    exact ⟨other, List.mem_append_left _ past, Finset.mem_erase.mpr ⟨apart, member⟩,
      (Option.some_ne_none other).symm⟩

theorem Accounted.step {event : Event} (prompt : Prompt heartbeats event) :
    Accounted (heartbeats.step event) := by
  have awaits := accounted.awaits.step (accounted.fresh prompt)
  obtain same | ⟨started, sent, traceParent, rfl, idle, same⟩ | ⟨request, sent, same⟩ |
    ⟨correlation, waiting, same⟩ := heartbeats.step_cases event
  · rwa [same]
  · rw [same] at awaits ⊢
    have onTime := prompt idle
    refine ⟨awaits, ?_, ?_, ?_⟩
    · intro request member
      rcases List.mem_append.mp member with earlier | new
      · have past := accounted.known request earlier
        rw [idle] at past
        exact .inl (past.resolve_right (Option.some_ne_none _).symm)
      · rw [List.mem_singleton.mp new]
        exact .inr rfl
    · intro _ other member
      have waited := accounted.prompt onTime other member
      rw [idle] at waited
      cases waited
    · intro late
      rw [Heartbeats.begun, onTime] at late
      cases late
  · rw [same] at awaits ⊢
    exact accounted.replied sent awaits
  · rw [same] at awaits ⊢
    exact accounted.ended waiting awaits

/-- What stays behind is there when the next round starts, and nothing else is. -/
theorem Accounted.noResidue_iff (event : Event) :
    NoResidue heartbeats event ↔ Prompt heartbeats event := by
  cases event with
  | broadcast started sent traceParent =>
    refine forall_congr' fun idle => ⟨fun clean => ?_, fun onTime other _ member => ?_⟩
    · by_contra late
      obtain ⟨other, past, member, -⟩ := accounted.residue (Bool.eq_true_of_not_eq_false late)
      exact clean other past member
    · have waited := accounted.prompt onTime other member
      rw [idle] at waited
      cases waited
  | respond => exact Iff.rfl
  | evaluate => exact Iff.rfl
  | expire => exact Iff.rfl

end Residues

section Numbers

variable {heartbeats : Heartbeats}

theorem correlationOf_eq (started : Int) (sequence : UInt64) : correlationOf started sequence =
      "heartbeat-" ++ toString started ++ "-" ++ toString sequence.toNat := rfl

/-- Every id in the set was broadcast with a number that the counter has passed. -/
structure Issued (heartbeats : Heartbeats) : Prop where
  awaits : Awaits heartbeats
  stored : ∀ correlation ∈ heartbeats.server.heartbeatResponses,
    ∃ request ∈ heartbeats.broadcasts, request.correlationId = correlation
  numbers : ∀ request ∈ heartbeats.broadcasts, ∃ started sequence,
    sequence ≤ heartbeats.server.sequence ∧ request.correlationId = correlationOf started sequence

theorem issued_start : Issued {} where
  awaits := awaits_start
  stored := fun _ member => absurd member (Finset.notMem_empty _)
  numbers := fun _ member => absurd member List.not_mem_nil

theorem toNat_next (numbered : heartbeats.server.sequence.toNat + 1 < 2 ^ 64) :
    (heartbeats.server.sequence + 1).toNat = heartbeats.server.sequence.toNat + 1 := by
  rw [UInt64.toNat_add]
  exact Nat.mod_eq_of_lt numbered

/-- The id of a new round is new, because its number is. -/
theorem Issued.fresh (issued : Issued heartbeats) {event : Event}
    (numbered : Numbered heartbeats event) : Fresh heartbeats event := by
  cases event with
  | broadcast started sent traceParent =>
    intro _ member
    obtain ⟨request, broadcast, named⟩ := issued.stored _ member
    obtain ⟨earlier, sequence, bound, issuedAs⟩ := issued.numbers request broadcast
    rw [named, correlationOf_eq, correlationOf_eq] at issuedAs
    have same := NumberedText.number_inj issuedAs
    rw [toNat_next numbered] at same
    have small := UInt64.le_iff_toNat_le.mp bound
    omega
  | respond => trivial
  | evaluate => trivial
  | expire => trivial

theorem Issued.step (issued : Issued heartbeats) {event : Event}
    (numbered : Numbered heartbeats event) : Issued (heartbeats.step event) := by
  have awaits := issued.awaits.step (issued.fresh numbered)
  obtain same | ⟨started, sent, traceParent, rfl, -, same⟩ | ⟨request, sent, same⟩ |
    ⟨correlation, -, same⟩ := heartbeats.step_cases event
  · rwa [same]
  · rw [same] at awaits ⊢
    refine ⟨awaits, ?_, ?_⟩
    · intro correlation member
      obtain ⟨request, broadcast, named⟩ := issued.stored correlation member
      exact ⟨request, List.mem_append_left _ broadcast, named⟩
    · intro request member
      rcases List.mem_append.mp member with earlier | new
      · obtain ⟨started, sequence, bound, named⟩ := issued.numbers request earlier
        have next : heartbeats.server.sequence ≤ heartbeats.server.sequence + 1 := by
          rw [UInt64.le_iff_toNat_le, toNat_next numbered]
          omega
        exact ⟨started, sequence, UInt64.le_trans bound next, named⟩
      · rw [List.mem_singleton.mp new]
        exact ⟨started, heartbeats.server.sequence + 1, UInt64.le_refl _, rfl⟩
  · rw [same] at awaits ⊢
    refine ⟨awaits, ?_, issued.numbers⟩
    intro correlation member
    rcases Finset.mem_insert.mp member with rfl | earlier
    · exact ⟨request, sent, rfl⟩
    · exact issued.stored correlation earlier
  · rw [same] at awaits ⊢
    exact ⟨awaits, fun other member => issued.stored other (Finset.mem_of_mem_erase member),
      issued.numbers⟩

end Numbers

/-- In a run, the rounds end as answered exactly if an answer has arrived and leave nothing behind, if
and only if no round starts after an answer that came while its round was not waiting for it. -/
theorem rounds_clean_iff (events : List Event) :
    Along Heartbeats.step Clean {} events ↔ Along Heartbeats.step Prompt {} events := by
  have kept : ∀ heartbeats event, Accounted heartbeats → Prompt heartbeats event →
      Accounted (heartbeats.step event) := by
    intro heartbeats event accounted prompt
    exact accounted.step prompt
  have same : ∀ heartbeats event, Accounted heartbeats →
      (Clean heartbeats event ↔ Prompt heartbeats event) := by
    intro heartbeats event accounted
    rw [Clean, accounted.noResidue_iff]
    exact and_iff_right (accounted.awaits.verdictRight event)
  exact Along.congr kept same accounted_start events

/-- Two subprocesses answer the first broadcast, the second of them when the round is over. -/
def secondAnswer : List Event :=
  [.broadcast 1000 1001 "", .respond 0 1002 "", .evaluate, .respond 0 1003 "",
    .broadcast 9000 9001 ""]

theorem second_answer_stays : ¬ Along Heartbeats.step Clean {} secondAnswer := by
  intro clean
  obtain ⟨-, -, -, -, ⟨-, residue⟩, -⟩ := clean
  exact residue (by decide) (correlationOf 1000 1) (by decide) (by decide)

/-- Late answers or not: as long as the counter has numbers left, a round ends as answered exactly if
an answer to it has arrived. -/
theorem verdicts_right {events : List Event} (numbered : Along Heartbeats.step Numbered {} events) :
    Along Heartbeats.step VerdictRight {} events := by
  have kept : ∀ heartbeats event, Issued heartbeats → Numbered heartbeats event →
      Issued (heartbeats.step event) := by
    intro heartbeats event issued numbered
    exact issued.step numbered
  have holds : ∀ heartbeats event, Issued heartbeats → Numbered heartbeats event →
      VerdictRight heartbeats event := by
    intro heartbeats event issued _
    exact issued.awaits.verdictRight event
  exact Along.of_invariant kept holds issued_start numbered

theorem second_answer_right : Along Heartbeats.step VerdictRight {} secondAnswer := by
  refine verdicts_right ⟨?_, ?_, ?_, ?_, ?_, trivial⟩ <;> unfold Numbered <;> decide

end PocoDDS.Server
