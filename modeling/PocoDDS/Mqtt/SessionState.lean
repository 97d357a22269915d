import Mathlib.Logic.Function.Basic
import PocoDDS.Lib.Run
import PocoDDS.Mqtt.MqttClient

/-! Whether the flag of the client, the library and the session of the broker agree. -/

namespace PocoDDS.Mqtt

open Protocols RunLogic OrderedMap

/-- Where a call of `isOpen` is: it has seen the flag, or it is about to reset it. -/
inductive Asker
  | asking
  | writing
  deriving DecidableEq, Repr

/-- The client, the calls of `isOpen` and the reports of losses that are under way; and the memory of
whether it is up (`open` has returned, and there was no loss and no `close` since), of whether it has
been closed since the last `open`, and of what it has subscribed to. -/
structure Observed where
  client : MqttClient
  askers : List Asker := []
  losses : Nat := 0
  up : Bool := false
  closed : Bool := false
  wanted : String → Option QoS := fun _ => none

/-- A call under the mutex, a step of `isOpen`, the loss of the connection, or its report. -/
inductive Event
  | openConnection (now : Int) (answers : OpenAnswers)
  | close (steady answer : Int)
  | publish (now : Int) (topic payload : String) (qos : QoS) (answers : PublishAnswers)
  | subscribe (now : Int) (topic : String) (qos : QoS) (answer : Int)
  | unsubscribe (now : Int) (topic : String) (answer : Int)
  | isOpenRead
  | isOpenAsk (index : Nat)
  | isOpenWrite (index : Nat)
  | lost
  | connectionLost (steady now : Int) (cause : String)

namespace Observed

variable (observed : Observed)

def openConnection (now : Int) (answers : OpenAnswers) : Observed :=
  match observed.client.openConnection now answers with
  | (.ok (), client) => { observed with client, up := true, closed := false }
  | (.error _, client) => { observed with client, closed := false }

def subscribe (now : Int) (topic : String) (qos : QoS) (answer : Int) : Observed :=
  match observed.client.subscribe now topic qos answer with
  | (.ok (), client) =>
    { observed with client, wanted := Function.update observed.wanted topic (some qos) }
  | (.error _, client) => { observed with client }

def unsubscribe (now : Int) (topic : String) (answer : Int) : Observed :=
  match observed.client.unsubscribe now topic answer with
  | (.ok (), client) => { observed with client, wanted := Function.update observed.wanted topic none }
  | (.error _, client) => { observed with client }

def isOpenAsk (index : Nat) : Observed :=
  if observed.askers[index]? = some .asking then
    if observed.client.paho.connected then
      { observed with askers := observed.askers.eraseIdx index }
    else { observed with askers := observed.askers.set index .writing }
  else observed

def isOpenWrite (index : Nat) : Observed :=
  if observed.askers[index]? = some .writing then
    { observed with
      client := { observed.client with connected := false }
      askers := observed.askers.eraseIdx index }
  else observed

def lost : Observed :=
  if observed.client.paho.connected then
    { observed with
      client := { observed.client with paho := { observed.client.paho with connected := false } }
      losses := observed.losses + 1
      up := false }
  else observed

def connectionLost (steady now : Int) (cause : String) : Observed :=
  if 0 < observed.losses then
    { observed with
      client := observed.client.onConnectionLost steady now cause
      losses := observed.losses - 1 }
  else observed

def step : Event → Observed
  | .openConnection now answers => observed.openConnection now answers
  | .close steady answer =>
    { observed with client := observed.client.close steady answer, up := false, closed := true }
  | .publish now topic payload qos answers =>
    { observed with client := (observed.client.publish now topic payload qos answers).2 }
  | .subscribe now topic qos answer => observed.subscribe now topic qos answer
  | .unsubscribe now topic answer => observed.unsubscribe now topic answer
  | .isOpenRead =>
    if observed.client.connected then { observed with askers := observed.askers ++ [.asking] }
    else observed
  | .isOpenAsk index => observed.isOpenAsk index
  | .isOpenWrite index => observed.isOpenWrite index
  | .lost => observed.lost
  | .connectionLost steady now cause => observed.connectionLost steady now cause

end Observed

/-- Both questions of `isOpen` are answered by the truth, the session holds what was subscribed to,
and a closed client is not connected. -/
structure Faithful (observed : Observed) : Prop where
  reported : observed.up = true →
    observed.client.connected = true ∧ observed.client.paho.connected = true
  session : observed.up = true →
    ∀ topic, observed.client.paho.holds topic = observed.wanted topic
  closed : observed.closed = true → observed.client.paho.connected = false

/-- No `isOpen` and no report resets the flag behind a later `open`, and `close` finds the flag of a
connected client set and is answered with success. -/
def Timely (observed : Observed) : Event → Prop
  | .isOpenWrite index => observed.askers[index]? = some .writing → observed.up = false
  | .connectionLost steady _ _ => 0 < observed.losses →
      observed.up = false ∨ observed.client.ignoresLoss steady = true
  | .close _ answer => observed.client.paho.connected = true →
      observed.client.connected = true ∧ answer = PahoClient.success
  | _ => True

section Sessions

variable {paho : PahoClient} {entries : List (String × QoS)} {answers : String → Int}

theorem subscribe_connected (topic : String) (qos : QoS) (answer : Int) :
    (paho.subscribe topic qos answer).2.connected = paho.connected := by
  unfold PahoClient.subscribe
  split <;> rfl

theorem subscribe_holds (topic : String) (qos : QoS) (answer : Int) (other : String) :
    (paho.subscribe topic qos answer).2.holds other =
      if (paho.subscribe topic qos answer).1 = PahoClient.success ∧ other = topic then some qos
      else paho.holds other := by
  unfold PahoClient.subscribe
  split
  · simp [PahoClient.holds, lookup_assign]
  · rename_i failed
    simp [failed]

theorem requireSuccess_ok_iff {result : Int} {operation : String} :
    MqttClient.requireSuccess result operation = .ok () ↔ result = PahoClient.success := by
  unfold MqttClient.requireSuccess
  split <;> simp [*]

theorem restore_connected :
    (MqttClient.restore answers paho entries).2.connected = paho.connected := by
  -- No subscription changes the connection, whether it is the last or not.
  induction entries generalizing paho with
  | nil => rfl
  | cons entry rest ih =>
    obtain ⟨topic, qos⟩ := entry
    have same := @subscribe_connected paho topic qos (answers topic)
    unfold MqttClient.restore
    dsimp only
    split
    · exact same
    · exact ih.trans same

/-- Restoring what the session holds already leaves it as it is, wherever it ends. -/
theorem restore_kept {wanted : String → Option QoS} (held : ∀ topic, paho.holds topic = wanted topic)
    (listed : ∀ entry ∈ entries, wanted entry.1 = some entry.2) (topic : String) :
    (MqttClient.restore answers paho entries).2.holds topic = wanted topic := by
  induction entries generalizing paho with
  | nil => exact held topic
  | cons entry rest ih =>
    obtain ⟨first, qos⟩ := entry
    -- The subscription puts in its place what is there already.
    have same (topic : String) :
        (paho.subscribe first qos (answers first)).2.holds topic = wanted topic := by
      rw [subscribe_holds]
      split
      · rename_i here
        rw [here.2, listed (first, qos) (by simp)]
      · exact held topic
    unfold MqttClient.restore
    dsimp only
    split
    · exact same topic
    · exact ih same fun entry later => listed entry (by simp [later])

/-- Restoring all subscriptions puts them over what the session held. -/
theorem restore_done (ordered : Ordered entries)
    (done : (MqttClient.restore answers paho entries).1 = .ok ()) (topic : String) :
    (MqttClient.restore answers paho entries).2.holds topic =
      (entries.lookup topic).or (paho.holds topic) := by
  induction entries generalizing paho with
  | nil => simp [MqttClient.restore]
  | cons entry rest ih =>
    obtain ⟨first, qos⟩ := entry
    -- The topic does not occur again behind its entry, so that no later one overrides it.
    have absent : rest.lookup first = none := ordered.lookup_tail
    have behind : Ordered rest := (List.pairwise_cons.mp ordered).2
    unfold MqttClient.restore at done ⊢
    dsimp only at done ⊢
    split
    · rename_i failed
      rw [failed] at done
      cases done
    · rename_i succeeded
      rw [succeeded] at done
      have result := requireSuccess_ok_iff.mp succeeded
      rw [ih behind done, subscribe_holds, lookup_cons_eq]
      by_cases here : topic = first
      · subst here
        simp [absent, result]
      · simp [here]

end Sessions

section Opening

variable {client : MqttClient} {now : Int} {answers : OpenAnswers}

/-- Where `open` gets through, the client is connected, and its session holds the subscriptions. -/
theorem connectAndRestore_done (ordered : Ordered client.subscriptions)
    (done : (client.connectAndRestore answers).1 = .ok ()) :
    (client.connectAndRestore answers).2.connected = true ∧
      ∀ topic, (client.connectAndRestore answers).2.holds topic =
        (client.subscriptions.lookup topic).or
          (if client.cleanSession then none else client.paho.holds topic) := by
  unfold MqttClient.connectAndRestore at done ⊢
  dsimp only at done ⊢
  split
  · rename_i failed
    rw [failed] at done
    cases done
  · rename_i connected
    rw [connected] at done
    have success := requireSuccess_ok_iff.mp connected
    have linked : (client.paho.connect client.cleanSession answers.connect).2 =
        ⟨true, if client.cleanSession then [] else client.paho.session⟩ := by
      unfold PahoClient.connect at success ⊢
      split
      · rfl
      · rename_i refused
        simp [refused] at success
    rw [linked] at done ⊢
    refine ⟨restore_connected, fun topic => ?_⟩
    rw [restore_done ordered done]
    cases client.cleanSession <;> simp [PahoClient.holds]

/-- A session that is kept is the same wherever `open` ends. -/
theorem connectAndRestore_kept {wanted : String → Option QoS} (kept : client.cleanSession = false)
    (held : ∀ topic, client.paho.holds topic = wanted topic)
    (listed : ∀ entry ∈ client.subscriptions, wanted entry.1 = some entry.2) (topic : String) :
    (client.connectAndRestore answers).2.holds topic = wanted topic := by
  have same (topic : String) :
      (client.paho.connect client.cleanSession answers.connect).2.holds topic = wanted topic := by
    unfold PahoClient.connect
    split
    · simpa [kept, PahoClient.holds] using held topic
    · exact held topic
  unfold MqttClient.connectAndRestore
  dsimp only
  split
  · exact same topic
  · exact restore_kept same listed topic

/-- What is recorded of a failed `open` leaves the subscriptions and the session. -/
theorem abandon_kept (client : MqttClient) (now : Int) (message : String) (answer : Int) :
    (client.abandon now message answer).connected = false ∧
      (client.abandon now message answer).cleanSession = client.cleanSession ∧
      (client.abandon now message answer).subscriptions = client.subscriptions ∧
      (client.abandon now message answer).paho.session = client.paho.session := by
  unfold MqttClient.abandon PahoClient.disconnect
  split
  · split <;> exact ⟨rfl, rfl, rfl, rfl⟩
  · exact ⟨rfl, rfl, rfl, rfl⟩

/-- What `open` does of a client that is not connected: it gives up and the flag is off, or it gets
through and the flag is on. -/
theorem openConnection_cases (apart : ¬(client.connected && client.paho.connected) = true) :
    (∃ message after, client.openConnection now answers = (.error message, after) ∧
      after.connected = false ∧ after.cleanSession = client.cleanSession ∧
      after.subscriptions = client.subscriptions ∧
      after.paho.session = (client.connectAndRestore answers).2.session) ∨
    (∃ after, client.openConnection now answers = (.ok (), after) ∧
      (client.connectAndRestore answers).1 = .ok () ∧
      after.connected = true ∧ after.cleanSession = client.cleanSession ∧
      after.subscriptions = client.subscriptions ∧
      after.paho = (client.connectAndRestore answers).2) := by
  -- Neither the flag nor the diagnostics enter into the calls of the library.
  have same (record : ProtocolRecord) :
      { client with connected := false, record }.connectAndRestore answers =
        client.connectAndRestore answers := rfl
  unfold MqttClient.openConnection
  rw [if_neg apart]
  dsimp only
  rw [same]
  match client.connectAndRestore answers with
  | (.error message, paho) =>
    left
    exact ⟨message, _, rfl, abandon_kept _ now message answers.disconnect⟩
  | (.ok (), paho) =>
    right
    exact ⟨_, rfl, rfl, rfl, rfl, rfl, rfl⟩

end Opening

section Invariant

variable {observed : Observed}

/-- What holds of a client whose steps come in time. -/
structure Sound (observed : Observed) : Prop where
  up_iff : observed.up = true ↔
    observed.client.connected = true ∧ observed.client.paho.connected = true
  ordered : Ordered observed.client.subscriptions
  known : ∀ topic, observed.client.subscriptions.lookup topic = observed.wanted topic
  held : observed.up = true ∨ observed.client.cleanSession = false →
    ∀ topic, observed.client.paho.holds topic = observed.wanted topic
  closed : observed.closed = true → observed.client.paho.connected = false

theorem Sound.faithful (sound : Sound observed) : Faithful observed :=
  ⟨sound.up_iff.mp, fun up => sound.held (.inl up), sound.closed⟩

/-- Another client with the same flag, the same connection and the same subscriptions. -/
structure Alike (client after : MqttClient) : Prop where
  connected : after.connected = client.connected
  paho : after.paho = client.paho
  subscriptions : after.subscriptions = client.subscriptions
  cleanSession : after.cleanSession = client.cleanSession

/-- What is recorded of an operation changes nothing that has to agree. -/
theorem Sound.of_alike (sound : Sound observed) {client : MqttClient}
    (alike : Alike observed.client client) : Sound { observed with client } := by
  obtain ⟨connected, paho, subscriptions, cleanSession⟩ := alike
  constructor
  · simpa [connected, paho] using sound.up_iff
  · simpa [subscriptions] using sound.ordered
  · simpa [subscriptions] using sound.known
  · simpa [paho, cleanSession] using sound.held
  · simpa [paho] using sound.closed

theorem Sound.publish (sound : Sound observed) (now : Int) (topic payload : String) (qos : QoS)
    (answers : PublishAnswers) :
    Sound { observed with client := (observed.client.publish now topic payload qos answers).2 } := by
  apply sound.of_alike
  unfold MqttClient.publish
  split
  · exact ⟨rfl, rfl, rfl, rfl⟩
  · split
    · exact ⟨rfl, rfl, rfl, rfl⟩
    · split
      · exact ⟨rfl, rfl, rfl, rfl⟩
      · split <;> exact ⟨rfl, rfl, rfl, rfl⟩

theorem connected_of_report {paho : PahoClient} {answer : Int}
    (success : paho.report answer = PahoClient.success) : paho.connected = true := by
  cases linked : paho.connected with
  | true => rfl
  | false => simp [PahoClient.report, linked, PahoClient.disconnected, PahoClient.success] at success

variable (sound : Sound observed)
include sound

theorem Sound.changed (up : observed.up = true) {client : MqttClient} {wanted : String → Option QoS}
    (connected : client.connected = true) (linked : client.paho.connected = true)
    (ordered : Ordered client.subscriptions)
    (known : ∀ topic, client.subscriptions.lookup topic = wanted topic)
    (held : ∀ topic, client.paho.holds topic = wanted topic) :
    Sound { observed with client, wanted } := by
  constructor
  · simp [up, connected, linked]
  · exact ordered
  · exact known
  · intro _
    exact held
  · intro closed
    have apart := sound.closed closed
    simp [(sound.up_iff.mp up).2] at apart

theorem Sound.subscribe (now : Int) (topic : String) (qos : QoS) (answer : Int) :
    Sound (observed.subscribe now topic qos answer) := by
  unfold Observed.subscribe MqttClient.subscribe
  by_cases empty : topic = ""
  · simpa [empty] using sound
  cases connected : observed.client.connected with
  | false => simpa [empty, connected] using sound
  | true =>
    simp only [empty, if_false, Bool.not_true, Bool.false_eq_true]
    by_cases success : observed.client.paho.report answer = PahoClient.success
    · -- The flag and the library agree here, so that the client is up and its session known.
      have linked := connected_of_report success
      have up : observed.up = true := sound.up_iff.mpr ⟨connected, linked⟩
      simp only [PahoClient.subscribe, success, if_true, MqttClient.requireSuccess]
      apply sound.changed up
      · rfl
      · exact linked
      · exact sound.ordered.assign
      · intro other
        simp only [MqttClient.markSuccess, lookup_assign, Function.update_apply, sound.known]
      · intro other
        have same := sound.held (.inl up) other
        unfold PahoClient.holds at same ⊢
        simp only [MqttClient.markSuccess, lookup_assign, Function.update_apply, same]
    · simp only [PahoClient.subscribe, success, if_false, MqttClient.requireSuccess]
      exact sound.of_alike ⟨connected.symm, rfl, rfl, rfl⟩

theorem Sound.unsubscribe (now : Int) (topic : String) (answer : Int) :
    Sound (observed.unsubscribe now topic answer) := by
  unfold Observed.unsubscribe MqttClient.unsubscribe
  cases connected : observed.client.connected with
  | false => simpa [connected] using sound
  | true =>
    simp only [if_false, Bool.not_true, Bool.false_eq_true]
    by_cases success : observed.client.paho.report answer = PahoClient.success
    · have linked := connected_of_report success
      have up : observed.up = true := sound.up_iff.mpr ⟨connected, linked⟩
      simp only [PahoClient.unsubscribe, success, if_true, MqttClient.requireSuccess]
      apply sound.changed up
      · rfl
      · exact linked
      · exact sound.ordered.erase
      · intro other
        simp only [MqttClient.markSuccess, lookup_erase, Function.update_apply, sound.known]
      · intro other
        have same := sound.held (.inl up) other
        unfold PahoClient.holds at same ⊢
        simp only [MqttClient.markSuccess, lookup_erase, Function.update_apply, same]
    · simp only [PahoClient.unsubscribe, success, if_false, MqttClient.requireSuccess]
      exact sound.of_alike ⟨connected.symm, rfl, rfl, rfl⟩

/-- A client that is not up may lose its flag. -/
theorem Sound.forget (down : observed.up = false) :
    Sound { observed with client := { observed.client with connected := false } } := by
  constructor
  · simp [down]
  · exact sound.ordered
  · exact sound.known
  · exact sound.held
  · exact sound.closed

theorem Sound.listed (entry : String × QoS) (member : entry ∈ observed.client.subscriptions) :
    observed.wanted entry.1 = some entry.2 := by
  rw [← sound.known]
  exact sound.ordered.lookup_of_mem member

/-- An `open` that gives up leaves the flag off and a kept session as it was. -/
theorem Sound.givenUp (down : observed.up = false) {after : MqttClient} {answers : OpenAnswers}
    (flag : after.connected = false)
    (cleanSession : after.cleanSession = observed.client.cleanSession)
    (subscriptions : after.subscriptions = observed.client.subscriptions)
    (session : after.paho.session = (observed.client.connectAndRestore answers).2.session) :
    Sound { observed with client := after, closed := false } := by
  constructor
  · simp [down, flag]
  · simpa [subscriptions] using sound.ordered
  · simpa [subscriptions] using sound.known
  · intro which topic
    -- What has been restored of a kept session was in it before.
    have kept : observed.client.cleanSession = false := by
      simpa [down, cleanSession] using which
    have held := @connectAndRestore_kept _ answers _ kept (sound.held (.inr kept)) sound.listed topic
    unfold PahoClient.holds at held ⊢
    rwa [session]
  · intro closed
    cases closed

/-- An `open` that gets through has put the subscriptions over the session. -/
theorem Sound.opened {after : MqttClient} {answers : OpenAnswers}
    (done : (observed.client.connectAndRestore answers).1 = .ok ()) (flag : after.connected = true)
    (subscriptions : after.subscriptions = observed.client.subscriptions)
    (paho : after.paho = (observed.client.connectAndRestore answers).2) :
    Sound { observed with client := after, up := true, closed := false } := by
  obtain ⟨linked, holds⟩ := connectAndRestore_done sound.ordered done
  constructor
  · simp [flag, paho, linked]
  · simpa [subscriptions] using sound.ordered
  · simpa [subscriptions] using sound.known
  · intro _ topic
    dsimp only
    rw [paho, holds, sound.known]
    -- The session was empty, or held the subscriptions before.
    cases which : observed.client.cleanSession with
    | true => simp
    | false => simp [sound.held (.inr which)]
  · intro closed
    cases closed

theorem Sound.openConnection (now : Int) (answers : OpenAnswers) :
    Sound (observed.openConnection now answers) := by
  unfold Observed.openConnection
  by_cases early : (observed.client.connected && observed.client.paho.connected) = true
  · -- The client is up already and stays so.
    have up : observed.up = true := sound.up_iff.mpr (by simpa using early)
    have same : observed.client.openConnection now answers = (.ok (), observed.client) := by
      unfold MqttClient.openConnection
      rw [if_pos early]
    rw [same]
    constructor
    · simpa using early
    · exact sound.ordered
    · exact sound.known
    · intro _
      exact sound.held (.inl up)
    · intro closed
      cases closed
  have down : observed.up = false := by
    rw [← Bool.not_eq_true]
    intro up
    apply early
    simpa using sound.up_iff.mp up
  obtain ⟨message, after, ended, flag, cleanSession, subscriptions, session⟩ |
    ⟨after, ended, done, flag, -, subscriptions, paho⟩ :=
      @openConnection_cases observed.client now answers early
  · rw [ended]
    exact sound.givenUp down flag cleanSession subscriptions session
  · rw [ended]
    exact sound.opened done flag subscriptions paho

theorem Sound.close {steady answer : Int} (timely : Timely observed (.close steady answer)) :
    Sound (observed.step (.close steady answer)) := by
  unfold Timely at timely
  unfold Observed.step MqttClient.close
  cases flag : observed.client.connected with
  | false =>
    -- An early return is in order where the library is not connected either.
    have apart : observed.client.paho.connected = false := by
      rw [← Bool.not_eq_true]
      intro linked
      have := (timely linked).1
      simp [flag] at this
    constructor
    · simp [flag]
    · exact sound.ordered
    · exact sound.known
    · intro which
      exact sound.held (.inr (by simpa using which))
    · intro _
      exact apart
  | true =>
    constructor
    · simp
    · exact sound.ordered
    · exact sound.known
    · intro which topic
      have held := sound.held (.inr (by simpa using which)) topic
      simp only [Bool.not_true, Bool.false_eq_true, if_false]
      unfold PahoClient.disconnect
      split <;> exact held
    · intro _
      simp only [Bool.not_true, Bool.false_eq_true, if_false]
      unfold PahoClient.disconnect PahoClient.report
      cases linked : observed.client.paho.connected with
      | false => simp [linked, PahoClient.disconnected, PahoClient.success]
      | true => simp [(timely linked).2]

theorem Sound.isOpenWrite {index : Nat} (timely : Timely observed (.isOpenWrite index)) :
    Sound (observed.isOpenWrite index) := by
  unfold Observed.isOpenWrite
  split
  · rename_i writing
    have forgotten := sound.forget (timely writing)
    exact ⟨forgotten.up_iff, forgotten.ordered, forgotten.known, forgotten.held, forgotten.closed⟩
  · exact sound

theorem Sound.lost : Sound observed.lost := by
  unfold Observed.lost
  split
  · constructor
    · simp
    · exact sound.ordered
    · exact sound.known
    · intro which
      exact sound.held (.inr (by simpa using which))
    · intro _
      rfl
  · exact sound

theorem Sound.connectionLost {steady now : Int} {cause : String}
    (timely : Timely observed (.connectionLost steady now cause)) :
    Sound (observed.connectionLost steady now cause) := by
  unfold Observed.connectionLost MqttClient.onConnectionLost
  split
  · rename_i reported
    split
    · exact ⟨sound.up_iff, sound.ordered, sound.known, sound.held, sound.closed⟩
    · rename_i taken
      have down : observed.up = false := (timely reported).resolve_right taken
      have forgotten := sound.forget down
      exact ⟨forgotten.up_iff, forgotten.ordered, forgotten.known, forgotten.held, forgotten.closed⟩
  · exact sound

theorem Sound.step {event : Event} (timely : Timely observed event) :
    Sound (observed.step event) := by
  cases event with
  | openConnection now answers => exact sound.openConnection now answers
  | close steady answer => exact sound.close timely
  | publish now topic payload qos answers => exact sound.publish now topic payload qos answers
  | subscribe now topic qos answer => exact sound.subscribe now topic qos answer
  | unsubscribe now topic answer => exact sound.unsubscribe now topic answer
  | isOpenRead =>
    unfold Observed.step
    dsimp only
    split
    · exact ⟨sound.up_iff, sound.ordered, sound.known, sound.held, sound.closed⟩
    · exact sound
  | isOpenAsk index =>
    change Sound (observed.isOpenAsk index)
    unfold Observed.isOpenAsk
    split
    · split <;> exact ⟨sound.up_iff, sound.ordered, sound.known, sound.held, sound.closed⟩
    · exact sound
  | isOpenWrite index => exact sound.isOpenWrite timely
  | lost => exact sound.lost
  | connectionLost steady now cause => exact sound.connectionLost timely

omit sound

/-- A step that comes too late is told from the state behind it. -/
theorem timely_of_faithful {event : Event} (faithful : Faithful (observed.step event)) :
    Timely observed event := by
  -- Only these three steps may come out of time; each leaves a trace in the state behind it.
  cases event with
  | isOpenWrite index =>
    intro writing
    rw [← Bool.not_eq_true]
    intro up
    have reported := faithful.reported
    simp [Observed.step, Observed.isOpenWrite, writing, up] at reported
  | connectionLost steady now cause =>
    intro reported
    by_contra late
    rw [not_or, Bool.not_eq_false, Bool.not_eq_true] at late
    have seen := faithful.reported
    simp [Observed.step, Observed.connectionLost, reported, MqttClient.onConnectionLost, late.1,
      late.2, MqttClient.markFailure] at seen
  | close steady answer =>
    intro linked
    have apart := faithful.closed rfl
    unfold Observed.step MqttClient.close at apart
    cases flag : observed.client.connected with
    | false => simp [flag, linked] at apart
    | true =>
      simp only [flag, Bool.not_true, Bool.false_eq_true, if_false, PahoClient.disconnect,
        PahoClient.report, linked, if_true] at apart
      by_cases success : answer = PahoClient.success
      · exact ⟨rfl, success⟩
      · simp [success, linked] at apart
  | _ => trivial

theorem faithful_iff (sound : Sound observed) (event : Event) :
    Faithful (observed.step event) ↔ Timely observed event :=
  ⟨timely_of_faithful, fun timely => (sound.step timely).faithful⟩

theorem sound_init (cleanSession : Bool) : Sound { client := { cleanSession } } := by
  constructor
  · simp
  · exact List.Pairwise.nil
  · simp
  · intro _ topic
    rfl
  · simp

end Invariant

/-- Along every run, the client tells the truth behind every step if and only if no step of `isOpen`,
no report of a loss and no `close` comes out of time. -/
theorem state_stays_true_iff (cleanSession : Bool) (events : List Event) :
    Along Observed.step (fun observed event => Faithful (observed.step event))
        { client := { cleanSession } } events ↔
      Along Observed.step Timely { client := { cleanSession } } events := by
  -- Soundness is what the timely steps keep, and behind a sound state truth and timeliness agree.
  have kept (observed : Observed) (event : Event) (sound : Sound observed)
      (timely : Timely observed event) : Sound (observed.step event) := sound.step timely
  have same (observed : Observed) (event : Event) (sound : Sound observed) :
      Faithful (observed.step event) ↔ Timely observed event := faithful_iff sound event
  exact Along.congr kept same (sound_init cleanSession) events

/-- The library answers every call of `open` with success. -/
def granted : OpenAnswers := ⟨PahoClient.success, fun _ => PahoClient.success, PahoClient.success⟩

/-- The connection is lost and opened again while a call of `isOpen` is about to reset the flag. -/
def reopened : List Event :=
  [.openConnection 0 granted, .isOpenRead, .lost, .isOpenAsk 0, .openConnection 1 granted]

/-- What a run makes of a new client. -/
def observe (events : List Event) : Observed := events.foldl Observed.step { client := {} }

/-- A call of `isOpen` resets the flag of a connection that has been opened behind it: `isOpen` denies
the connection, and `close` leaves it to the library. A late report of the loss and a `disconnect`
that fails do so, too. -/
theorem stale_flag_stays :
    (observe (reopened.concat (.isOpenWrite 0))).up = true ∧
      (observe (reopened.concat (.isOpenWrite 0))).client.connected = false ∧
      (observe ((reopened.concat (.isOpenWrite 0)).concat (.close 5 0))).closed = true ∧
      (observe ((reopened.concat (.isOpenWrite 0)).concat (.close 5 0))).client.paho.connected = true ∧
      (observe (reopened.concat (.connectionLost 2 2 ""))).up = true ∧
      (observe (reopened.concat (.connectionLost 2 2 ""))).client.connected = false ∧
      (observe [.openConnection 0 granted, .close 5 (-1)]).closed = true ∧
      (observe [.openConnection 0 granted, .close 5 (-1)]).client.paho.connected = true := by
  decide

end PocoDDS.Mqtt
