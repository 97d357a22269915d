import Mathlib.Data.List.Basic

/-! Envelopes, and the part of the DDS runtime that the endpoints rely on. -/

namespace PocoDDS.FastDDS

/-- A message on a topic. -/
structure Envelope where
  sequence : UInt64 := 0
  timestampMicroseconds : Int := 0
  kind : String := ""
  deviceId : String := ""
  operation : String := ""
  payload : String := ""
  correlationId : String := ""
  traceParent : String := ""
  traceState : String := ""
  businessName : String := ""
  businessInstanceId : String := ""
  status : Int := 0
  deriving DecidableEq, Repr

/-- What foreign code may throw. -/
inductive Thrown
  | poco (name displayText : String)
  | std (what : String)
  | unknown
  deriving DecidableEq, Repr

/-- The writers and readers of a participant, by their topics. -/
structure Runtime where
  participant : Bool
  writers : List String
  readers : List String
  deriving DecidableEq, Repr

/-- An operation that may raise, with the state it leaves behind either way. -/
abbrev Attempt (σ : Type) := Except Thrown Unit × σ

/-- One operation after another; the second does not run if the first raises. -/
def Attempt.andThen {σ : Type} (first : Attempt σ) (next : σ → Attempt σ) : Attempt σ :=
  match first with
  | (.ok _, state) => next state
  | (.error thrown, state) => (.error thrown, state)

/-- A topic is given a writer once; `created` is what Fast DDS says to a new one. -/
def Runtime.preparePublisher (runtime : Runtime) (topic : String) (created : Bool) :
    Attempt Runtime :=
  if !runtime.participant then (.error (.std "Fast DDS runtime is not started"), runtime)
  else if topic ∈ runtime.writers then (.ok (), runtime)
  else if created then (.ok (), { runtime with writers := runtime.writers ++ [topic] })
  else (.error (.std ("Fast DDS failed to create writer: " ++ topic)), runtime)

/-- Every subscription adds a reader, also on a topic that has one. -/
def Runtime.subscribe (runtime : Runtime) (topic : String) (created : Bool) : Attempt Runtime :=
  if !runtime.participant then (.error (.std "Fast DDS runtime is not started"), runtime)
  else if created then (.ok (), { runtime with readers := runtime.readers ++ [topic] })
  else (.error (.std ("Fast DDS failed to create reader: " ++ topic)), runtime)

/-- Publishing creates a missing writer first; `written` is what Fast DDS says to the sample. -/
def Runtime.publish (runtime : Runtime) (topic : String) (created written : Bool) :
    Attempt Runtime :=
  Attempt.andThen (runtime.preparePublisher topic created) fun prepared =>
    if written then (.ok (), prepared)
    else (.error (.std ("Fast DDS failed to write topic: " ++ topic)), prepared)

end PocoDDS.FastDDS
