import PocoDDS.Lib.OrderedMap
import PocoDDS.Reliability.Diagnostics

/-! The MQTT client, and the library and the broker behind it. -/

namespace PocoDDS.Mqtt

open Protocols OrderedMap

inductive QoS
  | atMostOnce
  | atLeastOnce
  | exactlyOnce
  deriving DecidableEq, Repr

/-- What the library and the broker keep: whether the client is connected, and the subscriptions of
its session. -/
structure PahoClient where
  connected : Bool := false
  session : List (String × QoS) := []
  deriving DecidableEq, Repr

namespace PahoClient

/-- The quality with which the session is subscribed to a topic. -/
def holds (paho : PahoClient) (topic : String) : Option QoS := paho.session.lookup topic

def success : Int := 0

/-- What the library reports for a client that is not connected. -/
def disconnected : Int := -3

/-- A clean session starts without subscriptions; another one keeps them. -/
def connect (paho : PahoClient) (cleanSession : Bool) (answer : Int) : Int × PahoClient :=
  if answer = success then
    (success, ⟨true, if cleanSession then [] else paho.session⟩)
  else (answer, paho)

/-- What is reported for a call that needs a connection. -/
def report (paho : PahoClient) (answer : Int) : Int :=
  if paho.connected then answer else disconnected

def subscribe (paho : PahoClient) (topic : String) (qos : QoS) (answer : Int) : Int × PahoClient :=
  if paho.report answer = success then
    (success, { paho with session := assign topic qos paho.session })
  else (paho.report answer, paho)

def unsubscribe (paho : PahoClient) (topic : String) (answer : Int) : Int × PahoClient :=
  if paho.report answer = success then
    (success, { paho with session := erase topic paho.session })
  else (paho.report answer, paho)

def disconnect (paho : PahoClient) (answer : Int) : PahoClient :=
  if paho.report answer = success then { paho with connected := false } else paho

end PahoClient

structure MqttClient where
  cleanSession : Bool := true
  connected : Bool := false
  intentionalDisconnect : Bool := false
  ignoreLossUntilNanoseconds : Int := 0
  everConnected : Bool := false
  subscriptions : List (String × QoS) := []
  record : ProtocolRecord := {}
  paho : PahoClient := {}
  deriving DecidableEq, Repr

/-- What the library answers during `open`. -/
structure OpenAnswers where
  connect : Int
  subscribe : String → Int
  disconnect : Int

/-- What the library answers during `publish`. -/
structure PublishAnswers where
  publish : Int
  wait : Int

namespace MqttClient

variable (client : MqttClient)

def requireSuccess (result : Int) (operation : String) : Except String Unit :=
  if result = PahoClient.success then .ok ()
  else .error ("MQTT " ++ operation ++ " failed with code " ++ toString result)

def markSuccess : MqttClient := { client with record := client.record.succeeded }

def markFailure (now : Int) (message : String) : MqttClient :=
  { client with
    record := client.record.failed now "PDR-PROTOCOL-MQTT-OPERATION_FAILED" .transient true message }

/-- The loop over the subscriptions, which ends at the first that fails. -/
def restore (answers : String → Int) (paho : PahoClient) :
    List (String × QoS) → Except String Unit × PahoClient
  | [] => (.ok (), paho)
  | (topic, qos) :: rest =>
    match paho.subscribe topic qos (answers topic) with
    | (result, paho) =>
      match requireSuccess result "restore subscription" with
      | .error message => (.error message, paho)
      | .ok () => restore answers paho rest

/-- The calls of the library in `open`, up to the first that fails. -/
def connectAndRestore (answers : OpenAnswers) : Except String Unit × PahoClient :=
  match client.paho.connect client.cleanSession answers.connect with
  | (result, paho) =>
    match requireSuccess result "connect" with
    | .error message => (.error message, paho)
    | .ok () => restore answers.subscribe paho client.subscriptions

/-- The exception branch of `open`. -/
def abandon (now : Int) (message : String) (answer : Int) : MqttClient :=
  let left := if client.paho.connected then { client with
      intentionalDisconnect := true
      paho := client.paho.disconnect answer }
    else client
  { left with connected := false }.markFailure now message

def openConnection (now : Int) (answers : OpenAnswers) : Except String Unit × MqttClient :=
  if client.connected && client.paho.connected then (.ok (), client)
  else
    let diagnostics := client.record.diagnostics
    let counted := if client.everConnected then { client.record with diagnostics :=
        { diagnostics with reconnectAttempts := diagnostics.reconnectAttempts + 1 } }
      else client.record
    let client := { client with connected := false, record := counted }
    match client.connectAndRestore answers with
    | (.error message, paho) =>
      (.error message, { client with paho }.abandon now message answers.disconnect)
    | (.ok (), paho) => (.ok (), { client with
        paho
        connected := true
        intentionalDisconnect := false
        everConnected := true }.markSuccess)

def close (steady : Int) (answer : Int) : MqttClient :=
  if !client.connected then client
  else { client with
    connected := false
    intentionalDisconnect := true
    ignoreLossUntilNanoseconds := steady + 1000000000
    paho := client.paho.disconnect answer }

def publish (now : Int) (topic payload : String) (qos : QoS) (answers : PublishAnswers) :
    Except String Unit × MqttClient :=
  if topic = "" then (.error "MQTT publish topic must not be empty", client)
  else if !client.connected then (.error "MQTT client is not connected", client)
  else match requireSuccess (client.paho.report answers.publish) "publish" with
    | .error message => (.error message, client.markFailure now message)
    | .ok () =>
      match if qos = .atMostOnce then .ok ()
        else requireSuccess (client.paho.report answers.wait) "wait for delivery" with
      | .error message => (.error message, client.markFailure now message)
      | .ok () =>
        let client := client.markSuccess
        let diagnostics := { client.record.diagnostics with
          sentMessages := client.record.diagnostics.sentMessages + 1
          sentBytes := client.record.diagnostics.sentBytes + UInt64.ofNat payload.utf8ByteSize }
        (.ok (), { client with record := { client.record with diagnostics } })

def subscribe (now : Int) (topic : String) (qos : QoS) (answer : Int) :
    Except String Unit × MqttClient :=
  if topic = "" then (.error "MQTT subscription topic must not be empty", client)
  else if !client.connected then (.error "MQTT client is not connected", client)
  else match client.paho.subscribe topic qos answer with
    | (result, paho) =>
      let client := { client with paho }
      match requireSuccess result "subscribe" with
      | .error message => (.error message, client.markFailure now message)
      | .ok () => (.ok (), { client with
          subscriptions := assign topic qos client.subscriptions }.markSuccess)

def unsubscribe (now : Int) (topic : String) (answer : Int) : Except String Unit × MqttClient :=
  if !client.connected then (.error "MQTT client is not connected", client)
  else match client.paho.unsubscribe topic answer with
    | (result, paho) =>
      let client := { client with paho }
      match requireSuccess result "unsubscribe" with
      | .error message => (.error message, client.markFailure now message)
      | .ok () => (.ok (), { client with
          subscriptions := erase topic client.subscriptions }.markSuccess)

/-- Whether a loss is passed over. -/
def ignoresLoss (steady : Int) : Bool :=
  client.intentionalDisconnect || decide (steady < client.ignoreLossUntilNanoseconds)

def onConnectionLost (steady now : Int) (cause : String) : MqttClient :=
  if client.ignoresLoss steady then client
  else { client with connected := false }.markFailure now
    ("MQTT connection lost" ++ if cause = "" then "" else ": " ++ cause)

end MqttClient

end PocoDDS.Mqtt
