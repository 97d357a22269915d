import PocoDDS.Lib.UnsignedText
import PocoDDS.Modbus.Client
import PocoDDS.Reliability.Diagnostics

/-! A device of Modbus registers, whose calls open the connection again where it is closed. -/

namespace PocoDDS.Devices.ModbusRegister

open Reliability Modbus UnsignedText

/-- The values of the fields of a payload, up to the first that is none. -/
def numbersOf : List (List Char) → Except String (List UInt16)
  | [] => .ok []
  | token :: rest =>
    match stoul 0 token with
    | .error error => .error error.what
    | .ok value =>
      if value > 0xFFFF then .error "Modbus value exceeds uint16"
      else match numbersOf rest with
        | .error message => .error message
        | .ok values => .ok (UInt16.ofNat value :: values)

def parseNumbers (payload : String) (expected : Nat) : Except String (List UInt16) :=
  match numbersOf (fields ',' payload.toList) with
  | .error message => .error message
  | .ok values =>
    if values.length ≠ expected then
      .error ("expected " ++ toString expected ++ " comma-separated values")
    else .ok values

def join (values : List UInt16) : String := ",".intercalate (values.map toString)

/-- What the connection does in one attempt. -/
structure Attempt where
  now : Int
  opening : Except String Unit
  exchange : Exchange

/-- The device, with all the requests that its client has sent. -/
structure ModbusRegisterDevice where
  unitId : UInt8
  clientName : String := ""
  readRetryAttempts : UInt32 := 1
  client : ModbusTcpClient := {}
  state : DeviceState := .offline
  record : DeviceRecord := {}
  sent : List Modbus.Call := []

/-- The operations that `execute` knows. -/
inductive Operation
  | readHolding
  | readInput
  | writeRegister
  deriving DecidableEq, Repr

namespace Operation

def name : Operation → String
  | .readHolding => "readHolding"
  | .readInput => "readInput"
  | .writeRegister => "writeRegister"

/-- What the client is asked for. -/
def call (unitId : UInt8) (first second : UInt16) : Operation → Modbus.Call
  | .readHolding => .readHoldingRegisters unitId first second
  | .readInput => .readInputRegisters unitId first second
  | .writeRegister => .writeSingleRegister unitId first second

/-- A request that may be sent again. -/
def replaySafe : Operation → Bool
  | .writeRegister => false
  | _ => true

/-- What the device answers with the registers of a response. -/
def result (values : List UInt16) : Operation → String
  | .writeRegister => "ok"
  | _ => join values

end Operation

inductive Call
  | start (opening : Except String Unit)
  | stop
  | snapshot
  | execute (operation payload : String) (attempts : Nat → Attempt)

def errorText : ModbusError → String
  | .invalidArgument what => what
  | .outOfRange what => what
  | .logicError what => what
  | .runtimeError what => what

def openClient (client : ModbusTcpClient) (opening : Except String Unit) :
    Except String ModbusTcpClient :=
  if client.isOpen then .ok client
  else match opening with
    | .error message => .error message
    | .ok () => .ok (client.openConnection true)

def sends (client : ModbusTcpClient) (request : Modbus.Call) (exchange : Exchange) : Bool :=
  client.isOpen && (request.request client.nextTransaction).isOk && exchange.sent

namespace ModbusRegisterDevice

variable (device : ModbusRegisterDevice)

def start (opening : Except String Unit) : Except String Unit × ModbusRegisterDevice :=
  match openClient device.client opening with
  | .error message => (.error message, device)
  | .ok client => (.ok (), { device with
      client
      state := .ready
      record := { device.record.advanced with lastPayload := device.clientName } })

def stop : ModbusRegisterDevice :=
  { device with client := device.client.close, state := .offline }

def markSuccess (now : Int) (result : String) : ModbusRegisterDevice :=
  { device with
    state := .ready
    record := { device.record.succeeded now with lastPayload := result } }

def markFailure (now : Int) (message : String) : ModbusRegisterDevice :=
  { device with
    state := .fault
    record := device.record.failed now "PDR-DEVICE-MODBUS-OPERATION_FAILED" .transient true message }

def attempt (operation : Operation) (first second : UInt16) (attempt : Attempt) :
    Except String String × ModbusRegisterDevice :=
  let device := if device.client.isOpen then device
    else { device with record := device.record.reconnecting }
  match openClient device.client attempt.opening with
  | .error message => (.error message, device)
  | .ok client =>
    let request := operation.call device.unitId first second
    let sent := if sends client request attempt.exchange then device.sent ++ [request]
      else device.sent
    match client.call request attempt.exchange with
    | (client, .error error) => (.error (errorText error), { device with client, sent })
    | (client, .ok (_, values)) => (.ok (operation.result values), { device with client, sent })

/-- The exception branch of the loop. -/
def fail (now : Int) (message : String) : ModbusRegisterDevice :=
  { device.markFailure now message with client := device.client.close }

/-- The loop over the attempts. -/
def performFrom (operation : Operation) (first second : UInt16) (device : ModbusRegisterDevice) :
    List Attempt → Except String String × ModbusRegisterDevice
  | [] => (.error "unreachable Modbus retry state", device)
  | attempt :: rest =>
    match device.attempt operation first second attempt with
    | (.ok result, device) => (.ok result, device.markSuccess attempt.now result)
    | (.error message, device) =>
      if rest.isEmpty then (.error message, device.fail attempt.now message)
      else performFrom operation first second (device.fail attempt.now message) rest

/-- How often an operation is attempted. -/
def attempts (operation : Operation) : Nat :=
  if operation.replaySafe then (device.readRetryAttempts + 1).toNat else 1

def perform (operation : Operation) (first second : UInt16) (attempts : Nat → Attempt) :
    Except String String × ModbusRegisterDevice :=
  performFrom operation first second device ((List.range (device.attempts operation)).map attempts)

def execute (operation payload : String) (attempts : Nat → Attempt) :
    Except String String × ModbusRegisterDevice :=
  match parseNumbers payload 2 with
  | .error message => (.error message, device)
  | .ok parameters =>
    let first := parameters.getD 0 0
    let second := parameters.getD 1 0
    if operation = "readHolding" then device.perform .readHolding first second attempts
    else if operation = "readInput" then device.perform .readInput first second attempts
    else if operation = "writeRegister" then device.perform .writeRegister first second attempts
    else (.error ("unsupported Modbus operation: " ++ operation), device)

def call : Call → ModbusRegisterDevice
  | .start opening => (device.start opening).2
  | .stop => device.stop
  | .snapshot => device
  | .execute operation payload attempts => (device.execute operation payload attempts).2

/-- Whether a call is a `start` that returns. -/
def starts : Call → Bool
  | .start opening => (device.start opening).1.isOk
  | _ => false

end ModbusRegisterDevice

end PocoDDS.Devices.ModbusRegister
