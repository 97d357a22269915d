import Mathlib.Data.List.Basic
import Mathlib.Tactic

/-! The Modbus TCP codec and client, on a stream of unread bytes. -/

namespace PocoDDS.Modbus

/-- The functions the client asks for. -/
inductive FunctionCode
  | readHoldingRegisters
  | readInputRegisters
  | writeSingleRegister
  deriving DecidableEq, Repr

def FunctionCode.code : FunctionCode → UInt8
  | .readHoldingRegisters => 0x03
  | .readInputRegisters => 0x04
  | .writeSingleRegister => 0x06

/-- A decoded response; its function may be any number of seven bits. -/
structure Response where
  transactionId : UInt16
  unitId : UInt8
  function : UInt8
  exception : Bool
  exceptionCode : UInt8 := 0
  data : List UInt8 := []
  deriving DecidableEq, Repr

inductive ModbusError
  | invalidArgument (what : String)
  | outOfRange (what : String)
  | logicError (what : String)
  | runtimeError (what : String)
  deriving DecidableEq, Repr

/-- The high byte first. -/
def append16 (value : UInt16) : List UInt8 :=
  [UInt8.ofNat (value.toNat / 256), UInt8.ofNat value.toNat]

def read16 (high low : UInt8) : UInt16 :=
  UInt16.ofNat (high.toNat * 256 + low.toNat)

def requestHeader (transactionId : UInt16) (unitId : UInt8) (function : FunctionCode) : List UInt8 :=
  append16 transactionId ++ append16 0 ++ append16 6 ++ [unitId, function.code]

def readRegisters (transactionId : UInt16) (unitId : UInt8) (function : FunctionCode)
    (address count : UInt16) : Except ModbusError (List UInt8) :=
  if function ≠ .readHoldingRegisters ∧ function ≠ .readInputRegisters then
    .error (.invalidArgument "function is not a register-read function")
  else if count = 0 ∨ count > 125 then
    .error (.outOfRange "Modbus register count must be in [1, 125]")
  else .ok (requestHeader transactionId unitId function ++ append16 address ++ append16 count)

def writeSingleRegister (transactionId : UInt16) (unitId : UInt8) (address value : UInt16) :
    List UInt8 :=
  requestHeader transactionId unitId .writeSingleRegister ++ append16 address ++ append16 value

def decodeResponse : List UInt8 → Except ModbusError Response
  | t1 :: t0 :: p1 :: p0 :: l1 :: l0 :: unitId :: function :: first :: rest =>
    if read16 p1 p0 ≠ 0 then .error (.invalidArgument "invalid Modbus protocol identifier")
    else if (read16 l1 l0).toNat < 3 ∨ (read16 l1 l0).toNat + 6 ≠ rest.length + 9 then
      .error (.invalidArgument "invalid Modbus TCP length")
    else
      let exception := decide (128 ≤ function.toNat)
      .ok {
        transactionId := read16 t1 t0
        unitId
        function := UInt8.ofNat (function.toNat % 128)
        exception
        exceptionCode := if exception then first else 0
        data := if exception then [] else first :: rest }
  | _ => .error (.invalidArgument "incomplete Modbus TCP response")

/-- The registers of a read response, after its byte count. -/
def registerValues : List UInt8 → List UInt16
  | high :: low :: rest => read16 high low :: registerValues rest
  | _ => []

/-- The client, with the bytes of its connection that it has not read. -/
structure ModbusTcpClient where
  isOpen : Bool := false
  nextTransaction : UInt16 := 1
  incoming : List UInt8 := []

inductive Call
  | readHoldingRegisters (unitId : UInt8) (address count : UInt16)
  | readInputRegisters (unitId : UInt8) (address count : UInt16)
  | writeSingleRegister (unitId : UInt8) (address value : UInt16)
  deriving DecidableEq, Repr

/-- What the connection does during a call. -/
structure Exchange where
  sent : Bool
  arriving : List UInt8
  closedByPeer : Bool := false

def Call.unitId : Call → UInt8
  | .readHoldingRegisters unitId _ _ => unitId
  | .readInputRegisters unitId _ _ => unitId
  | .writeSingleRegister unitId _ _ => unitId

def Call.request (transaction : UInt16) : Call → Except ModbusError (List UInt8)
  | .readHoldingRegisters unitId address count =>
    readRegisters transaction unitId .readHoldingRegisters address count
  | .readInputRegisters unitId address count =>
    readRegisters transaction unitId .readInputRegisters address count
  | .writeSingleRegister unitId address value =>
    .ok (Modbus.writeSingleRegister transaction unitId address value)

/-- The check of a read response, whose first byte counts the others. -/
def checkRegisters (function : FunctionCode) (count : UInt16) (what : String)
    (response : Response) : Except ModbusError (List UInt16) :=
  match response.data with
  | byteCount :: rest =>
    if response.function ≠ function.code ∨ byteCount.toNat ≠ count.toNat * 2 ∨
        rest.length + 1 ≠ count.toNat * 2 + 1 then .error (.runtimeError what)
    else .ok (registerValues rest)
  | [] => .error (.runtimeError what)

/-- What a call makes of a response. -/
def Call.check (response : Response) (call : Call) : Except ModbusError (List UInt16) :=
  if response.exception then
    .error (.runtimeError ("Modbus exception: " ++ toString response.exceptionCode))
  else match call with
    | .readHoldingRegisters _ _ count =>
      checkRegisters .readHoldingRegisters count "invalid Modbus holding-register response" response
    | .readInputRegisters _ _ count =>
      checkRegisters .readInputRegisters count "invalid Modbus input-register response" response
    | .writeSingleRegister _ address value =>
      match response.data with
      | [a1, a0, v1, v0] =>
        if response.function ≠ FunctionCode.writeSingleRegister.code ∨ read16 a1 a0 ≠ address ∨
            read16 v1 v0 ≠ value then
          .error (.runtimeError "invalid Modbus write-single-register response")
        else .ok []
      | _ => .error (.runtimeError "invalid Modbus write-single-register response")

/-- Reading a number of bytes, all of which have to arrive. -/
def receiveAll (size : Nat) (stream : List UInt8) : Option (List UInt8 × List UInt8) :=
  if stream.length < size then none else some (stream.take size, stream.drop size)

namespace ModbusTcpClient

/-- A connection starts without unread bytes. -/
def openConnection (client : ModbusTcpClient) (connected : Bool) : ModbusTcpClient :=
  if client.isOpen || !connected then client else { client with isOpen := true, incoming := [] }

def close (client : ModbusTcpClient) : ModbusTcpClient :=
  { client with isOpen := false, incoming := [] }

/-- One frame is read from the stream, whichever it is. -/
def receiveResponse (stream : List UInt8) (interrupted : String) :
    Except ModbusError (Response × List UInt8) :=
  match receiveAll 6 stream with
  | some (header, rest) =>
    let remaining := (read16 (header.getD 4 0) (header.getD 5 0)).toNat
    if remaining < 3 ∨ remaining > 254 then
      .error (.runtimeError "invalid Modbus TCP response length")
    else match receiveAll remaining rest with
      | some (body, unread) => (decodeResponse (header ++ body)).map (·, unread)
      | none => .error (.runtimeError interrupted)
  | none => .error (.runtimeError interrupted)

/-- After an error on the stream the connection is closed. -/
def transact (client : ModbusTcpClient) (exchange : Exchange) :
    ModbusTcpClient × Except ModbusError Response :=
  if !client.isOpen then (client, .error (.logicError "Modbus TCP client is not open"))
  else if !exchange.sent then
    (client.close, .error (.runtimeError "Modbus TCP connection closed while sending"))
  else
    let interrupted := if exchange.closedByPeer then "Modbus TCP connection closed while receiving"
      else "Modbus TCP receive timeout"
    match receiveResponse (client.incoming ++ exchange.arriving) interrupted with
    | .ok (response, unread) => ({ client with incoming := unread }, .ok response)
    | .error error => (client.close, .error error)

/-- A call, with the response it used beside the registers it returns. -/
def call (client : ModbusTcpClient) (request : Call) (exchange : Exchange) :
    ModbusTcpClient × Except ModbusError (Response × List UInt16) :=
  -- The transaction number is taken before the request is built.
  let numbered := { client with nextTransaction := client.nextTransaction + 1 }
  match request.request client.nextTransaction with
  | .error error => (numbered, .error error)
  | .ok _ =>
    match numbered.transact exchange with
    | (after, .error error) => (after, .error error)
    -- A response that fails the check stays consumed, and the connection stays open.
    | (after, .ok response) => (after, (request.check response).map (response, ·))

end ModbusTcpClient

end PocoDDS.Modbus
