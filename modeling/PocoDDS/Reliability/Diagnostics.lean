import Mathlib.Tactic

/-! Failures, and the counters in which protocols and devices keep what became of their operations. -/

namespace PocoDDS

namespace Reliability

inductive FailureKind
  | transient
  | permanent
  | configuration
  | hardware
  | safety
  deriving DecidableEq, Repr

structure Failure where
  code : String := ""
  kind : FailureKind := .permanent
  retryable : Bool := false
  active : Bool := false
  occurredAtMicroseconds : Int := 0
  message : String := ""
  deriving DecidableEq, Repr

/-- A failure at the time that the system clock shows. -/
def makeFailure (now : Int) (code : String) (kind : FailureKind) (retryable : Bool)
    (message : String) : Failure :=
  ⟨code, kind, retryable, true, now, message⟩

def Failure.resolve (failure : Failure) : Failure :=
  { failure with active := false }

end Reliability

namespace Protocols

open Reliability

structure ProtocolDiagnostics where
  successfulOperations : UInt64 := 0
  failedOperations : UInt64 := 0
  reconnectAttempts : UInt64 := 0
  sentMessages : UInt64 := 0
  receivedMessages : UInt64 := 0
  sentBytes : UInt64 := 0
  receivedBytes : UInt64 := 0
  timeouts : UInt64 := 0
  handlerFailures : UInt64 := 0
  lastError : String := ""
  deriving DecidableEq, Repr

/-- The diagnostics of a protocol, with its failure. -/
structure ProtocolRecord where
  diagnostics : ProtocolDiagnostics := {}
  failure : Failure := {}
  deriving DecidableEq, Repr

namespace ProtocolRecord

def resolveFailure (record : ProtocolRecord) : ProtocolRecord where
  diagnostics := { record.diagnostics with lastError := "" }
  failure := record.failure.resolve

def recordFailure (record : ProtocolRecord) (now : Int) (code : String) (kind : FailureKind)
    (retryable : Bool) (message : String) : ProtocolRecord where
  diagnostics := { record.diagnostics with lastError := message }
  failure := makeFailure now code kind retryable message

def succeeded (record : ProtocolRecord) : ProtocolRecord :=
  let diagnostics := { record.diagnostics with
    successfulOperations := record.diagnostics.successfulOperations + 1 }
  { record with diagnostics }.resolveFailure

def failed (record : ProtocolRecord) (now : Int) (code : String) (kind : FailureKind)
    (retryable : Bool) (message : String) : ProtocolRecord :=
  let diagnostics := { record.diagnostics with
    failedOperations := record.diagnostics.failedOperations + 1 }
  { record with diagnostics }.recordFailure now code kind retryable message

end ProtocolRecord

end Protocols

namespace Devices

open Reliability

inductive DeviceState
  | offline
  | ready
  | fault
  deriving DecidableEq, Repr

/-- The clock that does not go back, in nanoseconds, and the time of day, in microseconds. -/
structure Clock where
  steady : Int
  system : Int

structure DeviceDiagnostics where
  successfulOperations : UInt64 := 0
  failedOperations : UInt64 := 0
  reconnectAttempts : UInt64 := 0
  consecutiveFailures : UInt64 := 0
  lastSuccessMicroseconds : Int := 0
  lastFailureMicroseconds : Int := 0
  lastError : String := ""
  deriving DecidableEq, Repr

/-- What every device keeps of its operations, apart from its state. -/
structure DeviceRecord where
  sequence : UInt64 := 0
  lastPayload : String := ""
  diagnostics : DeviceDiagnostics := {}
  failure : Failure := {}
  deriving DecidableEq, Repr

namespace DeviceRecord

def resolveFailure (record : DeviceRecord) : DeviceRecord :=
  { record with
    diagnostics := { record.diagnostics with lastError := "" }
    failure := record.failure.resolve }

def recordFailure (record : DeviceRecord) (now : Int) (code : String) (kind : FailureKind)
    (retryable : Bool) (message : String) : DeviceRecord :=
  { record with
    diagnostics := { record.diagnostics with lastError := message }
    failure := makeFailure now code kind retryable message }

/-- The state has changed. -/
def advanced (record : DeviceRecord) : DeviceRecord :=
  { record with sequence := record.sequence + 1 }

/-- A new state, with what the device shows of it. -/
def shown (record : DeviceRecord) (payload : String) : DeviceRecord :=
  { record.advanced with lastPayload := payload }

def succeeded (record : DeviceRecord) (now : Int) : DeviceRecord :=
  let diagnostics := { record.diagnostics with
    successfulOperations := record.diagnostics.successfulOperations + 1
    consecutiveFailures := 0
    lastSuccessMicroseconds := now }
  { record.advanced with diagnostics }.resolveFailure

def failed (record : DeviceRecord) (now : Int) (code : String) (kind : FailureKind)
    (retryable : Bool) (message : String) : DeviceRecord :=
  let diagnostics := { record.diagnostics with
    failedOperations := record.diagnostics.failedOperations + 1
    consecutiveFailures := record.diagnostics.consecutiveFailures + 1
    lastFailureMicroseconds := now }
  { record.advanced with diagnostics }.recordFailure now code kind retryable message

/-- An attempt to open the connection again. -/
def reconnecting (record : DeviceRecord) : DeviceRecord :=
  { record with diagnostics := { record.diagnostics with
      reconnectAttempts := record.diagnostics.reconnectAttempts + 1 } }

end DeviceRecord

end Devices

end PocoDDS
