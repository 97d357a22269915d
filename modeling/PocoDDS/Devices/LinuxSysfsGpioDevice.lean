import PocoDDS.Lib.UnsignedText
import PocoDDS.Reliability.Diagnostics

/-! A line of the Linux GPIO tree, switched by the text that is written to its value file. -/

namespace PocoDDS.Devices.Gpio

open Reliability UnsignedText

inductive Direction
  | input
  | output
  deriving DecidableEq, Repr

/-- What becomes of a write to a file of the tree. -/
inductive FileAnswer
  | written
  | notOpened
  | notWritten
  deriving DecidableEq, Repr

/-- What `start` finds in the tree. -/
structure StartFiles where
  present : Bool
  exporting : FileAnswer
  appears : Bool
  direction : FileAnswer
  deriving DecidableEq, Repr

/-- What a call finds in the value file: a number if there is one, and the answer to a write. -/
structure ValueFile where
  reading : Option Nat
  writing : FileAnswer
  deriving DecidableEq, Repr

/-- The device, with all that has been written to its value file. -/
structure LinuxSysfsGpioDevice where
  pin : Nat
  direction : Direction
  root : String := "/sys/class/gpio"
  manageExport : Bool := true
  exportedByUs : Bool := false
  state : DeviceState := .offline
  record : DeviceRecord := { lastPayload := "stopped" }
  driven : List String := []
  deriving DecidableEq, Repr

inductive Call
  | start (files : StartFiles)
  | stop
  | read (file : ValueFile)
  | write (value : UInt32) (file : ValueFile)
  | snapshot (file : ValueFile)
  | execute (operation payload : String) (file : ValueFile)
  deriving DecidableEq, Repr

namespace LinuxSysfsGpioDevice

variable (device : LinuxSysfsGpioDevice) (now : Int)

def gpio : String := device.root ++ "/gpio" ++ toString device.pin

def writeControl (file : String) : FileAnswer → Except String Unit
  | .written => .ok ()
  | .notOpened => .error ("cannot open GPIO sysfs file: " ++ file)
  | .notWritten => .error ("cannot write GPIO sysfs file: " ++ file)

def markSuccess (payload : String) : LinuxSysfsGpioDevice :=
  { device with
    state := .ready
    record := { device.record.succeeded now with lastPayload := payload } }

def markFailure (message : String) : LinuxSysfsGpioDevice :=
  let record := device.record.failed now "PDR-DEVICE-LINUX-GPIO_IO_FAILED" .hardware true message
  { device with state := .fault, record := { record with lastPayload := message } }

/-- The part of `start` behind the export. -/
def configure (files : StartFiles) : Except String Unit :=
  if !files.appears then .error ("GPIO sysfs node did not appear: " ++ device.gpio)
  else writeControl (device.gpio ++ "/direction") files.direction

def start (files : StartFiles) : Except String Unit × LinuxSysfsGpioDevice :=
  if device.state = .ready then (.ok (), device)
  else
    let exports := device.manageExport && !files.present
    match if exports then writeControl (device.root ++ "/export") files.exporting else .ok () with
    | .error message => (.error message, device.markFailure now message)
    | .ok () =>
      let device := { device with exportedByUs := device.exportedByUs || exports }
      match device.configure files with
      | .error message => (.error message, device.markFailure now message)
      | .ok () => (.ok (), { device with
          state := .ready
          record := { device.record with lastPayload := "configured" }.advanced })

/-- The answer of the file to the `unexport` does not matter. -/
def stop : LinuxSysfsGpioDevice :=
  if device.state = .offline && !device.exportedByUs then device
  else { device with
    exportedByUs := false
    state := .offline
    record := { device.record with lastPayload := "stopped" }.advanced }

def read (file : ValueFile) : Except String Nat × LinuxSysfsGpioDevice :=
  if device.state = .offline then
    (.error "GPIO device is not started", device.markFailure now "GPIO device is not started")
  else match file.reading with
    | none => (.error "cannot read GPIO value", device.markFailure now "cannot read GPIO value")
    | some value =>
      let normalized := if value = 0 then 0 else 1
      (.ok normalized, device.markSuccess now (toString normalized))

/-- The text that sets the line. -/
def lineText (value : UInt32) : String := if value = 0 then "0" else "1"

def write (value : UInt32) (file : ValueFile) : Except String Unit × LinuxSysfsGpioDevice :=
  if device.direction ≠ .output then (.error "cannot write input GPIO", device)
  else if device.state = .offline then
    (.error "GPIO device is not started", device.markFailure now "GPIO device is not started")
  else
    match writeControl (device.gpio ++ "/value") file.writing with
    | .error message => (.error message, device.markFailure now message)
    | .ok () => (.ok (), { device with
        driven := device.driven ++ [lineText value] }.markSuccess now (lineText value))

/-- A snapshot of a device that is not offline reads the line first. -/
def snapshot (file : ValueFile) : LinuxSysfsGpioDevice :=
  if device.state = .offline then device else (device.read now file).2

/-- The result of `read` as text. -/
def readText (file : ValueFile) : Except String String × LinuxSysfsGpioDevice :=
  match device.read now file with
  | (.error message, device) => (.error message, device)
  | (.ok value, device) => (.ok (toString value), device)

/-- Writing a value, and reading what the line then is. -/
def writeAndRead (value : UInt32) (file : ValueFile) :
    Except String String × LinuxSysfsGpioDevice :=
  match device.write now value file with
  | (.error message, device) => (.error message, device)
  | (.ok (), device) => device.readText now file

def toggle (file : ValueFile) : Except String String × LinuxSysfsGpioDevice :=
  match device.read now file with
  | (.error message, device) => (.error message, device)
  | (.ok value, device) =>
    let next : UInt32 := if value = 0 then 1 else 0
    match device.write now next file with
    | (.error message, device) => (.error message, device)
    | (.ok (), device) => (.ok (toString next), device)

def execute (operation payload : String) (file : ValueFile) :
    Except String String × LinuxSysfsGpioDevice :=
  if operation = "read" then device.readText now file
  else if operation = "write" then
    match stoul 10 payload.toList with
    | .error error => (.error error.what, device)
    | .ok value => device.writeAndRead now (UInt32.ofNat value) file
  else if operation = "toggle" then device.toggle now file
  else (.error ("unsupported GPIO operation: " ++ operation), device)

def call : Call → LinuxSysfsGpioDevice
  | .start files => (device.start now files).2
  | .stop => device.stop
  | .read file => (device.read now file).2
  | .write value file => (device.write now value file).2
  | .snapshot file => device.snapshot now file
  | .execute operation payload file => (device.execute now operation payload file).2

/-- Whether a call is a `start` that returns. -/
def starts : Call → Bool
  | .start files => (device.start now files).1.isOk
  | _ => false

end LinuxSysfsGpioDevice

section Accesses

open LinuxSysfsGpioDevice

variable {device : LinuxSysfsGpioDevice} {now : Int} {file : ValueFile} {value : UInt32}

theorem read_effect : (device.read now file).2.driven = device.driven ∧
      ((device.read now file).2.state = .ready ↔
        device.state ≠ .offline ∧ file.reading ≠ none) := by
  unfold LinuxSysfsGpioDevice.read
  by_cases offline : device.state = .offline
  · simp [offline, markFailure]
  · cases reading : file.reading with
    | none => simp [offline, markFailure]
    | some value => simp [offline, markSuccess]

theorem readText_device : (device.readText now file).2 = (device.read now file).2 := by
  unfold readText
  split
  · rename_i found
    rw [found]
  · rename_i found
    rw [found]

theorem write_input (input : device.direction ≠ .output) :
    device.write now value file = (.error "cannot write input GPIO", device) :=
  if_pos input

theorem write_done (output : device.direction = .output) (online : device.state ≠ .offline)
    (written : file.writing = .written) :
    device.write now value file = (.ok (), { device with
      driven := device.driven ++ [lineText value] }.markSuccess now (lineText value)) := by
  simp [LinuxSysfsGpioDevice.write, output, online, written, writeControl]

theorem write_failed (output : device.direction = .output)
    (unreached : ¬(device.state ≠ .offline ∧ file.writing = .written)) :
    ∃ message, device.write now value file = (.error message, device.markFailure now message) := by
  by_cases offline : device.state = .offline
  · exact ⟨"GPIO device is not started", by simp [LinuxSysfsGpioDevice.write, output, offline]⟩
  · cases writing : file.writing with
    | written => exact absurd ⟨offline, writing⟩ unreached
    | notOpened =>
      exact ⟨"cannot open GPIO sysfs file: " ++ (device.gpio ++ "/value"), by
        simp [LinuxSysfsGpioDevice.write, output, offline, writing, writeControl]⟩
    | notWritten =>
      exact ⟨"cannot write GPIO sysfs file: " ++ (device.gpio ++ "/value"), by
        simp [LinuxSysfsGpioDevice.write, output, offline, writing, writeControl]⟩

theorem writeAndRead_device : (device.writeAndRead now value file).2 =
      if (device.write now value file).1 = .ok () then
        ((device.write now value file).2.read now file).2
      else (device.write now value file).2 := by
  unfold writeAndRead
  split
  · rename_i found
    simp [found]
  · rename_i found
    simp [found, readText_device]

/-- The result of a read that finds something, and of one that does not. -/
theorem read_done (online : device.state ≠ .offline) {raw : Nat} (found : file.reading = some raw) :
    device.read now file = (.ok (if raw = 0 then 0 else 1),
      device.markSuccess now (toString (if raw = 0 then 0 else 1))) := by
  simp [LinuxSysfsGpioDevice.read, online, found]

theorem read_failed (missed : ¬(device.state ≠ .offline ∧ file.reading ≠ none)) :
    ∃ message, device.read now file = (.error message, device.markFailure now message) := by
  by_cases offline : device.state = .offline
  · exact ⟨"GPIO device is not started", by simp [LinuxSysfsGpioDevice.read, offline]⟩
  · cases reading : file.reading with
    | none =>
      exact ⟨"cannot read GPIO value", by simp [LinuxSysfsGpioDevice.read, offline, reading]⟩
    | some raw => exact absurd ⟨offline, by simp [reading]⟩ missed

end Accesses

end PocoDDS.Devices.Gpio
