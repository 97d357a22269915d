import PocoDDS.Reliability.Diagnostics

/-! An LED of the Linux tree, set by the number that is written to its brightness file. -/

namespace PocoDDS.Devices.Led

open Reliability

/-- Numbers as the text that commands and snapshots show. -/
structure DoubleText where
  parse : String → Except String Float
  format : Float → String

/-- What becomes of a write to the brightness file. -/
inductive FileAnswer
  | written
  | notOpened
  | notWritten
  deriving DecidableEq, Repr

/-- What a call finds in the brightness file: a number if there is one, and the answer to a write. -/
structure BrightnessFile where
  reading : Option UInt32
  writing : FileAnswer
  deriving DecidableEq, Repr

/-- The device, with all that has been written to its brightness file. -/
structure LinuxSysfsLedDevice where
  directory : String
  state : DeviceState := .offline
  maxBrightness : UInt32 := 0
  record : DeviceRecord := { lastPayload := "stopped" }
  driven : List UInt32 := []
  deriving DecidableEq, Repr

inductive Call
  | start (maximum : Option UInt32)
  | stop
  | brightness (file : BrightnessFile)
  | setBrightness (value : Float) (file : BrightnessFile)
  | snapshot (file : BrightnessFile)
  | execute (operation payload : String) (file : BrightnessFile)

namespace LinuxSysfsLedDevice

variable (text : DoubleText) (device : LinuxSysfsLedDevice) (now : Int)

def markSuccess (payload : String) : LinuxSysfsLedDevice :=
  { device with
    state := .ready
    record := { device.record.succeeded now with lastPayload := payload } }

def markFailure (message : String) : LinuxSysfsLedDevice :=
  let record := device.record.failed now "PDR-DEVICE-LINUX-LED_IO_FAILED" .hardware true message
  { device with state := .fault, record := { record with lastPayload := message } }

def start (maximum : Option UInt32) : Except String Unit × LinuxSysfsLedDevice :=
  if device.state = .ready then (.ok (), device)
  else
    let invalid := "invalid LED max_brightness: " ++ device.directory
    match maximum with
    | none => (.error invalid, device.markFailure now invalid)
    | some maximum =>
      if maximum = 0 then (.error invalid, device.markFailure now invalid)
      else (.ok (), { device with
        maxBrightness := maximum
        state := .ready
        record := { device.record with lastPayload := "configured" }.advanced })

def stop : LinuxSysfsLedDevice :=
  if device.state = .offline then device
  else { device with
    state := .offline
    maxBrightness := 0
    record := { device.record with lastPayload := "stopped" }.advanced }

/-- The test at the start of `brightness` and of `setBrightness`. -/
def notStarted : Bool := device.state = .offline || device.maxBrightness = 0

def brightness (file : BrightnessFile) : Except String Float × LinuxSysfsLedDevice :=
  if device.notStarted then
    (.error "LED device is not started", device.markFailure now "LED device is not started")
  else match file.reading with
    | none =>
      (.error "cannot read LED brightness", device.markFailure now "cannot read LED brightness")
    | some raw =>
      let result := raw.toFloat / device.maxBrightness.toFloat
      (.ok result, device.markSuccess now (text.format result))

def clamp (value : Float) : Float :=
  if value < 0.0 then 0.0 else if value > 1.0 then 1.0 else value

def setBrightness (value : Float) (file : BrightnessFile) :
    Except String Unit × LinuxSysfsLedDevice :=
  let value := clamp value
  if device.notStarted then
    (.error "LED device is not started", device.markFailure now "LED device is not started")
  else match file.writing with
    | .notOpened =>
      (.error "cannot open LED brightness", device.markFailure now "cannot open LED brightness")
    | .notWritten =>
      (.error "cannot write LED brightness", device.markFailure now "cannot write LED brightness")
    | .written =>
      let raw := (value * device.maxBrightness.toFloat).round.toUInt32
      (.ok (), { device with driven := device.driven ++ [raw] }.markSuccess now (text.format value))

def snapshot (file : BrightnessFile) : LinuxSysfsLedDevice :=
  if device.state = .offline then device else (device.brightness text now file).2

/-- The result of `brightness` as text. -/
def brightnessText (file : BrightnessFile) : Except String String × LinuxSysfsLedDevice :=
  match device.brightness text now file with
  | (.error message, device) => (.error message, device)
  | (.ok result, device) => (.ok (text.format result), device)

/-- Setting the brightness, and what it then is. -/
def setAndRead (value : Float) (file : BrightnessFile) :
    Except String String × LinuxSysfsLedDevice :=
  match device.setBrightness text now value file with
  | (.error message, device) => (.error message, device)
  | (.ok (), device) => device.brightnessText text now file

def execute (operation payload : String) (file : BrightnessFile) :
    Except String String × LinuxSysfsLedDevice :=
  if operation = "read" then device.brightnessText text now file
  else if operation = "on" then device.setAndRead text now 1 file
  else if operation = "off" then device.setAndRead text now 0 file
  else if operation = "set" then
    match text.parse payload with
    | .error message => (.error message, device)
    | .ok value => device.setAndRead text now value file
  else (.error ("unsupported LED operation: " ++ operation), device)

def call : Call → LinuxSysfsLedDevice
  | .start maximum => (device.start now maximum).2
  | .stop => device.stop
  | .brightness file => (device.brightness text now file).2
  | .setBrightness value file => (device.setBrightness text now value file).2
  | .snapshot file => device.snapshot text now file
  | .execute operation payload file => (device.execute text now operation payload file).2

/-- Whether a call is a `start` that returns. -/
def starts : Call → Bool
  | .start maximum => (device.start now maximum).1.isOk
  | _ => false

end LinuxSysfsLedDevice

end PocoDDS.Devices.Led
