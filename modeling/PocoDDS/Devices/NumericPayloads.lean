import PocoDDS.Devices.LinuxSysfsGpioDevice
import PocoDDS.Devices.ModbusRegisterDevice

/-! The numbers in the payloads of commands, and what reaches an output for them. -/

namespace PocoDDS.Devices

open UnsignedText

/-- Two literals with a comma between them. -/
def TwoLiterals (payload : String) (first second : UInt16) : Prop :=
  ∃ before behind, payload.toList = before ++ ',' :: behind ∧
    AfterBlanks Literal before first.toNat ∧ AfterBlanks Literal behind second.toNat

/-- The registers are asked for the two numbers of the payload, if it is two literals, and the client
is left alone otherwise. -/
structure ModbusReadsExactly (payload : String) : Prop where
  issues : ∀ first second, TwoLiterals payload first second →
    ∀ (device : ModbusRegister.ModbusRegisterDevice) (operation : ModbusRegister.Operation)
      (attempts : Nat → ModbusRegister.Attempt),
      device.execute operation.name payload attempts =
        device.perform operation first second attempts
  throws : (¬∃ first second, TwoLiterals payload first second) → ∃ message,
    ∀ (device : ModbusRegister.ModbusRegisterDevice) (operation : String)
      (attempts : Nat → ModbusRegister.Attempt),
      device.execute operation payload attempts = (.error message, device)

/-- The line of a started output is set by the number of the payload, if it is one, and left alone
otherwise. -/
structure GpioReadsExactly (payload : String) : Prop where
  drives : ∀ number, AfterBlanks Decimal payload.toList number →
    ∀ (device : Gpio.LinuxSysfsGpioDevice) (now : Int) (file : Gpio.ValueFile),
      device.state ≠ .offline → device.direction = .output → file.writing = .written →
        (device.execute now "write" payload file).2.driven =
          device.driven ++ [if number = 0 then "0" else "1"]
  throws : (¬∃ number, AfterBlanks Decimal payload.toList number) → ∃ message,
    ∀ (device : Gpio.LinuxSysfsGpioDevice) (now : Int) (file : Gpio.ValueFile),
      device.execute now "write" payload file = (.error message, device)

/-- A field begins with a number that fits a register, with a sign or without. -/
structure Registers (field : List Char) : Prop where
  digits : (scan 0 field).digits ≠ []
  small : (scan 0 field).magnitude < 2 ^ 64
  fits : (scan 0 field).number ≤ 0xFFFF

def TwoNumbers (payload : String) : Prop :=
  ∃ first second, fields ',' payload.toList = [first, second] ∧ Registers first ∧ Registers second

/-- There is nothing in the payload but literals and the commas between them. -/
structure Strict (payload : String) : Prop where
  unsigned : ∀ field ∈ fields ',' payload.toList, (scan 0 field).sign = none
  whole : ∀ field ∈ fields ',' payload.toList, (scan 0 field).rest = []
  ended : payload.toList.getLast? ≠ some ','

/-- A decimal number that keeps its meaning in 32 bits, or a text without a number that could be
read. -/
def Settable (scanned : Scanned) : Prop :=
  (Plain scanned ∧ scanned.magnitude < 2 ^ 64 ∧
    (scanned.magnitude % 2 ^ 32 = 0 → scanned.magnitude = 0)) ∨
  (¬Plain scanned ∧ (scanned.digits = [] ∨ 2 ^ 64 ≤ scanned.magnitude))

section Registers

open ModbusRegister

variable {payload : String}

/-- Fields are converted one by one, and each has to be a number that fits. -/
theorem numbersOf_ok_iff {tokens : List (List Char)} {values : List UInt16} :
    numbersOf tokens = .ok values ↔ (∀ token ∈ tokens, Registers token) ∧
        values = tokens.map fun token => UInt16.ofNat (scan 0 token).number := by
  -- The loop stops at the first token that is refused, as a number or for its size.
  induction tokens generalizing values with
  | nil => simp [numbersOf, eq_comm]
  | cons token rest ih =>
    unfold numbersOf
    cases number : stoul 0 token with
    | error error =>
      have unread : ¬Registers token := by
        rintro ⟨digits, small, -⟩
        cases number.symm.trans (stoul_ok_iff.mpr ⟨digits, small, rfl⟩)
      simp [unread]
    | ok value =>
      obtain ⟨digits, small, rfl⟩ := stoul_ok_iff.mp number
      dsimp only
      split
      · rename_i large
        have unfit : ¬Registers token := fun registers => absurd registers.fits (Nat.not_le.mpr large)
        simp [unfit]
      · rename_i fits
        have registers : Registers token := ⟨digits, small, Nat.le_of_not_lt fits⟩
        cases others : numbersOf rest with
        | error message =>
          have unread : ¬∀ token ∈ rest, Registers token := by
            intro all
            cases others.symm.trans (ih.mpr ⟨all, rfl⟩)
          simp [registers, unread]
        | ok remaining =>
          obtain ⟨all, rfl⟩ := ih.mp others
          simp only [Except.ok.injEq, List.forall_mem_cons, registers, true_and, List.map_cons]
          exact ⟨fun same => ⟨all, same.symm⟩, fun found => found.2.symm⟩

theorem parseNumbers_ok_iff {values : List UInt16} :
    parseNumbers payload 2 = .ok values ↔ ∃ first second,
      fields ',' payload.toList = [first, second] ∧ Registers first ∧ Registers second ∧
        values = [UInt16.ofNat (scan 0 first).number, UInt16.ofNat (scan 0 second).number] := by
  unfold parseNumbers
  constructor
  -- The number of the fields is checked behind their conversion.
  · intro parsed
    split at parsed
    · cases parsed
    · rename_i found numbers
      split at parsed
      · cases parsed
      · rename_i two
        obtain rfl := Except.ok.inj parsed
        obtain ⟨all, rfl⟩ := numbersOf_ok_iff.mp numbers
        simp only [List.length_map, ne_eq, not_not] at two
        obtain ⟨first, second, pair⟩ := List.length_eq_two.mp two
        rw [pair] at all
        exact ⟨first, second, pair, all first (by simp), all second (by simp), by simp [pair]⟩
  · rintro ⟨first, second, pair, registers, others, rfl⟩
    have numbers : numbersOf [first, second] = .ok _ :=
      numbersOf_ok_iff.mpr ⟨by simp [registers, others], rfl⟩
    rw [pair, numbers]
    simp

theorem literal_of_plain {field : List Char} (registers : Registers field)
    (unsigned : (scan 0 field).sign = none) (whole : (scan 0 field).rest = []) :
    AfterBlanks Literal field (UInt16.ofNat (scan 0 field).number).toNat := by
  apply literal_iff.mpr
  refine ⟨⟨unsigned, whole, registers.digits⟩, ?_⟩
  have fits := registers.fits
  rw [UInt16.toNat_ofNat', Nat.mod_eq_of_lt (by omega), number_of_unsigned unsigned]

theorem registers_of_literal {field : List Char} {number : UInt16}
    (literal : AfterBlanks Literal field number.toNat) :
    Registers field ∧ UInt16.ofNat (scan 0 field).number = number := by
  obtain ⟨plain, value⟩ := literal_iff.mp literal
  have small := number.toNat_lt
  have same := (number_of_unsigned plain.unsigned).trans value
  refine ⟨⟨plain.digits, by omega, by omega⟩, ?_⟩
  rw [same, UInt16.ofNat_toNat]

theorem fields_of_twoLiterals {before behind : List Char} {first second : Nat}
    (parts : payload.toList = before ++ ',' :: behind)
    (literal : AfterBlanks Literal before first) (other : AfterBlanks Literal behind second) :
    fields ',' payload.toList = [before, behind] := by
  rw [parts, fields_append literal.free, fields_of_free other.free other.nonempty]

theorem parseNumbers_of_twoLiterals {first second : UInt16}
    (literals : TwoLiterals payload first second) :
    parseNumbers payload 2 = .ok [first, second] := by
  obtain ⟨before, behind, parts, literal, other⟩ := literals
  obtain ⟨registers, value⟩ := registers_of_literal literal
  obtain ⟨others, value'⟩ := registers_of_literal other
  apply parseNumbers_ok_iff.mpr
  refine ⟨before, behind, fields_of_twoLiterals parts literal other, registers, others, ?_⟩
  rw [value, value']

theorem strict_of_twoLiterals {first second : UInt16} (literals : TwoLiterals payload first second) :
    Strict payload := by
  obtain ⟨before, behind, parts, literal, other⟩ := literals
  have pair := fields_of_twoLiterals parts literal other
  have plain := (literal_iff.mp literal).1
  have plain' := (literal_iff.mp other).1
  constructor
  · rw [pair]
    simp [plain.unsigned, plain'.unsigned]
  · rw [pair]
    simp [plain.whole, plain'.whole]
  · intro last
    -- The last character is one of the second literal, which holds no comma.
    rw [parts, List.getLast?_append, List.getLast?_cons_of_ne_nil other.nonempty] at last
    rw [List.getLast?_eq_some_getLast other.nonempty] at last
    simp only [Option.some_or, Option.some.injEq] at last
    exact other.free (last ▸ List.getLast_mem other.nonempty)

theorem twoLiterals_of_strict (numbers : TwoNumbers payload) (strict : Strict payload) :
    ∃ first second, TwoLiterals payload first second := by
  obtain ⟨first, second, pair, registers, others⟩ := numbers
  have unsigned := strict.unsigned
  have whole := strict.whole
  rw [pair] at unsigned whole
  -- A separator at the end would leave no trace in the fields.
  obtain parts | trailing := of_fields_pair pair
  · exact ⟨_, _, first, second, parts,
      literal_of_plain registers (unsigned first (by simp)) (whole first (by simp)),
      literal_of_plain others (unsigned second (by simp)) (whole second (by simp))⟩
  · refine absurd ?_ strict.ended
    have ended : first ++ ',' :: (second ++ [',']) = (first ++ ',' :: second) ++ [','] := by simp
    rw [trailing, ended, List.getLast?_concat]

/-- What is parsed is handed to the client. -/
theorem execute_of_parsed {first second : UInt16} (parsed : parseNumbers payload 2 = .ok [first, second])
    (device : ModbusRegisterDevice) (operation : Operation) (attempts : Nat → Attempt) :
    device.execute operation.name payload attempts = device.perform operation first second attempts := by
  cases operation <;> simp [ModbusRegisterDevice.execute, parsed, Operation.name]

/-- A command that reaches the client leaves its trace on a device that has not been started. -/
theorem perform_ne_self (first second : UInt16) (message : String) :
    let device : ModbusRegisterDevice := { unitId := 1 }
    device.perform .writeRegister first second
      (fun _ => ⟨0, .error "refused", ⟨false, [], false⟩⟩) ≠ (.error message, device) := by
  intro device same
  have state := congrArg (fun outcome => outcome.2.state) same
  revert state
  simp [device, ModbusRegisterDevice.perform, ModbusRegisterDevice.attempts, Operation.replaySafe,
    ModbusRegisterDevice.performFrom, ModbusRegisterDevice.attempt, openClient,
    ModbusRegisterDevice.fail, ModbusRegisterDevice.markFailure]

theorem modbusReadsExactly_iff (payload : String) :
    ModbusReadsExactly payload ↔ (TwoNumbers payload → Strict payload) := by
  constructor
  · intro exactly numbers
    by_cases literals : ∃ first second, TwoLiterals payload first second
    · obtain ⟨first, second, literals⟩ := literals
      exact strict_of_twoLiterals literals
    · -- The payload is parsed all the same, so that the client is reached.
      exfalso
      obtain ⟨message, throws⟩ := exactly.throws literals
      obtain ⟨first, second, pair, registers, others⟩ := numbers
      have parsed := parseNumbers_ok_iff.mpr ⟨first, second, pair, registers, others, rfl⟩
      have reached := execute_of_parsed parsed { unitId := 1 } .writeRegister
        (fun _ => ⟨0, .error "refused", ⟨false, [], false⟩⟩)
      exact perform_ne_self _ _ message (reached.symm.trans (throws _ _ _))
  · intro strict
    constructor
    · intro first second literals device operation attempts
      exact execute_of_parsed (parseNumbers_of_twoLiterals literals) device operation attempts
    · intro none
      cases parsed : parseNumbers payload 2 with
      | error message =>
        exact ⟨message, fun device operation attempts => by
          simp [ModbusRegisterDevice.execute, parsed]⟩
      | ok values =>
        obtain ⟨first, second, pair, registers, others, -⟩ := parseNumbers_ok_iff.mp parsed
        have numbers : TwoNumbers payload := ⟨first, second, pair, registers, others⟩
        exact absurd (twoLiterals_of_strict numbers (strict numbers)) none

end Registers

section Line

open Gpio LinuxSysfsGpioDevice

variable {payload : String}

theorem driven_of_read {value : Nat} (read : stoul 10 payload.toList = .ok value)
    (device : LinuxSysfsGpioDevice) (now : Int) (file : ValueFile) (online : device.state ≠ .offline)
    (output : device.direction = .output) (written : file.writing = .written) :
    (device.execute now "write" payload file).2.driven =
      device.driven ++ [if value % 2 ^ 32 = 0 then "0" else "1"] := by
  -- The number is cut down to the type of the parameter before it is compared with 0.
  have text : lineText (UInt32.ofNat value) = if value % 2 ^ 32 = 0 then "0" else "1" := by
    have zero : UInt32.ofNat value = 0 ↔ value % 2 ^ 32 = 0 := by
      rw [← UInt32.toNat_inj, UInt32.toNat_ofNat']
      rfl
    simp only [lineText, zero]
  simp only [execute, String.reduceEq, if_false, if_true, read, writeAndRead_device,
    write_done output online written, read_effect.1]
  rw [← text]
  rfl

theorem execute_of_unread {error : StoulError} (unread : stoul 10 payload.toList = .error error)
    (device : LinuxSysfsGpioDevice) (now : Int) (file : ValueFile) :
    device.execute now "write" payload file = (.error error.what, device) := by
  simp [execute, unread]

/-- A text whose number does not fit, or that has none, is not read. -/
theorem unread_of (none : (scan 10 payload.toList).digits = [] ∨
    2 ^ 64 ≤ (scan 10 payload.toList).magnitude) :
    ∃ error, stoul 10 payload.toList = .error error := by
  cases read : stoul 10 payload.toList with
  | error error => exact ⟨error, rfl⟩
  | ok value =>
    obtain ⟨digits, small, -⟩ := stoul_ok_iff.mp read
    obtain empty | large := none
    · exact absurd empty digits
    · exact absurd small (Nat.not_lt.mpr large)

/-- A started output, and a value file that can be written. -/
def startedOutput : LinuxSysfsGpioDevice := { pin := 0, direction := .output, state := .ready }

def writable : ValueFile := ⟨some 0, .written⟩

theorem driven_startedOutput {value : Nat} (read : stoul 10 payload.toList = .ok value) :
    (startedOutput.execute 0 "write" payload writable).2.driven =
      [if value % 2 ^ 32 = 0 then "0" else "1"] :=
  driven_of_read read startedOutput 0 writable (by decide) rfl rfl

theorem gpioReadsExactly_iff (payload : String) :
    GpioReadsExactly payload ↔ Settable (scan 10 payload.toList) := by
  constructor
  · intro exactly
    by_cases plain : Plain (scan 10 payload.toList)
    · have drives := exactly.drives _ (decimal_iff.mpr ⟨plain, rfl⟩) startedOutput 0 writable
        (by decide) rfl rfl
      by_cases small : (scan 10 payload.toList).magnitude < 2 ^ 64
      · have read := stoul_ok_iff.mpr ⟨plain.digits, small, number_of_unsigned plain.unsigned⟩
        refine .inl ⟨plain, small, fun zero => ?_⟩
        -- The line is at zero, which the number then has to be.
        by_contra nonzero
        have driven := (driven_startedOutput read).symm.trans drives
        rw [if_pos zero, if_neg nonzero] at driven
        exact absurd driven (by decide)
      · obtain ⟨error, unread⟩ := unread_of (.inr (Nat.le_of_not_lt small))
        rw [execute_of_unread unread] at drives
        simp [startedOutput] at drives
    · have none : ¬∃ number, AfterBlanks Decimal payload.toList number := by
        rintro ⟨number, decimal⟩
        exact plain (decimal_iff.mp decimal).1
      obtain ⟨message, throws⟩ := exactly.throws none
      refine .inr ⟨plain, ?_⟩
      by_contra readable
      simp only [not_or, not_le] at readable
      have driven := driven_startedOutput (stoul_ok_iff.mpr ⟨readable.1, readable.2, rfl⟩)
      rw [throws] at driven
      simp [startedOutput] at driven
  · intro settable
    constructor
    · intro number decimal device now file online output written
      obtain ⟨plain, rfl⟩ := decimal_iff.mp decimal
      obtain ⟨-, small, zero⟩ | ⟨other, -⟩ := settable
      · have read := stoul_ok_iff.mpr ⟨plain.digits, small, number_of_unsigned plain.unsigned⟩
        rw [driven_of_read read device now file online output written]
        have same : (scan 10 payload.toList).magnitude % 2 ^ 32 = 0 ↔
            (scan 10 payload.toList).magnitude = 0 :=
          ⟨zero, fun none => by rw [none]; rfl⟩
        simp only [same]
      · exact absurd plain other
    · intro none
      obtain ⟨plain, -⟩ | ⟨-, unreadable⟩ := settable
      · exact absurd ⟨_, decimal_iff.mpr ⟨plain, rfl⟩⟩ none
      · obtain ⟨error, unread⟩ := unread_of unreadable
        exact ⟨error.what, fun device now file => execute_of_unread unread device now file⟩

end Line

/-- The registers and the line are set by exactly the numbers of a payload if, and only if, nothing
stands around its numbers that the conversion would pass over or turn into another number. -/
theorem payload_read_exactly_iff (payload : String) :
    (ModbusReadsExactly payload ↔ (TwoNumbers payload → Strict payload)) ∧
    (GpioReadsExactly payload ↔ Settable (scan 10 payload.toList)) :=
  ⟨modbusReadsExactly_iff payload, gpioReadsExactly_iff payload⟩

/-- Garbage behind the numbers and a trailing comma reach the registers, and a number that is not
zero sets the line to zero. -/
theorem payloads_misread :
    ¬ModbusReadsExactly "1x,2," ∧ ¬GpioReadsExactly "4294967296" ∧
    ¬(∀ payload, ModbusReadsExactly payload) ∧ ¬(∀ payload, GpioReadsExactly payload) := by
  have modbus : ¬ModbusReadsExactly "1x,2," := by
    rw [modbusReadsExactly_iff]
    intro strict
    have numbers : TwoNumbers "1x,2," :=
      ⟨['1', 'x'], ['2'], by decide, ⟨by decide, by decide, by decide⟩,
        ⟨by decide, by decide, by decide⟩⟩
    exact (strict numbers).ended (by decide)
  have gpio : ¬GpioReadsExactly "4294967296" := by
    rw [gpioReadsExactly_iff]
    rintro (⟨-, -, zero⟩ | ⟨other, -⟩)
    · exact absurd (zero (by decide)) (by decide)
    · exact other ⟨by decide, by decide, by decide⟩
  exact ⟨modbus, gpio, fun always => modbus (always _), fun always => gpio (always _)⟩

end PocoDDS.Devices
