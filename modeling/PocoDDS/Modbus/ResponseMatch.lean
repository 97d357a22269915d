import PocoDDS.Lib.Run
import PocoDDS.Modbus.Client

/-! When the response a call uses is the one to its request. -/

namespace PocoDDS.Modbus

open RunLogic

/-- A well-formed response frame. -/
structure Frame where
  transactionId : UInt16
  unitId : UInt8
  function : UInt8
  first : UInt8
  rest : List UInt8
  fits : rest.length ≤ 251

def Frame.encode (frame : Frame) : List UInt8 :=
  append16 frame.transactionId ++ append16 0 ++ append16 (UInt16.ofNat (frame.rest.length + 3)) ++
    frame.unitId :: frame.function :: frame.first :: frame.rest

/-- Whether a frame answers a call without an exception, in the form the call expects. -/
def Frame.answers (frame : Frame) : Call → Prop
  | .readHoldingRegisters _ _ count =>
    frame.function = 0x03 ∧ frame.first.toNat = count.toNat * 2 ∧ frame.rest.length = count.toNat * 2
  | .readInputRegisters _ _ count =>
    frame.function = 0x04 ∧ frame.first.toNat = count.toNat * 2 ∧ frame.rest.length = count.toNat * 2
  | .writeSingleRegister _ address value =>
    frame.function = 0x06 ∧ frame.first :: frame.rest = append16 address ++ append16 value

/-- A request whose register count, if it has one, is allowed. -/
def Call.allowed : Call → Prop
  | .readHoldingRegisters _ _ count => count ≠ 0 ∧ count ≤ 125
  | .readInputRegisters _ _ count => count ≠ 0 ∧ count ≤ 125
  | .writeSingleRegister _ _ _ => True

/-- What happens to a client and its connection. -/
inductive ModbusEvent
  | openConnection (connected : Bool)
  | close
  /-- Bytes that arrive between two calls. -/
  | arrive (bytes : List UInt8)
  | call (request : Call) (exchange : Exchange)

def ModbusTcpClient.step (client : ModbusTcpClient) : ModbusEvent → ModbusTcpClient
  | .openConnection connected => client.openConnection connected
  | .close => client.close
  | .arrive bytes =>
    if client.isOpen then { client with incoming := client.incoming ++ bytes } else client
  | .call request exchange => (client.call request exchange).1

/-- A call that returns has used a response to its own request. -/
def Matched (client : ModbusTcpClient) : ModbusEvent → Prop
  | .call request exchange => ∀ response values,
    (client.call request exchange).2 = .ok (response, values) →
      response.transactionId = client.nextTransaction ∧ response.unitId = request.unitId
  | _ => True

/-- The first frame that a call finds on the stream is to its own request, if it fits the call. -/
def OwnFrameFirst (client : ModbusTcpClient) : ModbusEvent → Prop
  | .call request exchange =>
    client.isOpen = true → exchange.sent = true → request.allowed → ∀ (frame : Frame) unread,
      client.incoming ++ exchange.arriving = frame.encode ++ unread → frame.answers request →
        frame.transactionId = client.nextTransaction ∧ frame.unitId = request.unitId
  | _ => True

theorem read16_toNat (high low : UInt8) : (read16 high low).toNat = high.toNat * 256 + low.toNat := by
  have highBound := high.toNat_lt
  have lowBound := low.toNat_lt
  rw [read16, UInt16.toNat_ofNat_of_lt']
  change _ < 65536
  omega

/-- Two bytes read back as the number they were written for. -/
theorem append16_eq (value : UInt16) : ∃ high low, append16 value = [high, low] ∧
    read16 high low = value := by
  have bound := value.toNat_lt
  refine ⟨_, _, rfl, ?_⟩
  apply UInt16.toNat_inj.mp
  rw [read16_toNat]
  simp only [UInt8.toNat_ofNat']
  omega

/-- Two bytes are what the number they are read as is written as. -/
theorem append16_read16 (high low : UInt8) : append16 (read16 high low) = [high, low] := by
  have highBound := high.toNat_lt
  have lowBound := low.toNat_lt
  have first : UInt8.ofNat ((high.toNat * 256 + low.toNat) / 256) = high := by
    apply UInt8.toNat_inj.mp
    simp only [UInt8.toNat_ofNat']
    omega
  have second : UInt8.ofNat (high.toNat * 256 + low.toNat) = low := by
    apply UInt8.toNat_inj.mp
    simp only [UInt8.toNat_ofNat']
    omega
  rw [append16, read16_toNat, first, second]

theorem read16_eq_iff (high low : UInt8) (value : UInt16) :
    read16 high low = value ↔ append16 value = [high, low] := by
  constructor
  · rintro rfl
    exact append16_read16 high low
  · intro bytes
    obtain ⟨first, second, written, same⟩ := append16_eq value
    rw [written] at bytes
    cases bytes
    exact same

/-- What a frame is decoded to. -/
def Frame.response (frame : Frame) : Response :=
  let exception := decide (128 ≤ frame.function.toNat)
  { transactionId := frame.transactionId
    unitId := frame.unitId
    function := UInt8.ofNat (frame.function.toNat % 128)
    exception
    exceptionCode := if exception then frame.first else 0
    data := if exception then [] else frame.first :: frame.rest }

/-- The bytes of a frame, with its header written out. -/
theorem Frame.encode_eq (frame : Frame) : ∃ t1 t0 l1 l0,
    frame.encode = [t1, t0, 0, 0, l1, l0] ++ frame.unitId :: frame.function :: frame.first ::
      frame.rest ∧
    read16 t1 t0 = frame.transactionId ∧ (read16 l1 l0).toNat = frame.rest.length + 3 := by
  obtain ⟨t1, t0, transaction, readTransaction⟩ := append16_eq frame.transactionId
  obtain ⟨l1, l0, length, readLength⟩ := append16_eq (UInt16.ofNat (frame.rest.length + 3))
  refine ⟨t1, t0, l1, l0, ?_, readTransaction, ?_⟩
  · rw [Frame.encode, transaction, length, show append16 0 = [0, 0] from rfl]
    rfl
  · have bound := frame.fits
    rw [readLength, UInt16.toNat_ofNat_of_lt']
    change _ < 65536
    omega

theorem receiveResponse_encode (frame : Frame) (unread : List UInt8) (interrupted : String) :
    ModbusTcpClient.receiveResponse (frame.encode ++ unread) interrupted =
      .ok (frame.response, unread) := by
  obtain ⟨t1, t0, l1, l0, bytes, transaction, length⟩ := frame.encode_eq
  have bound := frame.fits
  have header : receiveAll 6 (frame.encode ++ unread) = some ([t1, t0, 0, 0, l1, l0],
      (frame.unitId :: frame.function :: frame.first :: frame.rest) ++ unread) := by
    rw [bytes]
    simp [receiveAll]
  have body : receiveAll (frame.rest.length + 3)
      ((frame.unitId :: frame.function :: frame.first :: frame.rest) ++ unread) =
      some (frame.unitId :: frame.function :: frame.first :: frame.rest, unread) := by
    have whole : (frame.unitId :: frame.function :: frame.first :: frame.rest).length =
      frame.rest.length + 3 := rfl
    rw [← whole, receiveAll, if_neg (by simp), List.take_left, List.drop_left]
  have zero : read16 0 0 = 0 := by decide
  unfold ModbusTcpClient.receiveResponse
  rw [header]
  simp only [List.getD_cons_succ, List.getD_cons_zero, length]
  rw [if_neg (by omega), body]
  simp [decodeResponse, zero, length, transaction, Except.map, Frame.response]

theorem receiveAll_some {size : Nat} {stream taken unread : List UInt8}
    (received : receiveAll size stream = some (taken, unread)) :
    stream = taken ++ unread ∧ taken.length = size := by
  unfold receiveAll at received
  split at received
  · cases received
  · next enough =>
    cases received
    exact ⟨(List.take_append_drop size stream).symm, by rw [List.length_take]; omega⟩

theorem exists_of_length_six {bytes : List UInt8} (six : bytes.length = 6) :
    ∃ t1 t0 p1 p0 l1 l0, bytes = [t1, t0, p1, p0, l1, l0] := by
  match bytes, six with
  | [t1, t0, p1, p0, l1, l0], _ => exact ⟨t1, t0, p1, p0, l1, l0, rfl⟩

theorem exists_of_three_le_length {bytes : List UInt8} (three : 3 ≤ bytes.length) :
    ∃ unitId function first rest, bytes = unitId :: function :: first :: rest := by
  match bytes, three with
  | unitId :: function :: first :: rest, _ => exact ⟨unitId, function, first, rest, rfl⟩

theorem read16_eq_zero {high low : UInt8} (zero : read16 high low = 0) : high = 0 ∧ low = 0 := by
  have value := congrArg UInt16.toNat zero
  rw [read16_toNat, UInt16.toNat_zero] at value
  exact ⟨UInt8.toNat_inj.mp (by simp only [UInt8.toNat_zero]; omega),
    UInt8.toNat_inj.mp (by simp only [UInt8.toNat_zero]; omega)⟩

theorem receiveResponse_ok {stream unread : List UInt8} {interrupted : String} {response : Response}
    (received : ModbusTcpClient.receiveResponse stream interrupted = .ok (response, unread)) :
    ∃ frame : Frame, stream = frame.encode ++ unread ∧ response = frame.response := by
  unfold ModbusTcpClient.receiveResponse at received
  split at received
  · next header rest took =>
    obtain ⟨rfl, six⟩ := receiveAll_some took
    obtain ⟨t1, t0, p1, p0, l1, l0, rfl⟩ := exists_of_length_six six
    simp only [List.getD_cons_succ, List.getD_cons_zero] at received
    split at received
    · cases received
    · next within =>
      split at received
      · next body after read =>
        obtain ⟨rfl, length⟩ := receiveAll_some read
        obtain ⟨unitId, function, first, rest, rfl⟩ := exists_of_three_le_length (by omega : 3 ≤ body.length)
        simp only [List.length_cons] at length
        -- The remaining checks are those of the decoder, on the protocol number and the length.
        by_cases protocol : read16 p1 p0 = 0
        · obtain ⟨rfl, rfl⟩ := read16_eq_zero protocol
          have declared : ¬((read16 l1 l0).toNat < 3 ∨ (read16 l1 l0).toNat + 6 ≠ rest.length + 9) := by
            omega
          simp only [List.cons_append, List.nil_append, decodeResponse, protocol, ne_eq,
            not_true_eq_false, if_false, if_neg declared, Except.map, Except.ok.injEq,
            Prod.mk.injEq] at received
          obtain ⟨same, rfl⟩ := received
          refine ⟨⟨read16 t1 t0, unitId, function, first, rest, by omega⟩, ?_, same.symm⟩
          have size : UInt16.ofNat (rest.length + 3) = read16 l1 l0 := by
            apply UInt16.toNat_inj.mp
            rw [UInt16.toNat_ofNat_of_lt' (by change _ < 65536; omega)]
            omega
          simp only [Frame.encode]
          rw [size, append16_read16, append16_read16, show append16 0 = [0, 0] from rfl]
          simp
        · simp [decodeResponse, protocol, Except.map] at received
      · cases received
  · cases received

section Calls

variable {client : ModbusTcpClient} {exchange : Exchange}

theorem function_response (frame : Frame) (code : UInt8) (small : code.toNat < 128) :
    (frame.response.exception = false ∧ frame.response.function = code) ↔ frame.function = code := by
  have bound := frame.function.toNat_lt
  simp only [Frame.response, decide_eq_false_iff_not, Nat.not_le]
  constructor
  · rintro ⟨plain, same⟩
    apply UInt8.toNat_inj.mp
    have value := congrArg UInt8.toNat same
    simp only [UInt8.toNat_ofNat'] at value
    omega
  · rintro rfl
    refine ⟨small, UInt8.toNat_inj.mp ?_⟩
    simp only [UInt8.toNat_ofNat']
    omega

theorem data_response {frame : Frame} (plain : frame.response.exception = false) :
    frame.response.data = frame.first :: frame.rest := by
  simp only [Frame.response] at plain ⊢
  simp [plain]

theorem checkRegisters_ok_iff {frame : Frame} (plain : frame.response.exception = false)
    (function : FunctionCode) (count : UInt16) (what : String) :
    (∃ values, checkRegisters function count what frame.response = .ok values) ↔
      frame.response.function = function.code ∧ frame.first.toNat = count.toNat * 2 ∧
        frame.rest.length = count.toNat * 2 := by
  simp only [checkRegisters, data_response plain]
  split
  · next wrong =>
    simp only [reduceCtorEq, exists_const, false_iff]
    rintro ⟨same, counted, long⟩
    rcases wrong with differs | differs | differs
    · exact differs same
    · exact differs counted
    · omega
  · next right =>
    push Not at right
    simp only [Except.ok.injEq, exists_eq', true_iff]
    exact ⟨right.1, right.2.1, by omega⟩

/-- A call accepts a frame exactly if the frame answers it. -/
theorem check_ok_iff (frame : Frame) (call : Call) :
    (∃ values, call.check frame.response = .ok values) ↔ frame.answers call := by
  cases plain : frame.response.exception with
  | true =>
    -- An exception is never accepted, and no frame with the exception bit answers a call.
    have marked : ∀ code : UInt8, code.toNat < 128 → frame.function ≠ code := by
      intro code small same
      have unmarked := ((function_response frame code small).mpr same).1
      rw [plain] at unmarked
      cases unmarked
    cases call with
    | readHoldingRegisters => simp [Call.check, plain, Frame.answers, marked 0x03 (by decide)]
    | readInputRegisters => simp [Call.check, plain, Frame.answers, marked 0x04 (by decide)]
    | writeSingleRegister => simp [Call.check, plain, Frame.answers, marked 0x06 (by decide)]
  | false =>
    have named : ∀ code : UInt8, code.toNat < 128 →
        (frame.response.function = code ↔ frame.function = code) := by
      intro code small
      rw [← function_response frame code small]
      exact ⟨fun same => ⟨plain, same⟩, fun both => both.2⟩
    cases call with
    | readHoldingRegisters unitId address count =>
      simp only [Call.check, plain, Bool.false_eq_true, if_false, Frame.answers]
      rw [checkRegisters_ok_iff plain]
      exact and_congr_left' (named 0x03 (by decide))
    | readInputRegisters unitId address count =>
      simp only [Call.check, plain, Bool.false_eq_true, if_false, Frame.answers]
      rw [checkRegisters_ok_iff plain]
      exact and_congr_left' (named 0x04 (by decide))
    | writeSingleRegister unitId address value =>
      simp only [Call.check, plain, Bool.false_eq_true, if_false, Frame.answers, data_response plain]
      rw [← named 0x06 (by decide)]
      split
      · next a1 a0 v1 v0 bytes =>
        rw [bytes]
        split
        · next wrong =>
          simp only [reduceCtorEq, exists_const, false_iff]
          rintro ⟨same, echoed⟩
          obtain ⟨x1, x0, first, readFirst⟩ := append16_eq address
          obtain ⟨y1, y0, second, readSecond⟩ := append16_eq value
          rw [first, second] at echoed
          cases echoed
          simp [FunctionCode.code, same, readFirst, readSecond] at wrong
        · next right =>
          push Not at right
          simp only [Except.ok.injEq, exists_eq', true_iff]
          refine ⟨right.1, ?_⟩
          rw [(read16_eq_iff a1 a0 address).mp right.2.1, (read16_eq_iff v1 v0 value).mp right.2.2]
          rfl
      · next other =>
        -- An answer of another length is no echo.
        simp only [reduceCtorEq, exists_const, false_iff]
        rintro ⟨-, echoed⟩
        obtain ⟨x1, x0, first, -⟩ := append16_eq address
        obtain ⟨y1, y0, second, -⟩ := append16_eq value
        rw [first, second] at echoed
        exact other x1 x0 y1 y0 echoed

theorem request_ok_iff (transaction : UInt16) (call : Call) :
    (∃ bytes, call.request transaction = .ok bytes) ↔ call.allowed := by
  have range : ∀ (unitId : UInt8) (function : FunctionCode) (address count : UInt16),
      function ≠ .writeSingleRegister →
      ((∃ bytes, readRegisters transaction unitId function address count = .ok bytes) ↔
        count ≠ 0 ∧ count ≤ 125) := by
    intro unitId function address count reads
    have known : ¬(function ≠ .readHoldingRegisters ∧ function ≠ .readInputRegisters) := by
      cases function <;> simp_all
    rw [readRegisters, if_neg known]
    split
    · next bad =>
      simp only [reduceCtorEq, exists_const, false_iff, not_and]
      intro nonzero small
      rcases bad with zero | large
      · exact nonzero zero
      · exact absurd small (UInt16.not_le.mpr large)
    · next good =>
      push Not at good
      simpa using good
  cases call with
  | readHoldingRegisters unitId address count => exact range unitId _ address count (by simp)
  | readInputRegisters unitId address count => exact range unitId _ address count (by simp)
  | writeSingleRegister unitId address value => simp [Call.request, Call.allowed]

theorem transact_ok_iff (response : Response) : (client.transact exchange).2 = .ok response ↔
      client.isOpen = true ∧ exchange.sent = true ∧ ∃ (frame : Frame) (unread : List UInt8),
        client.incoming ++ exchange.arriving = frame.encode ++ unread ∧
          response = frame.response := by
  unfold ModbusTcpClient.transact
  cases client.isOpen with
  | false => simp
  | true =>
    cases exchange.sent with
    | false => simp
    | true =>
      simp only [Bool.not_true, Bool.false_eq_true, if_false, true_and]
      split
      · next used unread received =>
        simp only [Except.ok.injEq]
        obtain ⟨frame, stream, same⟩ := receiveResponse_ok received
        constructor
        · rintro rfl
          exact ⟨frame, unread, stream, same⟩
        · rintro ⟨other, left, stream', rfl⟩
          rw [stream', receiveResponse_encode other left] at received
          cases received
          rfl
      · next error received =>
        simp only [reduceCtorEq, false_iff]
        rintro ⟨frame, unread, stream, -⟩
        rw [stream, receiveResponse_encode frame unread] at received
        cases received

/-- Everything that makes a call return. -/
theorem call_ok_iff (request : Call) (response : Response) :
    (∃ values, (client.call request exchange).2 = .ok (response, values)) ↔
      request.allowed ∧ client.isOpen = true ∧ exchange.sent = true ∧
      ∃ (frame : Frame) (unread : List UInt8),
        client.incoming ++ exchange.arriving = frame.encode ++ unread ∧
          response = frame.response ∧ frame.answers request := by
  -- Taking a transaction number does not touch the connection.
  have transacted : ∀ response,
      (ModbusTcpClient.transact { client with nextTransaction := client.nextTransaction + 1 }
        exchange).2 = .ok response ↔
      client.isOpen = true ∧ exchange.sent = true ∧ ∃ (frame : Frame) (unread : List UInt8),
        client.incoming ++ exchange.arriving = frame.encode ++ unread ∧ response = frame.response :=
    fun response => transact_ok_iff response
  unfold ModbusTcpClient.call
  rw [← request_ok_iff client.nextTransaction]
  cases request.request client.nextTransaction with
  | error error => simp
  | ok bytes =>
    simp only [Except.ok.injEq, exists_eq', true_and]
    cases result : ModbusTcpClient.transact
        { client with nextTransaction := client.nextTransaction + 1 } exchange with
    | mk after answer =>
      simp only [result] at transacted
      cases answer with
      | error error =>
        simp only [reduceCtorEq, false_iff, not_and] at transacted
        simp only [reduceCtorEq, exists_const, false_iff]
        rintro ⟨isOpen, sent, frame, unread, stream, -, -⟩
        exact transacted frame.response isOpen sent ⟨frame, unread, stream, rfl⟩
      | ok used =>
        obtain ⟨isOpen, sent, frame, unread, stream, rfl⟩ := (transacted used).mp rfl
        simp only [isOpen, sent, true_and]
        have checked := check_ok_iff frame request
        constructor
        · rintro ⟨values, returned⟩
          cases verdict : request.check frame.response with
          | error error => simp [verdict, Except.map] at returned
          | ok accepted =>
            simp only [verdict, Except.map, Except.ok.injEq, Prod.mk.injEq] at returned
            exact ⟨frame, unread, stream, returned.1.symm, checked.mp ⟨accepted, verdict⟩⟩
        · rintro ⟨other, left, stream', rfl, answers⟩
          -- The stream begins with one frame only, so both are the same.
          have same := (transacted other.response).mpr ⟨isOpen, sent, other, left, stream', rfl⟩
          simp only [Except.ok.injEq] at same
          obtain ⟨values, accepted⟩ := (check_ok_iff other request).mpr answers
          refine ⟨values, ?_⟩
          rw [same, accepted]
          rfl

/-- A call is answered by its own response exactly if its own frame comes first. -/
theorem matched_iff (client : ModbusTcpClient) (event : ModbusEvent) :
    Matched client event ↔ OwnFrameFirst client event := by
  cases event with
  | call request exchange =>
    constructor
    · intro matched isOpen sent allowed frame unread stream answers
      obtain ⟨values, returned⟩ := (call_ok_iff request frame.response).mpr
        ⟨allowed, isOpen, sent, frame, unread, stream, rfl, answers⟩
      exact matched frame.response values returned
    · intro first response values returned
      obtain ⟨allowed, isOpen, sent, frame, unread, stream, rfl, answers⟩ :=
        (call_ok_iff request response).mp ⟨values, returned⟩
      exact first isOpen sent allowed frame unread stream answers
  | _ => exact Iff.rfl

/-- Along every run, calls are answered by their own responses exactly if their own frames come
first. -/
theorem responses_match_iff (client : ModbusTcpClient) (events : List ModbusEvent) :
    Along ModbusTcpClient.step Matched client events ↔
      Along ModbusTcpClient.step OwnFrameFirst client events := by
  have kept : ∀ (client : ModbusTcpClient) (event : ModbusEvent), True → OwnFrameFirst client event →
      True := fun _ _ _ _ => trivial
  exact Along.congr kept (fun client event _ => matched_iff client event) trivial events

/-- A read response with one register. -/
def sampleFrame (transactionId : UInt16) (value : UInt8) : Frame :=
  ⟨transactionId, 1, 0x03, 2, [0, value], by simp⟩

/-- A peer that answers the first request twice, and the second one after that. -/
def duplicatingRun : List ModbusEvent :=
  [.openConnection true,
    .call (.readHoldingRegisters 1 0 1)
      ⟨true, (sampleFrame 1 7).encode ++ (sampleFrame 1 7).encode, false⟩,
    .call (.readHoldingRegisters 1 0 1) ⟨true, (sampleFrame 2 8).encode, false⟩]

/-- The second call returns the duplicate of the first response. -/
theorem duplicate_answers_next_call :
    ((([ModbusEvent.openConnection true,
        .call (.readHoldingRegisters 1 0 1)
          ⟨true, (sampleFrame 1 7).encode ++ (sampleFrame 1 7).encode, false⟩].foldl
        ModbusTcpClient.step {}).call (.readHoldingRegisters 1 0 1)
          ⟨true, (sampleFrame 2 8).encode, false⟩).2 =
      .ok (⟨1, 1, 3, false, 0, [2, 0, 7]⟩, [7])) ∧
    ¬Along ModbusTcpClient.step Matched {} duplicatingRun := by
  have returned : ((([ModbusEvent.openConnection true,
      .call (.readHoldingRegisters 1 0 1)
        ⟨true, (sampleFrame 1 7).encode ++ (sampleFrame 1 7).encode, false⟩].foldl
      ModbusTcpClient.step {}).call (.readHoldingRegisters 1 0 1)
        ⟨true, (sampleFrame 2 8).encode, false⟩).2 =
      .ok (⟨1, 1, 3, false, 0, [2, 0, 7]⟩, [7])) := by decide +kernel
  refine ⟨returned, ?_⟩
  rintro ⟨-, -, matched, -⟩
  have own := (matched _ _ returned).1
  exact absurd own (by decide +kernel)

end Calls

end PocoDDS.Modbus
