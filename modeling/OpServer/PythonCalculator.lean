import OpServer.CalcEvaluator
import OpServer.PythonRuntime

/-!
# The calculator in Python

`format_response` of `udpserv.py`, which `TCP-Server.py` repeats word for word,
and the two halves of an iteration of `tcpclient.py`.  Python computes with
unbounded integers and raises where a value does not fit the wire format.
-/

namespace OpServer

open BigEndian Python SignedBits

/-- The dictionary of lambdas in `format_response`, indexed and called. -/
def resultInt (rqstOP requestIntOne requestIntTwo : Int) : Except PythonError Int :=
  match rqstOP with
  | 0 => .ok (requestIntOne + requestIntTwo)
  | 1 => .ok (requestIntOne - requestIntTwo)
  | 2 => .ok (Int.lor requestIntOne requestIntTwo)
  | 3 => .ok (Int.land requestIntOne requestIntTwo)
  | 4 => rightShift requestIntOne requestIntTwo
  | 5 => leftShift requestIntOne requestIntTwo
  | _ => .error .keyError

/-- `format_response` of `udpserv.py` and `TCP-Server.py` -/
def formatResponse (inputData : List Byte) : Except PythonError (List Byte) := do
  let (_, rqstID, rqstOP, _) ← unpackFourBytes (slice inputData 0 4)
  let retBytes ← pack .B 7
  let retBytes := retBytes ++ (← pack .B rqstID)
  let retBytes := retBytes ++ (← pack .B 0)
  let requestIntOne ← unpack .h (slice inputData 4 6)
  let requestIntTwo ← unpack .h (slice inputData 6 8)
  let resultInt ← resultInt rqstOP requestIntOne requestIntTwo
  return retBytes ++ (← pack .i resultInt)

/-- `format_request` of `tcpclient.py` -/
def formatRequest (operandOne operandTwo opCode requestID : Int) :
    Except PythonError (List Byte) := do
  let retBytes ← pack .B 8
  let retBytes := retBytes ++ (← pack .B requestID)
  let retBytes := retBytes ++ (← pack .B opCode)
  let retBytes := retBytes ++ (← pack .B 2)
  let retBytes := retBytes ++ (← pack .h operandOne)
  return retBytes ++ (← pack .h operandTwo)

/-- What `client` of `tcpclient.py` reads from a response: its ID and value. -/
def clientResponse (ourResponse : List Byte) : Except PythonError (Int × Int) := do
  let responseId ← unpack .B (← item ourResponse 1)
  let responseValue ← unpack .i (slice ourResponse 3 7)
  return (responseId, responseValue)

/-! ## Words as Python packs them -/

theorem pack_h_toInt (word : BitVec 16) :
    pack .h word.toInt = .ok (getBytesFrom16 word).toList := by
  rw [Format.h, pack_toInt 2 word, encode_two_eq_lanes, getBytesFrom16_eq_lanes]
  rfl

theorem pack_i_toInt (word : BitVec 32) :
    pack .i word.toInt = .ok (getBytesFrom32 word).toList := by
  rw [Format.i, pack_toInt 4 word, encode_four_eq_lanes, getBytesFrom32_eq_lanes]
  rfl

theorem unpack_h (bytes : Vector Byte 2) :
    unpack .h bytes.toList = .ok (get16FromBytes bytes).toInt := by
  have packed := pack_h_toInt (get16FromBytes bytes)
  rw [getBytesFrom16_get16FromBytes] at packed
  exact unpack_of_pack packed

theorem unpack_i (bytes : Vector Byte 4) :
    unpack .i bytes.toList = .ok (get32FromBytes bytes).toInt := by
  have packed := pack_i_toInt (get32FromBytes bytes)
  rw [getBytesFrom32_get32FromBytes] at packed
  exact unpack_of_pack packed

theorem i_fits_iff (number : Int) :
    Format.i.Fits number ↔ -2 ^ 31 ≤ number ∧ number < 2 ^ 31 := by
  simp only [Format.Fits, Format.i, if_true]
  omega

/-! ## The evaluation -/

/-- The lambdas compute the exact results, and only the shifts can raise. -/
theorem resultInt_code (operation : Operation) (first second : Int) :
    resultInt operation.code.toNat first second =
      if operation.IsShift ∧ second < 0 then .error .valueError
      else .ok (operation.exact first second) := by
  cases operation <;>
    simp [resultInt, Operation.code, Operation.exact, Operation.IsShift, rightShift, leftShift]

theorem resultInt_unknown {rqstOP : Byte} (unknown : 5 < rqstOP.toNat) (first second : Int) :
    resultInt rqstOP.toNat first second = .error .keyError := by
  unfold resultInt
  split <;> first | rfl | omega

section Slices

variable (message : Vector Byte 8) (trailing : List Byte)

theorem slice_header :
    slice (message.toList ++ trailing) 0 4 =
      [(remakeRequest message).TML, (remakeRequest message).requestID,
        (remakeRequest message).opCode, (remakeRequest message).numOperands] := by
  obtain ⟨TML, requestID, opCode, numOperands, highOne, lowOne, highTwo, lowTwo, rfl⟩ :=
    exists_eight_bytes message
  rfl

theorem slice_operandOne :
    slice (message.toList ++ trailing) 4 6 =
      (remakeRequest message).operandOne.theBytes.toList := by
  obtain ⟨TML, requestID, opCode, numOperands, highOne, lowOne, highTwo, lowTwo, rfl⟩ :=
    exists_eight_bytes message
  rfl

theorem slice_operandTwo :
    slice (message.toList ++ trailing) 6 8 =
      (remakeRequest message).operandTwo.theBytes.toList := by
  obtain ⟨TML, requestID, opCode, numOperands, highOne, lowOne, highTwo, lowTwo, rfl⟩ :=
    exists_eight_bytes message
  rfl

end Slices

/-- `format_response` reads the opcode, the two operands and the request ID of
the first eight bytes, and ignores what follows. -/
theorem formatResponse_append (message : Vector Byte 8) (trailing : List Byte) :
    formatResponse (message.toList ++ trailing) =
      (resultInt (remakeRequest message).opCode.toNat
        (remakeRequest message).operandOne.theInt.toInt
        (remakeRequest message).operandTwo.theInt.toInt).bind fun result =>
          (pack .i result).map fun bytes =>
            7#8 :: (remakeRequest message).requestID :: 0#8 :: bytes := by
  have seven : pack .B 7 = .ok [7] := pack_B_toNat 7
  have zero : pack .B 0 = .ok [0] := pack_B_toNat 0
  have operandOne : unpack .h (remakeRequest message).operandOne.theBytes.toList =
      .ok (remakeRequest message).operandOne.theInt.toInt := unpack_h _
  have operandTwo : unpack .h (remakeRequest message).operandTwo.theBytes.toList =
      .ok (remakeRequest message).operandTwo.theInt.toInt := unpack_h _
  simp only [formatResponse, slice_header, slice_operandOne, slice_operandTwo, unpackFourBytes,
    seven, zero, pack_B_toNat, operandOne, operandTwo, bind, Except.bind]
  cases resultInt (remakeRequest message).opCode.toNat
      (remakeRequest message).operandOne.theInt.toInt
      (remakeRequest message).operandTwo.theInt.toInt with
  | error raised => rfl
  | ok result =>
      cases pack .i result with
      | error raised => rfl
      | ok bytes => rfl

theorem formatResponse_eq_ok_iff {message : Vector Byte 8} {operation : Operation}
    (code : (remakeRequest message).opCode = operation.code) (trailing reply : List Byte) :
    formatResponse (message.toList ++ trailing) = .ok reply ↔
      (operation.IsShift → 0 ≤ (remakeRequest message).operandTwo.theInt.toInt) ∧
        ∃ bytes, pack .i (operation.exact (remakeRequest message).operandOne.theInt.toInt
          (remakeRequest message).operandTwo.theInt.toInt) = .ok bytes ∧
          reply = 7#8 :: (remakeRequest message).requestID :: 0#8 :: bytes := by
  rw [formatResponse_append, code, resultInt_code]
  generalize (remakeRequest message).operandOne.theInt.toInt = first
  generalize (remakeRequest message).operandTwo.theInt.toInt = second
  by_cases raises : operation.IsShift ∧ second < 0
  · rw [if_pos raises]
    constructor
    · intro impossible
      cases impossible
    · intro returns
      have := returns.1 raises.1
      omega
  · rw [if_neg raises]
    have counts : operation.IsShift → 0 ≤ second := fun shifts =>
      not_lt.mp fun negative => raises ⟨shifts, negative⟩
    change (pack .i (operation.exact first second)).map _ = _ ↔ _
    cases packed : pack .i (operation.exact first second) with
    | error raised =>
        constructor
        · intro impossible
          cases impossible
        · rintro ⟨-, bytes, impossible, -⟩
          cases impossible
    | ok bytes =>
        constructor
        · intro returned
          cases returned
          exact ⟨counts, bytes, rfl, rfl⟩
        · rintro ⟨-, other, same, rfl⟩
          cases same
          rfl

/-- Where C defines the evaluation and the exact result fits, the C servers
send what Python packs. -/
theorem replyBytes_toList {message : Vector Byte 8} {operation : Operation}
    (code : (remakeRequest message).opCode = operation.code)
    (inRange : operation.CountInRange (remakeRequest message).operandTwo.theInt.toInt)
    {bytes : List Byte}
    (packed : pack .i (operation.exact (remakeRequest message).operandOne.theInt.toInt
      (remakeRequest message).operandTwo.theInt.toInt) = .ok bytes) (unassigned : BitVec 32) :
    (replyBytes unassigned message).toList =
      7#8 :: (remakeRequest message).requestID :: 0#8 :: bytes := by
  obtain ⟨theInt, assigned, wrapped⟩ := calcTheInt_toInt code inRange
  have fits := (i_fits_iff _).mp (pack_eq_ok_iff.mp packed).1
  rw [bmod_eq_self_of_range fits.1 fits.2] at wrapped
  rw [← wrapped, pack_i_toInt, Except.ok.injEq] at packed
  rw [replyBytes, unloadResponse_toList, ← packed]
  simp only [processRequest, calcResult, assigned, Option.getD_some]
  rfl

/-! ## Where the C and the Python servers agree -/

/-- Whenever the Python server replies, the C servers evaluate the request
without undefined behaviour and send the same bytes. -/
def AgreesWithPython (message : Vector Byte 8) (trailing : List Byte) : Prop :=
  ∀ reply, formatResponse (message.toList ++ trailing) = .ok reply →
    (calcTheInt (remakeRequest message)).isSome ∧
      ∀ unassigned, (replyBytes unassigned message).toList = reply

theorem shiftCount_le_of_fits {first second : Int} (nonzero : first ≠ 0)
    (fits : Format.i.Fits (first * 2 ^ second.toNat)) : second ≤ 31 := by
  by_contra large
  rw [i_fits_iff] at fits
  have power : (2 : Int) ^ 32 ≤ 2 ^ second.toNat := by
    exact_mod_cast Nat.pow_le_pow_right (by decide) (show 32 ≤ second.toNat by omega)
  rcases lt_or_gt_of_ne nonzero with negative | positive
  · have := Int.mul_le_mul_of_nonneg_right (show first ≤ -1 by omega)
      (show (0 : Int) ≤ 2 ^ second.toNat by omega)
    omega
  · have := Int.mul_le_mul_of_nonneg_right (show 1 ≤ first by omega)
      (show (0 : Int) ≤ 2 ^ second.toNat by omega)
    omega

theorem agreesWithPython_iff_of_code {message : Vector Byte 8} {operation : Operation}
    (code : (remakeRequest message).opCode = operation.code) (trailing : List Byte) :
    AgreesWithPython message trailing ↔
      ((operation.IsShift → 0 ≤ (remakeRequest message).operandTwo.theInt.toInt) →
        Format.i.Fits (operation.exact (remakeRequest message).operandOne.theInt.toInt
          (remakeRequest message).operandTwo.theInt.toInt) →
        operation.IsShift → (remakeRequest message).operandTwo.theInt.toInt ≤ 31) := by
  constructor
  · intro agrees counts fits shifts
    have returned := (formatResponse_eq_ok_iff code trailing _).mpr
      ⟨counts, _, pack_eq_ok_iff.mpr ⟨fits, rfl⟩, rfl⟩
    exact ((calcTheInt_isSome_iff_of_code code).mp (agrees _ returned).1 shifts).2
  · intro bounded reply returned
    obtain ⟨counts, bytes, packed, rfl⟩ :=
      (formatResponse_eq_ok_iff code trailing reply).mp returned
    have inRange : operation.CountInRange (remakeRequest message).operandTwo.theInt.toInt :=
      fun shifts => ⟨counts shifts, bounded counts (pack_eq_ok_iff.mp packed).1 shifts⟩
    exact ⟨(calcTheInt_isSome_iff_of_code code).mpr inRange,
      replyBytes_toList code inRange packed⟩

theorem agreesWithPython_of_unknown {message : Vector Byte 8}
    (unknown : 5 < (remakeRequest message).opCode.toNat) (trailing : List Byte) :
    AgreesWithPython message trailing := by
  intro reply returned
  rw [formatResponse_append, resultInt_unknown unknown] at returned
  cases returned

/-- The servers agree unless the count of a shift exceeds 31 and Python has a
result nevertheless: for every right shift, and for a left shift of zero. -/
theorem agreesWithPython_iff (message : Vector Byte 8) (trailing : List Byte) :
    AgreesWithPython message trailing ↔
      ((remakeRequest message).opCode = 4 →
          (remakeRequest message).operandTwo.theInt.toInt ≤ 31) ∧
        ((remakeRequest message).opCode = 5 →
          (remakeRequest message).operandOne.theInt.toInt = 0 →
            (remakeRequest message).operandTwo.theInt.toInt ≤ 31) := by
  by_cases known : (remakeRequest message).opCode.toNat ≤ 5
  · obtain ⟨operation, code⟩ := Operation.exists_code_of_le known
    rw [agreesWithPython_iff_of_code code, code]
    have range (notLeft : operation ≠ .shiftLeft) := Operation.exact_range notLeft
      (remakeRequest message).operandOne.theInt (remakeRequest message).operandTwo.theInt
    generalize (remakeRequest message).operandOne.theInt.toInt = first at range
    generalize (remakeRequest message).operandTwo.theInt.toInt = second at range
    cases operation with
    | add => simp [Operation.IsShift, Operation.code]
    | sub => simp [Operation.IsShift, Operation.code]
    | or => simp [Operation.IsShift, Operation.code]
    | and => simp [Operation.IsShift, Operation.code]
    | shiftRight =>
        have fits := (i_fits_iff _).mpr (range (by decide))
        constructor
        · intro bounded
          refine ⟨fun _ => ?_, fun five => absurd five (by decide)⟩
          by_contra large
          exact large (bounded (fun _ => by omega) fits (.inl rfl))
        · exact fun bounded _ _ _ => bounded.1 rfl
    | shiftLeft =>
        constructor
        · intro bounded
          refine ⟨fun four => absurd four (by decide), fun _ zero => ?_⟩
          by_contra large
          refine large (bounded (fun _ => by omega) ?_ (.inr rfl))
          rw [Operation.exact, zero, zero_mul]
          decide
        · intro bounded _ fits _
          by_cases zero : first = 0
          · exact bounded.2 rfl zero
          · exact shiftCount_le_of_fits zero fits
  · have otherFour : (remakeRequest message).opCode ≠ 4 :=
      fun equal => known (by rw [equal]; decide)
    have otherFive : (remakeRequest message).opCode ≠ 5 :=
      fun equal => known (by rw [equal]; decide)
    exact iff_of_true (agreesWithPython_of_unknown (by omega) trailing)
      ⟨fun four => (otherFour four).elim, fun five => (otherFive five).elim⟩

/-- `1 >> 32` is 0 in Python and undefined in C. -/
theorem shift_by_word_width_disagrees :
    ¬∀ (message : Vector Byte 8) (trailing : List Byte), (remakeRequest message).TML = 8 →
      AgreesWithPython message trailing := by
  intro claim
  have agrees := claim #v[8, 1, 4, 2, 0, 1, 0, 32] [] rfl [7, 1, 0, 0, 0, 0, 0]
    (by decide +kernel)
  exact absurd agrees.1 (by decide +kernel)

end OpServer
