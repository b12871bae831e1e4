import OpServer.PythonCalculator

/-!
# Which requests the Python server survives

Nothing in `udpserv.py` catches an exception, so a request for which
`format_response` raises ends the server.  This file says for every byte string
whether it returns, and what.
-/

namespace OpServer

open BigEndian Python

/-- The signed big-endian number in two bytes of a byte string. -/
def signedWord (data : List Byte) (start : Nat) : Int :=
  (value (slice data start (start + 2)) : Int).bmod (2 ^ 16)

theorem exists_request {data : List Byte} (complete : 8 ≤ data.length) :
    ∃ (message : Vector Byte 8) (trailing : List Byte),
      data = message.toList ++ trailing ∧
      data.getD 1 0 = (remakeRequest message).requestID ∧
      data.getD 2 0 = (remakeRequest message).opCode ∧
      signedWord data 4 = (remakeRequest message).operandOne.theInt.toInt ∧
      signedWord data 6 = (remakeRequest message).operandTwo.theInt.toInt := by
  let message : Vector Byte 8 := ⟨(data.take 8).toArray, by simp; omega⟩
  have split : data = message.toList ++ data.drop 8 := by
    rw [Vector.toList, List.take_append_drop]
  have header := slice_header message (data.drop 8)
  have modulus : 256 ^ Format.h.size = 2 ^ 16 := by decide
  have unpacked (start : Nat) (bytes : Vector Byte 2)
      (same : slice data start (start + 2) = bytes.toList) :
      signedWord data start = (get16FromBytes bytes).toInt := by
    have word := unpack_h bytes
    rw [unpack, if_pos (by rw [Vector.length_toList]; rfl), Except.ok.injEq,
      if_pos (show Format.h.signed = true from rfl)] at word
    unfold signedWord
    rw [same, ← modulus]
    exact word
  rw [← split] at header
  have item (index : Nat) (inside : index < 4) :
      data.getD index 0 = (slice data 0 4).getD index 0 := by
    simp [slice, List.getD_eq_getElem?_getD, inside]
  refine ⟨message, data.drop 8, split, ?_, ?_, unpacked 4 _ ?_, unpacked 6 _ ?_⟩
  · rw [item 1 (by decide), header]
    rfl
  · rw [item 2 (by decide), header]
    rfl
  · have operandOne := slice_operandOne message (data.drop 8)
    rwa [← split] at operandOne
  · have operandTwo := slice_operandTwo message (data.drop 8)
    rwa [← split] at operandTwo

theorem formatResponse_eq {data : List Byte} (complete : 8 ≤ data.length) :
    formatResponse data =
      (resultInt (data.getD 2 0).toNat (signedWord data 4) (signedWord data 6)).bind
        fun result => (pack .i result).map fun bytes => 7#8 :: data.getD 1 0 :: 0#8 :: bytes := by
  obtain ⟨message, trailing, split, requestID, opCode, first, second⟩ := exists_request complete
  rw [requestID, opCode, first, second, split]
  exact formatResponse_append message trailing

/-- The last operand is unpacked from bytes six and seven. -/
theorem length_of_formatResponse {data reply : List Byte}
    (returned : formatResponse data = .ok reply) : 8 ≤ data.length := by
  unfold formatResponse at returned
  obtain ⟨⟨_, rqstID, rqstOP, _⟩, -, returned⟩ := bind_eq_ok_iff.mp returned
  obtain ⟨_, -, returned⟩ := bind_eq_ok_iff.mp returned
  obtain ⟨_, -, returned⟩ := bind_eq_ok_iff.mp returned
  obtain ⟨_, -, returned⟩ := bind_eq_ok_iff.mp returned
  obtain ⟨_, -, returned⟩ := bind_eq_ok_iff.mp returned
  obtain ⟨requestIntTwo, unpacked, -⟩ := bind_eq_ok_iff.mp returned
  have length := length_of_unpack unpacked
  rw [slice_length] at length
  change _ = 2 at length
  omega

/-- A reply is sent exactly for an operation whose shift count is not negative
and whose exact result fits the response. -/
theorem formatResponse_returns_iff (data reply : List Byte) :
    formatResponse data = .ok reply ↔
      8 ≤ data.length ∧ ∃ operation : Operation, data.getD 2 0 = operation.code ∧
        (operation.IsShift → 0 ≤ signedWord data 6) ∧
        (-2 ^ 31 ≤ operation.exact (signedWord data 4) (signedWord data 6) ∧
          operation.exact (signedWord data 4) (signedWord data 6) < 2 ^ 31) ∧
        reply = [7, data.getD 1 0, 0] ++ encode 4 (operation.exact (signedWord data 4)
          (signedWord data 6) % 2 ^ 32).toNat := by
  constructor
  · intro returned
    have complete := length_of_formatResponse returned
    obtain ⟨message, trailing, split, requestID, opCode, first, second⟩ :=
      exists_request complete
    rw [requestID, opCode, first, second]
    rw [split] at returned
    by_cases known : (remakeRequest message).opCode.toNat ≤ 5
    · obtain ⟨operation, code⟩ := Operation.exists_code_of_le known
      obtain ⟨counts, bytes, packed, rfl⟩ :=
        (formatResponse_eq_ok_iff code trailing reply).mp returned
      obtain ⟨fits, rfl⟩ := pack_eq_ok_iff.mp packed
      exact ⟨complete, operation, code, counts, (i_fits_iff _).mp fits, rfl⟩
    · rw [formatResponse_append, resultInt_unknown (by omega)] at returned
      cases returned
  · rintro ⟨complete, operation, code, counts, range, rfl⟩
    obtain ⟨message, trailing, split, requestID, opCode, first, second⟩ :=
      exists_request complete
    rw [opCode] at code
    rw [second] at counts
    rw [first, second, ← i_fits_iff] at range
    rw [requestID, first, second, split]
    exact (formatResponse_eq_ok_iff code trailing _).mpr
      ⟨counts, _, pack_eq_ok_iff.mpr ⟨range, rfl⟩, rfl⟩

theorem exists_formatResponse_iff (data : List Byte) :
    (∃ reply, formatResponse data = .ok reply) ↔
      8 ≤ data.length ∧ (data.getD 2 0).toNat ≤ 5 ∧
        ((data.getD 2 0).toNat = 4 ∨ (data.getD 2 0).toNat = 5 → 0 ≤ signedWord data 6) ∧
        ((data.getD 2 0).toNat = 5 →
          -2 ^ 31 ≤ signedWord data 4 * 2 ^ (signedWord data 6).toNat ∧
            signedWord data 4 * 2 ^ (signedWord data 6).toNat < 2 ^ 31) := by
  simp only [formatResponse_returns_iff, exists_and_left]
  apply and_congr_right
  intro complete
  obtain ⟨message, -, -, -, -, first, second⟩ := exists_request complete
  have fitting := Operation.exists_fitting_iff (data.getD 2 0)
    (0 ≤ signedWord data 6) (remakeRequest message).operandOne.theInt
    (remakeRequest message).operandTwo.theInt
  rw [← first, ← second] at fitting
  rw [← fitting]
  constructor
  · rintro ⟨reply, operation, code, counts, range, -⟩
    exact ⟨operation, code, counts, range⟩
  · rintro ⟨operation, code, counts, range⟩
    exact ⟨_, operation, code, counts, range, rfl⟩

theorem formatResponse_value {data reply : List Byte} (returned : formatResponse data = .ok reply) :
    ∃ operation : Operation, data.getD 2 0 = operation.code ∧
      -2 ^ 31 ≤ operation.exact (signedWord data 4) (signedWord data 6) ∧
      operation.exact (signedWord data 4) (signedWord data 6) < 2 ^ 31 ∧
      reply = [7, data.getD 1 0, 0] ++
        encode 4 (operation.exact (signedWord data 4) (signedWord data 6) % 2 ^ 32).toNat := by
  obtain ⟨-, operation, code, -, range, replyEq⟩ :=
    (formatResponse_returns_iff data reply).mp returned
  exact ⟨operation, code, range.1, range.2, replyEq⟩

/-- Bytes 0 and 3 and those from byte 8 on do not matter. -/
theorem formatResponse_congr {data other : List Byte} (complete : 8 ≤ data.length)
    (otherComplete : 8 ≤ other.length) (header : slice other 1 3 = slice data 1 3)
    (operandOne : slice other 4 6 = slice data 4 6)
    (operandTwo : slice other 6 8 = slice data 6 8) :
    formatResponse other = formatResponse data := by
  have item (bytes : List Byte) (index : Nat) (inside : index < 2) :
      bytes.getD (index + 1) 0 = (slice bytes 1 3).getD index 0 := by
    rw [slice, List.getD_eq_getElem?_getD, List.getD_eq_getElem?_getD, List.getElem?_drop,
      List.getElem?_take, if_pos (by omega), Nat.add_comm]
  have requestID : other.getD 1 0 = data.getD 1 0 := by
    rw [item other 0 (by decide), header, ← item data 0 (by decide)]
  have opCode : other.getD 2 0 = data.getD 2 0 := by
    rw [item other 1 (by decide), header, ← item data 1 (by decide)]
  have word (start : Nat) (same : slice other start (start + 2) = slice data start (start + 2)) :
      signedWord other start = signedWord data start := by
    unfold signedWord
    rw [same]
  rw [formatResponse_eq complete, formatResponse_eq otherComplete, requestID, opCode,
    word 4 operandOne, word 6 operandTwo]

/-- The requests that `format_response` answers, its answer, and the bytes on
which the answer depends. -/
theorem formatResponse_domain_and_value (data : List Byte) :
    let opCode := (data.getD 2 0).toNat
    let first := signedWord data 4
    let second := signedWord data 6
    ((∃ reply, formatResponse data = .ok reply) ↔
      8 ≤ data.length ∧ opCode ≤ 5 ∧ (opCode = 4 ∨ opCode = 5 → 0 ≤ second) ∧
        (opCode = 5 →
          -2 ^ 31 ≤ first * 2 ^ second.toNat ∧ first * 2 ^ second.toNat < 2 ^ 31)) ∧
    (∀ reply, formatResponse data = .ok reply →
      ∃ operation : Operation, data.getD 2 0 = operation.code ∧
        -2 ^ 31 ≤ operation.exact first second ∧ operation.exact first second < 2 ^ 31 ∧
        reply = [7, data.getD 1 0, 0] ++
          encode 4 (operation.exact first second % 2 ^ 32).toNat) ∧
    ∀ other : List Byte, 8 ≤ data.length → 8 ≤ other.length →
      slice other 1 3 = slice data 1 3 → slice other 4 6 = slice data 4 6 →
      slice other 6 8 = slice data 6 8 → formatResponse other = formatResponse data :=
  ⟨exists_formatResponse_iff data, fun _ => formatResponse_value, fun _ => formatResponse_congr⟩

end OpServer
