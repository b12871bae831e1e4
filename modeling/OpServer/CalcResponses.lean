import OpServer.CalcEvaluator

/-!
# What a response says about its request

The codecs are inverse to each other on the records that the programs build
and on all wire messages, so a response can be judged by its fields.  The
servers write `errorCode` 0 into every response; the second half of the file
determines for which requests that is true.
-/

namespace OpServer

open BigEndian

theorem calcResult_coherent (unassigned : BitVec 32) (toProcess : Request) :
    (calcResult unassigned toProcess).Coherent :=
  (int32Store_coherent_iff _).mpr rfl

/-- Both codecs are inverse to each other in either direction, and every store
keeps its bytes and its integer in step. -/
theorem codecs_are_inverse :
    (∀ (tml requestID OPCode numOperands : Byte) (opOne opTwo : BitVec 16),
      let remade := remakeRequest (getTotalMessage
        (makeRequest tml requestID OPCode numOperands opOne opTwo))
      remade.TML = tml ∧ remade.requestID = requestID ∧ remade.opCode = OPCode ∧
        remade.numOperands = numOperands ∧ remade.operandOne.theInt = opOne ∧
        remade.operandTwo.theInt = opTwo ∧
        remade = makeRequest tml requestID OPCode numOperands opOne opTwo) ∧
    (∀ theBytes : Vector Byte 8, getTotalMessage (remakeRequest theBytes) = theBytes) ∧
    (∀ (tml requestID errorCode : Byte) (result : BitVec 32),
      let remade := remakeResponse (unloadResponse (makeResponse tml requestID errorCode result))
      remade.TML = tml ∧ remade.requestID = requestID ∧ remade.errorCode = errorCode ∧
        remade.result.theInt = result ∧
        remade = makeResponse tml requestID errorCode result) ∧
    (∀ theBytes : Vector Byte 7, unloadResponse (remakeResponse theBytes) = theBytes) ∧
    (∀ (tml requestID OPCode numOperands : Byte) (opOne opTwo : BitVec 16),
      (makeRequest tml requestID OPCode numOperands opOne opTwo).Coherent) ∧
    (∀ theBytes : Vector Byte 8, (remakeRequest theBytes).Coherent) ∧
    (∀ (tml requestID errorCode : Byte) (result : BitVec 32),
      (makeResponse tml requestID errorCode result).Coherent) ∧
    (∀ theBytes : Vector Byte 7, (remakeResponse theBytes).Coherent) ∧
    ∀ (unassigned : BitVec 32) (toProcess : Request),
      (calcResult unassigned toProcess).Coherent := by
  refine ⟨?_, getTotalMessage_remakeRequest, ?_, unloadResponse_remakeResponse,
    makeRequest_coherent, remakeRequest_coherent, makeResponse_coherent,
    remakeResponse_coherent, calcResult_coherent⟩
  · intro tml requestID OPCode numOperands opOne opTwo remade
    have same : remade = makeRequest tml requestID OPCode numOperands opOne opTwo :=
      remakeRequest_getTotalMessage
        (makeRequest_coherent tml requestID OPCode numOperands opOne opTwo)
    rw [same]
    exact ⟨rfl, rfl, rfl, rfl, rfl, rfl, rfl⟩
  · intro tml requestID errorCode result remade
    have same : remade = makeResponse tml requestID errorCode result :=
      remakeResponse_unloadResponse (makeResponse_coherent tml requestID errorCode result)
    rw [same]
    exact ⟨rfl, rfl, rfl, rfl, rfl⟩

/-! ## When `errorCode` 0 is justified -/

/-- A response reports an error, or C defines the evaluation of its request and
the result is the exact one. -/
def Response.Certifies (response : Response) (request : Request) : Prop :=
  response.errorCode ≠ 0 ∨
    ∃ operation : Operation, request.opCode = operation.code ∧
      (calcTheInt request).isSome ∧
      response.result.theInt.toInt =
        operation.exact request.operandOne.theInt.toInt request.operandTwo.theInt.toInt

/-- A server never reports an error, so all that counts is the evaluation. -/
theorem processRequest_certifies_iff (unassigned : BitVec 32) (targetRequest : Vector Byte 8) :
    (processRequest unassigned targetRequest).Certifies (remakeRequest targetRequest) ↔
      ∃ operation : Operation, (remakeRequest targetRequest).opCode = operation.code ∧
        operation.CountInRange (remakeRequest targetRequest).operandTwo.theInt.toInt ∧
        -2 ^ 31 ≤ operation.exact (remakeRequest targetRequest).operandOne.theInt.toInt
          (remakeRequest targetRequest).operandTwo.theInt.toInt ∧
        operation.exact (remakeRequest targetRequest).operandOne.theInt.toInt
          (remakeRequest targetRequest).operandTwo.theInt.toInt < 2 ^ 31 := by
  constructor
  · rintro (reported | ⟨operation, code, assigned, exactly⟩)
    · exact (reported rfl).elim
    · have range := SignedBits.toInt_range
        (processRequest unassigned targetRequest).result.theInt
      rw [exactly] at range
      exact ⟨operation, code, (calcTheInt_isSome_iff_of_code code).mp assigned, range⟩
  · rintro ⟨operation, code, inRange, lower, upper⟩
    obtain ⟨theInt, assigned, value⟩ := calcTheInt_toInt code inRange
    refine Or.inr ⟨operation, code, by rw [assigned]; rfl, ?_⟩
    simp only [processRequest, calcResult, assigned, Option.getD_some]
    rw [value, SignedBits.bmod_eq_self_of_range lower upper]

/-- The requests whose response can be trusted: a known opcode, a shift count
that C defines, and no left shift out of the 32-bit word. -/
theorem errorCode_certifies_iff (unassigned : BitVec 32) (targetRequest : Vector Byte 8) :
    let request := remakeRequest targetRequest
    let first := request.operandOne.theInt.toInt
    let second := request.operandTwo.theInt.toInt
    (processRequest unassigned targetRequest).Certifies request ↔
      request.opCode.toNat ≤ 5 ∧
      (request.opCode.toNat = RSOP ∨ request.opCode.toNat = LSOP →
        0 ≤ second ∧ second ≤ 31) ∧
      (request.opCode.toNat = LSOP →
        -2 ^ 31 ≤ first * 2 ^ second.toNat ∧ first * 2 ^ second.toNat < 2 ^ 31) := by
  intro request first second
  rw [processRequest_certifies_iff]
  exact Operation.exists_fitting_iff _ (0 ≤ second ∧ second ≤ 31) _ _

/-- An unknown opcode, a count of 32 and a left shift of 1 by 31 are all
answered with `errorCode` 0. -/
theorem errorCode_certifies_nothing :
    ¬(processRequest 0 #v[8, 1, 6, 2, 0, 1, 0, 1]).Certifies
        (remakeRequest #v[8, 1, 6, 2, 0, 1, 0, 1]) ∧
      ¬(processRequest 0 #v[8, 1, 4, 2, 0, 1, 0, 32]).Certifies
        (remakeRequest #v[8, 1, 4, 2, 0, 1, 0, 32]) ∧
      ¬(processRequest 0 #v[8, 1, 5, 2, 0, 1, 0, 31]).Certifies
        (remakeRequest #v[8, 1, 5, 2, 0, 1, 0, 31]) := by
  refine ⟨?_, ?_, ?_⟩ <;> rintro (reported | ⟨operation, code, assigned, exactly⟩)
  · exact reported rfl
  · exact absurd (code ▸ operation.code_toNat_le) (by decide)
  · exact reported rfl
  · exact absurd assigned (by decide)
  · exact reported rfl
  · obtain rfl : operation = Operation.shiftLeft :=
      Operation.code_injective (code.symm.trans (by decide))
    exact absurd exactly (by decide)

end OpServer
