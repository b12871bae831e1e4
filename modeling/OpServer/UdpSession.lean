import OpServer.ReceiveLoops

/-!
# One request and its reply over UDP

A client of `ClientUDP.c` encodes a request, a server of `ServerUDP.c` that has
already handled any datagrams answers it, and the client decodes the answer.
The buffers of both sides start with arbitrary leftovers.
-/

namespace OpServer

/-- The request message of `ClientUDP.c`: total length 8, two operands. -/
def clientMessage (requestID opCode : Byte) (operandOne operandTwo : BitVec 16) :
    Vector Byte 8 :=
  getTotalMessage (makeRequest 8 requestID opCode 2 operandOne operandTwo)

theorem remakeRequest_clientMessage (requestID opCode : Byte)
    (operandOne operandTwo : BitVec 16) :
    remakeRequest (clientMessage requestID opCode operandOne operandTwo) =
      makeRequest 8 requestID opCode 2 operandOne operandTwo :=
  remakeRequest_getTotalMessage (makeRequest_coherent _ _ _ _ _ _)

/-- A datagram that declares at most eight bytes is always handled. -/
theorem servRunStep_isSome (memory : ReceiveMemory 8) {arrival : Arrival}
    (declares : DeclaresAtMost 8 arrival.bytes) :
    (servRunStep memory arrival).isSome := by
  rw [servRunStep, receive_of_declares (by decide) memory declares]
  rfl

/-- A server that has handled any datagrams answers a client's request, and the
client decodes the operation's result, exact or wrapped around at 32 bits. -/
theorem session_correct (memory : ReceiveMemory 8) (history : List Arrival)
    (handled : ∀ arrival ∈ history, DeclaresAtMost 8 arrival.bytes)
    (requestID : Byte) (operation : Operation) (first second : BitVec 16)
    (inRange : operation.CountInRange second.toInt) (unassigned : BitVec 32)
    (clientMemory : ReceiveMemory 7) :
    ∃ afterHistory replies afterRequest reply afterReply response,
      Stepped.run servRunStep memory history = some (afterHistory, replies) ∧
      servRunStep afterHistory
          ⟨(clientMessage requestID operation.code first second).toList, unassigned⟩ =
        some (afterRequest, reply) ∧
      clientReceive clientMemory reply.toList = some (afterReply, response) ∧
      response.TML = 7 ∧ response.requestID = requestID ∧ response.errorCode = 0 ∧
      response.result.theInt.toInt =
        (operation.exact first.toInt second.toInt).bmod (2 ^ 32) ∧
      (operation ≠ .shiftLeft →
        response.result.theInt.toInt = operation.exact first.toInt second.toInt) := by
  obtain ⟨afterHistory, replies, ran⟩ :=
    Stepped.run_isSome (fun state _ => servRunStep_isSome state) memory handled
  let message := clientMessage requestID operation.code first second
  obtain ⟨afterRequest, answered⟩ :=
    servRunStep_message afterHistory message unassigned rfl
  obtain ⟨afterReply, decoded⟩ :=
    clientReceive_message clientMemory (replyBytes unassigned message) rfl
  let request := makeRequest 8 requestID operation.code 2 first second
  have code : request.opCode = operation.code := rfl
  obtain ⟨theInt, assigned, value⟩ := calcTheInt_toInt code inRange
  have result : (processRequest unassigned message).result.theInt = theInt := by
    simp only [processRequest, calcResult, message, remakeRequest_clientMessage]
    rw [assigned, Option.getD_some]
  refine ⟨afterHistory, replies, afterRequest, _, afterReply, _, ran, answered, decoded, ?_⟩
  rw [remakeResponse_replyBytes, result]
  refine ⟨rfl, ?_, rfl, value,
    fun notLeft => value.trans (Operation.exact_bmod notLeft first second)⟩
  simp [processRequest, message, remakeRequest_clientMessage, makeRequest]

/-- A truncated datagram earlier in the history does not disturb `3 - (-4)`. -/
theorem session_correct_after_truncated :
    ∃ afterHistory replies afterRequest reply afterReply response,
      Stepped.run servRunStep ⟨Vector.replicate 100 1, Vector.replicate 8 2⟩
          [⟨[8, 1, 5], 77⟩] = some (afterHistory, replies) ∧
      servRunStep afterHistory
          ⟨(clientMessage 200 Operation.sub.code 3 (-4)).toList, 9⟩ =
        some (afterRequest, reply) ∧
      clientReceive ⟨Vector.replicate 100 3, Vector.replicate 7 4⟩ reply.toList =
        some (afterReply, response) ∧
      response.TML = 7 ∧ response.requestID = 200 ∧ response.errorCode = 0 ∧
      response.result.theInt.toInt =
        (Operation.sub.exact (3#16).toInt (-4#16).toInt).bmod (2 ^ 32) ∧
      (Operation.sub ≠ .shiftLeft →
        response.result.theInt.toInt = Operation.sub.exact (3#16).toInt (-4#16).toInt) :=
  session_correct _ _ (by decide) 200 .sub 3 (-4) (by decide) 9 _

end OpServer
