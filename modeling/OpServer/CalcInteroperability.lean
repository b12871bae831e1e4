import OpServer.PythonCalculator
import OpServer.UdpSession

/-!
# Clients and servers in any combination

Three client encoders, three server evaluators and two client decoders were
written separately, in C and in Python.  Every combination computes the exact
result of a request whose result fits 32 bits.  The encoders differ in the
operand count they send, which no evaluator reads.
-/

namespace OpServer

open Python

/-- `getRequest` of `TCP-client.c`, with the operation and the operands that
the user types. -/
def getRequest (reqNum opc : Byte) (op1 op2 : BitVec 16) : Request where
  TML := 8
  requestID := reqNum
  opCode := opc
  numOperands := if 3 < opc.toNat then 1 else 2
  operandOne := { theInt := op1, theBytes := getBytesFrom16 op1 }
  operandTwo := { theInt := op2, theBytes := getBytesFrom16 op2 }

inductive ClientEncoder
  | clientUDP
  | tcpClientC
  | tcpClientPython

/-- The request message a client builds. -/
def ClientEncoder.encode (encoder : ClientEncoder) (requestID opCode : Byte)
    (operandOne operandTwo : BitVec 16) : Except PythonError (List Byte) :=
  match encoder with
  | clientUDP => .ok (clientMessage requestID opCode operandOne operandTwo).toList
  | tcpClientC => .ok (getTotalMessage (getRequest requestID opCode operandOne operandTwo)).toList
  | tcpClientPython =>
      formatRequest operandOne.toInt operandTwo.toInt opCode.toNat requestID.toNat

inductive ServerEvaluator
  | serverUDP
  | tcpServerC
  | formatResponse

/-- The reply a server sends for a message.  The C servers receive it with
whatever their buffers hold. -/
def ServerEvaluator.evaluate (evaluator : ServerEvaluator) (memory : ReceiveMemory 8)
    (unassigned : BitVec 32) (message : List Byte) : Option (List Byte) :=
  match evaluator with
  | serverUDP => (servRunStep memory ⟨message, unassigned⟩).map fun served => served.2.toList
  | tcpServerC => (connectionStep memory ⟨message, unassigned⟩).map fun served => served.2.toList
  | formatResponse => (OpServer.formatResponse message).toOption

inductive ClientDecoder
  | remakeResponse
  | unpack

/-- The request ID and the value a client reads from a reply. -/
def ClientDecoder.decode (decoder : ClientDecoder) (memory : ReceiveMemory 7)
    (reply : List Byte) : Option (Int × Int) :=
  match decoder with
  | remakeResponse =>
      (clientReceive memory reply).map fun received =>
        ((received.2.requestID.toNat : Int), received.2.result.theInt.toInt)
  | unpack => (clientResponse reply).toOption

theorem formatRequest_words (requestID opCode : Byte) (operandOne operandTwo : BitVec 16) :
    formatRequest operandOne.toInt operandTwo.toInt opCode.toNat requestID.toNat =
      .ok (clientMessage requestID opCode operandOne operandTwo).toList := by
  have eight : pack .B 8 = .ok [8] := pack_B_toNat 8
  have two : pack .B 2 = .ok [2] := pack_B_toNat 2
  simp only [formatRequest, eight, two, pack_B_toNat, pack_h_toInt, bind, Except.bind]
  rfl

/-- The requests of all encoders differ in the operand count only. -/
theorem encode_eq (encoder : ClientEncoder) (requestID opCode : Byte)
    (operandOne operandTwo : BitVec 16) :
    ∃ numOperands, encoder.encode requestID opCode operandOne operandTwo =
      .ok (getTotalMessage
        (makeRequest 8 requestID opCode numOperands operandOne operandTwo)).toList := by
  cases encoder with
  | clientUDP => exact ⟨2, rfl⟩
  | tcpClientC => exact ⟨if 3 < opCode.toNat then 1 else 2, rfl⟩
  | tcpClientPython => exact ⟨2, formatRequest_words requestID opCode operandOne operandTwo⟩

theorem evaluate_eq (evaluator : ServerEvaluator) (memory : ReceiveMemory 8)
    (unassigned : BitVec 32) (requestID numOperands : Byte) {operation : Operation}
    {first second : BitVec 16} (inRange : operation.CountInRange second.toInt)
    {theInt : BitVec 32} (exact : theInt.toInt = operation.exact first.toInt second.toInt) :
    evaluator.evaluate memory unassigned (getTotalMessage
        (makeRequest 8 requestID operation.code numOperands first second)).toList =
      some (7#8 :: requestID :: 0#8 :: (getBytesFrom32 theInt).toList) := by
  let request := makeRequest 8 requestID operation.code numOperands first second
  have decoded : remakeRequest (getTotalMessage request) = request :=
    remakeRequest_getTotalMessage (makeRequest_coherent _ _ _ _ _ _)
  have packed : pack .i (operation.exact
      (remakeRequest (getTotalMessage request)).operandOne.theInt.toInt
      (remakeRequest (getTotalMessage request)).operandTwo.theInt.toInt) =
      .ok (getBytesFrom32 theInt).toList := by
    rw [decoded]
    change pack .i (operation.exact first.toInt second.toInt) = _
    rw [← exact, pack_i_toInt]
  have counts : operation.CountInRange
      (remakeRequest (getTotalMessage request)).operandTwo.theInt.toInt := by
    rwa [decoded]
  have code : (remakeRequest (getTotalMessage request)).opCode = operation.code := rfl
  have bytes := replyBytes_toList code counts packed unassigned
  cases evaluator with
  | serverUDP =>
      obtain ⟨next, stepped⟩ := servRunStep_message memory (getTotalMessage request) unassigned rfl
      rw [ServerEvaluator.evaluate, stepped, Option.map_some, bytes]
      rfl
  | tcpServerC =>
      obtain ⟨next, stepped⟩ :=
        connectionStep_message memory (getTotalMessage request) unassigned rfl
      rw [ServerEvaluator.evaluate, stepped, Option.map_some, bytes]
      rfl
  | formatResponse =>
      have returned := (formatResponse_eq_ok_iff code [] _).mpr
        ⟨fun shifts => (counts shifts).1, _, packed, rfl⟩
      rw [List.append_nil] at returned
      rw [ServerEvaluator.evaluate, returned]
      rfl

theorem decode_eq (decoder : ClientDecoder) (memory : ReceiveMemory 7) (requestID : Byte)
    (theInt : BitVec 32) :
    decoder.decode memory (7#8 :: requestID :: 0#8 :: (getBytesFrom32 theInt).toList) =
      some ((requestID.toNat : Int), theInt.toInt) := by
  cases decoder with
  | remakeResponse =>
      let response : Response :=
        { TML := 7, requestID := requestID, errorCode := 0
          result := { theBytes := getBytesFrom32 theInt, theInt := theInt } }
      have coherent : response.Coherent := (int32Store_coherent_iff _).mpr rfl
      obtain ⟨next, received⟩ := clientReceive_message memory (unloadResponse response) rfl
      have bytes : 7#8 :: requestID :: 0#8 :: (getBytesFrom32 theInt).toList =
          (unloadResponse response).toList := (unloadResponse_toList response).symm
      rw [ClientDecoder.decode, bytes, received, remakeResponse_unloadResponse coherent]
      rfl
  | unpack =>
      have value := unpack_i (getBytesFrom32 theInt)
      rw [get32FromBytes_getBytesFrom32] at value
      have fields : slice (7#8 :: requestID :: 0#8 :: (getBytesFrom32 theInt).toList) 3 7 =
          (getBytesFrom32 theInt).toList := by
        simp only [slice, List.take_succ_cons, List.drop_succ_cons, List.drop_zero]
        exact List.take_of_length_le (by simp)
      simp only [ClientDecoder.decode, clientResponse, item, fields, value, unpack_B,
        List.getElem?_cons_succ, List.getElem?_cons_zero, bind, Except.bind, pure, Except.pure]
      rfl

/-- Whichever client encodes a request, server evaluates it and client decodes
the reply, the result is the exact one. -/
theorem interoperable (encoder : ClientEncoder) (evaluator : ServerEvaluator)
    (decoder : ClientDecoder) (serverMemory : ReceiveMemory 8) (unassigned : BitVec 32)
    (clientMemory : ReceiveMemory 7) (requestID : Byte) (operation : Operation)
    (first second : BitVec 16) (inRange : operation.CountInRange second.toInt)
    (lower : -2 ^ 31 ≤ operation.exact first.toInt second.toInt)
    (upper : operation.exact first.toInt second.toInt < 2 ^ 31) :
    ∃ message reply,
      encoder.encode requestID operation.code first second = .ok message ∧
      evaluator.evaluate serverMemory unassigned message = some reply ∧
      reply[2]? = some 0 ∧
      decoder.decode clientMemory reply =
        some ((requestID.toNat : Int), operation.exact first.toInt second.toInt) := by
  obtain ⟨numOperands, encoded⟩ := encode_eq encoder requestID operation.code first second
  let theInt := BitVec.ofInt 32 (operation.exact first.toInt second.toInt)
  have exact : theInt.toInt = operation.exact first.toInt second.toInt :=
    SignedBits.toInt_ofInt_of_range lower upper
  refine ⟨_, _, encoded, evaluate_eq evaluator serverMemory unassigned requestID numOperands
    inRange exact, rfl, ?_⟩
  rw [decode_eq, exact]

/-- `-3 << 4` from the C client of the TCP server, to Python, and back into
Python. -/
theorem interoperable_mixed :
    ∃ message reply,
      ClientEncoder.tcpClientC.encode 255 Operation.shiftLeft.code (-3) 4 = .ok message ∧
      ServerEvaluator.formatResponse.evaluate
        ⟨Vector.replicate 100 0, Vector.replicate 8 0⟩ 0 message = some reply ∧
      reply[2]? = some 0 ∧
      ClientDecoder.unpack.decode ⟨Vector.replicate 100 0, Vector.replicate 7 0⟩ reply =
        some (((255#8).toNat : Int), Operation.shiftLeft.exact (-3#16).toInt (4#16).toInt) :=
  interoperable .tcpClientC .formatResponse .unpack _ 0 _ 255 .shiftLeft (-3) 4
    (by decide) (by decide) (by decide)

end OpServer
