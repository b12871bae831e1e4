import OpServer.PythonSessions
import OpServer.StreamSessions

/-!
# Sessions with the TCP server

`TCP-client.c` and `tcpclient.py` on a connection to `TCP-server.c`.  As long as
every `recv` returns a whole message, every iteration of a session shows the
result of what its user typed, whatever the buffers hold at first.
-/

namespace OpServer

open Python

/-! ## Replies -/

/-- The value a user is shown for an operation: the exact one, wrapped around at 32
bits if the operation shifts left. -/
structure Shows (operation : Operation) (first second value : Int) : Prop where
  wrapped : value = (operation.exact first second).bmod (2 ^ 32)
  exact : operation ≠ .shiftLeft → value = operation.exact first second

theorem exists_reply {message : Vector Byte 8} {operation : Operation}
    (code : (remakeRequest message).opCode = operation.code)
    (inRange : operation.CountInRange (remakeRequest message).operandTwo.theInt.toInt) :
    ∃ theInt : BitVec 32,
      Shows operation (remakeRequest message).operandOne.theInt.toInt
        (remakeRequest message).operandTwo.theInt.toInt theInt.toInt ∧
      ∀ unassigned, (processRequest unassigned message).result.theInt = theInt ∧
        (replyBytes unassigned message).toList =
          7#8 :: (remakeRequest message).requestID :: 0#8 :: (getBytesFrom32 theInt).toList := by
  obtain ⟨theInt, assigned, wrapped⟩ := calcTheInt_toInt code inRange
  refine ⟨theInt, ⟨wrapped, ?_⟩, ?_⟩
  · exact fun notLeft => wrapped.trans (Operation.exact_bmod notLeft _ _)
  · intro unassigned
    rw [replyBytes, unloadResponse_toList]
    simp only [processRequest, calcResult, assigned, Option.getD_some]
    exact ⟨trivial, rfl⟩

/-! ## The client in C -/

/-- What the user of `TCP-client.c` types in an iteration. -/
structure TcpPrompt where
  opc : Byte
  op1 : BitVec 16
  op2 : BitVec 16

/-- One of the six operations, with a shift count in range. -/
def TcpPrompt.Defined (typed : TcpPrompt) : Prop :=
  ∃ operation : Operation, typed.opc = operation.code ∧ operation.CountInRange typed.op2.toInt

/-- The variables of `main` in `TCP-client.c` that survive an iteration. -/
structure TcpRequester where
  iNum : Nat
  memory : ReceiveMemory 7

/-- What `TCP-server.c` sends for what `recv` returns. -/
def tcpReply (server : ReceiveMemory 8) (unassigned : BitVec 32) (bytes : List Byte) :
    Option (ReceiveMemory 8 × List Byte) :=
  (connectionStep server ⟨bytes, unassigned⟩).map fun served => (served.1, served.2.toList)

theorem tcpReply_size {server next : ReceiveMemory 8} {unassigned : BitVec 32}
    {bytes answer : List Byte} (answers : tcpReply server unassigned bytes = some (next, answer)) :
    answer ≠ [] ∧ answer.length ≤ 7 := by
  simp only [tcpReply, Option.map_eq_some_iff, Prod.mk.injEq] at answers
  obtain ⟨served, -, -, same⟩ := answers
  rw [← same, ← List.length_pos_iff, Vector.length_toList]
  decide

/-- An iteration of the loops of `TCP-client.c` and `TCP-server.c`. -/
def tcpPrograms :
    StreamPrograms TcpRequester (ReceiveMemory 8) TcpPrompt (BitVec 32) (Byte × BitVec 32) Byte where
  request := fun client typed =>
    let reqNum := BitVec.ofNat 8 client.iNum
    some (getTotalMessage (getRequest reqNum typed.opc typed.op1 typed.op2)).toList
  reply := tcpReply
  receive := fun client _ bytes =>
    (clientReceive client.memory bytes).map fun received =>
      ({ iNum := client.iNum + 1, memory := received.1 },
        (received.2.requestID, received.2.result.theInt))
  serverCapacity := 99
  clientCapacity := 99

theorem tcpPrograms_fits : tcpPrograms.Fits 8 7 where
  request := by
    intro client typed bytes sends
    simp only [tcpPrograms, Option.some.injEq] at sends
    rw [← sends, ← List.length_pos_iff, Vector.length_toList]
    decide
  reply := by
    intro server chance bytes next answer answers
    simp only [tcpPrograms] at answers
    exact tcpReply_size answers
  serverRoom := by decide
  clientRoom := by decide

theorem remakeRequest_getRequest (reqNum opc : Byte) (op1 op2 : BitVec 16) :
    remakeRequest (getTotalMessage (getRequest reqNum opc op1 op2)) =
      getRequest reqNum opc op1 op2 := by
  have same : getRequest reqNum opc op1 op2 =
      makeRequest 8 reqNum opc (if 3 < opc.toNat then 1 else 2) op1 op2 := rfl
  rw [same]
  exact remakeRequest_getTotalMessage (makeRequest_coherent _ _ _ _ _ _)

/-- An exchange shows the result under the number of the iteration. -/
theorem tcpPrograms_exchange (client : TcpRequester) (server : ReceiveMemory 8) (typed : TcpPrompt)
    (unassigned : BitVec 32) {operation : Operation} (code : typed.opc = operation.code)
    (inRange : operation.CountInRange typed.op2.toInt) :
    ∃ nextServer memory theInt,
      tcpPrograms.exchange (client, server) (typed, unassigned) =
        some ((⟨client.iNum + 1, memory⟩, nextServer),
          (typed, (BitVec.ofNat 8 client.iNum, theInt))) ∧
      Shows operation typed.op1.toInt typed.op2.toInt theInt.toInt := by
  let message := getTotalMessage
    (getRequest (BitVec.ofNat 8 client.iNum) typed.opc typed.op1 typed.op2)
  have remade : remakeRequest message =
      getRequest (BitVec.ofNat 8 client.iNum) typed.opc typed.op1 typed.op2 :=
    remakeRequest_getRequest _ _ _ _
  obtain ⟨theInt, shows, answered⟩ := @exists_reply message operation
    (by rw [remade]; exact code) (by rw [remade]; exact inRange)
  obtain ⟨nextServer, served⟩ := connectionStep_message server message unassigned
    (by rw [remade]; rfl)
  obtain ⟨memory, received⟩ :=
    clientReceive_message client.memory (replyBytes unassigned message) (replyBytes_TML _ _)
  refine ⟨nextServer, memory, theInt, ?_, ?_⟩
  · have value := (answered unassigned).1
    have number : (processRequest unassigned message).requestID = BitVec.ofNat 8 client.iNum := by
      change (remakeRequest message).requestID = _
      rw [remade]
      rfl
    simp only [StreamPrograms.exchange, tcpPrograms, Option.bind_some]
    change (tcpReply server unassigned message.toList).bind _ = _
    simp only [tcpReply, served, received, Option.map_some, Option.bind_some,
      remakeResponse_replyBytes, value, number]
  · rw [remade] at shows
    exact shows

/-- What a session of `TCP-client.c` shows, in the order of its iterations. -/
def AnswersInOrder (outputs : List (TcpPrompt × Byte × BitVec 32)) : Prop :=
  ∀ index typed requestID theInt, outputs[index]? = some (typed, requestID, theInt) →
    requestID = BitVec.ofNat 8 index ∧ ∃ operation : Operation, typed.opc = operation.code ∧
      Shows operation typed.op1.toInt typed.op2.toInt theInt.toInt

theorem answersInOrder_of_exchanges {memory : ReceiveMemory 7} {server : ReceiveMemory 8}
    {inputs : List (TcpPrompt × BitVec 32)} {both : TcpRequester × ReceiveMemory 8}
    {outputs : List (TcpPrompt × Byte × BitVec 32)}
    (types : ∀ input ∈ inputs, TcpPrompt.Defined input.1)
    (exchanged : Stepped.run tcpPrograms.exchange (⟨0, memory⟩, server) inputs =
      some (both, outputs)) :
    both.1.iNum = outputs.length ∧ AnswersInOrder outputs := by
  have keeps (both : TcpRequester × ReceiveMemory 8)
      (trace : List (TcpPrompt × Byte × BitVec 32)) (input : TcpPrompt × BitVec 32)
      (next : TcpRequester × ReceiveMemory 8) (output : TcpPrompt × Byte × BitVec 32)
      (holds : both.1.iNum = trace.length ∧ AnswersInOrder trace)
      (defined : TcpPrompt.Defined input.1)
      (stepped : tcpPrograms.exchange both input = some (next, output)) :
      next.1.iNum = (trace ++ [output]).length ∧ AnswersInOrder (trace ++ [output]) := by
    obtain ⟨operation, code, inRange⟩ := defined
    obtain ⟨counted, ordered⟩ := holds
    obtain ⟨nextServer, memory, theInt, same, shows⟩ :=
      tcpPrograms_exchange both.1 both.2 input.1 input.2 code inRange
    cases stepped.symm.trans same
    refine ⟨?_, ?_⟩
    · rw [List.length_append, ← counted]
      rfl
    · intro index typed requestID value found
      rcases Stepped.getElem?_concat_cases found with earlier | ⟨rfl, last⟩
      · exact ordered index typed requestID value earlier
      · cases last
        exact ⟨by rw [counted], operation, code, shows⟩
  refine Stepped.run_trace_invariant keeps ⟨rfl, ?_⟩ types exchanged
  intro index typed requestID theInt found
  cases found

/-- Every iteration of `TCP-client.c` shows the result of what its user typed in it,
under its number, and the session never gets stuck. -/
theorem tcp_session_correct {memory : ReceiveMemory 7} {server : ReceiveMemory 8}
    {actions : List (StreamAction TcpPrompt (BitVec 32))}
    {final : StreamSession TcpRequester (ReceiveMemory 8) TcpPrompt Byte}
    {trace : List (Option (TcpPrompt × Byte × BitVec 32))}
    (whole : ∀ action ∈ actions, action.Whole 8 7 TcpPrompt.Defined)
    (ran : Stepped.run tcpPrograms.step (.start ⟨0, memory⟩ server) actions =
      some (final, trace)) :
    AnswersInOrder (trace.filterMap id) ∧
      ∃ action : StreamAction TcpPrompt (BitVec 32), action.Whole 8 7 TcpPrompt.Defined ∧
        (tcpPrograms.step final action).isSome := by
  obtain ⟨inputs, both, types, exchanged, inStep⟩ :=
    StreamPrograms.exchanges_of_run tcpPrograms_fits whole ran
  refine ⟨(answersInOrder_of_exchanges types exchanged).2, ?_⟩
  have addition : TcpPrompt.Defined ⟨0, 1, 1⟩ := ⟨.add, rfl, by decide⟩
  refine inStep.exists_step tcpPrograms_fits ?_ addition 0
  rintro typed chance ⟨operation, code, inRange⟩
  obtain ⟨_, _, _, possible, -⟩ :=
    tcpPrograms_exchange both.1 both.2 typed chance code inRange
  exact Option.isSome_of_eq_some possible

/-- `3 - 4`, with uninitialised buffers. -/
theorem tcp_session_correct_subtraction :
    ∃ (final : StreamSession TcpRequester (ReceiveMemory 8) TcpPrompt Byte)
      (trace : List (Option (TcpPrompt × Byte × BitVec 32))),
      Stepped.run tcpPrograms.step
        (.start ⟨0, Vector.replicate 100 5, Vector.replicate 7 6⟩
          ⟨Vector.replicate 100 7, Vector.replicate 8 8⟩)
        [.prompt ⟨1, 3, 4⟩, .serve 8 0, .receive 7] = some (final, trace) ∧
      AnswersInOrder (trace.filterMap id) ∧
      ∃ action : StreamAction TcpPrompt (BitVec 32), action.Whole 8 7 TcpPrompt.Defined ∧
        (tcpPrograms.step final action).isSome := by
  have completes : (Stepped.run tcpPrograms.step
      (.start ⟨0, Vector.replicate 100 5, Vector.replicate 7 6⟩
        ⟨Vector.replicate 100 7, Vector.replicate 8 8⟩)
      [.prompt ⟨1, 3, 4⟩, .serve 8 0, .receive 7]).isSome := by
    decide +kernel
  obtain ⟨⟨final, trace⟩, ran⟩ := Option.isSome_iff_exists.mp completes
  refine ⟨final, trace, ran, tcp_session_correct ?_ ran⟩
  intro action member
  simp only [List.mem_cons, List.not_mem_nil, or_false] at member
  rcases member with rfl | rfl | rfl
  · exact ⟨.sub, rfl, by decide⟩
  · exact Nat.le_refl 8
  · exact Nat.le_refl 7

/-! ## The client in Python -/

/-- What the user of `tcpclient.py` types in an iteration. -/
structure PythonPrompt where
  operandOne : Int
  operandTwo : Int
  opCode : Int
  userContinue : Int

/-- The iteration in which the server sends this response. -/
def PythonPrompt.exchange (typed : PythonPrompt) (response : List Byte) : PythonExchange where
  operandOne := typed.operandOne
  operandTwo := typed.operandTwo
  opCode := typed.opCode
  response := response
  userContinue := typed.userContinue

/-- Operands of 16 bits, and one of the six operations with a shift count in
range. -/
structure PythonPrompt.Defined (typed : PythonPrompt) : Prop where
  operandOne : -2 ^ 15 ≤ typed.operandOne ∧ typed.operandOne < 2 ^ 15
  operandTwo : -2 ^ 15 ≤ typed.operandTwo ∧ typed.operandTwo < 2 ^ 15
  operation : ∃ operation : Operation, typed.opCode = operation.code.toNat ∧
    operation.CountInRange typed.operandTwo

/-- An iteration of the loops of `tcpclient.py` and `TCP-server.c`. -/
def pythonTcpPrograms :
    StreamPrograms PythonClient (ReceiveMemory 8) PythonPrompt (BitVec 32) (Int × Int) Byte where
  request := fun client typed =>
    if client.userContinue = 1 then (client.request (typed.exchange [])).toOption else none
  reply := tcpReply
  receive := fun client typed bytes =>
    (client.step (typed.exchange bytes)).map fun finished => (finished.1, finished.2.2)
  serverCapacity := 99
  clientCapacity := 7

theorem length_of_formatRequest {operandOne operandTwo opCode requestID : Int}
    {bytes : List Byte}
    (formatted : formatRequest operandOne operandTwo opCode requestID = .ok bytes) :
    bytes.length = 8 := by
  have size {format : Format} {number : Int} {packed : List Byte}
      (same : pack format number = .ok packed) : packed.length = format.size := by
    rw [(pack_eq_ok_iff.mp same).2, BigEndian.encode_length]
  obtain ⟨first, one, formatted⟩ := bind_eq_ok_iff.mp formatted
  obtain ⟨second, two, formatted⟩ := bind_eq_ok_iff.mp formatted
  obtain ⟨third, three, formatted⟩ := bind_eq_ok_iff.mp formatted
  obtain ⟨fourth, four, formatted⟩ := bind_eq_ok_iff.mp formatted
  obtain ⟨fifth, five, formatted⟩ := bind_eq_ok_iff.mp formatted
  obtain ⟨sixth, six, formatted⟩ := bind_eq_ok_iff.mp formatted
  cases formatted
  simp only [List.length_append, size one, size two, size three, size four, size five, size six]
  rfl

theorem pythonRequest_eq_some {client : PythonClient} {typed : PythonPrompt} {bytes : List Byte}
    (sends : pythonTcpPrograms.request client typed = some bytes) :
    client.userContinue = 1 ∧ client.request (typed.exchange []) = .ok bytes := by
  simp only [pythonTcpPrograms] at sends
  split at sends
  · rename_i running
    cases formatted : client.request (typed.exchange []) with
    | ok request =>
        rw [formatted] at sends
        cases sends
        exact ⟨running, rfl⟩
    | error raised =>
        rw [formatted] at sends
        cases sends
  · cases sends

theorem pythonTcpPrograms_fits : pythonTcpPrograms.Fits 8 7 where
  request := by
    intro client typed bytes sends
    have length := length_of_formatRequest (pythonRequest_eq_some sends).2
    rw [← List.length_pos_iff, length]
    decide
  reply := by
    intro server chance bytes next answer answers
    simp only [pythonTcpPrograms] at answers
    exact tcpReply_size answers
  serverRoom := by decide
  clientRoom := by decide

theorem clientResponse_reply (requestID : Byte) (theInt : BitVec 32) :
    clientResponse (7#8 :: requestID :: 0#8 :: (getBytesFrom32 theInt).toList) =
      .ok ((requestID.toNat : Int), theInt.toInt) := by
  let memory : ReceiveMemory 7 := ⟨Vector.replicate 100 0, Vector.replicate 7 0⟩
  have decoded := decode_eq .unpack memory requestID theInt
  simp only [ClientDecoder.decode] at decoded
  cases outcome : clientResponse (7#8 :: requestID :: 0#8 :: (getBytesFrom32 theInt).toList) with
  | ok printed =>
      rw [outcome] at decoded
      cases decoded
      rfl
  | error raised =>
      rw [outcome] at decoded
      cases decoded

theorem pythonTcpPrograms_exchange {client : PythonClient} (server : ReceiveMemory 8)
    {typed : PythonPrompt} (unassigned : BitVec 32) (defined : typed.Defined)
    (running : client.userContinue = 1) {count : Nat} (counter : client.requestID = count)
    (fits : count ≤ 255) :
    ∃ nextServer value,
      pythonTcpPrograms.exchange (client, server) (typed, unassigned) =
        some (({ userContinue := typed.userContinue, requestID := client.requestID + 1 },
            nextServer), (typed, ((count : Int), value))) ∧
      ∃ operation : Operation, typed.opCode = operation.code.toNat ∧
        Shows operation typed.operandOne typed.operandTwo value := by
  obtain ⟨operation, code, inRange⟩ := defined.operation
  have first : (BitVec.ofInt 16 typed.operandOne).toInt = typed.operandOne :=
    SignedBits.toInt_ofInt_of_range defined.operandOne.1 defined.operandOne.2
  have second : (BitVec.ofInt 16 typed.operandTwo).toInt = typed.operandTwo :=
    SignedBits.toInt_ofInt_of_range defined.operandTwo.1 defined.operandTwo.2
  have opCode : BitVec.ofInt 8 typed.opCode = operation.code := by
    rw [code, BitVec.ofInt_natCast, BitVec.ofNat_toNat, BitVec.setWidth_eq]
  have number : (BitVec.ofNat 8 count).toNat = count := by
    rw [BitVec.toNat_ofNat, Nat.mod_eq_of_lt (by omega)]
  let message := clientMessage (BitVec.ofNat 8 count) (BitVec.ofInt 8 typed.opCode)
    (BitVec.ofInt 16 typed.operandOne) (BitVec.ofInt 16 typed.operandTwo)
  have remade : remakeRequest message = makeRequest 8 (BitVec.ofNat 8 count)
      (BitVec.ofInt 8 typed.opCode) 2 (BitVec.ofInt 16 typed.operandOne)
      (BitVec.ofInt 16 typed.operandTwo) := remakeRequest_clientMessage _ _ _ _
  obtain ⟨theInt, shows, answered⟩ := @exists_reply message operation
    (by rw [remade]; exact opCode)
    (by rw [remade]; change operation.CountInRange (BitVec.ofInt 16 _).toInt; rwa [second])
  obtain ⟨nextServer, served⟩ := connectionStep_message server message unassigned
    (by rw [remade]; rfl)
  -- The request does not depend on the response.
  have formatted (response : List Byte) :
      client.request (typed.exchange response) = .ok message.toList := by
    have bytes : (typed.exchange response).opCode < 256 := by
      change typed.opCode < 256
      rw [code]
      exact_mod_cast operation.code.isLt
    have inRange : (typed.exchange response).InRange :=
      ⟨defined.operandOne, defined.operandTwo, ⟨by change 0 ≤ typed.opCode; omega, bytes⟩⟩
    rw [PythonClient.request_of_inRange inRange counter, if_pos fits]
    rfl
  have reply := (answered unassigned).2
  have printed : clientResponse ((replyBytes unassigned message).toList.take 7) =
      .ok ((count : Int), theInt.toInt) := by
    have numbered : (remakeRequest message).requestID = BitVec.ofNat 8 count := by
      rw [remade]
      rfl
    rw [List.take_of_length_le (by rw [Vector.length_toList]), reply, clientResponse_reply,
      numbered, number]
  have stepped : client.step (typed.exchange (replyBytes unassigned message).toList) =
      some ({ userContinue := typed.userContinue, requestID := client.requestID + 1 },
        message.toList, (count : Int), theInt.toInt) := by
    have again : (typed.exchange (replyBytes unassigned message).toList).response =
        (replyBytes unassigned message).toList := rfl
    unfold PythonClient.step PythonClient.iteration
    simp only [running, if_true, formatted, again, printed, bind, Except.bind]
    rfl
  refine ⟨nextServer, theInt.toInt, ?_, operation, code, ?_⟩
  · simp only [StreamPrograms.exchange, pythonTcpPrograms, running, if_true, formatted,
      Except.toOption, Option.bind_some]
    simp only [tcpReply, served, stepped, Option.map_some, Option.bind_some]
  · rw [remade] at shows
    change Shows operation (BitVec.ofInt 16 typed.operandOne).toInt
      (BitVec.ofInt 16 typed.operandTwo).toInt theInt.toInt at shows
    rwa [first, second] at shows

/-- What a session of `tcpclient.py` shows, in the order of its iterations. -/
def ShownInOrder (outputs : List (PythonPrompt × Int × Int)) : Prop :=
  ∀ (index : Nat) (typed : PythonPrompt) (responseId value : Int),
    outputs[index]? = some (typed, responseId, value) →
    responseId = index + 1 ∧ ∃ operation : Operation, typed.opCode = operation.code.toNat ∧
      Shows operation typed.operandOne typed.operandTwo value

theorem shownInOrder_of_exchanges {server : ReceiveMemory 8}
    {inputs : List (PythonPrompt × BitVec 32)} {both : PythonClient × ReceiveMemory 8}
    {outputs : List (PythonPrompt × Int × Int)}
    (types : ∀ input ∈ inputs, PythonPrompt.Defined input.1)
    (exchanged : Stepped.run pythonTcpPrograms.exchange (.start, server) inputs =
      some (both, outputs)) :
    both.1.requestID = outputs.length + 1 ∧ outputs.length ≤ 255 ∧ ShownInOrder outputs := by
  have keeps (both : PythonClient × ReceiveMemory 8) (trace : List (PythonPrompt × Int × Int))
      (input : PythonPrompt × BitVec 32) (next : PythonClient × ReceiveMemory 8)
      (output : PythonPrompt × Int × Int)
      (holds : both.1.requestID = trace.length + 1 ∧ trace.length ≤ 255 ∧ ShownInOrder trace)
      (defined : PythonPrompt.Defined input.1)
      (stepped : pythonTcpPrograms.exchange both input = some (next, output)) :
      next.1.requestID = (trace ++ [output]).length + 1 ∧ (trace ++ [output]).length ≤ 255 ∧
        ShownInOrder (trace ++ [output]) := by
    obtain ⟨counted, -, ordered⟩ := holds
    -- The counter fits its byte, for the request was formatted.
    obtain ⟨bytes, sends, -⟩ := Option.bind_eq_some_iff.mp stepped
    obtain ⟨running, formatted⟩ := pythonRequest_eq_some sends
    have fits := PythonClient.fits_of_formatRequest formatted
    have counter : both.1.requestID = ((trace.length + 1 : Nat) : Int) := by
      rw [counted]
      rfl
    have small : trace.length + 1 ≤ 255 := by omega
    obtain ⟨nextServer, value, same, operation, code, shows⟩ :=
      pythonTcpPrograms_exchange both.2 input.2 defined running counter small
    cases stepped.symm.trans same
    refine ⟨?_, ?_, ?_⟩
    · rw [List.length_append, List.length_singleton, ← counter]
    · rwa [List.length_append, List.length_singleton]
    · intro index typed responseId shown found
      rcases Stepped.getElem?_concat_cases found with earlier | ⟨rfl, last⟩
      · exact ordered index typed responseId shown earlier
      · cases last
        exact ⟨rfl, operation, code, shows⟩
  refine Stepped.run_trace_invariant keeps ⟨rfl, Nat.zero_le 255, ?_⟩ types exchanged
  intro index typed responseId value found
  cases found

/-- The same holds of `tcpclient.py`, which counts from 1 and ends with its 255th
iteration. -/
theorem python_tcp_session_correct {server : ReceiveMemory 8}
    {actions : List (StreamAction PythonPrompt (BitVec 32))}
    {final : StreamSession PythonClient (ReceiveMemory 8) PythonPrompt Byte}
    {trace : List (Option (PythonPrompt × Int × Int))}
    (whole : ∀ action ∈ actions, action.Whole 8 7 PythonPrompt.Defined)
    (ran : Stepped.run pythonTcpPrograms.step (.start .start server) actions =
      some (final, trace)) :
    ShownInOrder (trace.filterMap id) ∧ (trace.filterMap id).length ≤ 255 := by
  obtain ⟨inputs, both, types, exchanged, -⟩ :=
    StreamPrograms.exchanges_of_run pythonTcpPrograms_fits whole ran
  obtain ⟨-, limit, ordered⟩ := shownInOrder_of_exchanges types exchanged
  exact ⟨ordered, limit⟩

/-- `-5 << 3`. -/
theorem python_tcp_session_correct_shift :
    ∃ (final : StreamSession PythonClient (ReceiveMemory 8) PythonPrompt Byte)
      (trace : List (Option (PythonPrompt × Int × Int))),
      Stepped.run pythonTcpPrograms.step
        (.start .start ⟨Vector.replicate 100 7, Vector.replicate 8 8⟩)
        [.prompt ⟨-5, 3, 5, 0⟩, .serve 8 0, .receive 7] = some (final, trace) ∧
      ShownInOrder (trace.filterMap id) ∧ (trace.filterMap id).length ≤ 255 := by
  have completes : (Stepped.run pythonTcpPrograms.step
      (.start .start ⟨Vector.replicate 100 7, Vector.replicate 8 8⟩)
      [.prompt ⟨-5, 3, 5, 0⟩, .serve 8 0, .receive 7]).isSome := by
    decide +kernel
  obtain ⟨⟨final, trace⟩, ran⟩ := Option.isSome_iff_exists.mp completes
  refine ⟨final, trace, ran, python_tcp_session_correct ?_ ran⟩
  intro action member
  simp only [List.mem_cons, List.not_mem_nil, or_false] at member
  rcases member with rfl | rfl | rfl
  · exact ⟨by decide, by decide, .shiftLeft, rfl, by decide⟩
  · exact Nat.le_refl 8
  · exact Nat.le_refl 7

end OpServer
