import OpServer.UdpInvariants
import OpServer.UdpReplyIsolation

/-!
# Printed results belong to requests

Whatever the network does to the datagrams, a client that sends its requests whole
prints only results of requests that it sent itself, under their request IDs.  It
sends them whole in every run exactly if `totMessLength` does not lie where the
answer to its prompt is stored.
-/

namespace OpServer

variable {ι : Type*} [DecidableEq ι]

/-- The user asks for one of the six operations, with a shift count in
range. -/
def UdpAction.Defined : UdpAction ι → Prop
  | .clientSend _ _ operandTwo OpCode =>
      ∃ operation : Operation, OpCode = operation.code ∧ operation.CountInRange operandTwo.toInt
  | _ => True

/-- Every pair that a client prints is the ID and the result of one request that
this client sent before. -/
def PrintsOwnResults (client : ι) (trace : List (UdpEvent ι)) : Prop :=
  ∀ (before after : List (UdpEvent ι)) (requestID : Byte) (theInt : BitVec 32),
    trace = before ++ .printed client requestID theInt :: after →
    ∃ message ∈ sentBy client before, (remakeRequest message).requestID = requestID ∧
      ∀ unassigned, (calcResult unassigned (remakeRequest message)).theInt = theInt

/-! ## Clients that send whole requests -/

section Whole

variable {server : ReceiveMemory 8} {frames : ι → Vector FrameByte 3}
  {memories : ι → ReceiveMemory 7} {actions : List (UdpAction ι)} {final : UdpSystem ι}
  {trace : List (UdpEvent ι)} {client : ι} {message : Vector Byte 8}

theorem calcTheInt_isSome_of_sent {system next : UdpSystem ι} {action : UdpAction ι}
    (defined : action.Defined)
    (stepped : system.step action = some (next, .sent client message)) :
    (calcTheInt (remakeRequest message)).isSome := by
  obtain ⟨operandOne, operandTwo, OpCode, rfl, decoded⟩ := UdpSystem.sent_eq_some stepped
  rw [decoded]
  exact (calcTheInt_isSome_iff _).mpr defined

theorem calcTheInt_isSome_of_run (defined : ∀ action ∈ actions, action.Defined)
    (ran : Stepped.run UdpSystem.step (UdpSystem.start server frames memories) actions =
      some (final, trace))
    (sent : .sent client message ∈ trace) : (calcTheInt (remakeRequest message)).isSome := by
  obtain ⟨before, after, split⟩ := List.append_of_mem sent
  exact Stepped.run_emits
    (fun _ _ _ _ _ invariant _ stepped => invariant.step stepped)
    (fun _ _ _ _ _ actionDefined stepped => calcTheInt_isSome_of_sent actionDefined stepped)
    (UdpInvariant.start server frames memories) defined ran split

theorem printsOwnResults_of_sendsWhole (defined : ∀ action ∈ actions, action.Defined)
    (whole : Stepped.Guarded UdpSystem.step (UdpAction.SendsWhole client)
      (UdpSystem.start server frames memories) actions)
    (ran : Stepped.run UdpSystem.step (UdpSystem.start server frames memories) actions =
      some (final, trace)) :
    PrintsOwnResults client trace := by
  intro before after requestID theInt split
  obtain ⟨-, message, sent, answers⟩ := UdpInvariant.printed_of_run ran split
  have sending : .sent client message ∈ trace := by
    rw [split]
    exact List.mem_append_left _ (exists_sent_of_mem sent)
  obtain ⟨number, unassigned, value⟩ := answers (whole_of_run whole ran sending)
  refine ⟨message, sent, number, fun other => ?_⟩
  obtain ⟨assigned, evaluated⟩ :=
    Option.isSome_iff_exists.mp (calcTheInt_isSome_of_run defined ran sending)
  rw [← value]
  simp only [calcResult, evaluated, Option.getD_some]

end Whole

/-! ## Layouts that spare the length -/

theorem lengthApart_of_step {system next : UdpSystem ι} {action : UdpAction ι}
    {event : UdpEvent ι} {client : ι} (lengthApart : (system.clients client).LengthApart)
    (stepped : system.step action = some (next, event)) : (next.clients client).LengthApart := by
  rcases UdpSystem.client_of_step stepped client with ⟨_, _, _, _, _, sends, -⟩ |
    ⟨_, _, _, _, _, -, -, received, -⟩ | ⟨same, -⟩
  · exact lengthApart.send sends
  · exact lengthApart.receive received
  · rw [same]
    exact lengthApart

/-- Where the answers cannot reach `totMessLength`, it stays 8. -/
theorem sendsWhole_of_apart {client : ι} {frames : ι → Vector FrameByte 3}
    (apart : .totMessLength ∉ frames client) (server : ReceiveMemory 8)
    (memories : ι → ReceiveMemory 7) (actions : List (UdpAction ι)) :
    Stepped.Guarded UdpSystem.step (UdpAction.SendsWhole client)
      (UdpSystem.start server frames memories) actions := by
  refine Stepped.guarded_of_invariant
    (fun _ _ _ _ lengthApart stepped => lengthApart_of_step lengthApart stepped) ?_ ⟨apart, rfl⟩
    actions
  intro system action lengthApart
  cases action with
  | clientSend sender operandOne operandTwo OpCode => exact fun _ => lengthApart.length
  | _ => trivial

/-! ## Layouts that do not -/

/-- One request and its reply, while nothing else is in flight. -/
theorem run_exchange (system : UdpSystem ι) (noRequest : system.requests = [])
    (noReply : system.replies = []) {client : ι} {operandOne operandTwo : BitVec 16}
    {OpCode : Byte} {sending printing : UdpClient} {sendBytes : Vector Byte 8}
    {datagram : List Byte} {server : ReceiveMemory 8} {reply : Vector Byte 7}
    {typed : Vector Byte 4} {response : Response} {unassigned : BitVec 32} {theInt : BitVec 32}
    (sends : (system.clients client).send operandOne operandTwo OpCode =
      some (sending, sendBytes, datagram))
    (served : servRunStep system.server ⟨datagram, unassigned⟩ = some (server, reply))
    (received : sending.receive reply.toList typed = some (printing, response))
    (value : response.result.theInt = theInt) :
    ∃ clients : ι → UdpClient, clients client = printing ∧
      Stepped.run UdpSystem.step system
          [.clientSend client operandOne operandTwo OpCode, .serverReceive 0 unassigned,
            .clientReceive 0 typed] =
        some (⟨server, clients, [], []⟩,
          [.sent client sendBytes, .silent,
            .printed client response.requestID theInt]) := by
  subst value
  refine ⟨Function.update (Function.update system.clients client sending) client printing,
    Function.update_self .., ?_⟩
  have first : system.step (.clientSend client operandOne operandTwo OpCode) =
      some (⟨system.server, Function.update system.clients client sending, [(client, datagram)],
        []⟩, .sent client sendBytes) := by
    simp only [UdpSystem.step, UdpSystem.clientSend, sends, Option.map_some, noRequest, noReply]
  rw [Stepped.run_cons_of_step first]
  have second : UdpSystem.step ⟨system.server, Function.update system.clients client sending,
        [(client, datagram)], []⟩ (.serverReceive 0 unassigned) =
      some (⟨server, Function.update system.clients client sending, [], [(client, reply)]⟩,
        .silent) := by
    simp [UdpSystem.step, UdpSystem.serverReceive, Channel.take, served]
  rw [Stepped.run_cons_of_step second]
  have third : UdpSystem.step ⟨server, Function.update system.clients client sending, [],
        [(client, reply)]⟩ (.clientReceive 0 typed) =
      some (⟨server, Function.update (Function.update system.clients client sending) client
        printing, [], []⟩, .printed client response.requestID response.result.theInt) := by
    simp [UdpSystem.step, UdpSystem.clientReceive, Channel.take, received]
  rw [Stepped.run_cons_of_step third]
  rfl

/-- The server after the request `1 + 1`. -/
def servedOnce : ReceiveMemory 8 where
  buf := Vector.ofFn fun index => [8, 1, 0, 2, 0, 1, 0, 1].getD index 0
  recBytes := #v[8, 1, 0, 2, 0, 1, 0, 1]

theorem servRunStep_onePlusOne :
    servRunStep ⟨Vector.replicate 100 0, Vector.replicate 8 0⟩
        ⟨(clientMessage 1 0 1 1).toList, 0⟩ =
      some (servedOnce, #v[7, 1, 0, 0, 0, 0, 2]) := by
  decide +kernel

/-- Of the request `5 + 5` that declares six bytes, the second operand is left from the
request before. -/
theorem servRunStep_sixBytes (requestID : Byte) :
    ∃ server, servRunStep servedOnce ⟨[6, requestID, 0, 2, 0, 5], 0⟩ =
      some (server, replyBytes 0 #v[6, requestID, 0, 2, 0, 5, 0, 1]) := by
  have short : DeclaresAtMost 8 [6, requestID, 0, 2, 0, 5] := by
    change (6 : Byte).toNat ≤ 8
    decide
  have fresh : freshCount [6, requestID, 0, 2, 0, 5] = 6 := rfl
  have bytes : mergeStale [6, requestID, 0, 2, 0, 5] (leftover servedOnce
      [6, requestID, 0, 2, 0, 5]) = #v[6, requestID, 0, 2, 0, 5, 0, 1] := by
    apply Vector.ext
    intro index inside
    rw [getElem_mergeStale, fresh]
    interval_cases index <;> rfl
  have merged := servRunStep_eq_merge servedOnce short 0
  rw [bytes] at merged
  obtain ⟨⟨server, reply⟩, served, same⟩ := Option.map_eq_some_iff.mp merged
  cases same
  exact ⟨server, served⟩

theorem send_sixBytes {client : UdpClient} (continues : client.keepGoing = 1)
    (idle : client.waiting = false) (intact : client.intact = true)
    (length : client.totMessLength = 6) :
    client.send 5 5 0 =
      some ({ client with requestID := client.requestID + 1, waiting := true },
        getTotalMessage (makeRequest 6 (client.requestID + 1) 0 2 5 5),
        [6, client.requestID + 1, 0, 2, 0, 5]) := by
  rw [UdpClient.send, if_pos ⟨continues, idle, intact, by rw [length]; decide⟩, length]
  rfl

theorem theInt_sixBytes (requestID : Byte) :
    (processRequest 0 #v[6, requestID, 0, 2, 0, 5, 0, 1]).result.theInt = 6 := by
  have same : (processRequest 0 #v[6, requestID, 0, 2, 0, 5, 0, 1]).result.theInt =
    (processRequest 0 #v[6, 0, 0, 2, 0, 5, 0, 1]).result.theInt := rfl
  rw [same]
  decide

theorem theInt_fivePlusFive (totMessLength requestID : Byte) :
    (calcResult 0 (remakeRequest (getTotalMessage
      (makeRequest totMessLength requestID 0 2 5 5)))).theInt = 10 := by
  have same : (calcResult 0 (remakeRequest (getTotalMessage
      (makeRequest totMessLength requestID 0 2 5 5)))).theInt =
    (calcResult 0 (remakeRequest (getTotalMessage (makeRequest 0 0 0 2 5 5)))).theInt := rfl
  rw [same]
  decide

/-- The first answer of a client can set its length to 6. -/
theorem exists_first_exchange {frames : ι → Vector FrameByte 3} {client : ι}
    (behind : .totMessLength ∈ frames client) (memory : ReceiveMemory 7) :
    ∃ (typed : Vector Byte 4) (clients : ι → UdpClient),
      (clients client).keepGoing = 1 ∧ (clients client).waiting = false ∧
      (clients client).intact = true ∧ (clients client).totMessLength = 6 ∧
      Stepped.run UdpSystem.step
          (UdpSystem.start ⟨Vector.replicate 100 0, Vector.replicate 8 0⟩ frames fun _ => memory)
          [.clientSend client 1 1 0, .serverReceive 0 0, .clientReceive 0 typed] =
        some (⟨servedOnce, clients, [], []⟩,
          [.sent client (clientMessage 1 0 1 1), .silent, .printed client 1 2]) := by
  let first := UdpClient.start (frames client) memory
  let asking : UdpClient := { first with requestID := 1, waiting := true }
  have sends : first.send 1 1 0 =
      some (asking, clientMessage 1 0 1 1, (clientMessage 1 0 1 1).toList) := rfl
  obtain ⟨printed, decoded⟩ := clientReceive_message memory #v[7, 1, 0, 0, 0, 0, 2] rfl
  obtain ⟨typed, continues, length, intact⟩ := UdpClient.exists_typed
    { asking with memory := printed, waiting := false } behind 6
  have waits : asking.waiting = true := rfl
  have received := UdpClient.receive_of_clientReceive waits decoded typed
  obtain ⟨clients, reached, ran⟩ := run_exchange (UdpSystem.start _ frames fun _ => memory)
    rfl rfl sends servRunStep_onePlusOne received (show _ = 2 by decide)
  refine ⟨typed, clients, ?_, ?_, ?_, ?_, ran⟩
  · rw [reached, UdpClient.storeKeepGoing_keepGoing, continues]
  · rw [reached, UdpClient.storeKeepGoing_waiting]
  · rw [reached]
    exact intact
  · rw [reached]
    exact length

/-- Its second request then keeps the last two bytes of the first one. -/
theorem exists_second_exchange {clients : ι → UdpClient} {client : ι}
    (continues : (clients client).keepGoing = 1) (idle : (clients client).waiting = false)
    (intact : (clients client).intact = true) (length : (clients client).totMessLength = 6)
    (typed : Vector Byte 4) :
    ∃ (final : UdpSystem ι) (requestID : Byte),
      Stepped.run UdpSystem.step ⟨servedOnce, clients, [], []⟩
          [.clientSend client 5 5 0, .serverReceive 0 0, .clientReceive 0 typed] =
        some (final, [.sent client (getTotalMessage (makeRequest 6 requestID 0 2 5 5)), .silent,
          .printed client requestID 6]) := by
  let requestID := (clients client).requestID + 1
  let asking : UdpClient := { clients client with requestID := requestID, waiting := true }
  obtain ⟨server, served⟩ := servRunStep_sixBytes requestID
  obtain ⟨_, decoded⟩ := clientReceive_message asking.memory
    (replyBytes 0 #v[6, requestID, 0, 2, 0, 5, 0, 1]) (replyBytes_TML _ _)
  rw [remakeResponse_replyBytes] at decoded
  have waits : asking.waiting = true := rfl
  have received := UdpClient.receive_of_clientReceive waits decoded typed
  obtain ⟨_, -, ran⟩ := run_exchange ⟨servedOnce, clients, [], []⟩ rfl rfl
    (send_sixBytes continues idle intact length) served received (theInt_sixBytes _)
  exact ⟨_, requestID, ran⟩

theorem exists_misprint {frames : ι → Vector FrameByte 3} {client : ι}
    (behind : .totMessLength ∈ frames client) :
    ∃ server memories actions final trace,
      (∀ action ∈ actions, UdpAction.Defined action) ∧
      Stepped.run UdpSystem.step (UdpSystem.start server frames memories) actions =
        some (final, trace) ∧ ¬PrintsOwnResults client trace := by
  obtain ⟨typed, clients, continues, idle, intact, length, ran⟩ :=
    exists_first_exchange behind ⟨Vector.replicate 100 0, Vector.replicate 7 0⟩
  obtain ⟨final, requestID, ranAgain⟩ :=
    exists_second_exchange continues idle intact length typed
  have whole := Stepped.run_append_of_run ran
    [.clientSend client 5 5 0, .serverReceive 0 0, .clientReceive 0 typed]
  rw [ranAgain, Option.map_some] at whole
  refine ⟨_, _, _, _, _, ?_, whole, ?_⟩
  · intro action member
    simp only [List.cons_append, List.nil_append, List.mem_cons, List.not_mem_nil, or_false]
      at member
    rcases member with rfl | rfl | rfl | rfl | rfl | rfl
    all_goals first | exact ⟨.add, rfl, by decide⟩ | exact trivial
  · intro own
    obtain ⟨request, sent, -, value⟩ := own
      [.sent client (clientMessage 1 0 1 1), .silent, .printed client 1 2,
        .sent client (getTotalMessage (makeRequest 6 requestID 0 2 5 5)), .silent]
      [] requestID 6 rfl
    have requests : request = clientMessage 1 0 1 1 ∨
        request = getTotalMessage (makeRequest 6 requestID 0 2 5 5) := by
      simpa [sentBy] using sent
    rcases requests with rfl | rfl
    · exact absurd (value 0) (by decide)
    · exact absurd ((value 0).symm.trans (theInt_fivePlusFive 6 requestID)) (by decide)

/-! ## The integrity of the protocol -/

/-- A client prints only results of its own requests, in every run, exactly if the
layout of its variables puts `totMessLength` elsewhere than right behind `keepGoing`.
In any layout it does so in the runs in which it sends every request whole, and
only a send with a lost byte or too large a length is ever undefined. -/
theorem udp_integrity_iff (frames : ι → Vector FrameByte 3) (client : ι) :
    ((∀ server memories actions final trace, (∀ action ∈ actions, UdpAction.Defined action) →
        Stepped.run UdpSystem.step (UdpSystem.start server frames memories) actions =
          some (final, trace) → PrintsOwnResults client trace) ↔
      .totMessLength ∉ frames client) ∧
    ∀ server memories actions final trace, (∀ action ∈ actions, UdpAction.Defined action) →
      Stepped.run UdpSystem.step (UdpSystem.start server frames memories) actions =
        some (final, trace) →
      (Stepped.Guarded UdpSystem.step (UdpAction.SendsWhole client)
          (UdpSystem.start server frames memories) actions → PrintsOwnResults client trace) ∧
      ∀ action : UdpAction ι, action.Enabled final →
        (∀ sender operandOne operandTwo OpCode,
          action = .clientSend sender operandOne operandTwo OpCode →
            (final.clients sender).intact = true ∧
              (final.clients sender).totMessLength.toNat ≤ 8) →
          (final.step action).isSome := by
  refine ⟨⟨fun own behind => ?_, fun apart => ?_⟩, ?_⟩
  · obtain ⟨server, memories, actions, final, trace, defined, ran, misprints⟩ :=
      exists_misprint behind
    exact misprints (own server memories actions final trace defined ran)
  · intro server memories actions final trace defined ran
    exact printsOwnResults_of_sendsWhole defined
      (sendsWhole_of_apart apart server memories actions) ran
  · intro server memories actions final trace defined ran
    exact ⟨fun whole => printsOwnResults_of_sendsWhole defined whole ran,
      fun action enabled sound => (UdpInvariant.run ran).step_isSome enabled sound⟩

/-- Requests of two clients overtake each other and are duplicated.  The first client
goes on with an answer that stores its length again. -/
def sparedActions : List (UdpAction Bool) :=
  [.clientSend false 3 4 0, .clientSend true 10 (-2) 1, .requestFault (.duplicate 1),
    .serverReceive 0 0, .serverReceive 0 0, .clientReceive 0 (storedInt 0),
    .clientReceive 0 (storedInt 0x08000001), .clientSend false 1 1 0, .serverReceive 0 0,
    .clientReceive 0 (storedInt 0)]

theorem udp_integrity_iff_spared :
    ∃ (final : UdpSystem Bool) (trace : List (UdpEvent Bool)),
      Stepped.run UdpSystem.step
        (UdpSystem.start ⟨Vector.replicate 100 1, Vector.replicate 8 2⟩ (fun _ => ordinaryFrame)
          fun _ => ⟨Vector.replicate 100 1, Vector.replicate 7 2⟩) sparedActions =
        some (final, trace) ∧
      (printedBy false trace, printedBy true trace) = ([(1, 7), (1, 2)], [(1, 12)]) ∧
      PrintsOwnResults false trace := by
  let start : UdpSystem Bool := UdpSystem.start
    ⟨Vector.replicate 100 1, Vector.replicate 8 2⟩ (fun _ => ordinaryFrame)
    fun _ => ⟨Vector.replicate 100 1, Vector.replicate 7 2⟩
  have printed : (Stepped.run UdpSystem.step start sparedActions).map
      (fun ran => (printedBy false ran.2, printedBy true ran.2)) =
      some ([(1, 7), (1, 2)], [(1, 12)]) := by
    decide +kernel
  obtain ⟨⟨final, trace⟩, ran, printedEq⟩ := Option.map_eq_some_iff.mp printed
  have defined : ∀ action ∈ sparedActions, action.Defined := by
    intro action member
    simp only [sparedActions, List.mem_cons, List.not_mem_nil, or_false] at member
    rcases member with rfl | rfl | rfl | rfl | rfl | rfl | rfl | rfl | rfl | rfl
    · exact ⟨.add, rfl, by decide⟩
    · exact ⟨.sub, rfl, by decide⟩
    all_goals first | exact ⟨.add, rfl, by decide⟩ | exact trivial
  have whole : Stepped.Guarded UdpSystem.step (UdpAction.SendsWhole false) start sparedActions := by
    decide +kernel
  exact ⟨final, trace, ran, printedEq,
    ((udp_integrity_iff (fun _ => ordinaryFrame) false).2 _ _ _ _ _ defined ran).1 whole⟩

/-- The first client answers 1 after its first result.  This clears its length, so its
second request is an empty datagram, which the server answers from the request of the
second client: the first client prints 300. -/
theorem empty_request_prints_foreign_result :
    ∃ (final : UdpSystem Bool) (trace : List (UdpEvent Bool)),
      Stepped.run UdpSystem.step
        (UdpSystem.start ⟨Vector.replicate 100 0, Vector.replicate 8 0⟩ (fun _ => ordinaryFrame)
          fun _ => ⟨Vector.replicate 100 0, Vector.replicate 7 0⟩)
        [.clientSend false 1 1 0, .serverReceive 0 0, .clientReceive 0 (storedInt 1),
          .clientSend true 100 200 0, .serverReceive 0 0, .clientSend false 5 5 0,
          .serverReceive 0 0, .clientReceive 0 (storedInt 1)] = some (final, trace) ∧
      printedBy false trace = [(1, 2), (1, 300)] ∧
      (∀ action ∈ ([.clientSend false 1 1 0, .clientSend true 100 200 0, .clientSend false 5 5 0] :
        List (UdpAction Bool)), action.Defined) ∧
      ¬PrintsOwnResults false trace := by
  have emits : (Stepped.run UdpSystem.step
      (UdpSystem.start ⟨Vector.replicate 100 0, Vector.replicate 8 0⟩ (fun _ => ordinaryFrame)
        fun _ => ⟨Vector.replicate 100 0, Vector.replicate 7 0⟩)
      [.clientSend false 1 1 0, .serverReceive 0 0, .clientReceive 0 (storedInt 1),
        .clientSend true 100 200 0, .serverReceive 0 0, .clientSend false 5 5 0, .serverReceive 0 0,
        .clientReceive 0 (storedInt 1)]).map Prod.snd =
      some [.sent false #v[8, 1, 0, 2, 0, 1, 0, 1], .silent, .printed false 1 2,
        .sent true #v[8, 1, 0, 2, 0, 100, 0, 200], .silent, .sent false #v[0, 1, 0, 2, 0, 5, 0, 5],
        .silent, .printed false 1 300] := by
    decide +kernel
  obtain ⟨⟨final, trace⟩, ran, rfl⟩ := Option.map_eq_some_iff.mp emits
  refine ⟨final, _, ran, rfl, ?_, fun own => ?_⟩
  · intro action member
    simp only [List.mem_cons, List.not_mem_nil, or_false] at member
    rcases member with rfl | rfl | rfl <;> exact ⟨.add, rfl, by decide⟩
  · obtain ⟨request, sent, -, value⟩ := own
      [.sent false #v[8, 1, 0, 2, 0, 1, 0, 1], .silent, .printed false 1 2,
        .sent true #v[8, 1, 0, 2, 0, 100, 0, 200], .silent, .sent false #v[0, 1, 0, 2, 0, 5, 0, 5],
        .silent] [] 1 300 rfl
    change request ∈ [#v[8, 1, 0, 2, 0, 1, 0, 1], #v[0, 1, 0, 2, 0, 5, 0, 5]] at sent
    simp only [List.mem_cons, List.not_mem_nil, or_false] at sent
    rcases sent with rfl | rfl
    · exact absurd (value 0) (by decide)
    · exact absurd (value 0) (by decide)

end OpServer
