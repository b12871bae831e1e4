import OpServer.UdpSystem

/-!
# Invariants of the UDP system

What every step keeps: a client sends and prints in turns, and whatever is in
flight for a client comes from one of its requests, or from the server's
handling of one.  The requests are numbered in the order in which they are sent
as long as no answer overwrites the number.  The server never leaves its arrays.
-/

namespace OpServer

variable {ι : Type*}

/-! ## Replies -/

/-- A request ID and a value that an evaluation of the message gives. -/
def Answers (message : Vector Byte 8) (requestID : Byte) (theInt : BitVec 32) : Prop :=
  (remakeRequest message).requestID = requestID ∧
    ∃ unassigned, (calcResult unassigned (remakeRequest message)).theInt = theInt

/-- A reply that the server can send for the declared part of a message: where that
is all of it, the reply is an evaluation of the message. -/
def RepliesTo (message : Vector Byte 8) (reply : Vector Byte 7) : Prop :=
  ∃ recBytes unassigned, reply = replyBytes unassigned recBytes ∧
    ((remakeRequest message).TML = 8 → recBytes = message)

theorem RepliesTo.declared {message : Vector Byte 8} {reply : Vector Byte 7}
    (replies : RepliesTo message reply) : (remakeResponse reply).TML = 7 := by
  obtain ⟨recBytes, unassigned, rfl, -⟩ := replies
  exact replyBytes_TML unassigned recBytes

/-- A client that receives a reply to a whole message prints an answer to it. -/
theorem RepliesTo.answers {message : Vector Byte 8} {reply : Vector Byte 7}
    (replies : RepliesTo message reply) (whole : (remakeRequest message).TML = 8)
    {memory next : ReceiveMemory 7} {response : Response}
    (received : clientReceive memory reply.toList = some (next, response)) :
    Answers message response.requestID response.result.theInt := by
  obtain ⟨recBytes, unassigned, rfl, same⟩ := replies
  obtain ⟨memory', printed⟩ :=
    clientReceive_message memory (replyBytes unassigned recBytes) (replyBytes_TML _ _)
  rw [received, remakeResponse_replyBytes] at printed
  cases printed
  rw [same whole]
  exact ⟨rfl, unassigned, rfl⟩

theorem repliesTo_of_servRunStep {server next : ReceiveMemory 8} {message : Vector Byte 8}
    {unassigned : BitVec 32} {reply : Vector Byte 7}
    (served : servRunStep server ⟨declaredPart message, unassigned⟩ = some (next, reply)) :
    RepliesTo message reply := by
  by_cases whole : (remakeRequest message).TML = 8
  · rw [declaredPart_of_whole whole] at served
    obtain ⟨handled, answered⟩ := servRunStep_message server message unassigned whole
    rw [served] at answered
    cases answered
    exact ⟨message, unassigned, rfl, fun _ => rfl⟩
  · obtain ⟨received, -, same⟩ := Option.map_eq_some_iff.mp served
    cases same
    exact ⟨received.recBytes, unassigned, rfl, fun impossible => absurd impossible whole⟩

/-- Data that declares at most eight bytes leaves a `buf` that does so, too.  If there
is no data, what the buffer declares decides. -/
theorem servRunStep_settles (server : ReceiveMemory 8) {data : List Byte}
    (declares : (data.headD 0).toNat ≤ 8) (settled : data = [] → server.buf[0]!.toNat ≤ 8)
    (unassigned : BitVec 32) :
    ∃ next reply, servRunStep server ⟨data, unassigned⟩ = some (next, reply) ∧
      next.buf[0]!.toNat ≤ 8 := by
  have length : (Buffer.overwrite server.buf (data.take 99))[0].toNat ≤ 8 := by
    cases data with
    | nil =>
        rw [Buffer.getElem_overwrite, List.take_nil, List.getD_nil]
        exact settled rfl
    | cons first rest =>
        rw [Buffer.getElem_overwrite_of_lt _ _ _ _ (by simp)]
        exact declares
  have copies : (receive server data).isSome := by
    rw [receive, Option.isSome_map, Buffer.copyLoop_zero_isSome_iff]
    omega
  obtain ⟨received, receives⟩ := Option.isSome_iff_exists.mp copies
  have kept : received.buf = Buffer.overwrite server.buf (data.take 99) := by
    rw [receive, Option.map_eq_some_iff] at receives
    obtain ⟨recBytes, -, rfl⟩ := receives
    rfl
  have inside : min data.length 99 < 100 := Nat.lt_succ_of_le (Nat.min_le_right _ 99)
  refine ⟨{ received with buf := received.buf.set (min data.length 99) 0 inside },
    replyBytes unassigned received.recBytes, ?_, ?_⟩
  · rw [servRunStep, receives]
    rfl
  · rw [getElem!_pos (received.buf.set (min data.length 99) 0 inside) 0 (by decide),
      Vector.getElem_set]
    split
    · decide
    · rw [kept]
      exact length

theorem headD_declaredPart_le {message : Vector Byte 8}
    (bounded : (remakeRequest message).TML.toNat ≤ 8) :
    ((declaredPart message).headD 0).toNat ≤ 8 := by
  rcases Nat.eq_zero_or_pos (remakeRequest message).TML.toNat with nothing | positive
  · rw [declaredPart, nothing, List.take_zero]
    decide
  · have head : (declaredPart message).headD 0 = (remakeRequest message).TML := by
      rw [declaredPart, List.headD_eq_head?_getD, List.head?_take, if_neg (by omega),
        List.head?_eq_getElem?]
      simp
      rfl
    rw [head]
    exact bounded

namespace UdpSystem

/-! ## What a step does -/

theorem serverReceive_eq_some {system next : UdpSystem ι} {event : UdpEvent ι} {index : Nat}
    {unassigned : BitVec 32}
    (stepped : system.serverReceive index unassigned = some (next, event)) :
    ∃ client datagram requests server reply,
      Channel.take system.requests index = some ((client, datagram), requests) ∧
      servRunStep system.server ⟨datagram, unassigned⟩ = some (server, reply) ∧
      event = .silent ∧
      next = { system with
        server := server
        requests := requests
        replies := (client, reply) :: system.replies } := by
  obtain ⟨⟨⟨client, datagram⟩, requests⟩, taken, stepped⟩ := Option.bind_eq_some_iff.mp stepped
  obtain ⟨⟨server, reply⟩, served, same⟩ := Option.map_eq_some_iff.mp stepped
  cases same
  exact ⟨client, datagram, requests, server, reply, taken, served, rfl, rfl⟩

variable [DecidableEq ι]

theorem clientSend_eq_some {system next : UdpSystem ι} {event : UdpEvent ι} {client : ι}
    {operandOne operandTwo : BitVec 16} {OpCode : Byte}
    (stepped : system.clientSend client operandOne operandTwo OpCode = some (next, event)) :
    ∃ sending sendBytes datagram,
      (system.clients client).send operandOne operandTwo OpCode =
        some (sending, sendBytes, datagram) ∧
      event = .sent client sendBytes ∧
      next = { system with
        clients := Function.update system.clients client sending
        requests := (client, datagram) :: system.requests } := by
  obtain ⟨⟨sending, sendBytes, datagram⟩, sends, same⟩ := Option.map_eq_some_iff.mp stepped
  obtain ⟨rfl, rfl⟩ := Prod.mk.inj same
  exact ⟨sending, sendBytes, datagram, sends, rfl, rfl⟩

theorem clientReceive_eq_some {system next : UdpSystem ι} {event : UdpEvent ι} {index : Nat}
    {typed : Vector Byte 4} (stepped : system.clientReceive index typed = some (next, event)) :
    ∃ client reply replies printing response,
      Channel.take system.replies index = some ((client, reply), replies) ∧
      (system.clients client).receive reply.toList typed = some (printing, response) ∧
      event = .printed client response.requestID response.result.theInt ∧
      next = { system with
        clients := Function.update system.clients client printing
        replies := replies } := by
  obtain ⟨⟨⟨client, reply⟩, replies⟩, taken, stepped⟩ := Option.bind_eq_some_iff.mp stepped
  obtain ⟨⟨printing, response⟩, received, same⟩ := Option.map_eq_some_iff.mp stepped
  obtain ⟨rfl, rfl⟩ := Prod.mk.inj same
  exact ⟨client, reply, replies, printing, response, taken, received, rfl, rfl⟩

theorem printed_eq_some {system next : UdpSystem ι} {action : UdpAction ι} {client : ι}
    {requestID : Byte} {theInt : BitVec 32}
    (stepped : system.step action = some (next, .printed client requestID theInt)) :
    ∃ reply memory response, (client, reply) ∈ system.replies ∧
      (system.clients client).waiting = true ∧
      OpServer.clientReceive (system.clients client).memory reply.toList =
        some (memory, response) ∧
      requestID = response.requestID ∧ theInt = response.result.theInt := by
  cases action with
  | clientSend sender operandOne operandTwo OpCode =>
      obtain ⟨_, _, _, -, impossible, -⟩ := clientSend_eq_some stepped
      cases impossible
  | serverReceive index unassigned =>
      obtain ⟨_, _, _, _, _, _, _, impossible, -⟩ := serverReceive_eq_some stepped
      cases impossible
  | clientReceive index typed =>
      obtain ⟨receiver, reply, replies, printing, response, taken, received, same, -⟩ :=
        clientReceive_eq_some stepped
      cases same
      obtain ⟨memory, waiting, decoded, -⟩ := UdpClient.receive_eq_some received
      exact ⟨reply, memory, response, Channel.mem_of_take taken, waiting, decoded, rfl, rfl⟩
  | requestFault what =>
      obtain ⟨requests, faulted, impossible⟩ := Option.map_eq_some_iff.mp stepped
      cases impossible
  | replyFault what =>
      obtain ⟨replies, faulted, impossible⟩ := Option.map_eq_some_iff.mp stepped
      cases impossible

theorem sent_eq_some {system next : UdpSystem ι} {action : UdpAction ι} {client : ι}
    {message : Vector Byte 8}
    (stepped : system.step action = some (next, .sent client message)) :
    ∃ operandOne operandTwo OpCode, action = .clientSend client operandOne operandTwo OpCode ∧
      remakeRequest message = makeRequest (system.clients client).totMessLength
        ((system.clients client).requestID + 1) OpCode 2 operandOne operandTwo := by
  cases action with
  | clientSend sender operandOne operandTwo OpCode =>
      obtain ⟨_, _, _, sends, same, -⟩ := clientSend_eq_some stepped
      cases same
      obtain ⟨-, -, decoded, -⟩ := UdpClient.send_eq_some sends
      exact ⟨operandOne, operandTwo, OpCode, rfl, decoded⟩
  | serverReceive index unassigned =>
      obtain ⟨_, _, _, _, _, _, _, impossible, -⟩ := serverReceive_eq_some stepped
      cases impossible
  | clientReceive index typed =>
      obtain ⟨_, _, _, _, _, _, _, impossible, -⟩ := clientReceive_eq_some stepped
      cases impossible
  | requestFault what =>
      obtain ⟨requests, faulted, impossible⟩ := Option.map_eq_some_iff.mp stepped
      cases impossible
  | replyFault what =>
      obtain ⟨replies, faulted, impossible⟩ := Option.map_eq_some_iff.mp stepped
      cases impossible

end UdpSystem

variable [DecidableEq ι]

/-! ## Clients and datagrams -/

/-- Until the server has handled a request, no client has been asked anything. -/
structure UdpSystem.Untouched (system : UdpSystem ι) : Prop where
  lengths : ∀ client, (system.clients client).totMessLength = 8
  requests : ∀ client datagram, (client, datagram) ∈ system.requests → datagram ≠ []
  replies : system.replies = []

structure UdpInvariant (system : UdpSystem ι) (trace : List (UdpEvent ι)) : Prop where
  lockStep : ∀ client, (sentBy client trace).length =
    (printedBy client trace).length + (system.clients client).waiting.toNat
  bounded : ∀ client, ∀ message ∈ sentBy client trace, (remakeRequest message).TML.toNat ≤ 8
  requests : ∀ client datagram, (client, datagram) ∈ system.requests →
    ∃ message ∈ sentBy client trace, datagram = declaredPart message
  replies : ∀ client reply, (client, reply) ∈ system.replies →
    ∃ message ∈ sentBy client trace, RepliesTo message reply
  settled : system.Untouched ∨ system.server.buf[0]!.toNat ≤ 8

namespace UdpInvariant

theorem start (server : ReceiveMemory 8) (frames : ι → Vector FrameByte 3)
    (memories : ι → ReceiveMemory 7) :
    UdpInvariant (UdpSystem.start server frames memories) [] where
  lockStep := fun _ => rfl
  bounded := fun _ _ impossible => by cases impossible
  requests := fun _ _ member => by cases member
  replies := fun _ _ member => by cases member
  settled := .inl ⟨fun _ => rfl, (fun _ _ impossible => by cases impossible), rfl⟩

variable {system next : UdpSystem ι} {trace : List (UdpEvent ι)} {event : UdpEvent ι}

theorem clientSend (invariant : UdpInvariant system trace) {client : ι}
    {operandOne operandTwo : BitVec 16} {OpCode : Byte}
    (stepped : system.clientSend client operandOne operandTwo OpCode = some (next, event)) :
    UdpInvariant next (trace ++ [event]) := by
  obtain ⟨sending, sendBytes, datagram, sends, rfl, rfl⟩ := UdpSystem.clientSend_eq_some stepped
  obtain ⟨-, idle, decoded, bounded, declared, rfl⟩ := UdpClient.send_eq_some sends
  have older (other : ι) : sentBy other trace ⊆
      sentBy other (trace ++ [.sent client sendBytes]) := by
    rw [sentBy_sent]
    exact List.subset_append_left _ _
  constructor
  case lockStep =>
    intro other
    have before := invariant.lockStep other
    by_cases same : client = other
    · subst same
      rw [idle] at before
      simp [before]
    · simpa [same, Ne.symm same] using before
  case bounded =>
    intro other message member
    rw [sentBy_sent] at member
    rcases List.mem_append.mp member with old | new
    · exact invariant.bounded other message old
    · split at new
      · cases List.mem_singleton.mp new
        rw [decoded]
        exact bounded
      · cases new
  case requests =>
    intro other found member
    rcases List.mem_cons.mp member with new | old
    · cases new
      exact ⟨sendBytes, by simp, declared⟩
    · obtain ⟨message, sent, same⟩ := invariant.requests other found old
      exact ⟨message, older other sent, same⟩
  case replies =>
    intro other reply member
    obtain ⟨message, sent, replies⟩ := invariant.replies other reply member
    exact ⟨message, older other sent, replies⟩
  case settled =>
    refine invariant.settled.imp_left fun untouched => ⟨?_, ?_, untouched.replies⟩
    · intro other
      by_cases same : other = client
      · subst same
        simpa using untouched.lengths other
      · simpa [same] using untouched.lengths other
    · intro other found member
      rcases List.mem_cons.mp member with new | old
      · cases new
        have whole : (remakeRequest sendBytes).TML = 8 := by
          rw [decoded]
          exact untouched.lengths client
        rw [declared, declaredPart_of_whole whole]
        exact List.ne_nil_of_length_pos (by simp)
      · exact untouched.requests other found old

theorem serve (invariant : UdpInvariant system trace) {client : ι} {datagram : List Byte}
    (inFlight : (client, datagram) ∈ system.requests) (unassigned : BitVec 32) :
    ∃ message ∈ sentBy client trace, datagram = declaredPart message ∧
      ∃ server reply, servRunStep system.server ⟨datagram, unassigned⟩ = some (server, reply) ∧
        server.buf[0]!.toNat ≤ 8 ∧ RepliesTo message reply := by
  obtain ⟨message, sent, rfl⟩ := invariant.requests client datagram inFlight
  have settled (empty : declaredPart message = []) : system.server.buf[0]!.toNat ≤ 8 :=
    invariant.settled.resolve_left fun untouched => untouched.requests client _ inFlight empty
  obtain ⟨server, reply, served, short⟩ := servRunStep_settles system.server
    (headD_declaredPart_le (invariant.bounded client message sent)) settled unassigned
  exact ⟨message, sent, rfl, server, reply, served, short, repliesTo_of_servRunStep served⟩

theorem serverReceive (invariant : UdpInvariant system trace) {index : Nat}
    {unassigned : BitVec 32}
    (stepped : system.serverReceive index unassigned = some (next, event)) :
    UdpInvariant next (trace ++ [event]) := by
  obtain ⟨client, datagram, requests, server, reply, taken, served, rfl, rfl⟩ :=
    UdpSystem.serverReceive_eq_some stepped
  obtain ⟨message, sent, -, _, _, handled, short, replies⟩ :=
    invariant.serve (Channel.mem_of_take taken) unassigned
  rw [served] at handled
  cases handled
  constructor
  case lockStep =>
    intro other
    simpa using invariant.lockStep other
  case bounded =>
    intro other
    rw [sentBy_silent]
    exact invariant.bounded other
  case requests =>
    intro other found member
    rw [sentBy_silent]
    exact invariant.requests other found (Channel.subset_of_take taken member)
  case replies =>
    intro other reply member
    rw [sentBy_silent]
    rcases List.mem_cons.mp member with new | old
    · cases new
      exact ⟨message, sent, replies⟩
    · exact invariant.replies other reply old
  case settled => exact .inr short

theorem clientReceive (invariant : UdpInvariant system trace) {index : Nat}
    {typed : Vector Byte 4} (stepped : system.clientReceive index typed = some (next, event)) :
    UdpInvariant next (trace ++ [event]) := by
  obtain ⟨client, reply, replies, printing, response, taken, received, rfl, rfl⟩ :=
    UdpSystem.clientReceive_eq_some stepped
  obtain ⟨memory, waiting, -, rfl⟩ := UdpClient.receive_eq_some received
  have inFlight := Channel.mem_of_take taken
  constructor
  case lockStep =>
    intro other
    have before := invariant.lockStep other
    by_cases same : client = other
    · subst same
      rw [waiting] at before
      simp [before]
    · simpa [same, Ne.symm same] using before
  case bounded =>
    intro other
    rw [sentBy_printed]
    exact invariant.bounded other
  case requests =>
    intro other found member
    rw [sentBy_printed]
    exact invariant.requests other found member
  case replies =>
    intro other reply member
    rw [sentBy_printed]
    exact invariant.replies other reply (Channel.subset_of_take taken member)
  case settled =>
    refine .inr (invariant.settled.resolve_left fun untouched => ?_)
    rw [untouched.replies] at inFlight
    cases inFlight

theorem fault (invariant : UdpInvariant system trace) {requests : List (ι × List Byte)}
    {replies : List (ι × Vector Byte 7)} (noRequest : requests ⊆ system.requests)
    (noReply : replies ⊆ system.replies) :
    UdpInvariant { system with requests := requests, replies := replies }
      (trace ++ [.silent]) where
  lockStep := fun client => by simpa using invariant.lockStep client
  bounded := fun client => by
    rw [sentBy_silent]
    exact invariant.bounded client
  requests := fun client datagram member => by
    rw [sentBy_silent]
    exact invariant.requests client datagram (noRequest member)
  replies := fun client reply member => by
    rw [sentBy_silent]
    exact invariant.replies client reply (noReply member)
  settled := by
    refine invariant.settled.imp_left fun untouched => ⟨untouched.lengths, ?_, ?_⟩
    · exact fun client datagram member => untouched.requests client datagram (noRequest member)
    · rw [untouched.replies] at noReply
      exact List.subset_nil.mp noReply

theorem step (invariant : UdpInvariant system trace) {action : UdpAction ι}
    (stepped : system.step action = some (next, event)) :
    UdpInvariant next (trace ++ [event]) := by
  cases action with
  | clientSend client operandOne operandTwo OpCode => exact invariant.clientSend stepped
  | serverReceive index unassigned => exact invariant.serverReceive stepped
  | clientReceive index typed => exact invariant.clientReceive stepped
  | requestFault what =>
      obtain ⟨requests, faulted, same⟩ := Option.map_eq_some_iff.mp stepped
      cases same
      exact invariant.fault (Channel.subset_of_fault faulted) (List.Subset.refl _)
  | replyFault what =>
      obtain ⟨replies, faulted, same⟩ := Option.map_eq_some_iff.mp stepped
      cases same
      exact invariant.fault (List.Subset.refl _) (Channel.subset_of_fault faulted)

/-- What a client prints comes from a request that it sent before, and answers it if
it was sent whole. -/
theorem printed (invariant : UdpInvariant system trace) {action : UdpAction ι} {client : ι}
    {requestID : Byte} {theInt : BitVec 32}
    (stepped : system.step action = some (next, .printed client requestID theInt)) :
    (sentBy client trace).length = (printedBy client trace).length + 1 ∧
      ∃ message ∈ sentBy client trace,
        (remakeRequest message).TML = 8 → Answers message requestID theInt := by
  obtain ⟨reply, memory, response, inFlight, waiting, received, rfl, rfl⟩ :=
    UdpSystem.printed_eq_some stepped
  obtain ⟨message, sent, replies⟩ := invariant.replies client reply inFlight
  refine ⟨?_, message, sent, fun whole => replies.answers whole received⟩
  rw [invariant.lockStep client, waiting]
  rfl

theorem serverReceive_isSome (invariant : UdpInvariant system trace) {index : Nat}
    (inside : index < system.requests.length) (unassigned : BitVec 32) :
    (system.serverReceive index unassigned).isSome := by
  have inFlight : (system.requests[index].1, system.requests[index].2) ∈ system.requests :=
    List.getElem_mem inside
  obtain ⟨message, -, -, server, reply, served, -⟩ := invariant.serve inFlight unassigned
  simp [UdpSystem.serverReceive, Channel.take, inside, served]

theorem clientReceive_isSome (invariant : UdpInvariant system trace) {index : Nat}
    (inside : index < system.replies.length)
    (waiting : (system.clients system.replies[index].1).waiting = true) (typed : Vector Byte 4) :
    (system.clientReceive index typed).isSome := by
  obtain ⟨message, -, replies⟩ :=
    invariant.replies system.replies[index].1 system.replies[index].2 (List.getElem_mem inside)
  obtain ⟨memory, decoded⟩ := clientReceive_message
    (system.clients system.replies[index].1).memory system.replies[index].2 replies.declared
  have received := UdpClient.receive_of_clientReceive waiting decoded typed
  simp [UdpSystem.clientReceive, Channel.take, inside, received]

/-- An action that the processes and the channels allow is only undefined where a
client sends that has lost a held byte or has too large a length. -/
theorem step_isSome (invariant : UdpInvariant system trace) {action : UdpAction ι}
    (enabled : action.Enabled system)
    (sound : ∀ client operandOne operandTwo OpCode,
      action = .clientSend client operandOne operandTwo OpCode →
        (system.clients client).intact = true ∧ (system.clients client).totMessLength.toNat ≤ 8) :
    (system.step action).isSome := by
  cases action with
  | clientSend client operandOne operandTwo OpCode =>
      obtain ⟨continues, idle⟩ : (system.clients client).keepGoing = 1 ∧
        (system.clients client).waiting = false := enabled
      obtain ⟨intact, bounded⟩ := sound client operandOne operandTwo OpCode rfl
      rw [UdpSystem.step, UdpSystem.clientSend, Option.isSome_map]
      exact UdpClient.send_isSome continues idle intact bounded
  | serverReceive index unassigned => exact invariant.serverReceive_isSome enabled unassigned
  | clientReceive index typed =>
      obtain ⟨inside, waiting⟩ := enabled
      exact invariant.clientReceive_isSome inside waiting typed
  | requestFault what =>
      have possible : (Channel.fault system.requests what).isSome := enabled
      simpa [UdpSystem.step] using possible
  | replyFault what =>
      have possible : (Channel.fault system.replies what).isSome := enabled
      simpa [UdpSystem.step] using possible

section Runs

variable {server : ReceiveMemory 8} {frames : ι → Vector FrameByte 3}
  {memories : ι → ReceiveMemory 7} {final : UdpSystem ι} {actions : List (UdpAction ι)}

theorem run
    (ran : Stepped.run UdpSystem.step (UdpSystem.start server frames memories) actions =
      some (final, trace)) :
    UdpInvariant final trace :=
  Stepped.run_trace_invariant (fun _ _ _ _ _ invariant _ stepped => invariant.step stepped)
    (start server frames memories) (fun _ _ => trivial) ran

/-- In every run, what a client prints comes from one of its requests, and it has
sent one more of them than it has printed. -/
theorem printed_of_run
    (ran : Stepped.run UdpSystem.step (UdpSystem.start server frames memories) actions =
      some (final, trace))
    {before after : List (UdpEvent ι)} {client : ι} {requestID : Byte} {theInt : BitVec 32}
    (split : trace = before ++ .printed client requestID theInt :: after) :
    (sentBy client before).length = (printedBy client before).length + 1 ∧
      ∃ message ∈ sentBy client before,
        (remakeRequest message).TML = 8 → Answers message requestID theInt :=
  Stepped.run_emits (fun _ _ _ _ _ invariant _ stepped => invariant.step stepped)
    (fun _ _ _ _ invariant _ stepped => invariant.printed stepped)
    (start server frames memories) (fun _ _ => trivial) ran split

end Runs

end UdpInvariant

/-! ## The numbers of the requests -/

namespace UdpSystem

/-- What a step does to one client: it sends, it receives, or nothing happens to it. -/
theorem client_of_step {system next : UdpSystem ι} {action : UdpAction ι} {event : UdpEvent ι}
    (stepped : system.step action = some (next, event)) (client : ι) :
    (∃ operandOne operandTwo OpCode sendBytes datagram,
      (system.clients client).send operandOne operandTwo OpCode =
        some (next.clients client, sendBytes, datagram) ∧
      event = .sent client sendBytes) ∨
    (∃ index typed reply replies response, action = .clientReceive index typed ∧
      Channel.take system.replies index = some ((client, reply), replies) ∧
      (system.clients client).receive reply.toList typed =
        some (next.clients client, response) ∧
      event = .printed client response.requestID response.result.theInt) ∨
    next.clients client = system.clients client ∧
      ∀ trace, sentBy client (trace ++ [event]) = sentBy client trace := by
  cases action with
  | clientSend sender operandOne operandTwo OpCode =>
      obtain ⟨sending, sendBytes, datagram, sends, rfl, rfl⟩ := clientSend_eq_some stepped
      by_cases same : sender = client
      · subst same
        refine .inl ⟨operandOne, operandTwo, OpCode, sendBytes, datagram, ?_, rfl⟩
        simpa using sends
      · exact .inr (.inr ⟨Function.update_of_ne (Ne.symm same) .., fun trace => by simp [same]⟩)
  | clientReceive index typed =>
      obtain ⟨receiver, reply, replies, printing, response, taken, received, rfl, rfl⟩ :=
        clientReceive_eq_some stepped
      by_cases same : receiver = client
      · subst same
        refine .inr (.inl ⟨index, typed, reply, replies, response, rfl, taken, ?_, rfl⟩)
        simpa using received
      · exact .inr (.inr ⟨Function.update_of_ne (Ne.symm same) .., fun trace => sentBy_printed ..⟩)
  | serverReceive index unassigned =>
      obtain ⟨_, _, _, _, _, -, -, rfl, rfl⟩ := serverReceive_eq_some stepped
      exact .inr (.inr ⟨rfl, sentBy_silent client⟩)
  | requestFault what =>
      obtain ⟨requests, -, same⟩ := Option.map_eq_some_iff.mp stepped
      cases same
      exact .inr (.inr ⟨rfl, sentBy_silent client⟩)
  | replyFault what =>
      obtain ⟨replies, -, same⟩ := Option.map_eq_some_iff.mp stepped
      cases same
      exact .inr (.inr ⟨rfl, sentBy_silent client⟩)

theorem numbered_of_step {system next : UdpSystem ι} {trace : List (UdpEvent ι)}
    {action : UdpAction ι} {event : UdpEvent ι} {client : ι}
    (numbered : (system.clients client).Numbered (sentBy client trace))
    (keeps : action.KeepsRequestID client system)
    (stepped : system.step action = some (next, event)) :
    (next.clients client).Numbered (sentBy client (trace ++ [event])) := by
  rcases client_of_step stepped client with ⟨_, _, _, _, _, sends, rfl⟩ |
    ⟨index, typed, reply, _, _, rfl, taken, received, rfl⟩ | ⟨same, unsent⟩
  · simpa using numbered.send sends
  · rw [sentBy_printed]
    exact numbered.receive (keeps _ taken rfl) received
  · rw [same, unsent]
    exact numbered

theorem numbered_of_run {server : ReceiveMemory 8} {frames : ι → Vector FrameByte 3}
    {memories : ι → ReceiveMemory 7} {final : UdpSystem ι} {actions : List (UdpAction ι)}
    {trace : List (UdpEvent ι)} {client : ι}
    (keeps : Stepped.Guarded UdpSystem.step (UdpAction.KeepsRequestID client)
      (UdpSystem.start server frames memories) actions)
    (ran : Stepped.run UdpSystem.step (UdpSystem.start server frames memories) actions =
      some (final, trace)) :
    (final.clients client).Numbered (sentBy client trace) := by
  exact @Stepped.run_guarded_trace_invariant _ _ _ _
    (fun state trace => (state.clients client).Numbered (sentBy client trace)) _
    (fun _ _ _ _ _ numbered keeps stepped => numbered_of_step numbered keeps stepped) _ _ _ _
    (UdpClient.Numbered.start _ _) keeps ran

end UdpSystem

/-! ## Requests that are sent whole -/

section Whole

variable {server : ReceiveMemory 8} {frames : ι → Vector FrameByte 3}
  {memories : ι → ReceiveMemory 7} {actions : List (UdpAction ι)} {final : UdpSystem ι}
  {trace : List (UdpEvent ι)} {client : ι} {message : Vector Byte 8}

theorem exists_sent_of_mem (member : message ∈ sentBy client trace) :
    .sent client message ∈ trace := by
  obtain ⟨event, inside, same⟩ := List.mem_filterMap.mp member
  cases event with
  | sent sender built =>
      simp only at same
      split at same
      · rename_i senderEq
        cases same
        exact senderEq ▸ inside
      · cases same
  | printed printer requestID theInt => cases same
  | silent => cases same

theorem whole_of_run
    (whole : Stepped.Guarded UdpSystem.step (UdpAction.SendsWhole client)
      (UdpSystem.start server frames memories) actions)
    (ran : Stepped.run UdpSystem.step (UdpSystem.start server frames memories) actions =
      some (final, trace))
    (sent : .sent client message ∈ trace) : (remakeRequest message).TML = 8 := by
  have emits (system : UdpSystem ι) (_ : List (UdpEvent ι)) (action : UdpAction ι)
      (next : UdpSystem ι) (_ : True) (sendsWhole : action.SendsWhole client system)
      (stepped : system.step action = some (next, .sent client message)) :
      (remakeRequest message).TML = 8 := by
    obtain ⟨operandOne, operandTwo, OpCode, rfl, decoded⟩ := UdpSystem.sent_eq_some stepped
    rw [decoded]
    exact sendsWhole rfl
  obtain ⟨before, after, split⟩ := List.append_of_mem sent
  exact Stepped.run_guarded_emits (fun _ _ _ _ _ _ _ _ => trivial) emits trivial whole ran split

end Whole

end OpServer
