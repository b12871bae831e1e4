import OpServer.PythonUdpRefinement

/-!
# What the Python server's clients print

A client prints exact results of its own requests, never a value that was cut to
32 bits.  But one request that `format_response` cannot answer, from whomever it
comes, ends the server for all of them.
-/

namespace OpServer

open Python

variable {ι : Type*} [DecidableEq ι]

/-! ## The visible part of a run -/

namespace PythonUdpSystem

omit [DecidableEq ι] in
theorem clientEvents_append (trace : List (PythonUdpEvent ι)) (event : PythonUdpEvent ι) :
    clientEvents (trace ++ [event]) = clientEvents trace ++ event.visible.toList := by
  rw [clientEvents, List.filterMap_append, List.filterMap_cons]
  cases event.visible <;> rfl

theorem exists_printed_of_getElem? {client : ι} {trace : List (PythonUdpEvent ι)} {index : Nat}
    {requestID : Byte} {theInt : BitVec 32}
    (printed : (printedBy client (clientEvents trace))[index]? = some (requestID, theInt)) :
    ∃ before after, trace = before ++ .client (.printed client requestID theInt) :: after ∧
      (printedBy client (clientEvents before)).length = index := by
  rw [printedBy, clientEvents, List.filterMap_filterMap] at printed
  obtain ⟨before, event, after, split, observed, count⟩ :=
    Stepped.exists_event_of_observed printed
  rw [← List.filterMap_filterMap] at count
  obtain ⟨shown, visible, observed⟩ := Option.bind_eq_some_iff.mp observed
  cases event with
  | client event =>
      cases event with
      | printed printer number value =>
          cases visible
          simp only at observed
          split at observed
          · rename_i printerEq
            cases observed
            exact ⟨before, after, printerEq ▸ split, count⟩
          · cases observed
      | sent sender message =>
          cases visible
          cases observed
      | silent => cases visible
  | handled datagram delivers => cases visible

theorem sentBy_subset_append (client : ι) (trace : List (PythonUdpEvent ι))
    (event : PythonUdpEvent ι) :
    sentBy client (clientEvents trace) ⊆ sentBy client (clientEvents (trace ++ [event])) := by
  rw [clientEvents_append, sentBy_append]
  exact List.subset_append_left _ _

/-! ## Values -/

/-- A client sends and prints in turns.  A request in flight was sent by its client,
and a reply in flight is what `format_response` returned for such a request. -/
structure Invariant (system : PythonUdpSystem ι) (trace : List (PythonUdpEvent ι)) : Prop where
  lockStep : ∀ client, (sentBy client (clientEvents trace)).length =
    (printedBy client (clientEvents trace)).length + (system.clients client).waiting.toNat
  requests : ∀ client datagram, (client, datagram) ∈ system.requests →
    ∃ message ∈ sentBy client (clientEvents trace), datagram = declaredPart message
  replies : ∀ client reply, (client, reply) ∈ system.replies →
    ∃ message ∈ sentBy client (clientEvents trace), formatResponse message.toList = .ok reply

namespace Invariant

variable {system next : PythonUdpSystem ι} {trace : List (PythonUdpEvent ι)}
  {event : PythonUdpEvent ι}

theorem start (frames : ι → Vector FrameByte 3) (memories : ι → ReceiveMemory 7) :
    Invariant (PythonUdpSystem.start frames memories) [] where
  lockStep := fun _ => rfl
  requests := fun _ _ impossible => by cases impossible
  replies := fun _ _ impossible => by cases impossible

theorem of_subset (invariant : Invariant system trace)
    (lockStep : ∀ client, (sentBy client (clientEvents (trace ++ [event]))).length =
      (printedBy client (clientEvents (trace ++ [event]))).length +
        (next.clients client).waiting.toNat)
    (noRequest : next.requests ⊆ system.requests) (noReply : next.replies ⊆ system.replies) :
    Invariant next (trace ++ [event]) where
  lockStep := lockStep
  requests := fun client datagram member => by
    obtain ⟨message, sent, same⟩ := invariant.requests client datagram (noRequest member)
    exact ⟨message, sentBy_subset_append client trace event sent, same⟩
  replies := fun client reply member => by
    obtain ⟨message, sent, returned⟩ := invariant.replies client reply (noReply member)
    exact ⟨message, sentBy_subset_append client trace event sent, returned⟩

theorem of_invisible (invariant : Invariant system trace) (invisible : event.visible = none)
    (clients : next.clients = system.clients) (noRequest : next.requests ⊆ system.requests)
    (noReply : next.replies ⊆ system.replies) : Invariant next (trace ++ [event]) := by
  refine invariant.of_subset (fun client => ?_) noRequest noReply
  rw [clientEvents_append, invisible, clients]
  simpa using invariant.lockStep client

theorem clientSend (invariant : Invariant system trace) {client : ι}
    {operandOne operandTwo : BitVec 16} {OpCode : Byte}
    (stepped : system.clientSend client operandOne operandTwo OpCode = some (next, event)) :
    Invariant next (trace ++ [event]) := by
  obtain ⟨sending, sendBytes, datagram, sends, rfl, rfl⟩ := clientSend_eq_some stepped
  obtain ⟨-, idle, -, -, declared, rfl⟩ := UdpClient.send_eq_some sends
  have visible : (PythonUdpEvent.client (.sent client sendBytes)).visible.toList =
      [.sent client sendBytes] := rfl
  constructor
  case lockStep =>
    intro other
    have before := invariant.lockStep other
    rw [clientEvents_append, visible]
    by_cases same : client = other
    · subst same
      rw [idle] at before
      simp [before]
    · simpa [same, Ne.symm same] using before
  case requests =>
    intro other found member
    rw [clientEvents_append, visible, sentBy_sent]
    rcases List.mem_cons.mp member with new | old
    · cases new
      exact ⟨sendBytes, by simp, declared⟩
    · obtain ⟨message, sent, same⟩ := invariant.requests other found old
      exact ⟨message, List.mem_append_left _ sent, same⟩
  case replies =>
    intro other reply member
    obtain ⟨message, sent, returned⟩ := invariant.replies other reply member
    exact ⟨message, sentBy_subset_append other trace _ sent, returned⟩

theorem serverReceive (invariant : Invariant system trace) {index : Nat} {delivers : Bool}
    (stepped : system.serverReceive index delivers = some (next, event)) :
    Invariant next (trace ++ [event]) := by
  obtain ⟨client, datagram, requests, taken, -, rfl, outcome⟩ := serverReceive_eq_some stepped
  rcases outcome with ⟨response, returned, rfl⟩ | ⟨raised, -, rfl⟩
  · have kept : Invariant { system with requests := requests }
        (trace ++ [.handled datagram delivers]) :=
      invariant.of_invisible rfl rfl (Channel.subset_of_take taken) (List.Subset.refl _)
    refine ⟨kept.lockStep, kept.requests, fun other reply member => ?_⟩
    rcases List.mem_cons.mp member with new | old
    · cases new
      obtain ⟨message, sent, rfl⟩ :=
        invariant.requests client datagram (Channel.mem_of_take taken)
      exact ⟨message, sentBy_subset_append client trace _ sent,
        (formatResponse_of_serverStep returned).2⟩
    · exact kept.replies other reply old
  · exact invariant.of_invisible rfl rfl (Channel.subset_of_take taken) (List.Subset.refl _)

theorem clientReceive (invariant : Invariant system trace) {index : Nat} {typed : Vector Byte 4}
    (stepped : system.clientReceive index typed = some (next, event)) :
    Invariant next (trace ++ [event]) := by
  obtain ⟨client, reply, replies, printing, response, taken, received, rfl, rfl⟩ :=
    clientReceive_eq_some stepped
  obtain ⟨memory, waiting, -, rfl⟩ := UdpClient.receive_eq_some received
  refine invariant.of_subset (fun other => ?_) (List.Subset.refl _)
    (Channel.subset_of_take taken)
  have visible : (PythonUdpEvent.client (.printed client response.requestID
      response.result.theInt)).visible.toList =
      [.printed client response.requestID response.result.theInt] := rfl
  have before := invariant.lockStep other
  rw [clientEvents_append, visible]
  by_cases same : client = other
  · subst same
    rw [waiting] at before
    simp [before]
  · simpa [same, Ne.symm same] using before

theorem step (invariant : Invariant system trace) {action : PythonUdpAction ι}
    (stepped : system.step action = some (next, event)) :
    Invariant next (trace ++ [event]) := by
  cases action with
  | clientSend client operandOne operandTwo OpCode => exact invariant.clientSend stepped
  | serverReceive index delivers => exact invariant.serverReceive stepped
  | strangerSend datagram delivers =>
      obtain ⟨-, rfl, ⟨response, -, rfl⟩ | ⟨raised, -, rfl⟩⟩ := strangerSend_eq_some stepped
      · exact invariant.of_invisible rfl rfl (List.Subset.refl _) (List.Subset.refl _)
      · exact invariant.of_invisible rfl rfl (List.Subset.refl _) (List.Subset.refl _)
  | clientReceive index typed => exact invariant.clientReceive stepped
  | requestFault what =>
      obtain ⟨requests, faulted, same⟩ := Option.map_eq_some_iff.mp stepped
      cases same
      exact invariant.of_invisible rfl rfl (Channel.subset_of_fault faulted) (List.Subset.refl _)
  | replyFault what =>
      obtain ⟨replies, faulted, same⟩ := Option.map_eq_some_iff.mp stepped
      cases same
      exact invariant.of_invisible rfl rfl (List.Subset.refl _) (Channel.subset_of_fault faulted)

end Invariant

/-- A request ID and the exact result of an operation, both of this message. -/
def ExactlyAnswers (message : Vector Byte 8) (requestID : Byte) (theInt : BitVec 32) : Prop :=
  (remakeRequest message).requestID = requestID ∧
    ∃ operation : Operation, (remakeRequest message).opCode = operation.code ∧
      theInt.toInt = operation.exact (remakeRequest message).operandOne.theInt.toInt
        (remakeRequest message).operandTwo.theInt.toInt

/-- A client that receives the answer of `format_response` to a message prints it. -/
theorem exactlyAnswers_of_receive {message : Vector Byte 8} {reply : List Byte}
    (returned : formatResponse message.toList = .ok reply) {client printing : UdpClient}
    {typed : Vector Byte 4} {response : Response}
    (received : client.receive reply typed = some (printing, response)) :
    ExactlyAnswers message response.requestID response.result.theInt := by
  obtain ⟨memory, -, decodes, -⟩ := UdpClient.receive_eq_some received
  obtain ⟨operation, after, decoded, printed, code, sameID, exact⟩ :=
    clientReceive_of_formatResponse returned client.memory
  rw [decodes] at printed
  cases printed
  exact ⟨sameID.symm, operation, code, exact⟩

theorem printed_eq_some {system next : PythonUdpSystem ι} {action : PythonUdpAction ι}
    {client : ι} {requestID : Byte} {theInt : BitVec 32}
    (stepped : system.step action = some (next, .client (.printed client requestID theInt))) :
    ∃ reply typed printing response, (client, reply) ∈ system.replies ∧
      (system.clients client).receive reply typed = some (printing, response) ∧
      requestID = response.requestID ∧ theInt = response.result.theInt := by
  cases action with
  | clientSend sender operandOne operandTwo OpCode =>
      obtain ⟨_, _, _, -, impossible, -⟩ := clientSend_eq_some stepped
      cases impossible
  | serverReceive index delivers =>
      obtain ⟨_, _, _, _, -, impossible, -⟩ := serverReceive_eq_some stepped
      cases impossible
  | strangerSend datagram delivers =>
      obtain ⟨-, impossible, -⟩ := strangerSend_eq_some stepped
      cases impossible
  | clientReceive index typed =>
      obtain ⟨_, reply, _, printing, response, taken, received, same, -⟩ :=
        clientReceive_eq_some stepped
      cases same
      exact ⟨reply, typed, printing, response, Channel.mem_of_take taken, received, rfl, rfl⟩
  | requestFault what =>
      obtain ⟨requests, faulted, impossible⟩ := Option.map_eq_some_iff.mp stepped
      cases impossible
  | replyFault what =>
      obtain ⟨replies, faulted, impossible⟩ := Option.map_eq_some_iff.mp stepped
      cases impossible

theorem Invariant.printed {system next : PythonUdpSystem ι} {trace : List (PythonUdpEvent ι)}
    (invariant : Invariant system trace) {action : PythonUdpAction ι} {client : ι}
    {requestID : Byte} {theInt : BitVec 32}
    (stepped : system.step action = some (next, .client (.printed client requestID theInt))) :
    (sentBy client (clientEvents trace)).length =
        (printedBy client (clientEvents trace)).length + 1 ∧
      ∃ message ∈ sentBy client (clientEvents trace),
        ExactlyAnswers message requestID theInt := by
  obtain ⟨reply, typed, printing, response, inFlight, received, rfl, rfl⟩ :=
    printed_eq_some stepped
  obtain ⟨memory, waiting, -⟩ := UdpClient.receive_eq_some received
  obtain ⟨message, sent, returned⟩ := invariant.replies client reply inFlight
  refine ⟨?_, message, sent, exactlyAnswers_of_receive returned received⟩
  rw [invariant.lockStep client, waiting]
  rfl

section Runs

variable {frames : ι → Vector FrameByte 3} {memories : ι → ReceiveMemory 7}
  {actions : List (PythonUdpAction ι)} {final : PythonUdpSystem ι}
  {trace before after : List (PythonUdpEvent ι)} {client : ι} {requestID : Byte}
  {theInt : BitVec 32}

theorem Invariant.printed_of_run
    (ran : Stepped.run PythonUdpSystem.step (PythonUdpSystem.start frames memories) actions =
      some (final, trace))
    (split : trace = before ++ .client (.printed client requestID theInt) :: after) :
    (sentBy client (clientEvents before)).length =
        (printedBy client (clientEvents before)).length + 1 ∧
      ∃ message ∈ sentBy client (clientEvents before),
        ExactlyAnswers message requestID theInt :=
  Stepped.run_emits (fun _ _ _ _ _ invariant _ stepped => Invariant.step invariant stepped)
    (fun _ _ _ _ invariant _ stepped => Invariant.printed invariant stepped)
    (Invariant.start frames memories) (fun _ _ => trivial) ran split

/-- Whatever the network and other programs do, every pair that a client prints is
the ID and the exact result of one of its requests, for counts of any size. -/
theorem printed_exactly
    (ran : Stepped.run step (start frames memories) actions = some (final, trace))
    (split : trace = before ++ .client (.printed client requestID theInt) :: after) :
    ∃ message ∈ sentBy client (clientEvents before), ExactlyAnswers message requestID theInt :=
  (Invariant.printed_of_run ran split).2

end Runs

theorem printed_exactly_largeCount :
    ∃ message ∈ sentBy () (clientEvents [.client (.sent () (clientMessage 1 4 1 40)),
        .handled (clientMessage 1 4 1 40).toList true]),
      ExactlyAnswers message 1 0 := by
  obtain ⟨final, ran⟩ := run_largeCount
  have split : largeCountTrace = [.client (.sent () (clientMessage 1 4 1 40)),
      .handled (clientMessage 1 4 1 40).toList true] ++ .client (.printed () 1 0) :: [] := rfl
  exact printed_exactly ran split

/-! ## Request IDs -/

/-- The clients and the server are in lock step. -/
def InLockStep (system : PythonUdpSystem ι) (trace : List (PythonUdpEvent ι)) : Prop :=
  Channel.LockStep (fun message datagram => datagram = declaredPart message)
    (fun message reply => formatResponse message.toList = .ok reply)
    (fun client => (system.clients client).waiting)
    (fun client => (sentBy client (clientEvents trace)).getLast?) system.requests system.replies

namespace InLockStep

variable {system next : PythonUdpSystem ι} {trace : List (PythonUdpEvent ι)}
  {event : PythonUdpEvent ι}

theorem start (frames : ι → Vector FrameByte 3) (memories : ι → ReceiveMemory 7) :
    InLockStep (PythonUdpSystem.start frames memories) [] :=
  Channel.LockStep.empty _ _

theorem fewer (lockStep : InLockStep system trace) (invisible : event.visible = none)
    (clients : next.clients = system.clients) (noRequest : next.requests.Subperm system.requests)
    (noReply : next.replies.Subperm system.replies) : InLockStep next (trace ++ [event]) := by
  rw [InLockStep, clients]
  simp only [clientEvents_append, invisible, Option.toList_none, List.append_nil]
  exact Channel.LockStep.fewer lockStep noRequest noReply

theorem clientSend (lockStep : InLockStep system trace) {client : ι}
    {operandOne operandTwo : BitVec 16} {OpCode : Byte}
    (stepped : system.clientSend client operandOne operandTwo OpCode = some (next, event)) :
    InLockStep next (trace ++ [event]) := by
  obtain ⟨sending, sendBytes, datagram, sends, rfl, rfl⟩ := clientSend_eq_some stepped
  obtain ⟨-, idle, -, -, declared, rfl⟩ := UdpClient.send_eq_some sends
  have visible : (PythonUdpEvent.client (.sent client sendBytes)).visible.toList =
      [.sent client sendBytes] := rfl
  simp only [InLockStep, clientEvents_append, visible]
  refine Channel.LockStep.send lockStep idle declared ?_ ?_ fun other different => ⟨?_, ?_⟩
  · simp
  · simp
  · simp [different]
  · simp [Ne.symm different]

theorem serverReceive (lockStep : InLockStep system trace) {index : Nat} {delivers : Bool}
    (stepped : system.serverReceive index delivers = some (next, event)) :
    InLockStep next (trace ++ [event]) := by
  obtain ⟨client, datagram, requests, taken, -, rfl, outcome⟩ := serverReceive_eq_some stepped
  rcases outcome with ⟨response, returned, rfl⟩ | ⟨raised, -, rfl⟩
  · have visible : (@PythonUdpEvent.handled ι datagram delivers).visible.toList = [] := rfl
    simp only [InLockStep, clientEvents_append, visible, List.append_nil]
    refine Channel.LockStep.serve lockStep taken fun message declared => ?_
    subst declared
    exact (formatResponse_of_serverStep returned).2
  · exact lockStep.fewer rfl rfl (Channel.subperm_of_take taken) (.refl _)

theorem clientReceive (lockStep : InLockStep system trace) {index : Nat} {typed : Vector Byte 4}
    (stepped : system.clientReceive index typed = some (next, event)) :
    InLockStep next (trace ++ [event]) := by
  obtain ⟨client, reply, replies, printing, response, taken, received, rfl, rfl⟩ :=
    clientReceive_eq_some stepped
  obtain ⟨memory, waiting, -, rfl⟩ := UdpClient.receive_eq_some received
  have visible : (PythonUdpEvent.client (.printed client response.requestID
      response.result.theInt)).visible.toList =
      [.printed client response.requestID response.result.theInt] := rfl
  simp only [InLockStep, clientEvents_append, visible, sentBy_printed]
  refine Channel.LockStep.receive lockStep taken waiting fun other different => ?_
  simp [different]

theorem step (lockStep : InLockStep system trace) {action : PythonUdpAction ι}
    (once : ¬action.Duplicates) (stepped : system.step action = some (next, event)) :
    InLockStep next (trace ++ [event]) := by
  cases action with
  | clientSend client operandOne operandTwo OpCode => exact lockStep.clientSend stepped
  | serverReceive index delivers => exact lockStep.serverReceive stepped
  | strangerSend datagram delivers =>
      obtain ⟨-, rfl, ⟨response, -, rfl⟩ | ⟨raised, -, rfl⟩⟩ := strangerSend_eq_some stepped
      · exact lockStep.fewer rfl rfl (.refl _) (.refl _)
      · exact lockStep.fewer rfl rfl (.refl _) (.refl _)
  | clientReceive index typed => exact lockStep.clientReceive stepped
  | requestFault what =>
      cases what with
      | duplicate index => exact (once trivial).elim
      | lose index =>
          obtain ⟨requests, faulted, same⟩ := Option.map_eq_some_iff.mp stepped
          cases same
          exact lockStep.fewer rfl rfl (Channel.subperm_of_lose faulted) (.refl _)
  | replyFault what =>
      cases what with
      | duplicate index => exact (once trivial).elim
      | lose index =>
          obtain ⟨replies, faulted, same⟩ := Option.map_eq_some_iff.mp stepped
          cases same
          exact lockStep.fewer rfl rfl (.refl _) (Channel.subperm_of_lose faulted)

theorem printed (lockStep : InLockStep system trace) {action : PythonUdpAction ι} {client : ι}
    {requestID : Byte} {theInt : BitVec 32}
    (stepped : system.step action = some (next, .client (.printed client requestID theInt))) :
    ∃ message, (sentBy client (clientEvents trace)).getLast? = some message ∧
      ExactlyAnswers message requestID theInt := by
  obtain ⟨reply, typed, printing, response, inFlight, received, rfl, rfl⟩ :=
    printed_eq_some stepped
  obtain ⟨message, latest, returned⟩ := lockStep.latestReply client reply inFlight
  exact ⟨message, latest, exactlyAnswers_of_receive returned received⟩

end InLockStep

theorem numbered_of_step {system next : PythonUdpSystem ι} {trace : List (PythonUdpEvent ι)}
    {action : PythonUdpAction ι} {event : PythonUdpEvent ι} {client : ι}
    (numbered : (system.clients client).Numbered (sentBy client (clientEvents trace)))
    (keeps : action.KeepsRequestID client system)
    (stepped : system.step action = some (next, event)) :
    (next.clients client).Numbered (sentBy client (clientEvents (trace ++ [event]))) := by
  rw [clientEvents_append]
  cases action with
  | clientSend sender operandOne operandTwo OpCode =>
      obtain ⟨sending, sendBytes, datagram, sends, rfl, rfl⟩ := clientSend_eq_some stepped
      change UdpClient.Numbered _ (sentBy client (_ ++ [.sent sender sendBytes]))
      rw [sentBy_sent]
      by_cases same : sender = client
      · subst same
        simpa using numbered.send sends
      · simpa [same, Ne.symm same] using numbered
  | serverReceive index delivers =>
      obtain ⟨_, _, _, -, -, rfl, ⟨_, -, rfl⟩ | ⟨_, -, rfl⟩⟩ := serverReceive_eq_some stepped
      · exact (List.append_nil (clientEvents trace)).symm ▸ numbered
      · exact (List.append_nil (clientEvents trace)).symm ▸ numbered
  | strangerSend datagram delivers =>
      obtain ⟨-, rfl, ⟨_, -, rfl⟩ | ⟨_, -, rfl⟩⟩ := strangerSend_eq_some stepped
      · exact (List.append_nil (clientEvents trace)).symm ▸ numbered
      · exact (List.append_nil (clientEvents trace)).symm ▸ numbered
  | clientReceive index typed =>
      obtain ⟨receiver, reply, replies, printing, response, taken, received, rfl, rfl⟩ :=
        clientReceive_eq_some stepped
      change UdpClient.Numbered _ (sentBy client (_ ++ [.printed receiver _ _]))
      rw [sentBy_printed]
      by_cases same : receiver = client
      · subst same
        simpa using numbered.receive (keeps _ taken rfl) received
      · simpa [Ne.symm same] using numbered
  | requestFault what =>
      obtain ⟨requests, -, same⟩ := Option.map_eq_some_iff.mp stepped
      cases same
      exact (List.append_nil (clientEvents trace)).symm ▸ numbered
  | replyFault what =>
      obtain ⟨replies, -, same⟩ := Option.map_eq_some_iff.mp stepped
      cases same
      exact (List.append_nil (clientEvents trace)).symm ▸ numbered

section Runs

variable {frames : ι → Vector FrameByte 3} {memories : ι → ReceiveMemory 7}
  {actions : List (PythonUdpAction ι)} {final : PythonUdpSystem ι}
  {trace : List (PythonUdpEvent ι)} {client : ι}

theorem numbered_of_run
    (keeps : Stepped.Guarded step (PythonUdpAction.KeepsRequestID client)
      (start frames memories) actions)
    (ran : Stepped.run step (start frames memories) actions = some (final, trace)) :
    (final.clients client).Numbered (sentBy client (clientEvents trace)) := by
  exact @Stepped.run_guarded_trace_invariant _ _ _ _
    (fun state trace => (state.clients client).Numbered (sentBy client (clientEvents trace))) _
    (fun _ _ _ _ _ numbered keeps stepped => numbered_of_step numbered keeps stepped) _ _ _ _
    (UdpClient.Numbered.start _ _) keeps ran

/-- A printed request ID is that of a request which the client has sent, and of its last
one if the network has duplicated nothing.  It is the number of that request as long as
the answers at the prompt leave `requestID` alone. -/
theorem printed_number
    (ran : Stepped.run step (start frames memories) actions = some (final, trace))
    {iteration : Nat} {requestID : Byte} {theInt : BitVec 32}
    (printed : (printedBy client (clientEvents trace))[iteration]? = some (requestID, theInt)) :
    ∃ index message, index ≤ iteration ∧
      (sentBy client (clientEvents trace))[index]? = some message ∧
      (remakeRequest message).requestID = requestID ∧
      (Stepped.Guarded step (PythonUdpAction.KeepsRequestID client) (start frames memories)
        actions → requestID = BitVec.ofNat 8 (index + 1)) ∧
      ((∀ action ∈ actions, ¬action.Duplicates) → index = iteration) := by
  obtain ⟨before, after, split, count⟩ := exists_printed_of_getElem? printed
  obtain ⟨lockStep, some_message⟩ := Invariant.printed_of_run ran split
  have latest (once : ∀ action ∈ actions, ¬action.Duplicates) :
      ∃ message, (sentBy client (clientEvents before)).getLast? = some message ∧
        ExactlyAnswers message requestID theInt :=
    Stepped.run_emits
      (fun _ _ _ _ _ lockStep once stepped => InLockStep.step lockStep once stepped)
      (fun _ _ _ _ lockStep _ stepped => InLockStep.printed lockStep stepped)
      (InLockStep.start frames memories) once ran split
  rw [count] at lockStep
  obtain ⟨index, message, early, sent, answers, matched⟩ :=
    Channel.exists_message_of_reply lockStep some_message latest
      (sentBy client (clientEvents (.client (.printed client requestID theInt) :: after)))
  rw [← sentBy_append, clientEvents, clientEvents, ← List.filterMap_append, ← split] at sent
  refine ⟨index, message, early, sent, answers.1, fun keeps => ?_, matched⟩
  exact answers.1.symm.trans ((numbered_of_run keeps ran).numbered index message sent)

end Runs

theorem printed_number_largeCount :
    ∃ index message, index ≤ 0 ∧
      (sentBy () (clientEvents largeCountTrace))[index]? = some message ∧
      (remakeRequest message).requestID = 1 ∧
      (Stepped.Guarded step (PythonUdpAction.KeepsRequestID ()) largeCountStart
        largeCountActions → (1 : Byte) = BitVec.ofNat 8 (index + 1)) ∧
      ((∀ action ∈ largeCountActions, ¬action.Duplicates) → index = 0) := by
  obtain ⟨final, ran⟩ := run_largeCount
  have printed : (printedBy () (clientEvents largeCountTrace))[0]? = some (1, 0) := rfl
  exact printed_number ran printed

/-! ## The end of the server -/

/-- The byte strings that `format_response` answers. -/
def Accepted (data : List Byte) : Prop :=
  8 ≤ data.length ∧ (data.getD 2 0).toNat ≤ 5 ∧
    ((data.getD 2 0).toNat = 4 ∨ (data.getD 2 0).toNat = 5 → 0 ≤ signedWord data 6) ∧
    ((data.getD 2 0).toNat = 5 →
      -2 ^ 31 ≤ signedWord data 4 * 2 ^ (signedWord data 6).toNat ∧
        signedWord data 4 * 2 ^ (signedWord data 6).toNat < 2 ^ 31)

theorem exists_serverStep_iff (datagram : List Byte) (delivers : Bool) :
    (∃ response, serverStep datagram delivers = .ok response) ↔
      delivers = true ∧ Accepted (datagram.take BUFSIZE) := by
  simp only [serverStep_eq_ok_iff, exists_and_right]
  rw [and_comm]
  exact and_congr_right fun _ => exists_formatResponse_iff _

/-- The server does not raise. -/
def Survives : PythonUdpEvent ι → Prop
  | .client _ => True
  | .handled datagram delivers => delivers = true ∧ Accepted (datagram.take BUFSIZE)

section Steps

variable {system next final : PythonUdpSystem ι} {event : PythonUdpEvent ι}

omit [DecidableEq ι] in
theorem survives_of_ok {datagram response : List Byte} {delivers : Bool}
    (returned : serverStep datagram delivers = .ok response) :
    Survives (@PythonUdpEvent.handled ι datagram delivers) :=
  (exists_serverStep_iff datagram delivers).mp ⟨response, returned⟩

omit [DecidableEq ι] in
theorem not_survives_of_error {datagram : List Byte} {delivers : Bool} {raised : PythonError}
    (failed : serverStep datagram delivers = .error raised) :
    ¬Survives (@PythonUdpEvent.handled ι datagram delivers) := by
  intro survives
  obtain ⟨response, returned⟩ := (exists_serverStep_iff datagram delivers).mpr survives
  rw [failed] at returned
  cases returned

theorem serving_step {action : PythonUdpAction ι}
    (stepped : system.step action = some (next, event)) :
    next.serving = true ↔ system.serving = true ∧ Survives event := by
  cases action with
  | clientSend client operandOne operandTwo OpCode =>
      obtain ⟨_, _, _, -, rfl, rfl⟩ := clientSend_eq_some stepped
      exact (and_iff_left trivial).symm
  | serverReceive index delivers =>
      obtain ⟨client, message, requests, -, serving, rfl, outcome⟩ := serverReceive_eq_some stepped
      rcases outcome with ⟨response, returned, rfl⟩ | ⟨raised, failed, rfl⟩
      · exact iff_of_true serving ⟨serving, survives_of_ok returned⟩
      · exact iff_of_false (by simp) fun both => not_survives_of_error failed both.2
  | strangerSend datagram delivers =>
      obtain ⟨serving, rfl, ⟨response, returned, rfl⟩ | ⟨raised, failed, rfl⟩⟩ :=
        strangerSend_eq_some stepped
      · exact iff_of_true serving ⟨serving, survives_of_ok returned⟩
      · exact iff_of_false (by simp) fun both => not_survives_of_error failed both.2
  | clientReceive index typed =>
      obtain ⟨_, _, _, _, _, -, -, rfl, rfl⟩ := clientReceive_eq_some stepped
      exact (and_iff_left trivial).symm
  | requestFault what =>
      obtain ⟨requests, -, same⟩ := Option.map_eq_some_iff.mp stepped
      cases same
      exact (and_iff_left trivial).symm
  | replyFault what =>
      obtain ⟨replies, -, same⟩ := Option.map_eq_some_iff.mp stepped
      cases same
      exact (and_iff_left trivial).symm

theorem serving_run {actions : List (PythonUdpAction ι)} {events : List (PythonUdpEvent ι)}
    (ran : Stepped.run step system actions = some (final, events)) :
    final.serving = true ↔ system.serving = true ∧ ∀ event ∈ events, Survives event := by
  induction actions generalizing system events with
  | nil =>
      cases ran
      simp
  | cons action actions ih =>
      obtain ⟨middle, event, later, stepped, continued, rfl⟩ := Stepped.run_cons_eq_some ran
      rw [ih continued, serving_step stepped, and_assoc, List.forall_mem_cons]

/-- The server has ended, and no reply is in flight for a client. -/
structure Stranded (client : ι) (system : PythonUdpSystem ι) : Prop where
  ended : system.serving = false
  nothing : ∀ reply, (client, reply) ∉ system.replies

theorem Stranded.step {client : ι} {action : PythonUdpAction ι}
    (stranded : Stranded client system) (stepped : system.step action = some (next, event)) :
    Stranded client next ∧ printedBy client (clientEvents [event]) = [] := by
  have ended := stranded.ended
  cases action with
  | clientSend sender operandOne operandTwo OpCode =>
      obtain ⟨_, _, _, -, rfl, rfl⟩ := clientSend_eq_some stepped
      exact ⟨⟨ended, stranded.nothing⟩, rfl⟩
  | serverReceive index delivers =>
      obtain ⟨_, _, _, -, serving, -, -⟩ := serverReceive_eq_some stepped
      rw [serving] at ended
      cases ended
  | strangerSend datagram delivers =>
      obtain ⟨serving, -, -⟩ := strangerSend_eq_some stepped
      rw [serving] at ended
      cases ended
  | clientReceive index typed =>
      obtain ⟨receiver, reply, replies, _, _, taken, -, rfl, rfl⟩ :=
        clientReceive_eq_some stepped
      have different : receiver ≠ client := by
        rintro rfl
        exact stranded.nothing reply (Channel.mem_of_take taken)
      refine ⟨⟨ended, fun other member => ?_⟩, ?_⟩
      · exact stranded.nothing other (Channel.subset_of_take taken member)
      · simp [clientEvents, PythonUdpEvent.visible, UdpEvent.visible, printedBy, different]
  | requestFault what =>
      obtain ⟨requests, -, same⟩ := Option.map_eq_some_iff.mp stepped
      cases same
      exact ⟨⟨ended, stranded.nothing⟩, rfl⟩
  | replyFault what =>
      obtain ⟨replies, faulted, same⟩ := Option.map_eq_some_iff.mp stepped
      cases same
      exact ⟨⟨ended, fun reply member =>
        stranded.nothing reply (Channel.subset_of_fault faulted member)⟩, rfl⟩

theorem Stranded.run {client : ι} {later : List (PythonUdpAction ι)}
    {events : List (PythonUdpEvent ι)} (stranded : Stranded client system)
    (ran : Stepped.run PythonUdpSystem.step system later = some (final, events)) :
    printedBy client (clientEvents events) = [] := by
  induction later generalizing system events with
  | nil =>
      cases ran
      rfl
  | cons action actions ih =>
      obtain ⟨middle, event, rest, stepped, continued, rfl⟩ := Stepped.run_cons_eq_some ran
      obtain ⟨remains, silent⟩ := stranded.step stepped
      have first : clientEvents (event :: rest) = clientEvents [event] ++ clientEvents rest := by
        rw [clientEvents, clientEvents, clientEvents, ← List.filterMap_append,
          List.singleton_append]
      rw [first, printedBy_append, silent, ih remains continued]
      rfl

/-- The server is still there exactly if everything it has received was a request
that it could answer and its answers could be sent.  Once it has ended, a client
with no reply in flight prints nothing any more. -/
theorem serving_iff_of_run {frames : ι → Vector FrameByte 3} {memories : ι → ReceiveMemory 7}
    {actions : List (PythonUdpAction ι)} {trace : List (PythonUdpEvent ι)}
    (ran : Stepped.run PythonUdpSystem.step (start frames memories) actions =
      some (system, trace)) :
    (system.serving = true ↔ ∀ datagram delivers, .handled datagram delivers ∈ trace →
      delivers = true ∧ Accepted (datagram.take BUFSIZE)) ∧
    (system.serving = false → ∀ client, (∀ reply, (client, reply) ∉ system.replies) →
      ∀ later final events, Stepped.run PythonUdpSystem.step system later = some (final, events) →
        printedBy client (clientEvents events) = []) := by
  constructor
  · rw [serving_run ran]
    constructor
    · rintro ⟨-, survives⟩ datagram delivers member
      exact survives _ member
    · intro accepted
      refine ⟨rfl, fun event member => ?_⟩
      cases event with
      | client event => trivial
      | handled datagram delivers => exact accepted datagram delivers member
  · intro ended client nothing later final events continued
    exact Stranded.run ⟨ended, nothing⟩ continued

end Steps

/-- A datagram of another program ends the server before a request arrives. -/
theorem serving_iff_of_run_stranger :
    ∃ (system : PythonUdpSystem Unit) (trace : List (PythonUdpEvent Unit)),
      Stepped.run step (start (fun _ => ordinaryFrame)
          fun _ => ⟨Vector.replicate 100 1, Vector.replicate 7 2⟩)
        [.clientSend () 1 1 0, .strangerSend [8, 1, 0] true] = some (system, trace) ∧
      (system.serving = true ↔ ∀ datagram delivers, .handled datagram delivers ∈ trace →
        delivers = true ∧ Accepted (datagram.take BUFSIZE)) ∧
      (system.serving = false → ∀ client, (∀ reply, (client, reply) ∉ system.replies) →
        ∀ later final events, Stepped.run step system later = some (final, events) →
          printedBy client (clientEvents events) = []) := by
  have completes : (Stepped.run step
      (start (fun _ : Unit => ordinaryFrame)
        fun _ => ⟨Vector.replicate 100 1, Vector.replicate 7 2⟩)
      [.clientSend () 1 1 0, .strangerSend [8, 1, 0] true]).isSome := by
    decide +kernel
  obtain ⟨⟨system, trace⟩, ran⟩ := Option.isSome_iff_exists.mp completes
  exact ⟨system, trace, ran, serving_iff_of_run ran⟩

end PythonUdpSystem

end OpServer
