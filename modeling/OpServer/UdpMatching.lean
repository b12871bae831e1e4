import OpServer.LockStepChannels
import OpServer.UdpInvariants

/-!
# Which request a printed reply answers

A client of `ClientUDP.c` takes the first datagram that arrives for the answer
to its last request; it never compares the request IDs.  A duplicated reply can
therefore be printed for a later request.  Where the network duplicates
nothing, losses and delays included, every reply meets its request.
-/

namespace OpServer

variable {ι : Type*} [DecidableEq ι]

/-- The network duplicates a datagram. -/
def UdpAction.Duplicates : UdpAction ι → Prop
  | .requestFault (.duplicate _) => True
  | .replyFault (.duplicate _) => True
  | _ => False

namespace UdpSystem

/-- How many datagrams are in flight for a client. -/
def inFlight (system : UdpSystem ι) (client : ι) : Nat :=
  Channel.inFlight system.requests system.replies client

/-- The clients and the server are in lock step. -/
def InLockStep (system : UdpSystem ι) (trace : List (UdpEvent ι)) : Prop :=
  Channel.LockStep (fun message datagram => datagram = declaredPart message) RepliesTo
    (fun client => (system.clients client).waiting)
    (fun client => (sentBy client trace).getLast?) system.requests system.replies

namespace InLockStep

variable {system next : UdpSystem ι} {trace : List (UdpEvent ι)} {event : UdpEvent ι}

theorem start (server : ReceiveMemory 8) (frames : ι → Vector FrameByte 3)
    (memories : ι → ReceiveMemory 7) :
    InLockStep (UdpSystem.start server frames memories) [] :=
  Channel.LockStep.empty _ _

theorem clientSend (lockStep : InLockStep system trace) {client : ι}
    {operandOne operandTwo : BitVec 16} {OpCode : Byte}
    (stepped : system.clientSend client operandOne operandTwo OpCode = some (next, event)) :
    InLockStep next (trace ++ [event]) := by
  obtain ⟨sending, sendBytes, datagram, sends, rfl, rfl⟩ := clientSend_eq_some stepped
  obtain ⟨-, idle, -, -, declared, rfl⟩ := UdpClient.send_eq_some sends
  refine Channel.LockStep.send lockStep idle declared ?_ ?_ fun other different => ⟨?_, ?_⟩
  · simp
  · simp
  · simp [different]
  · simp [Ne.symm different]

theorem serverReceive (lockStep : InLockStep system trace) {index : Nat}
    {unassigned : BitVec 32}
    (stepped : system.serverReceive index unassigned = some (next, event)) :
    InLockStep next (trace ++ [event]) := by
  obtain ⟨client, datagram, requests, server, reply, taken, served, rfl, rfl⟩ :=
    serverReceive_eq_some stepped
  simp only [InLockStep, sentBy_silent]
  refine Channel.LockStep.serve lockStep taken fun message declared => ?_
  subst declared
  exact repliesTo_of_servRunStep served

theorem clientReceive (lockStep : InLockStep system trace) {index : Nat}
    {typed : Vector Byte 4} (stepped : system.clientReceive index typed = some (next, event)) :
    InLockStep next (trace ++ [event]) := by
  obtain ⟨client, reply, replies, printing, response, taken, received, rfl, rfl⟩ :=
    clientReceive_eq_some stepped
  obtain ⟨memory, waiting, -, rfl⟩ := UdpClient.receive_eq_some received
  simp only [InLockStep, sentBy_printed]
  refine Channel.LockStep.receive lockStep taken waiting fun other different => ?_
  simp [different]

theorem step (lockStep : InLockStep system trace) {action : UdpAction ι}
    (once : ¬action.Duplicates) (stepped : system.step action = some (next, event)) :
    InLockStep next (trace ++ [event]) := by
  cases action with
  | clientSend client operandOne operandTwo OpCode => exact lockStep.clientSend stepped
  | serverReceive index unassigned => exact lockStep.serverReceive stepped
  | clientReceive index typed => exact lockStep.clientReceive stepped
  | requestFault what =>
      cases what with
      | duplicate index => exact (once trivial).elim
      | lose index =>
          obtain ⟨requests, faulted, same⟩ := Option.map_eq_some_iff.mp stepped
          cases same
          simp only [InLockStep, sentBy_silent]
          exact Channel.LockStep.fewer lockStep (Channel.subperm_of_lose faulted) (.refl _)
  | replyFault what =>
      cases what with
      | duplicate index => exact (once trivial).elim
      | lose index =>
          obtain ⟨replies, faulted, same⟩ := Option.map_eq_some_iff.mp stepped
          cases same
          simp only [InLockStep, sentBy_silent]
          exact Channel.LockStep.fewer lockStep (.refl _) (Channel.subperm_of_lose faulted)

theorem printed (lockStep : InLockStep system trace) {action : UdpAction ι} {client : ι}
    {requestID : Byte} {theInt : BitVec 32}
    (stepped : system.step action = some (next, .printed client requestID theInt)) :
    ∃ message, (sentBy client trace).getLast? = some message ∧
      ((remakeRequest message).TML = 8 → Answers message requestID theInt) := by
  obtain ⟨reply, memory, response, inFlight, -, received, rfl, rfl⟩ := printed_eq_some stepped
  obtain ⟨message, latest, replies⟩ := lockStep.latestReply client reply inFlight
  exact ⟨message, latest, fun whole => replies.answers whole received⟩

theorem printed_of_run {server : ReceiveMemory 8} {frames : ι → Vector FrameByte 3}
    {memories : ι → ReceiveMemory 7} {final : UdpSystem ι} {actions : List (UdpAction ι)}
    (once : ∀ action ∈ actions, ¬action.Duplicates)
    (ran : Stepped.run UdpSystem.step (UdpSystem.start server frames memories) actions =
      some (final, trace))
    {before after : List (UdpEvent ι)} {client : ι} {requestID : Byte} {theInt : BitVec 32}
    (split : trace = before ++ .printed client requestID theInt :: after) :
    ∃ message, (sentBy client before).getLast? = some message ∧
      ((remakeRequest message).TML = 8 → Answers message requestID theInt) :=
  Stepped.run_emits (fun _ _ _ _ _ lockStep once stepped => lockStep.step once stepped)
    (fun _ _ _ _ lockStep _ stepped => lockStep.printed stepped)
    (start server frames memories) once ran split

end InLockStep

end UdpSystem

/-! ## The printed replies of a run -/

theorem exists_printed_of_getElem? {client : ι} {trace : List (UdpEvent ι)} {index : Nat}
    {requestID : Byte} {theInt : BitVec 32}
    (printed : (printedBy client trace)[index]? = some (requestID, theInt)) :
    ∃ before after, trace = before ++ .printed client requestID theInt :: after ∧
      (printedBy client before).length = index := by
  obtain ⟨before, event, after, split, observed, count⟩ :=
    Stepped.exists_event_of_observed printed
  cases event with
  | printed printer number value =>
      simp only at observed
      split at observed
      · rename_i printerEq
        cases observed
        exact ⟨before, after, printerEq ▸ split, count⟩
      · cases observed
  | sent sender message => cases observed
  | silent => cases observed

/-- The reply that a client prints in an iteration comes from one of its requests so
far, and where nothing was duplicated from the request of that iteration. -/
theorem exists_request_of_printed {server : ReceiveMemory 8} {frames : ι → Vector FrameByte 3}
    {memories : ι → ReceiveMemory 7} {actions : List (UdpAction ι)} {final : UdpSystem ι}
    {trace : List (UdpEvent ι)}
    (ran : Stepped.run UdpSystem.step (UdpSystem.start server frames memories) actions =
      some (final, trace))
    {client : ι} {iteration : Nat} {requestID : Byte} {theInt : BitVec 32}
    (printed : (printedBy client trace)[iteration]? = some (requestID, theInt)) :
    ∃ index message, index ≤ iteration ∧ (sentBy client trace)[index]? = some message ∧
      ((remakeRequest message).TML = 8 → Answers message requestID theInt) ∧
      ((∀ action ∈ actions, ¬action.Duplicates) → index = iteration) := by
  obtain ⟨before, after, split, count⟩ := exists_printed_of_getElem? printed
  obtain ⟨lockStep, some_message⟩ := UdpInvariant.printed_of_run ran split
  rw [count] at lockStep
  rw [split, sentBy_append]
  exact Channel.exists_message_of_reply lockStep some_message
    (fun once => UdpSystem.InLockStep.printed_of_run once ran split) _

/-- As long as the answers at the prompt of a client leave its `requestID` and its
`totMessLength` alone, the reply that it prints in an iteration answers one of its
requests so far, and where nothing was duplicated the request of that iteration. -/
theorem printed_answers_request (server : ReceiveMemory 8) (frames : ι → Vector FrameByte 3)
    (memories : ι → ReceiveMemory 7) {actions : List (UdpAction ι)} {final : UdpSystem ι}
    {trace : List (UdpEvent ι)} {client : ι}
    (keeps : Stepped.Guarded UdpSystem.step (UdpAction.KeepsRequestID client)
      (UdpSystem.start server frames memories) actions)
    (whole : Stepped.Guarded UdpSystem.step (UdpAction.SendsWhole client)
      (UdpSystem.start server frames memories) actions)
    (ran : Stepped.run UdpSystem.step (UdpSystem.start server frames memories) actions =
      some (final, trace))
    {iteration : Nat} {requestID : Byte} {theInt : BitVec 32}
    (printed : (printedBy client trace)[iteration]? = some (requestID, theInt)) :
    ∃ index message, index ≤ iteration ∧ (sentBy client trace)[index]? = some message ∧
      requestID = BitVec.ofNat 8 (index + 1) ∧ Answers message requestID theInt ∧
      ((∀ action ∈ actions, ¬action.Duplicates) → index = iteration) := by
  obtain ⟨index, message, early, sent, answers, matched⟩ := exists_request_of_printed ran printed
  have sending := exists_sent_of_mem (List.mem_of_getElem? sent)
  have answered := answers (whole_of_run whole ran sending)
  have number := (UdpSystem.numbered_of_run keeps ran).numbered index message sent
  exact ⟨index, message, early, sent, answered.1.symm.trans number, answered, matched⟩

/-- Without faults the second request gets the second reply.  The answer 1 is stored
where nothing lies. -/
theorem printed_answers_request_second :
    ∃ (final : UdpSystem Unit) (trace : List (UdpEvent Unit)),
      Stepped.run UdpSystem.step
        (UdpSystem.start ⟨Vector.replicate 100 1, Vector.replicate 8 2⟩
          (fun _ => #v[.free, .free, .free])
          fun _ => ⟨Vector.replicate 100 1, Vector.replicate 7 2⟩)
        [.clientSend () 1 1 0, .serverReceive 0 0, .clientReceive 0 (storedInt 1),
          .clientSend () 5 5 0, .serverReceive 0 0, .clientReceive 0 (storedInt 0)] =
        some (final, trace) ∧
      (printedBy () trace)[1]? = some (2, 10) ∧
      ∃ index message, index ≤ 1 ∧ (sentBy () trace)[index]? = some message ∧
        (2 : Byte) = BitVec.ofNat 8 (index + 1) ∧ Answers message 2 10 ∧
        ((∀ action ∈ ([.clientSend () 1 1 0, .serverReceive 0 0, .clientReceive 0 (storedInt 1),
          .clientSend () 5 5 0, .serverReceive 0 0, .clientReceive 0 (storedInt 0)] :
            List (UdpAction Unit)), ¬action.Duplicates) → index = 1) := by
  let start : UdpSystem Unit := UdpSystem.start
    ⟨Vector.replicate 100 1, Vector.replicate 8 2⟩ (fun _ => #v[.free, .free, .free])
    fun _ => ⟨Vector.replicate 100 1, Vector.replicate 7 2⟩
  let actions : List (UdpAction Unit) :=
    [.clientSend () 1 1 0, .serverReceive 0 0, .clientReceive 0 (storedInt 1),
      .clientSend () 5 5 0, .serverReceive 0 0, .clientReceive 0 (storedInt 0)]
  have printed : (Stepped.run UdpSystem.step start actions).map
      (fun ran => (printedBy () ran.2)[1]?) = some (some (2, 10)) := by
    decide +kernel
  obtain ⟨⟨final, trace⟩, ran, second⟩ := Option.map_eq_some_iff.mp printed
  have keeps : Stepped.Guarded UdpSystem.step (UdpAction.KeepsRequestID ()) start actions := by
    decide +kernel
  have whole : Stepped.Guarded UdpSystem.step (UdpAction.SendsWhole ()) start actions := by
    decide +kernel
  exact ⟨final, trace, ran, second, printed_answers_request _ _ _ keeps whole ran second⟩

/-- A duplicated reply to the first request is printed for the second. -/
theorem duplicated_reply_is_printed_again :
    ¬∀ (server : ReceiveMemory 8) (frames : Unit → Vector FrameByte 3)
      (memories : Unit → ReceiveMemory 7) (actions : List (UdpAction Unit))
      (final : UdpSystem Unit) (trace : List (UdpEvent Unit)),
      Stepped.run UdpSystem.step (UdpSystem.start server frames memories) actions =
        some (final, trace) →
      ∀ (iteration : Nat) (requestID : Byte) (theInt : BitVec 32),
        (printedBy () trace)[iteration]? = some (requestID, theInt) →
        requestID = BitVec.ofNat 8 (iteration + 1) := by
  intro claim
  let outcome := Stepped.run UdpSystem.step
    (UdpSystem.start ⟨Vector.replicate 100 1, Vector.replicate 8 2⟩
      (fun _ : Unit => #v[.free, .free, .free])
      fun _ => ⟨Vector.replicate 100 1, Vector.replicate 7 2⟩)
    [.clientSend () 1 1 0, .serverReceive 0 0, .replyFault (.duplicate 0),
      .clientReceive 0 (storedInt 1), .clientSend () 5 5 0, .clientReceive 0 (storedInt 0)]
  have printed : outcome.map (fun ran => (printedBy () ran.2)[1]?) = some (some (1, 2)) := by
    decide +kernel
  obtain ⟨⟨final, trace⟩, ran, second⟩ := Option.map_eq_some_iff.mp printed
  exact absurd (claim _ _ _ _ final trace ran 1 1 2 second) (by decide)

end OpServer
