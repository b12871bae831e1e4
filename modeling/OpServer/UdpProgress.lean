import OpServer.UdpMatching

/-!
# Clients that wait for a reply

A client of `ClientUDP.c` sends a request once and then waits as long as it takes.
It can go on exactly as long as a datagram is in flight for it.  A network that
loses nothing brings every client a reply, in whatever order it delivers.
-/

namespace OpServer

variable {ι : Type*} [DecidableEq ι]

/-- The network loses a datagram. -/
def UdpAction.Loses : UdpAction ι → Prop
  | .requestFault (.lose _) => True
  | .replyFault (.lose _) => True
  | _ => False

/-- A process receives a datagram. -/
def UdpAction.Delivers : UdpAction ι → Prop
  | .serverReceive _ _ => True
  | .clientReceive _ _ => True
  | _ => False

namespace UdpSystem

variable {system next : UdpSystem ι} {event : UdpEvent ι}

/-! ## The datagrams of a client -/

theorem inFlight_clientSend {client : ι} {operandOne operandTwo : BitVec 16} {OpCode : Byte}
    (stepped : system.clientSend client operandOne operandTwo OpCode = some (next, event))
    (other : ι) :
    next.inFlight other = system.inFlight other + if client = other then 1 else 0 := by
  obtain ⟨sending, sendBytes, datagram, -, -, rfl⟩ := clientSend_eq_some stepped
  exact Channel.inFlight_cons client datagram

theorem inFlight_serverReceive {index : Nat} {unassigned : BitVec 32}
    (stepped : system.serverReceive index unassigned = some (next, event)) (other : ι) :
    next.inFlight other = system.inFlight other := by
  obtain ⟨client, datagram, requests, server, reply, taken, -, -, rfl⟩ :=
    serverReceive_eq_some stepped
  exact Channel.inFlight_of_serve taken reply

theorem inFlight_clientReceive {index : Nat} {typed : Vector Byte 4}
    (stepped : system.clientReceive index typed = some (next, event)) :
    ∃ client requestID theInt, event = .printed client requestID theInt ∧
      (next.clients client).waiting = false ∧
      (∀ other, client ≠ other → next.clients other = system.clients other) ∧
      ∀ other, system.inFlight other = next.inFlight other + if client = other then 1 else 0 := by
  obtain ⟨client, reply, replies, printing, response, taken, received, rfl, rfl⟩ :=
    clientReceive_eq_some stepped
  obtain ⟨memory, -, -, rfl⟩ := UdpClient.receive_eq_some received
  refine ⟨client, _, _, rfl, ?_, ?_, ?_⟩
  · simp
  · intro other different
    simp [Ne.symm different]
  · intro other
    exact Channel.inFlight_of_take taken

theorem not_pos_of_subset {client : ι} {requests : List (ι × List Byte)}
    {replies : List (ι × Vector Byte 7)} (noRequest : requests ⊆ system.requests)
    (noReply : replies ⊆ system.replies) (none : ¬0 < system.inFlight client) :
    ¬0 < inFlight { system with requests := requests, replies := replies } client := by
  rw [inFlight, Channel.inFlight_pos_iff] at none ⊢
  rintro (⟨datagram, member⟩ | ⟨reply, member⟩)
  · exact none (.inl ⟨datagram, noRequest member⟩)
  · exact none (.inr ⟨reply, noReply member⟩)

/-! ## Clients that wait forever -/

/-- A client waits, and no datagram is in flight for it. -/
structure Blocked (client : ι) (system : UdpSystem ι) : Prop where
  waiting : (system.clients client).waiting = true
  nothing : ¬0 < system.inFlight client

theorem Blocked.step {client : ι} {action : UdpAction ι} (blocked : Blocked client system)
    (stepped : system.step action = some (next, event)) :
    Blocked client next ∧ printedBy client [event] = [] := by
  cases action with
  | clientSend sender operandOne operandTwo OpCode =>
      have count := inFlight_clientSend stepped client
      obtain ⟨sending, sendBytes, datagram, sends, rfl, rfl⟩ := clientSend_eq_some stepped
      obtain ⟨-, idle, -⟩ := UdpClient.send_eq_some sends
      have different : sender ≠ client := by
        rintro rfl
        rw [blocked.waiting] at idle
        cases idle
      rw [if_neg different] at count
      refine ⟨⟨?_, ?_⟩, rfl⟩
      · simpa [Ne.symm different] using blocked.waiting
      · rw [count]
        exact blocked.nothing
  | serverReceive index unassigned =>
      have count := inFlight_serverReceive stepped client
      obtain ⟨_, _, _, _, _, -, -, rfl, rfl⟩ := serverReceive_eq_some stepped
      refine ⟨⟨blocked.waiting, ?_⟩, rfl⟩
      rw [count]
      exact blocked.nothing
  | clientReceive index typed =>
      obtain ⟨receiver, requestID, theInt, rfl, -, others, counts⟩ :=
        inFlight_clientReceive stepped
      have count := counts client
      have nothing := blocked.nothing
      have different : receiver ≠ client := by
        rintro rfl
        rw [if_pos rfl] at count
        omega
      rw [if_neg different] at count
      refine ⟨⟨?_, ?_⟩, ?_⟩
      · rw [others client different]
        exact blocked.waiting
      · omega
      · simp [printedBy, different]
  | requestFault what =>
      obtain ⟨requests, faulted, same⟩ := Option.map_eq_some_iff.mp stepped
      cases same
      exact ⟨⟨blocked.waiting, not_pos_of_subset (Channel.subset_of_fault faulted)
        (List.Subset.refl _) blocked.nothing⟩, rfl⟩
  | replyFault what =>
      obtain ⟨replies, faulted, same⟩ := Option.map_eq_some_iff.mp stepped
      cases same
      exact ⟨⟨blocked.waiting, not_pos_of_subset (List.Subset.refl _)
        (Channel.subset_of_fault faulted) blocked.nothing⟩, rfl⟩

theorem Blocked.run {client : ι} {later : List (UdpAction ι)} {final : UdpSystem ι}
    {events : List (UdpEvent ι)} (blocked : Blocked client system)
    (ran : Stepped.run UdpSystem.step system later = some (final, events)) :
    printedBy client events = [] := by
  have keeps (state : UdpSystem ι) (trace : List (UdpEvent ι)) (action : UdpAction ι)
      (next : UdpSystem ι) (event : UdpEvent ι)
      (holds : Blocked client state ∧ printedBy client trace = []) (_ : True)
      (stepped : state.step action = some (next, event)) :
      Blocked client next ∧ printedBy client (trace ++ [event]) = [] := by
    obtain ⟨remains, nothing⟩ := holds.1.step stepped
    refine ⟨remains, ?_⟩
    rw [printedBy_append, holds.2, nothing, List.append_nil]
  exact (Stepped.run_trace_invariant keeps ⟨blocked, rfl⟩ (fun _ _ => trivial) ran).2

theorem exists_print_of_reply {trace : List (UdpEvent ι)} {client : ι}
    (invariant : UdpInvariant system trace) (waiting : (system.clients client).waiting = true)
    {reply : Vector Byte 7} (member : (client, reply) ∈ system.replies) (typed : Vector Byte 4) :
    ∃ index final requestID theInt,
      system.step (.clientReceive index typed) =
        some (final, .printed client requestID theInt) := by
  obtain ⟨index, inside, found⟩ := List.mem_iff_getElem.mp member
  have waits : (system.clients system.replies[index].1).waiting = true := by
    rw [found]
    exact waiting
  obtain ⟨⟨final, event⟩, stepped⟩ :=
    Option.isSome_iff_exists.mp (invariant.clientReceive_isSome inside waits typed)
  refine ⟨index, final, ?_⟩
  obtain ⟨receiver, _, _, printing, response, taken, -, rfl, -⟩ := clientReceive_eq_some stepped
  rw [Channel.take, dif_pos inside, found] at taken
  cases taken
  exact ⟨_, _, stepped⟩

/-- A client that waits while anything is in flight for it can still print. -/
theorem exists_run_print {trace : List (UdpEvent ι)} {client : ι}
    (invariant : UdpInvariant system trace) (waiting : (system.clients client).waiting = true)
    (inFlight : 0 < system.inFlight client) :
    ∃ later final events, Stepped.run UdpSystem.step system later = some (final, events) ∧
      printedBy client events ≠ [] := by
  let typed : Vector Byte 4 := Vector.replicate 4 0
  rcases Channel.inFlight_pos_iff.mp inFlight with ⟨datagram, member⟩ | ⟨reply, member⟩
  · obtain ⟨index, inside, found⟩ := List.mem_iff_getElem.mp member
    obtain ⟨⟨middle, event⟩, served⟩ :=
      Option.isSome_iff_exists.mp (invariant.serverReceive_isSome inside 0)
    have kept := invariant.serverReceive served
    obtain ⟨receiver, _, _, server, reply, taken, -, rfl, rfl⟩ := serverReceive_eq_some served
    rw [Channel.take, dif_pos inside, found] at taken
    cases taken
    obtain ⟨index', final, requestID, theInt, received⟩ :=
      exists_print_of_reply kept waiting (List.mem_cons_self ..) typed
    have serves : system.step (.serverReceive index 0) = some (_, .silent) := served
    refine ⟨[.serverReceive index 0, .clientReceive index' typed], final,
      [.silent, .printed client requestID theInt], ?_, ?_⟩
    · rw [Stepped.run_cons_of_step serves, Stepped.run_cons_of_step received]
      rfl
    · simp [printedBy]
  · obtain ⟨index, final, requestID, theInt, received⟩ :=
      exists_print_of_reply invariant waiting member typed
    refine ⟨[.clientReceive index typed], final, [.printed client requestID theInt], ?_, ?_⟩
    · rw [Stepped.run_cons_of_step received]
      rfl
    · simp [printedBy]

/-- After any run, with any faults, a waiting client can go on exactly if the network
still holds its request or a reply to it. -/
theorem prints_again_iff {server : ReceiveMemory 8} {frames : ι → Vector FrameByte 3}
    {memories : ι → ReceiveMemory 7}
    {actions : List (UdpAction ι)} {trace : List (UdpEvent ι)}
    (ran : Stepped.run UdpSystem.step (UdpSystem.start server frames memories) actions =
      some (system, trace))
    {client : ι} (waiting : (system.clients client).waiting = true) :
    (∃ later final events, Stepped.run UdpSystem.step system later = some (final, events) ∧
      printedBy client events ≠ []) ↔ 0 < system.inFlight client := by
  constructor
  · rintro ⟨later, final, events, continued, prints⟩
    by_contra nothing
    exact prints (Blocked.run ⟨waiting, nothing⟩ continued)
  · exact exists_run_print (UdpInvariant.run ran) waiting

/-- A client whose request got lost. -/
theorem prints_again_iff_lost :
    ∃ (system : UdpSystem Unit) (trace : List (UdpEvent Unit)),
      Stepped.run UdpSystem.step
        (UdpSystem.start ⟨Vector.replicate 100 1, Vector.replicate 8 2⟩
          (fun _ => #v[.free, .free, .free])
          fun _ => ⟨Vector.replicate 100 1, Vector.replicate 7 2⟩)
        [.clientSend () 1 1 0, .requestFault (.lose 0)] = some (system, trace) ∧
      (system.clients ()).waiting = true ∧
      ((∃ later final events, Stepped.run UdpSystem.step system later = some (final, events) ∧
        printedBy () events ≠ []) ↔ 0 < system.inFlight ()) := by
  let outcome := Stepped.run UdpSystem.step
    (UdpSystem.start ⟨Vector.replicate 100 1, Vector.replicate 8 2⟩
      (fun _ : Unit => #v[.free, .free, .free])
      fun _ => ⟨Vector.replicate 100 1, Vector.replicate 7 2⟩)
    [.clientSend () 1 1 0, .requestFault (.lose 0)]
  have waits : outcome.map (fun ran => (ran.1.clients ()).waiting) = some true := by
    decide +kernel
  obtain ⟨⟨system, trace⟩, ran, waiting⟩ := Option.map_eq_some_iff.mp waits
  exact ⟨system, trace, ran, waiting, prints_again_iff ran waiting⟩

/-! ## Networks that lose nothing -/

/-- A datagram is in flight for every client that waits. -/
def Answerable (system : UdpSystem ι) : Prop :=
  ∀ client, (system.clients client).waiting = true → 0 < system.inFlight client

theorem Answerable.step {action : UdpAction ι} (answerable : Answerable system)
    (keeps : ¬action.Loses) (stepped : system.step action = some (next, event)) :
    Answerable next := by
  intro client waiting
  cases action with
  | clientSend sender operandOne operandTwo OpCode =>
      have count := inFlight_clientSend stepped client
      obtain ⟨sending, sendBytes, datagram, -, -, rfl⟩ := clientSend_eq_some stepped
      by_cases same : sender = client
      · rw [if_pos same] at count
        omega
      · rw [if_neg same] at count
        rw [count]
        exact answerable client (by simpa [Ne.symm same] using waiting)
  | serverReceive index unassigned =>
      have count := inFlight_serverReceive stepped client
      obtain ⟨_, _, _, _, _, -, -, -, rfl⟩ := serverReceive_eq_some stepped
      rw [count]
      exact answerable client waiting
  | clientReceive index typed =>
      obtain ⟨receiver, requestID, theInt, -, idle, others, counts⟩ :=
        inFlight_clientReceive stepped
      have different : receiver ≠ client := by
        rintro rfl
        rw [idle] at waiting
        cases waiting
      have count := counts client
      rw [if_neg different] at count
      rw [others client different] at waiting
      have before := answerable client waiting
      omega
  | requestFault what =>
      cases what with
      | lose index => exact (keeps trivial).elim
      | duplicate index =>
          obtain ⟨requests, faulted, same⟩ := Option.map_eq_some_iff.mp stepped
          cases same
          rcases Channel.inFlight_pos_iff.mp (answerable client waiting) with
            ⟨datagram, member⟩ | reply
          · exact Channel.inFlight_pos_iff.mpr
              (.inl ⟨datagram, Channel.subset_of_duplicate faulted member⟩)
          · exact Channel.inFlight_pos_iff.mpr (.inr reply)
  | replyFault what =>
      cases what with
      | lose index => exact (keeps trivial).elim
      | duplicate index =>
          obtain ⟨replies, faulted, same⟩ := Option.map_eq_some_iff.mp stepped
          cases same
          rcases Channel.inFlight_pos_iff.mp (answerable client waiting) with
            request | ⟨reply, member⟩
          · exact Channel.inFlight_pos_iff.mpr (.inl request)
          · exact Channel.inFlight_pos_iff.mpr
              (.inr ⟨reply, Channel.subset_of_duplicate faulted member⟩)

/-- How many deliveries the datagrams in flight give rise to. -/
def pending (system : UdpSystem ι) : Nat :=
  2 * system.requests.length + system.replies.length

theorem pending_lt_of_delivery {action : UdpAction ι} (delivers : action.Delivers)
    (stepped : system.step action = some (next, event)) : next.pending < system.pending := by
  cases action with
  | serverReceive index unassigned =>
      obtain ⟨_, _, requests, _, _, taken, -, -, rfl⟩ := serverReceive_eq_some stepped
      have fewer := (Channel.perm_of_take taken).length_eq
      simp only [pending, List.length_cons] at fewer ⊢
      omega
  | clientReceive index typed =>
      obtain ⟨_, _, replies, _, _, taken, -, -, rfl⟩ := clientReceive_eq_some stepped
      have fewer := (Channel.perm_of_take taken).length_eq
      simp only [pending, List.length_cons] at fewer ⊢
      omega
  | clientSend sender operandOne operandTwo OpCode => exact delivers.elim
  | requestFault what => exact delivers.elim
  | replyFault what => exact delivers.elim

theorem Answerable.idle_of_delivered (answerable : Answerable system)
    (delivered : ∀ action : UdpAction ι, action.Delivers → ¬action.Enabled system) (client : ι) :
    (system.clients client).waiting = false := by
  by_contra busy
  have waiting : (system.clients client).waiting = true := by simpa using busy
  rcases Channel.inFlight_pos_iff.mp (answerable client waiting) with
    ⟨datagram, member⟩ | ⟨reply, member⟩
  · obtain ⟨index, inside, -⟩ := List.mem_iff_getElem.mp member
    exact delivered (.serverReceive index 0) trivial inside
  · obtain ⟨index, inside, found⟩ := List.mem_iff_getElem.mp member
    refine delivered (.clientReceive index (Vector.replicate 4 0)) trivial ⟨inside, ?_⟩
    rw [found]
    exact waiting

theorem Answerable.of_run {server : ReceiveMemory 8} {frames : ι → Vector FrameByte 3}
    {memories : ι → ReceiveMemory 7}
    {actions : List (UdpAction ι)} {trace : List (UdpEvent ι)}
    (lossless : ∀ action ∈ actions, ¬action.Loses)
    (ran : Stepped.run UdpSystem.step (UdpSystem.start server frames memories) actions =
      some (system, trace)) : Answerable system := by
  have keeps (state : UdpSystem ι) (trace : List (UdpEvent ι)) (action : UdpAction ι)
      (next : UdpSystem ι) (event : UdpEvent ι) (holds : Answerable state)
      (lossless : ¬action.Loses) (stepped : state.step action = some (next, event)) :
      Answerable next :=
    holds.step lossless stepped
  exact @Stepped.run_trace_invariant _ _ _ _ (fun state _ => Answerable state) _ keeps _ _ _ _
    (fun _ waiting => by cases waiting) lossless ran

/-- Where the network loses nothing and the users enter nothing further, every order of
deliveries comes to an end, and when nothing is left to deliver every request has got
its reply. -/
theorem deliveries_complete {server : ReceiveMemory 8} {frames : ι → Vector FrameByte 3}
    {memories : ι → ReceiveMemory 7}
    {actions later : List (UdpAction ι)} (lossless : ∀ action ∈ actions, ¬action.Loses)
    (deliveries : ∀ action ∈ later, action.Delivers) {final : UdpSystem ι}
    {trace events : List (UdpEvent ι)}
    (ran : Stepped.run UdpSystem.step (UdpSystem.start server frames memories) actions =
      some (system, trace))
    (continued : Stepped.run UdpSystem.step system later = some (final, events)) :
    later.length + final.pending ≤ system.pending ∧
      ((∀ action : UdpAction ι, action.Delivers → ¬action.Enabled final) →
        ∀ client, (final.clients client).waiting = false ∧
          (printedBy client (trace ++ events)).length =
            (sentBy client (trace ++ events)).length) := by
  have uses (state : UdpSystem ι) (action : UdpAction ι) (next : UdpSystem ι)
      (event : UdpEvent ι) (delivers : action.Delivers)
      (stepped : state.step action = some (next, event)) : next.pending < state.pending :=
    pending_lt_of_delivery delivers stepped
  refine ⟨Stepped.run_length_le uses deliveries continued, ?_⟩
  intro delivered client
  have whole : Stepped.run UdpSystem.step (UdpSystem.start server frames memories)
      (actions ++ later) = some (final, trace ++ events) := by
    rw [Stepped.run_append_of_run ran, continued]
    rfl
  have noLoss : ∀ action ∈ actions ++ later, ¬action.Loses := by
    intro action member
    rcases List.mem_append.mp member with earlier | following
    · exact lossless action earlier
    · have delivers := deliveries action following
      cases action <;> first | exact delivers.elim | exact id
  have idle := (Answerable.of_run noLoss whole).idle_of_delivered delivered client
  refine ⟨idle, ?_⟩
  have lockStep := (UdpInvariant.run whole).lockStep client
  rw [idle] at lockStep
  exact lockStep.symm

/-- One request that is delivered, and its reply. -/
theorem deliveries_complete_one :
    ∃ (system final : UdpSystem Unit) (trace events : List (UdpEvent Unit)),
      Stepped.run UdpSystem.step
        (UdpSystem.start ⟨Vector.replicate 100 1, Vector.replicate 8 2⟩
          (fun _ => #v[.free, .free, .free])
          fun _ => ⟨Vector.replicate 100 1, Vector.replicate 7 2⟩)
        [.clientSend () 1 1 0] = some (system, trace) ∧
      Stepped.run UdpSystem.step system [.serverReceive 0 0, .clientReceive 0 (storedInt 1)] =
        some (final, events) ∧
      2 + final.pending ≤ system.pending ∧
      ((∀ action : UdpAction Unit, action.Delivers → ¬action.Enabled final) →
        ∀ client, (final.clients client).waiting = false ∧
          (printedBy client (trace ++ events)).length =
            (sentBy client (trace ++ events)).length) := by
  let outcome := Stepped.run UdpSystem.step
    (UdpSystem.start ⟨Vector.replicate 100 1, Vector.replicate 8 2⟩
      (fun _ : Unit => #v[.free, .free, .free])
      fun _ => ⟨Vector.replicate 100 1, Vector.replicate 7 2⟩)
    ([.clientSend () 1 1 0] ++ [.serverReceive 0 0, .clientReceive 0 (storedInt 1)])
  have completes : outcome.isSome := by decide +kernel
  obtain ⟨⟨final, _⟩, whole⟩ := Option.isSome_iff_exists.mp completes
  obtain ⟨system, trace, events, ran, continued, -⟩ :=
    Stepped.run_append_eq_some_iff.mp whole
  refine ⟨system, final, trace, events, ran, continued, deliveries_complete ?_ ?_ ran continued⟩
  · intro action member
    cases List.mem_singleton.mp member
    exact id
  · intro action member
    simp only [List.mem_cons, List.not_mem_nil, or_false] at member
    rcases member with rfl | rfl <;> exact trivial

end UdpSystem

end OpServer
