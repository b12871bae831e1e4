import OpServer.RingPaths

/-!
# Which letters can still arrive

A letter that is on its way to a process can be printed at the end of a path of
targets, if the receive threads on the path still run, whatever else is on the
network.  It can be printed nowhere else.
-/

namespace OpServer

open Python

/-! ## Steps that a process can make -/

namespace RingMember

variable {member : RingMember} {thread : RingThread} {data : List Byte}

theorem access_readIP (sending : member.tasks thread = .sending data)
    (idle : member.threads.held thread = none) :
    member.access (.readIP thread) true = some ({ member with
      threads := member.threads.hold thread (some member.threads.master.nextSlaveIP) }, [], none) := by
  simp only [access, RingThreads.step, idle, if_true, Option.bind_some, sending]

theorem access_readRID (sending : member.tasks thread = .sending data) {address : IPv4}
    (held : member.threads.held thread = some address) :
    member.access (.readRID thread) true =
      some (({ member with threads := member.threads.hold thread none } : RingMember).perform
          thread .waiting, [(member.destination thread, data)], none) := by
  simp only [access, RingThreads.step, held, Option.map_some, Option.bind_some, sending, if_true,
    destination, Option.getD_some]

end RingMember

namespace RingNetwork

variable {ι : Type*} [DecidableEq ι]

/-! ## Runs in which nobody joins -/

/-- A run of quiet steps leads from one state to the other and ends no receive
thread. -/
structure Journey (network later : RingNetwork ι) : Prop where
  run : ∃ actions events, (∀ action ∈ actions, action.Quiet) ∧
    Stepped.run step network actions = some (later, events)
  fields : SameFields network later
  receives : ∀ node, (network.members node).Receives → (later.members node).Receives
  holds : HoldsToSend later

variable {network later : RingNetwork ι} {node : ι} {thread : RingThread} {data : List Byte}

theorem Journey.refl (holds : HoldsToSend network) : Journey network network :=
  ⟨⟨[], [], by simp, rfl⟩, .refl network, fun _ => id, holds⟩

theorem Journey.trans {middle : RingNetwork ι} (first : Journey network middle)
    (second : Journey middle later) : Journey network later := by
  obtain ⟨actions, events, quiet, ran⟩ := first.run
  obtain ⟨others, following, quietOthers, continued⟩ := second.run
  constructor
  case run =>
    refine ⟨actions ++ others, events ++ following, ?_, ?_⟩
    · intro action member
      rcases List.mem_append.mp member with earlier | afterwards
      · exact quiet action earlier
      · exact quietOthers action afterwards
    · rw [Stepped.run_append_of_run ran, continued]
      rfl
  case fields => exact first.fields.trans second.fields
  case receives => exact fun node receives => second.receives node (first.receives node receives)
  case holds => exact second.holds

/-- One step of a process that keeps its receive thread running. -/
theorem Journey.of_step {action : RingAction ι} {member : RingMember}
    {packets rest : List RingPacket} {event : Option RingEvent} (holds : HoldsToSend network)
    (quiet : action.Quiet)
    (stepped : network.step action =
      some ({ network with inFlight := rest }.update node (member, packets, event)))
    (receives : (network.members node).Receives → member.Receives) :
    Journey network ({ network with inFlight := rest }.update node (member, packets, event)).1 := by
  have quietStep := quietStep_of_step holds quiet stepped
  constructor
  case run =>
    refine ⟨[action], [_], ?_, Stepped.run_cons_of_step stepped []⟩
    intro other member
    rwa [List.mem_singleton.mp member]
  case fields => exact quietStep.fields
  case receives =>
    intro other active
    rw [update_members]
    split
    · rename_i same
      exact receives (same ▸ active)
    · exact active
  case holds => exact holds.step stepped

/-- After some run of quiet steps, this process prints this message. -/
def CanPrint (network : RingNetwork ι) (node : ι) (message : List Byte) : Prop :=
  ∃ actions final events, (∀ action ∈ actions, action.Quiet) ∧
    Stepped.run step network actions = some (final, events) ∧
    some (node, .printed message) ∈ events

theorem CanPrint.of_journey {message : List Byte} (journey : Journey network later)
    (prints : CanPrint later node message) : CanPrint network node message := by
  obtain ⟨actions, events, quiet, ran⟩ := journey.run
  obtain ⟨others, final, following, quietOthers, continued, printed⟩ := prints
  refine ⟨actions ++ others, final, events ++ following, ?_, ?_, List.mem_append_right _ printed⟩
  · intro action member
    rcases List.mem_append.mp member with earlier | afterwards
    · exact quiet action earlier
    · exact quietOthers action afterwards
  · rw [Stepped.run_append_of_run ran, continued]
    rfl

/-! ## Sending -/

theorem step_access {action : ThreadAction} {delivers : Bool}
    {result : RingMember × List RingPacket × Option RingEvent}
    (accessed : (network.members node).access action delivers = some result) :
    network.step (.access node action delivers) = some (network.update node result) := by
  rw [step, accessed]
  rfl

theorem exists_send_of_held (holds : HoldsToSend network)
    (sending : (network.members node).tasks thread = .sending data) {address : IPv4}
    (held : (network.members node).threads.held thread = some address) :
    ∃ later, Journey network later ∧
      later.inFlight = ((network.members node).destination thread, data) :: network.inFlight ∧
      (later.members node).tasks thread = .waiting := by
  have stepped := step_access (RingMember.access_readRID sending held)
  have quiet : (RingAction.access node (.readRID thread) true).Quiet := trivial
  refine ⟨_, Journey.of_step holds quiet stepped ?_, rfl, ?_⟩
  · intro active
    unfold RingMember.Receives
    rw [RingMember.perform_tasks]
    split
    · simp
    · exact active
  · rw [update_members, if_pos rfl, RingMember.perform_tasks, if_pos rfl]

theorem exists_send (holds : HoldsToSend network)
    (sending : (network.members node).tasks thread = .sending data) :
    ∃ later, Journey network later ∧
      later.inFlight = ((network.members node).destination thread, data) :: network.inFlight ∧
      (later.members node).tasks thread = .waiting := by
  cases held : (network.members node).threads.held thread with
  | some address => exact exists_send_of_held holds sending held
  | none =>
      have stepped := step_access (RingMember.access_readIP sending held)
      have quiet : (RingAction.access node (.readIP thread) true).Quiet := trivial
      have reads := Journey.of_step holds quiet stepped id
      have same := RingMember.destination_of_read held thread
      let reading : RingMember := { network.members node with
        threads := (network.members node).threads.hold thread
          (some (network.members node).threads.master.nextSlaveIP) }
      have current : (network.update node (reading, [], none)).1.members node = reading := by
        rw [update_members, if_pos rfl]
      obtain ⟨later, sends, inFlight, waiting⟩ := @exists_send_of_held _ _
        (network.update node (reading, [], none)).1 node thread data reads.holds
        (by rw [current]; exact sending) _ (by rw [current]; exact RingThreads.hold_held_self _ _ _)
      refine ⟨later, reads.trans sends, ?_, waiting⟩
      rw [inFlight, current, same]
      rfl

theorem exists_waiting (holds : HoldsToSend network) (active : (network.members node).Receives)
    {packet : RingPacket} (inFlight : packet ∈ network.inFlight) :
    ∃ later, Journey network later ∧ packet ∈ later.inFlight ∧
      (later.members node).tasks .recv = .waiting := by
  cases task : (network.members node).tasks .recv with
  | waiting => exact ⟨network, .refl holds, inFlight, task⟩
  | ended => exact absurd task active
  | sending data =>
      obtain ⟨later, journey, more, waiting⟩ := exists_send holds task
      refine ⟨later, journey, ?_, waiting⟩
      rw [more]
      exact List.mem_cons_of_mem _ inFlight

/-! ## Receiving -/

theorem step_receive {datagram : List Byte}
    (inFlight : ((network.members node).endpoint, datagram) ∈ network.inFlight)
    {result : RingMember × List RingPacket × Option RingEvent}
    (handled : (network.members node).recvHandleMessage datagram = some result) :
    ∃ index rest, network.step (.receive node index) =
      some ({ network with inFlight := rest }.update node result) := by
  obtain ⟨index, inside, found⟩ := List.mem_iff_getElem.mp inFlight
  have taken : Channel.take network.inFlight index =
      some (((network.members node).endpoint, datagram), network.inFlight.eraseIdx index) := by
    rw [Channel.take, dif_pos inside, found]
  refine ⟨index, network.inFlight.eraseIdx index, ?_⟩
  rw [step, taken, Option.bind_some]
  dsimp only
  rw [if_pos rfl, handled]
  rfl

/-- The recipient of a letter that is in flight to it can print it. -/
theorem canPrint_of_inFlight (holds : HoldsToSend network)
    (active : (network.members node).Receives)
    (inFlight : ((network.members node).endpoint, data) ∈ network.inFlight) {message : List Byte}
    (handled : (network.members node).threads.master.recvHandleMessage data =
      .ok (.printed message)) : CanPrint network node message := by
  obtain ⟨later, journey, still, waiting⟩ := exists_waiting holds active inFlight
  rw [← journey.fields.endpoint] at still
  rw [← journey.fields.master] at handled
  have printed : (later.members node).recvHandleMessage data =
      some (later.members node, [], some (.printed message)) := by
    simp only [RingMember.recvHandleMessage, waiting, handled]
  obtain ⟨index, rest, stepped⟩ := step_receive still printed
  apply CanPrint.of_journey journey
  refine ⟨[.receive node index], _, [_], ?_, Stepped.run_cons_of_step stepped [], ?_⟩
  · intro action member
    rw [List.mem_singleton.mp member]
    trivial
  · exact List.mem_singleton_self _

theorem exists_forward (holds : HoldsToSend network) (active : (network.members node).Receives)
    (inFlight : ((network.members node).endpoint, data) ∈ network.inFlight)
    {forwarded : List Byte} {target : IPv4 × Nat}
    (handled : (network.members node).threads.master.recvHandleMessage data =
      .ok (.forwarded forwarded target)) :
    ∃ later, Journey network later ∧ (target, forwarded) ∈ later.inFlight := by
  obtain ⟨ready, journey, still, waiting⟩ := exists_waiting holds active inFlight
  rw [← journey.fields.endpoint] at still
  rw [← journey.fields.master] at handled
  have forwards : (ready.members node).recvHandleMessage data =
      some ((ready.members node).perform .recv (.sending forwarded), [], none) := by
    simp only [RingMember.recvHandleMessage, waiting, handled]
  obtain ⟨index, rest, stepped⟩ := step_receive still forwards
  have quiet : (RingAction.receive node index).Quiet := trivial
  have received := Journey.of_step journey.holds quiet stepped fun _ => by
    simp [RingMember.Receives, RingMember.perform]
  have current := ({ ready with inFlight := rest } : RingNetwork ι).update_members node
    ((ready.members node).perform .recv (.sending forwarded), [], none) node
  rw [if_pos rfl] at current
  obtain ⟨later, sends, more, -⟩ := @exists_send _ _ _ node .recv forwarded received.holds (by
    rw [current, RingMember.perform_tasks, if_pos rfl])
  refine ⟨later, (journey.trans received).trans sends, ?_⟩
  rw [more, current]
  have goes : ((ready.members node).perform .recv (.sending forwarded)).destination .recv =
      target := by
    rw [(Master.forwarded_eq handled).2]
    exact RingMember.destination_of_idle ((journey.holds node).held_eq_none waiting)
  rw [goes]
  exact List.mem_cons_self

/-! ## Journeys of a letter -/

/-- A letter can be printed at the end of every path from where it is in flight to. -/
theorem canPrint_of_path {origin : RingNetwork ι} (short : IsShort data) {message : List Byte}
    (letter : letterOf data = ((origin.members node).threads.master.myRingID, message))
    (active : (origin.members node).Receives) {first : ι}
    (path : Relation.ReflTransGen
      (Relays origin (origin.members node).threads.master.myRingID) first node)
    (journey : Journey origin network)
    (inFlight : ((network.members first).endpoint, data) ∈ network.inFlight) :
    CanPrint network node message := by
  induction path using Relation.ReflTransGen.head_induction_on generalizing network with
  | refl =>
      apply canPrint_of_inFlight journey.holds (journey.receives node active) inFlight
      rw [short.handled, journey.fields.master, letter, if_pos rfl]
  | @head current successor relays _ ih =>
      have handled : (network.members current).threads.master.recvHandleMessage data =
          .ok (.forwarded data (network.members current).threads.master.target) := by
        rw [short.handled, journey.fields.master, letter, if_neg (Ne.symm relays.other)]
      obtain ⟨later, forwards, onWay⟩ := exists_forward journey.holds
        (journey.receives current relays.receives) inFlight handled
      have whole := journey.trans forwards
      rw [journey.fields.master, relays.target, ← whole.fields.endpoint] at onWay
      exact (ih whole onWay).of_journey forwards

/-! ## After any run -/

theorem HoldsToSend.of_run {ringID : ι → Nat} {address : ι → IPv4}
    {actions : List (RingAction ι)} {trace : List (Option (ι × RingEvent))}
    (ran : Stepped.run RingNetwork.step (start ringID address) actions = some (network, trace)) :
    HoldsToSend network := by
  have keeps (state : RingNetwork ι) (trace : List (Option (ι × RingEvent)))
      (action : RingAction ι) (next : RingNetwork ι) (event : Option (ι × RingEvent))
      (holds : HoldsToSend state) (_ : True) (stepped : state.step action = some (next, event)) :
      HoldsToSend next :=
    holds.step stepped
  have starts : HoldsToSend (start ringID address) := by
    intro node thread address held
    cases held
  exact @Stepped.run_trace_invariant _ _ _ _ (fun state _ => HoldsToSend state) _ keeps _ _ _ _
    starts (fun _ _ => trivial) ran

variable [Fintype ι]

omit [DecidableEq ι] in
theorem mem_contents_of_onWay {target : IPv4 × Nat} (onWay : OnWay network data target) :
    data ∈ network.contents := by
  rw [contents, Multiset.mem_add]
  rcases onWay with inFlight | ⟨node, thread, sending, -⟩
  · left
    rw [Multiset.mem_coe]
    exact List.mem_map_of_mem inFlight
  · right
    have own : data ∈ (network.members node).data := by
      rw [RingMember.data, Multiset.mem_add]
      cases thread with
      | send =>
          left
          rw [sending]
          exact Multiset.mem_singleton_self data
      | recv =>
          right
          rw [sending]
          exact Multiset.mem_singleton_self data
    exact Multiset.mem_sum.mpr ⟨node, Finset.mem_univ node, own⟩

/-- After any run in which users type at most 64 bytes, with any joins and faults: if
from then on nothing is typed and nobody joins, a process can print exactly those
messages for its ring ID that are on their way to a process from which a path of
targets leads to it, through processes with other ring IDs whose receive threads
still run. -/
theorem canPrint_iff_path {ringID : ι → Nat} {address : ι → IPv4} {actions : List (RingAction ι)}
    {trace : List (Option (ι × RingEvent))}
    (short : ∀ node targetRID userMessage, .prompt node targetRID userMessage ∈ actions →
      userMessage.length ≤ 64)
    (ran : Stepped.run step (start ringID address) actions = some (network, trace)) (node : ι)
    (message : List Byte) :
    CanPrint network node message ↔
      ∃ data first, OnWay network data (network.members first).endpoint ∧
        letterOf data = (ringID node, message) ∧
        Relation.ReflTransGen (Relays network (ringID node)) first node ∧
        (network.members node).Receives := by
  have allowed : ∀ action ∈ actions, Allowed True True action := by
    intro action member
    cases action with
    | prompt sender targetRID userMessage => exact short sender targetRID userMessage member
    | receive receiver index => trivial
    | access accessor action delivers => exact .inr trivial
    | fault what => cases what <;> trivial
  obtain ⟨_, _, _, -, abstracts, -, -⟩ :=
    (bagSimulation ringID True True).exists_run (Abstracts.start ringID address) allowed ran
  have holds := HoldsToSend.of_run ran
  have allShort (data : List Byte) (target : IPv4 × Nat) (onWay : OnWay network data target) :
      IsShort data :=
    abstracts.short data (mem_contents_of_onWay onWay)
  rw [← abstracts.ringIDs node]
  constructor
  · rintro ⟨later, final, events, quiet, continued, prints⟩
    exact exists_path_of_run holds allShort quiet continued prints
  · rintro ⟨data, first, onWay, letter, path, active⟩
    have shortData := allShort data _ onWay
    rcases onWay with inFlight | ⟨sender, thread, sending, goes⟩
    · exact canPrint_of_path shortData letter active path (.refl holds) inFlight
    · obtain ⟨later, journey, more, -⟩ := exists_send holds sending
      apply CanPrint.of_journey journey
      apply canPrint_of_path shortData letter active path journey
      rw [journey.fields.endpoint, more, goes]
      exact List.mem_cons_self

/-- A greeting that the first process is about to send to the second, which will forward
it. -/
theorem canPrint_iff_path_greeting :
    ∃ network trace, Stepped.run step twoMasters (twoMastersJoins ++ [.prompt 0 2 [72, 105]]) =
        some (network, trace) ∧
      (CanPrint network 0 [72, 105] ↔
        ∃ data first, OnWay network data (network.members first).endpoint ∧
          letterOf data = (2 - (0 : Fin 2).val, [72, 105]) ∧
          Relation.ReflTransGen (Relays network (2 - (0 : Fin 2).val)) first 0 ∧
          (network.members 0).Receives) := by
  have completes : (Stepped.run step twoMasters
      (twoMastersJoins ++ [.prompt 0 2 [72, 105]])).isSome := by
    decide +kernel
  obtain ⟨⟨network, trace⟩, ran⟩ := Option.isSome_iff_exists.mp completes
  refine ⟨network, trace, ran, canPrint_iff_path ?_ ran 0 [72, 105]⟩
  intro node targetRID userMessage member
  simp only [twoMastersJoins, List.cons_append, List.nil_append, List.mem_cons,
    RingAction.prompt.injEq, reduceCtorEq, List.not_mem_nil, false_or, or_false] at member
  rw [member.2.2]
  decide

end RingNetwork

end OpServer
