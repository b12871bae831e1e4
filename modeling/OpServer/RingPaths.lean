import OpServer.RingConservation
import Mathlib.Logic.Relation

/-!
# The paths of letters

As long as nobody types anything and no slave joins, every process keeps its
target.  A letter then moves from a process to the one at its target and to no
other, and stops where a process is the recipient or its receive thread has ended.
-/

namespace OpServer

open Python

/-! ## Processes that nobody joins -/

namespace RingMember

variable {member next : RingMember} {packets : List RingPacket} {event : Option RingEvent}
  {thread : RingThread}

/-- The receive thread has not ended. -/
def Receives (member : RingMember) : Prop :=
  member.tasks .recv ≠ .ended

/-- Where the data of a thread goes unless somebody joins. -/
def destination (member : RingMember) (thread : RingThread) : IPv4 × Nat :=
  ((member.threads.held thread).getD member.threads.master.nextSlaveIP,
    member.threads.master.calculateTargetPort)

/-- A thread holds an address only while it has data to send. -/
def HoldsToSend (member : RingMember) : Prop :=
  ∀ thread address, member.threads.held thread = some address →
    ∃ data, member.tasks thread = .sending data

theorem HoldsToSend.held_eq_none (holds : member.HoldsToSend)
    (waiting : member.tasks thread = .waiting) : member.threads.held thread = none := by
  cases held : member.threads.held thread with
  | none => rfl
  | some address =>
      obtain ⟨data, sending⟩ := holds thread address held
      rw [waiting] at sending
      cases sending

theorem perform_tasks (member : RingMember) (thread other : RingThread) (task : ThreadTask) :
    (member.perform thread task).tasks other = if other = thread then task else member.tasks other :=
  Function.update_apply member.tasks thread task other

theorem receives_of_perform (active : member.tasks thread ≠ .ended) {task : ThreadTask}
    (receives : (member.perform thread task).Receives) : member.Receives := by
  unfold Receives at receives ⊢
  rw [perform_tasks] at receives
  split at receives
  · rename_i same
    rwa [same]
  · exact receives

theorem destination_of_idle (idle : member.threads.held thread = none) :
    member.destination thread = member.threads.master.target := by
  unfold destination
  rw [idle]
  rfl

/-- Reading the address early or late makes no difference. -/
theorem destination_of_read (idle : member.threads.held thread = none) (other : RingThread) :
    ({ member with
        threads := member.threads.hold thread (some member.threads.master.nextSlaveIP) }
      : RingMember).destination other = member.destination other := by
  by_cases same : other = thread
  · subst same
    unfold destination
    rw [RingThreads.hold_held_self, idle]
    rfl
  · unfold destination
    rw [RingThreads.hold_held_of_ne _ same]
    rfl

theorem HoldsToSend.perform (holds : member.HoldsToSend)
    (idle : member.threads.held thread = none) (task : ThreadTask) :
    (member.perform thread task).HoldsToSend := by
  intro other address held
  have different : other ≠ thread := by
    rintro rfl
    change member.threads.held other = some address at held
    rw [idle] at held
    cases held
  obtain ⟨data, sending⟩ := holds other address held
  exact ⟨data, (Function.update_of_ne different _ _).trans sending⟩

theorem HoldsToSend.hold (holds : member.HoldsToSend) {address : Option IPv4}
    (sending : address.isSome → ∃ data, member.tasks thread = .sending data) :
    ({ member with threads := member.threads.hold thread address } : RingMember).HoldsToSend := by
  intro other held holding
  by_cases same : other = thread
  · subst same
    rw [RingThreads.hold_held_self] at holding
    exact sending (holding ▸ rfl)
  · rw [RingThreads.hold_held_of_ne _ same] at holding
    exact holds other held holding

/-- No access makes a thread hold an address for nothing. -/
theorem HoldsToSend.access {action : ThreadAction} {delivers : Bool} (holds : member.HoldsToSend)
    (accessed : member.access action delivers = some (next, packets, event)) :
    next.HoldsToSend := by
  cases action with
  | increment peer =>
      obtain ⟨⟨threads, sent⟩, stepped, rest⟩ := Option.bind_eq_some_iff.mp accessed
      obtain ⟨-, -, rfl, rfl⟩ := RingThreads.increment_eq_some stepped
      cases rest
      exact holds
  | assign =>
      obtain ⟨⟨threads, sent⟩, stepped, rest⟩ := Option.bind_eq_some_iff.mp accessed
      obtain ⟨_, -, rfl, rfl⟩ := RingThreads.assign_eq_some stepped
      cases rest
      exact holds
  | readIP thread =>
      obtain ⟨sending, -, -, -, rfl⟩ := access_readIP_eq_some accessed
      exact holds.hold fun _ => sending
  | readRID thread =>
      obtain ⟨_, _, -, -, rfl, -, -⟩ := access_readRID_eq_some accessed
      exact (holds.hold fun impossible => by cases impossible).perform
        (RingThreads.hold_held_self _ _ _) _

end RingMember

/-- Nothing is typed, and nobody joins. -/
def RingAction.Quiet {ι : Type*} : RingAction ι → Prop
  | .prompt _ _ _ => False
  | .receive _ _ => True
  | .access _ (.increment _) _ => False
  | .access _ .assign _ => False
  | .access _ (.readIP _) _ => True
  | .access _ (.readRID _) _ => True
  | .fault _ => True

namespace RingNetwork

variable {ι : Type*}

/-! ## Data on its way -/

/-- Data is on its way to an address and a port: it is in flight, or some thread has
it to send there. -/
def OnWay (network : RingNetwork ι) (data : List Byte) (target : IPv4 × Nat) : Prop :=
  (target, data) ∈ network.inFlight ∨
    ∃ node thread, (network.members node).tasks thread = .sending data ∧
      (network.members node).destination thread = target

/-- A letter for the ring ID that arrives at the first process gets to the second
one next. -/
structure Relays (network : RingNetwork ι) (targetRID : Nat) (node successor : ι) : Prop where
  receives : (network.members node).Receives
  other : (network.members node).threads.master.myRingID ≠ targetRID
  target : (network.members node).threads.master.target = (network.members successor).endpoint

/-- What does not change as long as nothing is typed and nobody joins. -/
structure SameFields (network later : RingNetwork ι) : Prop where
  master : ∀ node, (later.members node).threads.master = (network.members node).threads.master
  address : ∀ node, (later.members node).address = (network.members node).address

theorem SameFields.refl (network : RingNetwork ι) : SameFields network network :=
  ⟨fun _ => rfl, fun _ => rfl⟩

theorem SameFields.trans {network middle later : RingNetwork ι}
    (first : SameFields network middle) (second : SameFields middle later) :
    SameFields network later :=
  ⟨fun node => (second.master node).trans (first.master node),
    fun node => (second.address node).trans (first.address node)⟩

theorem SameFields.endpoint {network later : RingNetwork ι} (same : SameFields network later)
    (node : ι) : (later.members node).endpoint = (network.members node).endpoint := by
  unfold RingMember.endpoint
  rw [same.master, same.address]

/-- Threads only end. -/
theorem Relays.of_later {network later : RingNetwork ι} (same : SameFields network later)
    (ends : ∀ node, (later.members node).Receives → (network.members node).Receives)
    {targetRID : Nat} {node successor : ι} (relays : Relays later targetRID node successor) :
    Relays network targetRID node successor where
  receives := ends node relays.receives
  other := same.master node ▸ relays.other
  target := by
    rw [← same.master, relays.target, same.endpoint]

theorem OnWay.of_subset {network : RingNetwork ι} {rest : List RingPacket} {data : List Byte}
    {target : IPv4 × Nat} (onWay : OnWay { network with inFlight := rest } data target)
    (fewer : rest ⊆ network.inFlight) : OnWay network data target :=
  onWay.imp_left fun inFlight => fewer inFlight

variable [DecidableEq ι]

theorem update_members (network : RingNetwork ι) (node : ι)
    (result : RingMember × List RingPacket × Option RingEvent) (other : ι) :
    (network.update node result).1.members other =
      if other = node then result.1 else network.members other :=
  Function.update_apply network.members node result.1 other

theorem sameFields_update {network : RingNetwork ι} {node : ι} {member : RingMember}
    (master : member.threads.master = (network.members node).threads.master)
    (address : member.address = (network.members node).address) (packets : List RingPacket)
    (event : Option RingEvent) :
    SameFields network (network.update node (member, packets, event)).1 := by
  constructor
  case master =>
    intro other
    rw [update_members]
    split
    · rename_i same
      rw [master, same]
    · rfl
  case address =>
    intro other
    rw [update_members]
    split
    · rename_i same
      rw [address, same]
    · rfl

/-- Data is on its way after a step if the process sent it or has it to send, or if
it was on its way before. -/
theorem onWay_update {network : RingNetwork ι} {node : ι} {member : RingMember}
    {packets : List RingPacket} {event : Option RingEvent} {data : List Byte}
    {target : IPv4 × Nat}
    (onWay : OnWay (network.update node (member, packets, event)).1 data target) :
    (target, data) ∈ packets ∨
      (∃ thread, member.tasks thread = .sending data ∧ member.destination thread = target) ∨
      OnWay network data target := by
  rcases onWay with inFlight | ⟨other, thread, sending, goes⟩
  · rcases List.mem_append.mp inFlight with now | earlier
    · exact .inl now
    · exact .inr (.inr (.inl earlier))
  · rw [update_members] at sending goes
    split at sending
    · rename_i same
      rw [if_pos same] at goes
      exact .inr (.inl ⟨thread, sending, goes⟩)
    · rename_i different
      rw [if_neg different] at goes
      exact .inr (.inr (.inr ⟨other, thread, sending, goes⟩))

/-! ## Quiet steps -/

/-- Every thread that holds an address has data to send. -/
def HoldsToSend (network : RingNetwork ι) : Prop :=
  ∀ node, (network.members node).HoldsToSend

theorem HoldsToSend.update {network : RingNetwork ι} (holds : HoldsToSend network) {node : ι}
    {member : RingMember} (still : member.HoldsToSend) (packets : List RingPacket)
    (event : Option RingEvent) :
    HoldsToSend (network.update node (member, packets, event)).1 := by
  intro other
  rw [update_members]
  split
  · exact still
  · exact holds other

theorem HoldsToSend.step {network next : RingNetwork ι} {action : RingAction ι}
    {event : Option (ι × RingEvent)} (holds : HoldsToSend network)
    (stepped : network.step action = some (next, event)) : HoldsToSend next := by
  cases action with
  | prompt node targetRID userMessage =>
      obtain ⟨⟨member, packets, outcome⟩, prompted, same⟩ := Option.map_eq_some_iff.mp stepped
      cases same
      obtain ⟨waiting, -, ⟨_, -, rfl, -⟩ | ⟨_, -, rfl, -⟩⟩ :=
        RingMember.sendMessagePrompt_eq_some prompted <;>
      · exact holds.update ((holds node).perform ((holds node).held_eq_none waiting) _) _ _
  | receive node index =>
      obtain ⟨⟨⟨target, datagram⟩, rest⟩, taken, stepped⟩ := Option.bind_eq_some_iff.mp stepped
      simp only at stepped
      split at stepped
      · obtain ⟨⟨member, packets, outcome⟩, handled, same⟩ := Option.map_eq_some_iff.mp stepped
        cases same
        have kept : HoldsToSend { network with inFlight := rest } := holds
        obtain ⟨waiting, -, ⟨_, -, rfl, -⟩ | ⟨_, _, -, rfl, -⟩ | ⟨-, rfl, -⟩ | ⟨_, -, rfl, -⟩⟩ :=
          RingMember.recvHandleMessage_eq_some handled
        · exact kept.update (holds node) _ _
        · exact kept.update ((holds node).perform ((holds node).held_eq_none waiting) _) _ _
        · exact kept.update (holds node) _ _
        · exact kept.update ((holds node).perform ((holds node).held_eq_none waiting) _) _ _
      · cases stepped
  | access node action delivers =>
      obtain ⟨⟨member, packets, outcome⟩, accessed, same⟩ := Option.map_eq_some_iff.mp stepped
      cases same
      exact holds.update ((holds node).access accessed) _ _
  | fault what =>
      obtain ⟨inFlight, -, same⟩ := Option.map_eq_some_iff.mp stepped
      cases same
      exact holds

/-- A process that still receives does this with a datagram that is on its way to it. -/
def Handles (network : RingNetwork ι) (node : ι) (handled : Handled) : Prop :=
  ∃ datagram, OnWay network datagram (network.members node).endpoint ∧
    (network.members node).Receives ∧
    (network.members node).threads.master.recvHandleMessage datagram = .ok handled

/-- What a step can do as long as nothing is typed and nobody joins: data stays on its
way, is lost, or is forwarded or printed by a process that it was on its way to. -/
structure QuietStep (network next : RingNetwork ι) (event : Option (ι × RingEvent)) : Prop where
  fields : SameFields network next
  ends : ∀ node, (next.members node).Receives → (network.members node).Receives
  onWay : ∀ data target, OnWay next data target →
    OnWay network data target ∨ ∃ node, Handles network node (.forwarded data target)
  printed : ∀ node message, event = some (node, .printed message) →
    Handles network node (.printed message)

section Quiet

variable {network next : RingNetwork ι} {node : ι}

/-- A step of one process, which may take something out of the network. -/
theorem quietStep_update {member : RingMember} {packets rest : List RingPacket}
    {outcome : Option RingEvent} {event : Option (ι × RingEvent)}
    (updated : { network with inFlight := rest }.update node (member, packets, outcome) =
      (next, event))
    (fewer : rest ⊆ network.inFlight)
    (master : member.threads.master = (network.members node).threads.master)
    (address : member.address = (network.members node).address)
    (ends : member.Receives → (network.members node).Receives)
    (sent : ∀ data target, (target, data) ∈ packets →
      OnWay network data target ∨ ∃ node, Handles network node (.forwarded data target))
    (sends : ∀ data thread, member.tasks thread = .sending data →
      OnWay network data (member.destination thread) ∨
        ∃ node, Handles network node (.forwarded data (member.destination thread)))
    (printed : ∀ message, outcome = some (.printed message) →
      Handles network node (.printed message)) :
    QuietStep network next event := by
  obtain ⟨rfl, rfl⟩ : next = ({ network with inFlight := rest }.update node
      (member, packets, outcome)).1 ∧ event = ({ network with inFlight := rest }.update node
        (member, packets, outcome)).2 := by
    rw [updated]
    exact ⟨rfl, rfl⟩
  constructor
  case fields =>
    have kept := @sameFields_update _ _ { network with inFlight := rest } node member master address
      packets outcome
    exact ⟨kept.master, kept.address⟩
  case ends =>
    intro other receives
    rw [update_members] at receives
    split at receives
    · rename_i same
      rw [same]
      exact ends receives
    · exact receives
  case onWay =>
    intro data target onWay
    rcases onWay_update onWay with now | ⟨thread, sending, rfl⟩ | earlier
    · exact sent data target now
    · exact sends data thread sending
    · exact .inl (earlier.of_subset fewer)
  case printed =>
    intro other message same
    obtain ⟨seen, rfl, pair⟩ := Option.map_eq_some_iff.mp same
    cases pair
    exact printed message rfl

theorem quietStep_receive {index : Nat} {event : Option (ι × RingEvent)}
    (holds : HoldsToSend network)
    (stepped : network.step (.receive node index) = some (next, event)) :
    QuietStep network next event := by
  obtain ⟨⟨⟨target, datagram⟩, rest⟩, taken, stepped⟩ := Option.bind_eq_some_iff.mp stepped
  simp only at stepped
  split at stepped
  · rename_i here
    obtain ⟨⟨member, packets, outcome⟩, received, same⟩ := Option.map_eq_some_iff.mp stepped
    have onWay : OnWay network datagram (network.members node).endpoint :=
      .inl (here ▸ Channel.mem_of_take taken)
    have fewer := Channel.subset_of_take taken
    obtain ⟨waiting, rfl, outcomes⟩ := RingMember.recvHandleMessage_eq_some received
    have active : (network.members node).tasks .recv ≠ .ended := by
      rw [waiting]
      simp
    have unchanged (data : List Byte) (thread : RingThread)
        (sending : (network.members node).tasks thread = .sending data) :
        OnWay network data ((network.members node).destination thread) :=
      .inr ⟨node, thread, sending, rfl⟩
    rcases outcomes with ⟨message, handled, rfl, rfl⟩ | ⟨data, sendTo, handled, rfl, rfl⟩ |
      ⟨handled, rfl, rfl⟩ | ⟨error, handled, rfl, rfl⟩
    · apply quietStep_update same fewer rfl rfl id
      case sent => exact fun _ _ impossible => by cases impossible
      case sends => exact fun data thread sending => .inl (unchanged data thread sending)
      case printed =>
        intro text same
        cases same
        exact ⟨datagram, onWay, active, handled⟩
    · apply quietStep_update same fewer
      case master => rfl
      case address => rfl
      case ends => exact RingMember.receives_of_perform active
      case sent => exact fun _ _ impossible => by cases impossible
      case sends =>
        intro later thread sending
        rw [RingMember.perform_tasks] at sending
        split at sending
        · -- The process sends on what it received, to the master's target.
          rename_i same
          subst same
          cases sending
          rw [(Master.forwarded_eq handled).2,
            ← RingMember.destination_of_idle ((holds node).held_eq_none waiting)] at handled
          exact .inr ⟨node, datagram, onWay, active, handled⟩
        · exact .inl (unchanged later thread sending)
      case printed => exact fun _ impossible => by cases impossible
    · apply quietStep_update same fewer rfl rfl id
      case sent => exact fun _ _ impossible => by cases impossible
      case sends => exact fun data thread sending => .inl (unchanged data thread sending)
      case printed => exact fun _ impossible => by cases impossible
    · apply quietStep_update same fewer
      case master => rfl
      case address => rfl
      case ends => exact RingMember.receives_of_perform active
      case sent => exact fun _ _ impossible => by cases impossible
      case sends =>
        intro later thread sending
        rw [RingMember.perform_tasks] at sending
        split at sending
        · cases sending
        · exact .inl (unchanged later thread sending)
      case printed => exact fun _ impossible => by cases impossible
  · cases stepped

theorem quietStep_readIP {thread : RingThread} {delivers : Bool} {event : Option (ι × RingEvent)}
    (stepped : network.step (.access node (.readIP thread) delivers) = some (next, event)) :
    QuietStep network next event := by
  obtain ⟨⟨member, packets, outcome⟩, accessed, same⟩ := Option.map_eq_some_iff.mp stepped
  obtain ⟨-, idle, rfl, rfl, rfl⟩ := RingMember.access_readIP_eq_some accessed
  apply quietStep_update same (List.Subset.refl network.inFlight) rfl rfl id
  case sent => exact fun _ _ impossible => by cases impossible
  case sends =>
    intro data other sending
    rw [RingMember.destination_of_read idle]
    exact .inl (.inr ⟨node, other, sending, rfl⟩)
  case printed => exact fun _ impossible => by cases impossible

theorem quietStep_readRID {thread : RingThread} {delivers : Bool} {event : Option (ι × RingEvent)}
    (stepped : network.step (.access node (.readRID thread) delivers) = some (next, event)) :
    QuietStep network next event := by
  obtain ⟨⟨member, packets, outcome⟩, accessed, same⟩ := Option.map_eq_some_iff.mp stepped
  obtain ⟨data, address, sending, held, rfl, rfl, rfl⟩ :=
    RingMember.access_readRID_eq_some accessed
  have active : (network.members node).tasks thread ≠ .ended := by
    rw [sending]
    simp
  apply quietStep_update same (List.Subset.refl network.inFlight)
  case master => rfl
  case address => rfl
  case ends =>
    exact @RingMember.receives_of_perform { network.members node with threads := _ } _ active _
  case sent =>
    intro later target sent
    split at sent
    · -- The data was on its way to where it was sent.
      cases List.mem_singleton.mp sent
      refine .inl (.inr ⟨node, thread, sending, ?_⟩)
      unfold RingMember.destination
      rw [held]
      rfl
    · cases sent
  case sends =>
    intro later other sends
    rw [RingMember.perform_tasks] at sends
    split at sends
    · split at sends
      · cases sends
      · cases sends
    · rename_i different
      refine .inl (.inr ⟨node, other, sends, ?_⟩)
      exact congrArg (fun held => (Option.getD held _, _))
        (RingThreads.hold_held_of_ne _ different none).symm
  case printed =>
    intro message impossible
    cases delivers <;> cases impossible

theorem quietStep_of_step {action : RingAction ι} {event : Option (ι × RingEvent)}
    (holds : HoldsToSend network) (quiet : action.Quiet)
    (stepped : network.step action = some (next, event)) : QuietStep network next event := by
  cases action with
  | prompt node targetRID userMessage => exact quiet.elim
  | receive node index => exact quietStep_receive holds stepped
  | access node access delivers =>
      cases access with
      | increment peer => exact quiet.elim
      | assign => exact quiet.elim
      | readIP thread => exact quietStep_readIP stepped
      | readRID thread => exact quietStep_readRID stepped
  | fault what =>
      obtain ⟨inFlight, faulted, same⟩ := Option.map_eq_some_iff.mp stepped
      cases same
      constructor
      case fields => exact ⟨fun _ => rfl, fun _ => rfl⟩
      case ends => exact fun _ => id
      case onWay => exact fun _ _ onWay => .inl (onWay.of_subset (Channel.subset_of_fault faulted))
      case printed => exact fun _ _ impossible => by cases impossible

end Quiet

/-! ## Printed letters -/

theorem IsShort.handled {data : List Byte} (short : IsShort data) (node : Master) :
    node.recvHandleMessage data =
      .ok (if (letterOf data).1 = node.myRingID then .printed (letterOf data).2
        else .forwarded data node.target) := by
  obtain ⟨targetRID, sourceRID, userMessage, fits, rfl⟩ := short
  rw [letterOf_ringDatagram]
  exact Master.recvHandleMessage_ringDatagram _ _ node fits

/-- What is printed was on its way to a process from which there is a path to the
process that prints it. -/
theorem exists_path_of_run {network final : RingNetwork ι} {later : List (RingAction ι)}
    {events : List (Option (ι × RingEvent))} (holds : HoldsToSend network)
    (short : ∀ data target, OnWay network data target → IsShort data)
    (quiet : ∀ action ∈ later, action.Quiet)
    (ran : Stepped.run step network later = some (final, events)) {node : ι} {message : List Byte}
    (prints : some (node, .printed message) ∈ events) :
    ∃ data first, OnWay network data (network.members first).endpoint ∧
      letterOf data = ((network.members node).threads.master.myRingID, message) ∧
      Relation.ReflTransGen
        (Relays network (network.members node).threads.master.myRingID) first node ∧
      (network.members node).Receives := by
  induction later generalizing network events with
  | nil =>
      cases ran
      cases prints
  | cons action later ih =>
      obtain ⟨middle, event, rest, stepped, continued, rfl⟩ := Stepped.run_cons_eq_some ran
      have quietStep := quietStep_of_step holds (quiet action List.mem_cons_self) stepped
      rcases List.mem_cons.mp prints with now | afterwards
      · obtain ⟨datagram, onWay, receives, handled⟩ := quietStep.printed node message now.symm
        have letter := (short datagram _ onWay).printed handled
        exact ⟨datagram, node, onWay, letter, .refl, receives⟩
      · have fields := quietStep.fields
        have shortMiddle : ∀ data target, OnWay middle data target → IsShort data := by
          intro data target onWay
          rcases quietStep.onWay data target onWay with earlier |
            ⟨other, datagram, onWay, -, handled⟩
          · exact short data target earlier
          · rw [(short datagram _ onWay).forwarded handled]
            exact short datagram _ onWay
        obtain ⟨data, first, onWay, letter, path, receives⟩ := ih (holds.step stepped) shortMiddle
          (fun other member => quiet other (List.mem_cons_of_mem _ member)) continued afterwards
        rw [fields.master] at letter path
        rw [fields.endpoint] at onWay
        have earlierPath := Relation.ReflTransGen.mono
          (fun _ _ relays => Relays.of_later fields quietStep.ends relays) first node path
        rcases quietStep.onWay data _ onWay with earlier |
          ⟨other, datagram, onWay, active, handled⟩
        · exact ⟨data, first, earlier, letter, earlierPath, quietStep.ends node receives⟩
        · -- The letter was forwarded to the first process of the path by another one.
          have shortDatagram := short datagram _ onWay
          have same := shortDatagram.forwarded handled
          subst same
          have target := (Master.forwarded_eq handled).2
          have relays : Relays network (network.members node).threads.master.myRingID other
              first := by
            constructor
            case receives => exact active
            case other =>
              intro own
              rw [shortDatagram.handled, letter, if_pos own.symm] at handled
              cases handled
            case target => exact target.symm
          exact ⟨data, other, onWay, letter, .head relays earlierPath,
            quietStep.ends node receives⟩

end RingNetwork

end OpServer
