import OpServer.LossyChannel
import OpServer.RingDelivery
import OpServer.RingThreads

/-!
# Masters on a network

Any number of processes of `master.py`, each with its threads, and the
datagrams between them.  The accept thread assigns the fields, the send thread
forms datagrams, and the receive thread handles those that arrive at the port
of its process.  A thread reads the address and the port for `sendto` one after
the other.  The network may delay, reorder, duplicate and lose datagrams.
-/

namespace OpServer

open Python

/-- What a thread that calls `sendto` is doing: it waits for input or for a
datagram, it has data to send, or it has ended with an exception. -/
inductive ThreadTask
  | waiting
  | sending (data : List Byte)
  | ended
  deriving DecidableEq

/-- A process of `master.py` on a host with an address. -/
structure RingMember where
  threads : RingThreads
  tasks : RingThread → ThreadTask
  address : IPv4

/-- What a process prints or reads from the terminal, or an exception that ends a
thread. -/
inductive RingEvent
  | entered (targetRID : Int) (userMessage : List Byte)
  | printed (message : List Byte)
  | errorFound
  | raised (thread : RingThread) (error : PythonError)
  deriving DecidableEq

/-- Data on its way to an address and a port. -/
abbrev RingPacket := (IPv4 × Nat) × List Byte

namespace RingMember

/-- The address and the port to which the socket of the process is bound. -/
def endpoint (member : RingMember) : IPv4 × Nat :=
  (member.address, member.threads.master.calculateMyPort)

def perform (member : RingMember) (thread : RingThread) (task : ThreadTask) : RingMember :=
  { member with tasks := Function.update member.tasks thread task }

/-- An iteration of `send_message_prompt`, up to the arguments of `sendto`. -/
def sendMessagePrompt (member : RingMember) (targetRID : Int) (userMessage : List Byte) :
    Option (RingMember × List RingPacket × Option RingEvent) :=
  match member.tasks .send with
  | .waiting =>
      match member.threads.master.formDatagram targetRID userMessage with
      | .ok formedDatagram =>
          some (member.perform .send (.sending formedDatagram), [],
            some (.entered targetRID userMessage))
      | .error error => some (member.perform .send .ended, [], some (.raised .send error))
  | _ => none

/-- An iteration of `recv_handle_message`, which leaves it to later accesses to
find out where forwarded data goes. -/
def recvHandleMessage (member : RingMember) (datagram : List Byte) :
    Option (RingMember × List RingPacket × Option RingEvent) :=
  match member.tasks .recv with
  | .waiting =>
      match member.threads.master.recvHandleMessage datagram with
      | .ok (.printed message) => some (member, [], some (.printed message))
      | .ok (.forwarded data _) => some (member.perform .recv (.sending data), [], none)
      | .ok .errorFound => some (member, [], some .errorFound)
      | .error error => some (member.perform .recv .ended, [], some (.raised .recv error))
  | _ => none

/-- An access to the fields.  A thread reads them when it has data to send, and
calls `sendto` after the second read; that fails or sends the data. -/
def access (member : RingMember) (action : ThreadAction) (delivers : Bool) :
    Option (RingMember × List RingPacket × Option RingEvent) :=
  (member.threads.step action).bind fun stepped =>
    let next := { member with threads := stepped.1 }
    match action, stepped.2 with
    | .readIP thread, _ =>
        match member.tasks thread with
        | .sending _ => some (next, [], none)
        | _ => none
    | .readRID thread, some target =>
        match member.tasks thread with
        | .sending data =>
            if delivers then some (next.perform thread .waiting, [(target, data)], none)
            else some (next.perform thread .ended, [], some (.raised thread .socketError))
        | _ => none
    | _, _ => some (next, [], none)

end RingMember

/-- The processes, and the datagrams in flight. -/
structure RingNetwork (ι : Type*) where
  members : ι → RingMember
  inFlight : List RingPacket

inductive RingAction (ι : Type*)
  | prompt (node : ι) (targetRID : Int) (userMessage : List Byte)
  | receive (node : ι) (index : Nat)
  | access (node : ι) (action : ThreadAction) (delivers : Bool)
  | fault (what : Channel.Fault)

namespace RingNetwork

variable {ι : Type*}

/-- Processes with these ring IDs and addresses have started their threads. -/
def start (ringID : ι → Nat) (address : ι → IPv4) : RingNetwork ι where
  members := fun node =>
    { threads := { RingThreads.start (address node) with
        master := { Master.start (address node) with myRingID := ringID node } }
      tasks := fun _ => .waiting
      address := address node }
  inFlight := []

variable [DecidableEq ι]

/-- The network after a process has made a step and sent some packets. -/
def update (network : RingNetwork ι) (node : ι)
    (result : RingMember × List RingPacket × Option RingEvent) :
    RingNetwork ι × Option (ι × RingEvent) :=
  ({ members := Function.update network.members node result.1
     inFlight := result.2.1 ++ network.inFlight },
    result.2.2.map fun event => (node, event))

/-- One step of the network, with the event that the user of a process sees. -/
def step (network : RingNetwork ι) :
    RingAction ι → Option (RingNetwork ι × Option (ι × RingEvent))
  | .prompt node targetRID userMessage =>
      ((network.members node).sendMessagePrompt targetRID userMessage).map (network.update node)
  | .receive node index =>
      (Channel.take network.inFlight index).bind fun ((target, datagram), rest) =>
        if target = (network.members node).endpoint then
          ((network.members node).recvHandleMessage datagram).map
            ({ network with inFlight := rest }.update node)
        else none
  | .access node action delivers =>
      ((network.members node).access action delivers).map (network.update node)
  | .fault what =>
      (Channel.fault network.inFlight what).map fun inFlight =>
        ({ network with inFlight := inFlight }, none)

end RingNetwork

/-! ## What the steps of a process can do -/

namespace RingMember

variable {member next : RingMember} {packets : List RingPacket} {event : Option RingEvent}

theorem sendMessagePrompt_eq_some {targetRID : Int} {userMessage : List Byte}
    (prompted : member.sendMessagePrompt targetRID userMessage = some (next, packets, event)) :
    member.tasks .send = .waiting ∧ packets = [] ∧
      ((∃ formedDatagram,
        member.threads.master.formDatagram targetRID userMessage = .ok formedDatagram ∧
          next = member.perform .send (.sending formedDatagram) ∧
          event = some (.entered targetRID userMessage)) ∨
      ∃ error, member.threads.master.formDatagram targetRID userMessage = .error error ∧
        next = member.perform .send .ended ∧ event = some (.raised .send error)) := by
  unfold sendMessagePrompt at prompted
  split at prompted
  · rename_i waiting
    split at prompted
    · rename_i formed
      cases prompted
      exact ⟨waiting, rfl, .inl ⟨_, formed, rfl, rfl⟩⟩
    · rename_i failed
      cases prompted
      exact ⟨waiting, rfl, .inr ⟨_, failed, rfl, rfl⟩⟩
  · cases prompted

theorem recvHandleMessage_eq_some {datagram : List Byte}
    (handled : member.recvHandleMessage datagram = some (next, packets, event)) :
    member.tasks .recv = .waiting ∧ packets = [] ∧
      ((∃ message, member.threads.master.recvHandleMessage datagram = .ok (.printed message) ∧
        next = member ∧ event = some (.printed message)) ∨
      (∃ data target,
        member.threads.master.recvHandleMessage datagram = .ok (.forwarded data target) ∧
          next = member.perform .recv (.sending data) ∧ event = none) ∨
      (member.threads.master.recvHandleMessage datagram = .ok .errorFound ∧
        next = member ∧ event = some .errorFound) ∨
      ∃ error, member.threads.master.recvHandleMessage datagram = .error error ∧
        next = member.perform .recv .ended ∧ event = some (.raised .recv error)) := by
  unfold recvHandleMessage at handled
  split at handled
  · rename_i waiting
    split at handled
    · rename_i printed
      cases handled
      exact ⟨waiting, rfl, .inl ⟨_, printed, rfl, rfl⟩⟩
    · rename_i forwarded
      cases handled
      exact ⟨waiting, rfl, .inr (.inl ⟨_, _, forwarded, rfl, rfl⟩)⟩
    · rename_i corrupted
      cases handled
      exact ⟨waiting, rfl, .inr (.inr (.inl ⟨corrupted, rfl, rfl⟩))⟩
    · rename_i failed
      cases handled
      exact ⟨waiting, rfl, .inr (.inr (.inr ⟨_, failed, rfl, rfl⟩))⟩
  · cases handled

theorem access_readIP_eq_some {thread : RingThread} {delivers : Bool}
    (accessed : member.access (.readIP thread) delivers = some (next, packets, event)) :
    (∃ data, member.tasks thread = .sending data) ∧ member.threads.held thread = none ∧
      packets = [] ∧ event = none ∧
      next = { member with
        threads := member.threads.hold thread (some member.threads.master.nextSlaveIP) } := by
  obtain ⟨⟨threads, sent⟩, stepped, rest⟩ := Option.bind_eq_some_iff.mp accessed
  obtain ⟨idle, rfl, rfl⟩ := RingThreads.readIP_eq_some stepped
  cases task : member.tasks thread with
  | sending data =>
      simp only [task] at rest
      cases rest
      exact ⟨⟨data, rfl⟩, idle, rfl, rfl, rfl⟩
  | waiting =>
      simp only [task] at rest
      cases rest
  | ended =>
      simp only [task] at rest
      cases rest

theorem access_readRID_eq_some {thread : RingThread} {delivers : Bool}
    (accessed : member.access (.readRID thread) delivers = some (next, packets, event)) :
    ∃ data address, member.tasks thread = .sending data ∧
      member.threads.held thread = some address ∧
      next = ({ member with threads := member.threads.hold thread none } : RingMember).perform
        thread (if delivers then .waiting else .ended) ∧
      packets =
        (if delivers then [((address, member.threads.master.calculateTargetPort), data)] else []) ∧
      event = if delivers then none else some (.raised thread .socketError) := by
  obtain ⟨⟨threads, sent⟩, stepped, rest⟩ := Option.bind_eq_some_iff.mp accessed
  obtain ⟨address, held, rfl, rfl⟩ := RingThreads.readRID_eq_some stepped
  cases task : member.tasks thread with
  | sending data =>
      simp only [task] at rest
      refine ⟨data, address, rfl, held, ?_⟩
      cases delivers <;>
      · cases rest
        exact ⟨rfl, rfl, rfl⟩
  | waiting =>
      simp only [task] at rest
      cases rest
  | ended =>
      simp only [task] at rest
      cases rest

/-- An access moves no data, or it is the second read of a thread, which sends
its data or fails. -/
theorem access_eq_some {action : ThreadAction} {delivers : Bool}
    (accessed : member.access action delivers = some (next, packets, event)) :
    ∃ threads sent, member.threads.step action = some (threads, sent) ∧
      ((next = { member with threads := threads } ∧ packets = [] ∧ event = none) ∨
      ∃ thread data, member.tasks thread = .sending data ∧
        ((delivers = true ∧ (∃ target, packets = [(target, data)]) ∧ event = none ∧
          next = { member with threads := threads }.perform thread .waiting) ∨
        (delivers = false ∧ packets = [] ∧ event = some (.raised thread .socketError) ∧
          next = { member with threads := threads }.perform thread .ended))) := by
  obtain ⟨⟨threads, sent⟩, stepped, rest⟩ := Option.bind_eq_some_iff.mp accessed
  refine ⟨threads, sent, stepped, ?_⟩
  cases action with
  | increment peer =>
      cases rest
      exact .inl ⟨rfl, rfl, rfl⟩
  | assign =>
      cases rest
      exact .inl ⟨rfl, rfl, rfl⟩
  | readIP thread =>
      obtain ⟨-, -, rfl, rfl, rfl⟩ := access_readIP_eq_some accessed
      obtain ⟨-, -, rfl⟩ := RingThreads.readIP_eq_some stepped
      exact .inl ⟨rfl, rfl, rfl⟩
  | readRID thread =>
      obtain ⟨data, address, sending, -, rfl, rfl, rfl⟩ := access_readRID_eq_some accessed
      obtain ⟨_, -, rfl, -⟩ := RingThreads.readRID_eq_some stepped
      refine .inr ⟨thread, data, sending, ?_⟩
      cases delivers with
      | true => exact .inl ⟨rfl, ⟨_, rfl⟩, rfl, rfl⟩
      | false => exact .inr ⟨rfl, rfl, rfl, rfl⟩

end RingMember

end OpServer
