import OpServer.RingNetwork
import Mathlib.Algebra.BigOperators.Group.Finset.Piecewise
import Mathlib.Algebra.Order.Group.Multiset
import Mathlib.Tactic.Abel

/-!
# The data on the network

Data is in flight, or a thread has it to send.  Every step of the network puts
in at most one datagram, takes out at most one, and leaves all others as they
are.  What it does to them, and which event goes with that, is all that the
properties of whole runs depend on.
-/

namespace OpServer

open Python

/-- The data that a thread has to send. -/
def ThreadTask.data : ThreadTask → Multiset (List Byte)
  | .sending data => {data}
  | _ => 0

namespace RingMember

/-- The data that a process has to send. -/
def data (member : RingMember) : Multiset (List Byte) :=
  (member.tasks .send).data + (member.tasks .recv).data

theorem data_perform (member : RingMember) (thread : RingThread) (task : ThreadTask) :
    (member.perform thread task).data + (member.tasks thread).data = member.data + task.data := by
  cases thread with
  | send =>
      simp only [data, perform, Function.update_self, ne_eq, reduceCtorEq, not_false_eq_true,
        Function.update_of_ne]
      abel
  | recv =>
      simp only [data, perform, Function.update_self, ne_eq, reduceCtorEq, not_false_eq_true,
        Function.update_of_ne]
      abel

end RingMember

namespace RingNetwork

variable {ι : Type*} [DecidableEq ι] [Fintype ι]

/-- All data on the network: in flight, or about to be sent by a thread. -/
def contents (network : RingNetwork ι) : Multiset (List Byte) :=
  ↑(network.inFlight.map Prod.snd) + ∑ node, (network.members node).data

omit [DecidableEq ι] in
theorem contents_start (ringID : ι → Nat) (address : ι → IPv4) :
    (start ringID address).contents = 0 := by
  have idle (node : ι) : ((start ringID address).members node).data = 0 := rfl
  simp only [contents, idle, Finset.sum_const_zero]
  rfl

theorem contents_update (network : RingNetwork ι) (node : ι) (next : RingMember)
    (packets : List RingPacket) (event : Option RingEvent) :
    (network.update node (next, packets, event)).1.contents + (network.members node).data =
      network.contents + packets.map Prod.snd + next.data := by
  have updated : (fun other => (Function.update network.members node next other).data) =
      Function.update (fun other => (network.members other).data) node next.data := by
    funext other
    by_cases same : other = node
    · subst same
      simp
    · simp [same]
  have total := Finset.sum_update_of_mem (Finset.mem_univ node)
    (fun other => (network.members other).data) next.data
  have split := Finset.sum_eq_add_sum_sdiff_singleton_of_mem (Finset.mem_univ node)
    fun other => (network.members other).data
  simp only [contents, update, updated, total, split, List.map_append, ← Multiset.coe_add]
  abel

/-- What a process gives up and what it takes on, the network does. -/
theorem contents_update_of_data (network : RingNetwork ι) {node : ι} {next : RingMember}
    {before after : Multiset (List Byte)}
    (changed : next.data + before = (network.members node).data + after)
    (packets : List RingPacket) (event : Option RingEvent) :
    (network.update node (next, packets, event)).1.contents + before =
      network.contents + packets.map Prod.snd + after := by
  have updated := network.contents_update node next packets event
  apply add_right_cancel (b := (network.members node).data)
  calc
    (network.update node (next, packets, event)).1.contents + before +
          (network.members node).data
      = network.contents + packets.map Prod.snd + (next.data + before) := by
        rw [add_right_comm, updated, add_assoc]
    _ = network.contents + packets.map Prod.snd + after + (network.members node).data := by
        rw [changed]
        abel

/-- What a step does to the data on the network, by the action and the event. -/
inductive Effect (network next : RingNetwork ι) :
    RingAction ι → Option (ι × RingEvent) → Prop
  | entered {node : ι} {targetRID : Int} {userMessage formedDatagram : List Byte}
      (formed : (network.members node).threads.master.formDatagram targetRID userMessage =
        .ok formedDatagram)
      (contents : next.contents = formedDatagram ::ₘ network.contents) :
      Effect network next (.prompt node targetRID userMessage)
        (some (node, .entered targetRID userMessage))
  | refused {node : ι} {targetRID : Int} {userMessage : List Byte} {error : PythonError}
      (failed : (network.members node).threads.master.formDatagram targetRID userMessage =
        .error error)
      (contents : next.contents = network.contents) :
      Effect network next (.prompt node targetRID userMessage)
        (some (node, .raised .send error))
  | printed {node : ι} {index : Nat} {datagram message : List Byte}
      (handled : (network.members node).threads.master.recvHandleMessage datagram =
        .ok (.printed message))
      (contents : network.contents = datagram ::ₘ next.contents) :
      Effect network next (.receive node index) (some (node, .printed message))
  | forwarded {node : ι} {index : Nat} {datagram data : List Byte} {target : IPv4 × Nat}
      {others : Multiset (List Byte)}
      (handled : (network.members node).threads.master.recvHandleMessage datagram =
        .ok (.forwarded data target))
      (before : network.contents = datagram ::ₘ others) (after : next.contents = data ::ₘ others) :
      Effect network next (.receive node index) none
  | corrupted {node : ι} {index : Nat} {datagram : List Byte}
      (handled : (network.members node).threads.master.recvHandleMessage datagram =
        .ok .errorFound)
      (contents : network.contents = datagram ::ₘ next.contents) :
      Effect network next (.receive node index) (some (node, .errorFound))
  | failed {node : ι} {index : Nat} {datagram : List Byte} {error : PythonError}
      (handled : (network.members node).threads.master.recvHandleMessage datagram = .error error)
      (contents : network.contents = datagram ::ₘ next.contents) :
      Effect network next (.receive node index) (some (node, .raised .recv error))
  | moved {node : ι} {action : ThreadAction} {delivers : Bool}
      (contents : next.contents = network.contents) :
      Effect network next (.access node action delivers) none
  | unsent {node : ι} {action : ThreadAction} {thread : RingThread} {data : List Byte}
      (contents : network.contents = data ::ₘ next.contents) :
      Effect network next (.access node action false) (some (node, .raised thread .socketError))
  | duplicated {index : Nat} {datagram : List Byte} (member : datagram ∈ network.contents)
      (contents : next.contents = datagram ::ₘ network.contents) :
      Effect network next (.fault (.duplicate index)) none
  | lost {index : Nat} {datagram : List Byte}
      (contents : network.contents = datagram ::ₘ next.contents) :
      Effect network next (.fault (.lose index)) none

section Steps

variable {network next : RingNetwork ι} {event : Option (ι × RingEvent)} {node : ι}

theorem effect_of_prompt {targetRID : Int} {userMessage : List Byte}
    (stepped : network.step (.prompt node targetRID userMessage) = some (next, event)) :
    Effect network next (.prompt node targetRID userMessage) event := by
  obtain ⟨⟨member, packets, outcome⟩, prompted, updated⟩ := Option.map_eq_some_iff.mp stepped
  obtain ⟨waiting, rfl, outcomes⟩ := RingMember.sendMessagePrompt_eq_some prompted
  rcases outcomes with ⟨data, formed, rfl, rfl⟩ | ⟨error, failed, rfl, rfl⟩
  · have performed := (network.members node).data_perform .send (.sending data)
    have contents := network.contents_update_of_data performed []
      (some (.entered targetRID userMessage))
    rw [updated, waiting] at contents
    cases updated
    apply Effect.entered formed
    rw [← Multiset.singleton_add, add_comm]
    simpa [ThreadTask.data] using contents
  · have performed := (network.members node).data_perform .send .ended
    have contents := network.contents_update_of_data performed [] (some (.raised .send error))
    rw [updated, waiting] at contents
    cases updated
    apply Effect.refused failed
    simpa [ThreadTask.data] using contents

omit [DecidableEq ι] in
theorem contents_take {index : Nat} {packet : RingPacket} {rest : List RingPacket}
    (taken : Channel.take network.inFlight index = some (packet, rest)) :
    network.contents = packet.2 ::ₘ { network with inFlight := rest }.contents := by
  have same := Multiset.coe_eq_coe.mpr ((Channel.perm_of_take taken).map Prod.snd)
  simp only [contents, ← same, List.map_cons, ← Multiset.cons_coe, Multiset.cons_add]

theorem effect_of_receive {index : Nat}
    (stepped : network.step (.receive node index) = some (next, event)) :
    Effect network next (.receive node index) event := by
  obtain ⟨⟨⟨target, datagram⟩, rest⟩, taken, stepped⟩ := Option.bind_eq_some_iff.mp stepped
  simp only at stepped
  split at stepped
  · obtain ⟨⟨member, packets, outcome⟩, handled, updated⟩ := Option.map_eq_some_iff.mp stepped
    obtain ⟨waiting, rfl, outcomes⟩ := RingMember.recvHandleMessage_eq_some handled
    have before := contents_take taken
    let others : RingNetwork ι := { network with inFlight := rest }
    rcases outcomes with ⟨message, printed, rfl, rfl⟩ | ⟨data, target, forwarded, rfl, rfl⟩ |
      ⟨corrupted, rfl, rfl⟩ | ⟨error, failed, rfl, rfl⟩
    · cases updated
      apply Effect.printed printed
      rw [before]
      simp
    · have performed := (others.members node).data_perform .recv (.sending data)
      have contents := others.contents_update_of_data performed [] none
      rw [updated, waiting] at contents
      cases updated
      apply Effect.forwarded forwarded before
      rw [← Multiset.singleton_add, add_comm]
      simpa [ThreadTask.data] using contents
    · cases updated
      apply Effect.corrupted corrupted
      rw [before]
      simp
    · have performed := (others.members node).data_perform .recv .ended
      have contents := others.contents_update_of_data performed [] (some (.raised .recv error))
      rw [updated, waiting] at contents
      cases updated
      apply Effect.failed failed
      simpa [before, ThreadTask.data] using contents.symm
  · cases stepped

theorem effect_of_access {action : ThreadAction} {delivers : Bool}
    (stepped : network.step (.access node action delivers) = some (next, event)) :
    Effect network next (.access node action delivers) event := by
  obtain ⟨⟨member, packets, outcome⟩, accessed, updated⟩ := Option.map_eq_some_iff.mp stepped
  obtain ⟨threads, sent, -, outcomes⟩ := RingMember.access_eq_some accessed
  rcases outcomes with ⟨rfl, rfl, rfl⟩ | ⟨thread, data, sending, outcomes⟩
  · have contents := @contents_update_of_data _ _ _ network node
      { network.members node with threads := threads } 0 0 rfl [] none
    rw [updated] at contents
    cases updated
    apply Effect.moved
    simpa using contents
  · let reading : RingMember := { network.members node with threads := threads }
    rcases outcomes with ⟨-, ⟨target, rfl⟩, rfl, rfl⟩ | ⟨rfl, rfl, rfl, rfl⟩
    · have performed := reading.data_perform thread .waiting
      have contents := @contents_update_of_data _ _ _ network node _ _ _ performed [(target, data)]
        none
      rw [updated] at contents
      cases updated
      apply Effect.moved
      change _ + ((network.members node).tasks thread).data = _ at contents
      rw [sending] at contents
      simpa [ThreadTask.data] using contents
    · have performed := reading.data_perform thread .ended
      have contents := @contents_update_of_data _ _ _ network node _ _ _ performed []
        (some (.raised thread .socketError))
      rw [updated] at contents
      cases updated
      apply Effect.unsent
      change _ + ((network.members node).tasks thread).data = _ at contents
      rw [sending] at contents
      rw [← Multiset.singleton_add, add_comm]
      simpa [ThreadTask.data] using contents.symm

theorem effect_of_fault {what : Channel.Fault}
    (stepped : network.step (.fault what) = some (next, event)) :
    Effect network next (.fault what) event := by
  obtain ⟨inFlight, faulted, same⟩ := Option.map_eq_some_iff.mp stepped
  cases same
  cases what with
  | duplicate index =>
      obtain ⟨packet, found, rfl⟩ := Option.map_eq_some_iff.mp faulted
      have member : packet.2 ∈ network.contents := by
        apply Multiset.mem_add.mpr
        exact .inl (Multiset.mem_coe.mpr (List.mem_map_of_mem (List.mem_of_getElem? found)))
      apply Effect.duplicated member
      simp only [contents, List.map_cons, ← Multiset.cons_coe, Multiset.cons_add]
  | lose index =>
      obtain ⟨⟨packet, rest⟩, taken, rfl⟩ := Option.map_eq_some_iff.mp faulted
      exact Effect.lost (contents_take taken)

theorem effect_of_step {action : RingAction ι} (stepped : network.step action = some (next, event)) :
    Effect network next action event := by
  cases action with
  | prompt node targetRID userMessage => exact effect_of_prompt stepped
  | receive node index => exact effect_of_receive stepped
  | access node action delivers => exact effect_of_access stepped
  | fault what => exact effect_of_fault stepped

end Steps

end RingNetwork

end OpServer
