import OpServer.RingHandler

/-!
# How long a datagram travels

`form_datagram` writes 255 into byte 3 of every datagram, and `Lab3slave.c`
speaks of a time to live, but no method of `master.py` reads the byte.  A
datagram that nobody is the recipient of is handed on forever, already by a
master that no slave has joined, which is its own successor.
-/

namespace OpServer

open Python

namespace Master

/-! ## Reachable states -/

/-- The state after the accept thread has handled some connections.  The other
threads go on when it ends with an exception. -/
def acceptJoins (master : Master) : List Connection → Master
  | [] => master
  | connection :: connections =>
      match master.acceptJoin connection with
      | (next, .ok _) => next.acceptJoins connections
      | (next, .error _) => next

/-- A state that a master on the given host can be in. -/
def Reachable (lanIP : IPv4) (master : Master) : Prop :=
  ∃ connections, master = (start lanIP).acceptJoins connections

theorem reachable_start (lanIP : IPv4) : (start lanIP).Reachable lanIP :=
  ⟨[], rfl⟩

theorem acceptJoins_invariant {invariant : Master → Prop}
    (keeps : ∀ master connection, invariant master → invariant (master.acceptJoin connection).1)
    {master : Master} (holds : invariant master) (connections : List Connection) :
    invariant (master.acceptJoins connections) := by
  induction connections generalizing master with
  | nil => exact holds
  | cons connection connections ih =>
      have kept := keeps master connection holds
      unfold acceptJoins
      split
      · rename_i next _ handled
        rw [handled] at kept
        exact ih kept
      · rename_i next _ handled
        rwa [handled] at kept

/-- What holds at the start and is kept by every iteration holds in every
reachable state. -/
theorem Reachable.of_invariant {lanIP : IPv4} {master : Master}
    (reachable : master.Reachable lanIP) (invariant : Master → Prop)
    (starts : invariant (start lanIP))
    (keeps : ∀ master connection, invariant master → invariant (master.acceptJoin connection).1) :
    invariant master := by
  obtain ⟨connections, rfl⟩ := reachable
  exact acceptJoins_invariant keeps starts connections

theorem Reachable.myRingID {lanIP : IPv4} {master : Master} (reachable : master.Reachable lanIP) :
    master.myRingID = 0 := by
  apply reachable.of_invariant (fun master => master.myRingID = 0) rfl
  intro master connection holds
  rcases master.acceptJoin_fst connection with same | joins
  · rw [same, holds]
  · rw [joins, joined_myRingID, holds]

/-! ## One forward -/

/-- Byte 3 of a datagram. -/
def timeToLive (datagram : List Byte) : Nat :=
  (datagram.getD 3 0).toNat

/-- Whatever a node forwards passes the check and has less time to live. -/
def ForwardsWithinTTL (master : Master) (datagram : List Byte) : Prop :=
  ∀ data target, master.recvHandleMessage datagram = .ok (.forwarded data target) →
    verifyChecksum data ∧ timeToLive data < timeToLive datagram

variable {master : Master} {datagram : List Byte} {destination : Byte}

/-- A node that is not the recipient forwards what it received, if that passes
the check, and reports an error otherwise. -/
theorem recvHandleMessage_of_other (addressed : datagram[4]? = some destination)
    (other : destination.toNat ≠ master.myRingID) :
    master.recvHandleMessage datagram =
      .ok (if verifyChecksum (datagram.take BUFF_SIZE) then
          .forwarded (datagram.take BUFF_SIZE) master.target
        else .errorFound) := by
  split
  · rename_i verified
    rw [master.recvHandleMessage_of_verified verified addressed, if_neg other]
    rfl
  · rename_i corrupted
    exact master.recvHandleMessage_of_corrupted corrupted

theorem timeToLive_take (datagram : List Byte) :
    timeToLive (datagram.take BUFF_SIZE) = timeToLive datagram := by
  simp [timeToLive, List.getD_eq_getElem?_getD, BUFF_SIZE]

theorem forwardsWithinTTL_iff (addressed : datagram[4]? = some destination)
    (other : destination.toNat ≠ master.myRingID) :
    master.ForwardsWithinTTL datagram ↔ ¬verifyChecksum (datagram.take BUFF_SIZE) = true := by
  have handled := recvHandleMessage_of_other addressed other
  constructor
  · intro within verified
    rw [if_pos verified] at handled
    have decreases := (within _ _ handled).2
    rw [timeToLive_take] at decreases
    exact lt_irrefl _ decreases
  · intro corrupted data target forwarded
    rw [if_neg corrupted, forwarded] at handled
    cases handled

end Master

/-! ## The way of a datagram -/

/-- A master while it handles a datagram, with the address of its host. -/
structure RingNode where
  master : Master
  address : IPv4

namespace RingNode

/-- The address and the port at which a node receives. -/
def endpoint (node : RingNode) : IPv4 × Nat :=
  (node.address, node.master.calculateMyPort)

/-- The nodes forward a datagram one after the other, each to the next. -/
def HandedOn : List RingNode → List Byte → Prop
  | [], _ => True
  | node :: nodes, datagram => ∃ data target,
      node.master.recvHandleMessage datagram = .ok (.forwarded data target) ∧
        (∀ next ∈ nodes.head?, next.endpoint = target) ∧ HandedOn nodes data

/-- No way through nodes in reachable states has more forwards than this. -/
def ForwardedAtMost (bound : Nat) (datagram : List Byte) : Prop :=
  ∀ nodes : List RingNode, (∀ node ∈ nodes, node.master.Reachable node.address) →
    HandedOn nodes datagram → nodes.length ≤ bound

/-- A master before the first join. -/
def alone (lanIP : IPv4) : RingNode where
  master := Master.start lanIP
  address := lanIP

theorem alone_endpoint (lanIP : IPv4) : (alone lanIP).endpoint = (alone lanIP).master.target :=
  rfl

variable {datagram : List Byte} {destination : Byte}

theorem handedOn_replicate (lanIP : IPv4) (addressed : datagram[4]? = some destination)
    (elsewhere : destination ≠ 0) (verified : Master.verifyChecksum (datagram.take BUFF_SIZE))
    (count : Nat) : HandedOn (List.replicate count (alone lanIP)) datagram := by
  induction count generalizing datagram with
  | zero => trivial
  | succ count ih =>
      have other : destination.toNat ≠ (alone lanIP).master.myRingID :=
        fun same => elsewhere (BitVec.eq_of_toNat_eq same)
      have handled := Master.recvHandleMessage_of_other addressed other
      rw [if_pos verified] at handled
      refine ⟨_, _, handled, fun next following => ?_, ih ?_ ?_⟩
      · obtain ⟨-, rfl⟩ := List.mem_replicate.mp (List.mem_of_mem_head? following)
        exact alone_endpoint lanIP
      · rw [List.getElem?_take, if_pos (by decide), addressed]
      · rwa [List.take_take, min_self]

theorem forwardedAtMost_iff (addressed : datagram[4]? = some destination)
    (elsewhere : destination ≠ 0) (bound : Nat) :
    ForwardedAtMost bound datagram ↔ ¬Master.verifyChecksum (datagram.take BUFF_SIZE) = true := by
  constructor
  · intro atMost verified
    have reachable : ∀ node ∈ List.replicate (bound + 1) (alone #v[127, 0, 0, 1]),
        node.master.Reachable node.address := by
      intro node member
      obtain ⟨-, rfl⟩ := List.mem_replicate.mp member
      exact Master.reachable_start _
    have tooLong := atMost _ reachable
      (handedOn_replicate #v[127, 0, 0, 1] addressed elsewhere verified (bound + 1))
    rw [List.length_replicate] at tooLong
    omega
  · intro corrupted nodes reachable handedOn
    cases nodes with
    | nil => exact Nat.zero_le bound
    | cons node nodes =>
        obtain ⟨data, target, forwarded, -, -⟩ := handedOn
        rw [node.master.recvHandleMessage_of_corrupted corrupted] at forwarded
        cases forwarded

end RingNode

/-- No reachable master is the recipient of a datagram to another ring ID than
0.  None of those that pass the check is forwarded within its time to live, or
a bounded number of times. -/
theorem forwarding_bounded_iff {datagram : List Byte} {destination : Byte}
    (addressed : datagram[4]? = some destination) (elsewhere : destination ≠ 0) :
    (∀ (lanIP : IPv4) (master : Master), master.Reachable lanIP →
      destination.toNat ≠ master.myRingID) ∧
    (∀ master : Master, destination.toNat ≠ master.myRingID →
      (master.ForwardsWithinTTL datagram ↔
        ¬Master.verifyChecksum (datagram.take BUFF_SIZE) = true)) ∧
    ∀ bound : Nat, RingNode.ForwardedAtMost bound datagram ↔
      ¬Master.verifyChecksum (datagram.take BUFF_SIZE) = true := by
  refine ⟨fun lanIP master reachable => ?_, fun master other => ?_, ?_⟩
  · rw [reachable.myRingID]
    exact fun same => elsewhere (BitVec.eq_of_toNat_eq same)
  · exact Master.forwardsWithinTTL_iff addressed other
  · exact RingNode.forwardedAtMost_iff addressed elsewhere

theorem forwarding_bounded_iff_greeting :
    (∀ (lanIP : IPv4) (master : Master), master.Reachable lanIP →
      (9 : Byte).toNat ≠ master.myRingID) ∧
    (∀ master : Master, (9 : Byte).toNat ≠ master.myRingID →
      (master.ForwardsWithinTTL [15, 0x12, 0x34, 255, 9, 0, 72, 105, 239] ↔
        ¬Master.verifyChecksum
          (([15, 0x12, 0x34, 255, 9, 0, 72, 105, 239] : List Byte).take BUFF_SIZE) = true)) ∧
    ∀ bound : Nat, RingNode.ForwardedAtMost bound [15, 0x12, 0x34, 255, 9, 0, 72, 105, 239] ↔
      ¬Master.verifyChecksum
        (([15, 0x12, 0x34, 255, 9, 0, 72, 105, 239] : List Byte).take BUFF_SIZE) = true :=
  forwarding_bounded_iff rfl (by decide)

/-- A greeting to ring ID 9 circles at a master that no slave has joined. -/
theorem greeting_circles :
    Master.verifyChecksum [15, 0x12, 0x34, 255, 9, 0, 72, 105, 239] = true ∧
      ¬(Master.start #v[10, 0, 0, 1]).ForwardsWithinTTL
          [15, 0x12, 0x34, 255, 9, 0, 72, 105, 239] ∧
        ¬RingNode.ForwardedAtMost 255 [15, 0x12, 0x34, 255, 9, 0, 72, 105, 239] := by
  have verified : Master.verifyChecksum [15, 0x12, 0x34, 255, 9, 0, 72, 105, 239] = true :=
    (verifyChecksum_iff_total _).mpr (by decide)
  have addressed : ([15, 0x12, 0x34, 255, 9, 0, 72, 105, 239] : List Byte)[4]? = some 9 := rfl
  refine ⟨verified, fun within => ?_, fun atMost => ?_⟩
  · exact (Master.forwardsWithinTTL_iff addressed (by decide)).mp within verified
  · exact (RingNode.forwardedAtMost_iff addressed (by decide) 255).mp atMost verified

end OpServer
