import OpServer.PointerRing
import OpServer.RingJoins

/-!
# The ring that joins build

Nodes are numbered by their joins, the master being node 0.  A slave is handed
the master's pointer and becomes the node that the master points to.  So every
join links a new node in behind the master, and the pointers lead from the
master through all slaves, the last one first, and back.
-/

namespace OpServer

open Python

/-- A ring of the master and the slaves of the first joins. -/
def IsJoinRing (count : Nat) (ring : PointerRing Nat) : Prop :=
  ring.head = 0 ∧ ring.members = (List.range' 1 count).reverse

theorem IsJoinRing.fresh {count : Nat} {ring : PointerRing Nat} (joins : IsJoinRing count ring) :
    count + 1 ∉ ring.head :: ring.members := by
  rw [joins.1, joins.2]
  simp
  omega

theorem IsJoinRing.insert {count : Nat} {ring : PointerRing Nat} (joins : IsJoinRing count ring) :
    IsJoinRing (count + 1) (ring.insert (count + 1) joins.fresh) := by
  refine ⟨joins.1, ?_⟩
  rw [PointerRing.insert_members, joins.2, List.range'_concat, List.reverse_append]
  simp [Nat.add_comm]

/-- The pointers, by join numbers, after this many joins. -/
def joinRing : (count : Nat) → { ring : PointerRing Nat // IsJoinRing count ring }
  | 0 => ⟨PointerRing.single 0, rfl, rfl⟩
  | count + 1 => ⟨(joinRing count).1.insert (count + 1) (joinRing count).2.fresh,
      (joinRing count).2.insert⟩

theorem joinRing_succ (count : Nat) :
    (joinRing (count + 1)).1 =
      (joinRing count).1.insert (count + 1) (joinRing count).2.fresh :=
  rfl

/-- The tour visits the slaves from the last one to the first and returns to
the master. -/
theorem joinRing_tour (count : Nat) :
    (joinRing count).1.tour = (List.range (count + 1)).reverse := by
  rw [PointerRing.tour_eq, (joinRing count).2.1, (joinRing count).2.2,
    List.range_eq_range', List.range'_succ]
  simp

theorem joinRing_next_zero (count : Nat) : (joinRing count).1.next 0 = count := by
  cases count with
  | zero => rfl
  | succ count =>
      have pointed := (joinRing count).1.insert_next_head (joinRing count).2.fresh
      rwa [← joinRing_succ, (joinRing count).2.1] at pointed

theorem joinRing_next_succ {count node : Nat} (joined : node < count) :
    (joinRing count).1.next (node + 1) = node := by
  induction count with
  | zero => omega
  | succ count ih =>
      have head := (joinRing count).2.1
      rw [joinRing_succ]
      by_cases newest : node = count
      · rw [newest, PointerRing.insert_next_new, head, joinRing_next_zero]
      · rw [PointerRing.insert_next_of_ne _ _ (by rw [head]; omega) (by omega)]
        exact ih (by omega)

/-- What a run of the accept thread amounts to: the state it ends in, the
answers it gives, and the pointers it hands out, by join numbers. -/
structure BuildsRing (lanIP : IPv4) (connections : List Connection) (final : Master)
    (answers : List (Option (List Byte))) (ring : PointerRing Nat) : Prop where
  ran : Stepped.run Master.acceptJoinsStep (Master.start lanIP) connections =
    some (final, answers)
  answered : answers.map Option.isSome =
    connections.map fun connection => decide connection.IsValid
  skipped : ∀ (master : Master), ∀ connection ∈ connections, ¬connection.IsValid →
    master.acceptJoinsStep connection = some (master, none)
  nextSlaveRID : final.nextSlaveRID = (joiningPeers connections).length
  nextSlaveIP : (lanIP :: joiningPeers connections)[ring.next 0]? = some final.nextSlaveIP
  responses : answers.reduceOption.length = (joiningPeers connections).length
  /-- The slave of join `node + 1` gets eight bytes, from which it decodes its ring
  ID and the address of the node that it points to. -/
  response : ∀ node < (joiningPeers connections).length, ∃ response nextSlave,
    answers.reduceOption[node]? = some response ∧ response.length = 8 ∧
    unpackReply response = .ok (15, 0x1234, node, nextSlave) ∧
    (lanIP :: joiningPeers connections)[ring.next (node + 1)]? = some nextSlave
  next_zero : ring.next 0 = (joiningPeers connections).length
  next_succ : ∀ node < (joiningPeers connections).length, ring.next (node + 1) = node
  head : ring.head = 0
  tour : ring.tour = (List.range ((joiningPeers connections).length + 1)).reverse

/-- Join requests, valid or not, make a ring: the master ends up pointing to
the last slave, and every slave is told its number and the address of the slave
before it. -/
theorem join_topology (lanIP : IPv4) (connections : List Connection)
    (completes : ∀ connection ∈ connections, connection.Completes)
    (room : (joiningPeers connections).length ≤ 256) :
    ∃ final answers ring, BuildsRing lanIP connections final answers ring := by
  let master := Master.start lanIP
  have ran := master.run_acceptJoins completes (by simpa [master, Master.start] using room)
  exact ⟨_, _, (joinRing (joiningPeers connections).length).1,
    { ran := ran
      answered := master.answers_isSome connections
      skipped := fun master connection member invalid =>
        master.acceptJoinsStep_of_invalid (completes connection member).enough invalid
      nextSlaveRID := by
        rw [Master.joinedAll_nextSlaveRID]
        exact Nat.zero_add _
      nextSlaveIP := by
        rw [joinRing_next_zero]
        exact master.joinedAll_nextSlaveIP (joiningPeers connections)
      responses := by
        rw [master.answers_reduceOption, Master.responses_length]
      response := by
        intro node joined
        obtain ⟨nextSlave, found, response⟩ := master.responses_getElem? joined
        have number : master.nextSlaveRID + node = node := Nat.zero_add node
        rw [number] at response
        refine ⟨_, nextSlave, (by rw [master.answers_reduceOption, response]),
          Master.length_joinResponse _ _, Master.unpackReply_joinResponse (by omega) nextSlave, ?_⟩
        rw [joinRing_next_succ joined]
        exact found
      next_zero := joinRing_next_zero _
      next_succ := fun node joined => joinRing_next_succ joined
      head := (joinRing _).2.1
      tour := joinRing_tour _ }⟩

/-- Two slaves join, and a request with another magic value is skipped. -/
theorem join_topology_two_slaves :
    ∃ final answers ring, BuildsRing #v[10, 0, 0, 1]
      [⟨[15, 0x12, 0x34], #v[10, 0, 0, 2], true⟩, ⟨[15, 0, 0], #v[10, 0, 0, 9], true⟩,
        ⟨[15, 0x12, 0x34], #v[10, 0, 0, 3], true⟩] final answers ring :=
  join_topology _ _ (by decide) (by decide)

end OpServer
