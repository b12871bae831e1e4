import OpServer.RingDatagrams
import OpServer.RingJoins
import Mathlib.Data.List.Nodup

/-!
# Ports and ring IDs of the members

The master hands out its counter before it increments it.  The first slave is
therefore told ring ID 0, which is the master's own, and the port for which the
master aims lies one above the port of its successor.  Both go wrong as soon as
a slave has joined, and not before.
-/

namespace OpServer

open Python

/-- A run of the accept thread from the start in which every connection makes
a valid request and takes the response. -/
structure ValidJoins (connections : List Connection) : Prop where
  completes : ∀ connection ∈ connections, connection.Completes
  valid : ∀ connection ∈ connections, connection.IsValid

theorem ValidJoins.run {connections : List Connection} (joins : ValidJoins connections)
    (room : connections.length ≤ 256) (lanIP : IPv4) :
    Stepped.run Master.acceptJoinsStep (Master.start lanIP) connections =
      some ((Master.start lanIP).joinedAll (connections.map Connection.peer),
        (Master.start lanIP).answers connections) := by
  rw [Master.run_acceptJoins _ joins.completes (by
    rw [joiningPeers_of_valid joins.valid, List.length_map]
    simpa [Master.start] using room), joiningPeers_of_valid joins.valid]

/-! ## The port of the successor -/

/-- The address and the port to which `send_message_prompt` and
`recv_forward_message` send. -/
def Master.target (master : Master) : IPv4 × Nat :=
  (master.nextSlaveIP, master.calculateTargetPort)

/-- The address and the port at which the successor of the master listens: the
slave of the last join, on the port that it computes from its response, or the
master itself. -/
def successor (uninitialised : Vector Byte 8) (start : Master) (connections : List Connection)
    (answers : List (Option (List Byte))) : IPv4 × Nat :=
  match connections.getLast?, answers.getLast? with
  | some connection, some (some response) =>
      (connection.peer, (RingInfo.received uninitialised response).portNum)
  | _, _ => (start.nextSlaveIP, start.calculateMyPort)

theorem portNum_joinResponse (uninitialised : Vector Byte 8) {nextSlaveRID : Nat}
    (room : nextSlaveRID ≤ 255) (nextSlaveIP : IPv4) :
    (RingInfo.received uninitialised (Master.joinResponse nextSlaveRID nextSlaveIP)).portNum =
      10085 + nextSlaveRID := by
  obtain ⟨mastGID, rID⟩ := Master.received_joinResponse uninitialised nextSlaveRID nextSlaveIP
  rw [RingInfo.portNum, mastGID, rID, BitVec.toNat_ofNat, Nat.mod_eq_of_lt (by omega)]
  rfl

/-- The master sends to its successor only before the first join. -/
theorem target_eq_successor_iff (lanIP : IPv4) (uninitialised : Vector Byte 8)
    {connections : List Connection} (joins : ValidJoins connections)
    (room : connections.length < 256) :
    ∃ final answers,
      Stepped.run Master.acceptJoinsStep (Master.start lanIP) connections =
        some (final, answers) ∧
      (final.target = successor uninitialised (Master.start lanIP) connections answers ↔
        connections = []) := by
  refine ⟨_, _, joins.run room.le lanIP, ?_⟩
  rcases List.eq_nil_or_concat connections with rfl | ⟨earlier, last, rfl⟩
  · exact iff_of_true rfl rfl
  · have lastValid : last.IsValid := joins.valid last (by simp)
    have earlierValid : ∀ connection ∈ earlier, connection.IsValid :=
      fun connection member => joins.valid connection (by simp [member])
    rw [List.concat_eq_append, List.length_append, List.length_singleton] at room
    refine iff_of_false (fun same => ?_) (by simp)
    -- The slave was told the counter that the master has incremented since.
    have ports := congrArg Prod.snd same
    rw [List.concat_eq_append, Master.answers_append, joiningPeers_of_valid earlierValid,
      Master.answers, if_pos lastValid, Master.answers, successor, List.getLast?_concat,
      List.getLast?_concat] at ports
    simp only [Master.target, Master.calculateTargetPort, Master.joinedAll_nextSlaveRID,
      List.length_map, List.length_append, List.length_singleton] at ports
    rw [portNum_joinResponse _ (by simp [Master.start]; omega)] at ports
    simp [Master.start, MASTER_ID] at ports

theorem target_eq_successor_iff_one_join :
    ∃ final answers,
      Stepped.run Master.acceptJoinsStep (Master.start #v[10, 0, 0, 1])
          [⟨[15, 0x12, 0x34], #v[10, 0, 0, 2], true⟩] = some (final, answers) ∧
      (final.target = successor (Vector.replicate 8 0) (Master.start #v[10, 0, 0, 1])
          [⟨[15, 0x12, 0x34], #v[10, 0, 0, 2], true⟩] answers ↔
        [(⟨[15, 0x12, 0x34], #v[10, 0, 0, 2], true⟩ : Connection)] = []) :=
  target_eq_successor_iff _ _ ⟨by decide, by decide⟩ (by decide)

/-- One slave on the master's own host: the master sends to port 10086, and the
slave listens on port 10085. -/
theorem target_misses_first_slave :
    ¬∀ (lanIP : IPv4) (uninitialised : Vector Byte 8) (connections : List Connection),
      ValidJoins connections → connections.length < 256 → ∃ final answers,
        Stepped.run Master.acceptJoinsStep (Master.start lanIP) connections =
          some (final, answers) ∧
        final.target = successor uninitialised (Master.start lanIP) connections answers := by
  intro claim
  obtain ⟨final, answers, ran, same⟩ := claim #v[10, 0, 0, 1] (Vector.replicate 8 0)
    [⟨[15, 0x12, 0x34], #v[10, 0, 0, 1], true⟩] ⟨by decide, by decide⟩ (by decide)
  have handled : Stepped.run Master.acceptJoinsStep (Master.start #v[10, 0, 0, 1])
      [⟨[15, 0x12, 0x34], #v[10, 0, 0, 1], true⟩] =
      some (⟨0, 1, #v[10, 0, 0, 1]⟩, [some [15, 0x12, 0x34, 0, 10, 0, 0, 1]]) := by
    decide +kernel
  rw [handled] at ran
  cases ran
  exact absurd same (by decide +kernel)

/-! ## The recipients of a datagram -/

/-- The master takes a datagram as addressed to itself.  It receives 71 bytes of it. -/
def Master.takes (master : Master) (datagram : List Byte) : Bool :=
  let data := datagram.take 71
  Master.verifyChecksum data && master.iAmRecipient data == .ok true

/-- A C slave takes a datagram as addressed to itself.  It receives 74 bytes of it. -/
def RingInfo.takes (theRing : RingInfo) (datagram : List Byte) : Bool :=
  let recMsg := datagram.take 74
  RingInfo.checksum recMsg == 0 && recMsg[4]? == some theRing.rID

/-- The slaves of a run, each with the ring it builds from its response. -/
def slaves (uninitialised : Vector Byte 8) (answers : List (Option (List Byte))) :
    List RingInfo :=
  answers.reduceOption.map (RingInfo.received uninitialised)

/-- How many members take a datagram as addressed to themselves. -/
def recipients (master : Master) (slaves : List RingInfo) (datagram : List Byte) : Nat :=
  (master.takes datagram).toNat + slaves.countP fun theRing => theRing.takes datagram

/-- The ring IDs of all members, the master's first. -/
def memberIDs (master : Master) (slaves : List RingInfo) : List Nat :=
  master.myRingID :: slaves.map fun theRing => theRing.rID.toNat

theorem slaves_rID (uninitialised : Vector Byte 8) (master : Master)
    (connections : List Connection) (room : master.nextSlaveRID +
      (joiningPeers connections).length ≤ 256) :
    (slaves uninitialised (master.answers connections)).map (fun theRing => theRing.rID.toNat) =
      List.range' master.nextSlaveRID (joiningPeers connections).length := by
  rw [slaves, master.answers_reduceOption]
  generalize joiningPeers connections = peers at room
  induction peers generalizing master with
  | nil => rfl
  | cons peer peers ih =>
      rw [List.length_cons] at room
      rw [Master.responses, List.map_cons, List.map_cons, ih (master.joined peer) (by
        rw [Master.joined_nextSlaveRID]
        omega), List.length_cons, List.range'_succ,
        (Master.received_joinResponse uninitialised _ _).2, BitVec.toNat_ofNat,
        Nat.mod_eq_of_lt (by omega)]
      rfl

theorem Master.takes_eq (master : Master) {datagram : List Byte} {destination : Byte}
    (addressed : datagram[4]? = some destination) :
    master.takes datagram =
      (Master.verifyChecksum (datagram.take 71) && master.myRingID == destination.toNat) := by
  have received : (datagram.take 71)[4]? = some destination := by
    rw [List.getElem?_take, if_pos (by decide), addressed]
  have same : (master.iAmRecipient (datagram.take 71) == .ok true) =
      (master.myRingID == destination.toNat) := by
    rw [master.iAmRecipient_eq received, Bool.eq_iff_iff, beq_iff_eq, Except.ok.injEq,
      beq_iff_eq, beq_iff_eq]
    exact eq_comm
  rw [takes, same]

theorem RingInfo.takes_eq (theRing : RingInfo) {datagram : List Byte} {destination : Byte}
    (addressed : datagram[4]? = some destination) :
    theRing.takes datagram =
      (Master.verifyChecksum (datagram.take 74) && theRing.rID.toNat == destination.toNat) := by
  have received : (datagram.take 74)[4]? = some destination := by
    rw [List.getElem?_take, if_pos (by decide), addressed]
  have valid : (RingInfo.checksum (datagram.take 74) == 0) =
      Master.verifyChecksum (datagram.take 74) := by
    rw [Bool.eq_iff_iff, beq_iff_eq]
    exact checksum_eq_zero_iff _
  have same : (some destination == some theRing.rID) =
      (theRing.rID.toNat == destination.toNat) := by
    rw [Bool.eq_iff_iff, beq_iff_eq, beq_iff_eq, Option.some.injEq, BitVec.toNat_inj]
    exact eq_comm
  rw [takes, received, valid, same]

/-- A datagram has no more recipients than members have its destination for their ring
ID, and as many if it has a good checksum and is received whole. -/
theorem recipients_le_count (master : Master) (slaves : List RingInfo) {datagram : List Byte}
    {destination : Byte} (addressed : datagram[4]? = some destination) :
    recipients master slaves datagram ≤ (memberIDs master slaves).count destination.toNat ∧
      (Master.verifyChecksum datagram → datagram.length ≤ 71 →
        recipients master slaves datagram =
          (memberIDs master slaves).count destination.toNat) := by
  have own : (memberIDs master slaves).count destination.toNat =
      (master.myRingID == destination.toNat).toNat +
        slaves.countP fun theRing => theRing.rID.toNat == destination.toNat := by
    rw [memberIDs, List.count_cons, List.count, List.countP_map, Nat.add_comm]
    cases master.myRingID == destination.toNat <;> rfl
  rw [own]
  constructor
  · refine Nat.add_le_add ?_ (List.countP_mono_left fun theRing _ takes => ?_)
    · rw [master.takes_eq addressed]
      exact Bool.toNat_le_toNat (fun both => (Bool.and_eq_true_iff.mp both).2)
    · rw [theRing.takes_eq addressed] at takes
      exact (Bool.and_eq_true_iff.mp takes).2
  · intro checked short
    have whole (limit : Nat) (enough : 71 ≤ limit) : datagram.take limit = datagram :=
      List.take_of_length_le (by omega)
    rw [recipients, master.takes_eq addressed, whole 71 (by decide), checked, Bool.true_and]
    congr 1
    refine List.countP_congr fun theRing _ => ?_
    rw [theRing.takes_eq addressed, whole 74 (by decide), checked, Bool.true_and]

theorem memberIDs_run (lanIP : IPv4) (uninitialised : Vector Byte 8)
    {connections : List Connection} (joins : ValidJoins connections)
    (room : connections.length ≤ 256) :
    memberIDs ((Master.start lanIP).joinedAll (connections.map Connection.peer))
        (slaves uninitialised ((Master.start lanIP).answers connections)) =
      0 :: List.range connections.length := by
  have peers := joiningPeers_of_valid joins.valid
  rw [memberIDs, slaves_rID, Master.joinedAll_myRingID, peers, List.length_map,
    List.range_eq_range']
  · rfl
  · rw [peers, List.length_map]
    simpa [Master.start] using room

/-- A datagram to ring ID 0, from nobody. -/
def datagramToZero : List Byte := [15, 0x12, 0x34, 255, 0, 0, 72, 105, 248]

/-- Ring IDs are unique, and datagrams have at most one recipient, only before the first
join; later every datagram to ring ID 0 that is received whole has two. -/
theorem recipients_le_one_iff (lanIP : IPv4) (uninitialised : Vector Byte 8)
    {connections : List Connection} (joins : ValidJoins connections)
    (room : connections.length ≤ 256) :
    ∃ final answers,
      Stepped.run Master.acceptJoinsStep (Master.start lanIP) connections =
        some (final, answers) ∧
      (∀ destination : Byte,
        (∀ datagram : List Byte, Master.verifyChecksum datagram →
          datagram[4]? = some destination →
          recipients final (slaves uninitialised answers) datagram ≤ 1) ↔
        connections = [] ∨ destination ≠ 0) ∧
      (∀ (datagram : List Byte) (destination : Byte), datagram.length ≤ 71 →
        Master.verifyChecksum datagram → datagram[4]? = some destination →
        (recipients final (slaves uninitialised answers) datagram ≤ 1 ↔
          connections = [] ∨ destination ≠ 0)) ∧
      ((memberIDs final (slaves uninitialised answers)).Nodup ↔ connections = []) := by
  let final := (Master.start lanIP).joinedAll (connections.map Connection.peer)
  let ring := slaves uninitialised ((Master.start lanIP).answers connections)
  have members : memberIDs final ring = 0 :: List.range connections.length :=
    memberIDs_run lanIP uninitialised joins room
  have counts (destination : Byte) : (memberIDs final ring).count destination.toNat ≤ 1 ↔
      connections = [] ∨ destination ≠ 0 := by
    rw [members, List.count_cons]
    have unique : (List.range connections.length).count destination.toNat ≤ 1 :=
      List.nodup_iff_count_le_one.mp List.nodup_range destination.toNat
    by_cases zero : destination = 0
    · subst zero
      cases connections with
      | nil => simp
      | cons connection connections =>
          rw [List.length_cons, List.range_succ_eq_map, List.count_cons]
          simp
    · have notMaster : ¬(0 == destination.toNat) = true := fun same =>
        zero (BitVec.eq_of_toNat_eq (beq_iff_eq.mp same).symm)
      rw [if_neg notMaster, Nat.add_zero]
      exact iff_of_true unique (Or.inr zero)
  have whole (datagram : List Byte) (destination : Byte) (short : datagram.length ≤ 71)
      (checked : Master.verifyChecksum datagram) (addressed : datagram[4]? = some destination) :
      recipients final ring datagram ≤ 1 ↔ connections = [] ∨ destination ≠ 0 := by
    rw [(recipients_le_count final ring addressed).2 checked short]
    exact counts destination
  refine ⟨final, _, joins.run room lanIP, fun destination => ⟨fun atMostOne => ?_, ?_⟩, whole, ?_⟩
  · by_cases zero : destination = 0
    · subst zero
      have checked : Master.verifyChecksum datagramToZero := by decide +kernel
      exact (whole datagramToZero 0 (by decide) checked rfl).mp
        (atMostOne datagramToZero checked rfl)
    · exact Or.inr zero
  · intro spared datagram _ addressed
    exact (recipients_le_count final ring addressed).1.trans ((counts destination).mpr spared)
  · change (memberIDs final ring).Nodup ↔ _
    rw [members, List.nodup_cons, List.mem_range, List.length_pos_iff]
    simp [List.nodup_range]

theorem recipients_le_one_iff_one_join :
    ∃ final answers,
      Stepped.run Master.acceptJoinsStep (Master.start #v[10, 0, 0, 1])
          [⟨[15, 0x12, 0x34], #v[10, 0, 0, 2], true⟩] = some (final, answers) ∧
      (∀ destination : Byte,
        (∀ datagram : List Byte, Master.verifyChecksum datagram →
          datagram[4]? = some destination →
          recipients final (slaves (Vector.replicate 8 0) answers) datagram ≤ 1) ↔
        [(⟨[15, 0x12, 0x34], #v[10, 0, 0, 2], true⟩ : Connection)] = [] ∨ destination ≠ 0) ∧
      (∀ (datagram : List Byte) (destination : Byte), datagram.length ≤ 71 →
        Master.verifyChecksum datagram → datagram[4]? = some destination →
        (recipients final (slaves (Vector.replicate 8 0) answers) datagram ≤ 1 ↔
          [(⟨[15, 0x12, 0x34], #v[10, 0, 0, 2], true⟩ : Connection)] = [] ∨ destination ≠ 0)) ∧
      ((memberIDs final (slaves (Vector.replicate 8 0) answers)).Nodup ↔
        [(⟨[15, 0x12, 0x34], #v[10, 0, 0, 2], true⟩ : Connection)] = []) :=
  recipients_le_one_iff _ _ ⟨by decide, by decide⟩ (by decide)

/-- With one slave in the ring, a datagram to ring ID 0 has two recipients. -/
theorem recipients_of_ring_id_zero :
    ¬∀ (lanIP : IPv4) (uninitialised : Vector Byte 8) (connections : List Connection),
      ValidJoins connections → connections.length ≤ 256 → ∃ final answers,
        Stepped.run Master.acceptJoinsStep (Master.start lanIP) connections =
          some (final, answers) ∧
        ∀ (datagram : List Byte) (destination : Byte), Master.verifyChecksum datagram →
          datagram[4]? = some destination →
          recipients final (slaves uninitialised answers) datagram ≤ 1 := by
  intro claim
  obtain ⟨final, answers, ran, unique⟩ := claim #v[10, 0, 0, 1] (Vector.replicate 8 0)
    [⟨[15, 0x12, 0x34], #v[10, 0, 0, 2], true⟩] ⟨by decide, by decide⟩ (by decide)
  have handled : Stepped.run Master.acceptJoinsStep (Master.start #v[10, 0, 0, 1])
      [⟨[15, 0x12, 0x34], #v[10, 0, 0, 2], true⟩] =
      some (⟨0, 1, #v[10, 0, 0, 2]⟩, [some [15, 0x12, 0x34, 0, 10, 0, 0, 1]]) := by
    decide +kernel
  rw [handled] at ran
  cases ran
  have once := unique datagramToZero 0 (by decide +kernel) rfl
  exact absurd once (by decide +kernel)

end OpServer
