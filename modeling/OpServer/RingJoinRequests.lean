import OpServer.RingForwarding

/-!
# What a join request does to the master

An iteration of `accept_joins` raises on a request that is too short to read,
and on a valid one when the ring IDs are used up.  In both cases it leaves the
state alone.  A failing `sendall` comes after both assignments: the master keeps
a successor that never learned that it joined.
-/

namespace OpServer

open Python

namespace Master

/-! ## The state after an iteration -/

section Parts

variable (master : Master) (connection : Connection)

theorem joined_ne (peer : IPv4) : master.joined peer ≠ master := by
  intro same
  have counter := congrArg nextSlaveRID same
  rw [joined_nextSlaveRID] at counter
  omega

theorem acceptJoin_changes_iff :
    (master.acceptJoin connection).1 ≠ master ↔
      connection.IsValid ∧ master.nextSlaveRID ≤ 255 := by
  rw [acceptJoin_fst_eq_ite]
  split
  · rename_i joins
    exact iff_of_true (master.joined_ne connection.peer) joins
  · rename_i stays
    exact iff_of_false (fun changed => changed rfl) stays

theorem acceptJoin_nextSlaveRID_le (bounded : master.nextSlaveRID ≤ 256) :
    (master.acceptJoin connection).1.nextSlaveRID ≤ 256 := by
  rw [acceptJoin_fst_eq_ite]
  split
  · rename_i joins
    exact Nat.succ_le_succ joins.2
  · exact bounded

/-- Up to `sendall`, an iteration raises on short requests, and on valid ones
once the ring ID outgrew its byte. -/
theorem acceptJoin_raises_iff (delivers : connection.delivers = true) :
    (∃ raised, (master.acceptJoin connection).2 = .error raised) ↔
      connection.request.length < 3 ∨ connection.IsValid ∧ 255 < master.nextSlaveRID := by
  rcases master.acceptJoin_cases connection with
    ⟨raised, raises, why⟩ | ⟨rejects, enough, invalid⟩ | ⟨joins, valid, room⟩
  · rw [raises]
    exact ⟨fun _ => why, fun _ => ⟨raised, rfl⟩⟩
  · rw [rejects]
    simp [invalid, enough]
  · have enough := valid.enough
    rw [joins, if_pos delivers]
    simp [enough, room]

/-- An iteration that sends no response leaves the state alone, unless it is
`sendall` that fails. -/
theorem acceptJoin_fst_of_failed (delivers : connection.delivers = true)
    (failed : ∀ response, (master.acceptJoin connection).2 ≠ .ok (some response)) :
    (master.acceptJoin connection).1 = master := by
  rcases master.acceptJoin_cases connection with ⟨_, raises, -⟩ | ⟨rejects, -⟩ | ⟨joins, -⟩
  · rw [raises]
  · rw [rejects]
  · rw [joins, if_pos delivers] at failed
    exact absurd rfl (failed _)

end Parts

/-- The counter stops one above the largest ring ID that fits a byte. -/
theorem Reachable.nextSlaveRID_le {lanIP : IPv4} {master : Master}
    (reachable : master.Reachable lanIP) : master.nextSlaveRID ≤ 256 := by
  apply reachable.of_invariant (fun master => master.nextSlaveRID ≤ 256)
  · exact Nat.zero_le 256
  · exact acceptJoin_nextSlaveRID_le

/-- In every reachable state, the received bytes and the counter decide whether
an iteration raises before `sendall`, and which state it leaves. -/
theorem acceptJoin_complete {lanIP : IPv4} {master : Master} (reachable : master.Reachable lanIP)
    (received : List Byte) (peer : IPv4) :
    let iteration := master.acceptJoin ⟨received, peer, true⟩
    let valid := 3 ≤ received.length ∧ slice received 1 3 = [0x12, 0x34]
    master.nextSlaveRID ≤ 256 ∧
    ((∃ raised, iteration.2 = .error raised) ↔
      received.length < 3 ∨ valid ∧ master.nextSlaveRID = 256) ∧
    (iteration.1 ≠ master ↔ valid ∧ master.nextSlaveRID ≤ 255) ∧
    (iteration.1 ≠ master →
      iteration.1.nextSlaveRID = master.nextSlaveRID + 1 ∧ iteration.1.nextSlaveIP = peer) ∧
    ((∃ raised, iteration.2 = .error raised) ∨ iteration.2 = .ok none →
      iteration.1.nextSlaveRID = master.nextSlaveRID ∧
        iteration.1.nextSlaveIP = master.nextSlaveIP) ∧
    ∀ delivers, (master.acceptJoin ⟨received, peer, delivers⟩).1 = iteration.1 := by
  intro iteration valid
  have bounded := reachable.nextSlaveRID_le
  have validIff : (⟨received, peer, true⟩ : Connection).IsValid ↔ valid :=
    ⟨fun isValid => ⟨isValid.enough, isValid⟩, And.right⟩
  refine ⟨bounded, ?_, ?_, fun changed => ?_, fun failed => ?_, fun delivers => ?_⟩
  · rw [← validIff, show master.nextSlaveRID = 256 ↔ 255 < master.nextSlaveRID by omega]
    exact master.acceptJoin_raises_iff _ rfl
  · rw [← validIff]
    exact master.acceptJoin_changes_iff _
  · have joins : iteration.1 = master.joined peer :=
      (master.acceptJoin_fst _).resolve_left changed
    rw [joins]
    exact ⟨rfl, rfl⟩
  · have unchanged : iteration.1 = master := by
      apply master.acceptJoin_fst_of_failed _ rfl
      intro response answered
      change iteration.2 = _ at answered
      rw [answered] at failed
      simp at failed
    rw [unchanged]
    exact ⟨rfl, rfl⟩
  · -- Neither test of an iteration sees what will become of the response.
    rw [acceptJoin_fst_eq_ite, show iteration.1 = _ from acceptJoin_fst_eq_ite master _]
    exact if_congr Iff.rfl rfl rfl

theorem acceptJoin_complete_first_join :
    let iteration := (start #v[10, 0, 0, 1]).acceptJoin ⟨[15, 0x12, 0x34], #v[10, 0, 0, 2], true⟩
    let valid := 3 ≤ ([15, 0x12, 0x34] : List Byte).length ∧
      slice [15, 0x12, 0x34] 1 3 = [0x12, 0x34]
    (start #v[10, 0, 0, 1]).nextSlaveRID ≤ 256 ∧
    ((∃ raised, iteration.2 = .error raised) ↔
      ([15, 0x12, 0x34] : List Byte).length < 3 ∨
        valid ∧ (start #v[10, 0, 0, 1]).nextSlaveRID = 256) ∧
    (iteration.1 ≠ start #v[10, 0, 0, 1] ↔
      valid ∧ (start #v[10, 0, 0, 1]).nextSlaveRID ≤ 255) ∧
    (iteration.1 ≠ start #v[10, 0, 0, 1] →
      iteration.1.nextSlaveRID = (start #v[10, 0, 0, 1]).nextSlaveRID + 1 ∧
        iteration.1.nextSlaveIP = #v[10, 0, 0, 2]) ∧
    ((∃ raised, iteration.2 = .error raised) ∨ iteration.2 = .ok none →
      iteration.1.nextSlaveRID = (start #v[10, 0, 0, 1]).nextSlaveRID ∧
        iteration.1.nextSlaveIP = (start #v[10, 0, 0, 1]).nextSlaveIP) ∧
    ∀ delivers, ((start #v[10, 0, 0, 1]).acceptJoin
      ⟨[15, 0x12, 0x34], #v[10, 0, 0, 2], delivers⟩).1 = iteration.1 :=
  acceptJoin_complete (reachable_start #v[10, 0, 0, 1]) [15, 0x12, 0x34] #v[10, 0, 0, 2]

/-! ## Joins whose response is lost -/

/-- An iteration changes the state only if it sends the response. -/
def AllOrNothing (master : Master) (connection : Connection) : Prop :=
  (master.acceptJoin connection).1 ≠ master →
    ∃ response, (master.acceptJoin connection).2 = .ok (some response)

/-- A valid request in a reachable state is all or nothing if its response gets
through, or if no ring ID is left and none is formed.  A `sendall` that raises
always leaves the state of a join behind. -/
theorem allOrNothing_iff {lanIP : IPv4} {master : Master} (reachable : master.Reachable lanIP)
    {connection : Connection} (valid : connection.IsValid) :
    (master.AllOrNothing connection ↔
      connection.delivers = true ∨ master.nextSlaveRID = 256) ∧
    ((master.acceptJoin connection).2 = .error .socketError ↔
      connection.delivers = false ∧ master.nextSlaveRID ≤ 255) ∧
    ((master.acceptJoin connection).2 = .error .socketError →
      (master.acceptJoin connection).1.nextSlaveRID = master.nextSlaveRID + 1 ∧
        (master.acceptJoin connection).1.nextSlaveIP = connection.peer) := by
  have bounded := reachable.nextSlaveRID_le
  by_cases room : master.nextSlaveRID ≤ 255
  · have changed : master.joined connection.peer ≠ master := master.joined_ne _
    have left : ¬master.nextSlaveRID = 256 := by omega
    rw [AllOrNothing, master.acceptJoin_of_room valid room]
    refine ⟨?_, ?_, fun _ => ⟨rfl, rfl⟩⟩
    · cases connection.delivers <;> simp [changed, left]
    · cases connection.delivers <;> simp [room]
  · have full : master.nextSlaveRID = 256 := by omega
    rw [AllOrNothing, master.acceptJoin_of_full valid (by omega)]
    simp [full]

theorem allOrNothing_iff_first_join :
    ((start #v[10, 0, 0, 1]).AllOrNothing ⟨[15, 0x12, 0x34], #v[10, 0, 0, 2], true⟩ ↔
      (⟨[15, 0x12, 0x34], #v[10, 0, 0, 2], true⟩ : Connection).delivers = true ∨
        (start #v[10, 0, 0, 1]).nextSlaveRID = 256) ∧
    (((start #v[10, 0, 0, 1]).acceptJoin
        ⟨[15, 0x12, 0x34], #v[10, 0, 0, 2], true⟩).2 = .error .socketError ↔
      (⟨[15, 0x12, 0x34], #v[10, 0, 0, 2], true⟩ : Connection).delivers = false ∧
        (start #v[10, 0, 0, 1]).nextSlaveRID ≤ 255) ∧
    (((start #v[10, 0, 0, 1]).acceptJoin
        ⟨[15, 0x12, 0x34], #v[10, 0, 0, 2], true⟩).2 = .error .socketError →
      ((start #v[10, 0, 0, 1]).acceptJoin
          ⟨[15, 0x12, 0x34], #v[10, 0, 0, 2], true⟩).1.nextSlaveRID =
          (start #v[10, 0, 0, 1]).nextSlaveRID + 1 ∧
        ((start #v[10, 0, 0, 1]).acceptJoin
          ⟨[15, 0x12, 0x34], #v[10, 0, 0, 2], true⟩).1.nextSlaveIP = #v[10, 0, 0, 2]) :=
  allOrNothing_iff (reachable_start #v[10, 0, 0, 1]) (by decide)

/-- The first slave disconnects before its response: the master sends to it
from then on. -/
theorem lost_join_moves_target :
    ¬(start #v[10, 0, 0, 1]).AllOrNothing ⟨[15, 0x12, 0x34], #v[10, 0, 0, 2], false⟩ ∧
      ((start #v[10, 0, 0, 1]).acceptJoin ⟨[15, 0x12, 0x34], #v[10, 0, 0, 2], false⟩).2 =
        .error .socketError ∧
      (start #v[10, 0, 0, 1]).target = (#v[10, 0, 0, 1], 10085) ∧
      ((start #v[10, 0, 0, 1]).acceptJoin
        ⟨[15, 0x12, 0x34], #v[10, 0, 0, 2], false⟩).1.target = (#v[10, 0, 0, 2], 10086) := by
  refine ⟨fun allOrNothing => ?_, by decide, by decide, by decide⟩
  obtain ⟨response, sent⟩ := allOrNothing (by decide)
  have raises : ((start #v[10, 0, 0, 1]).acceptJoin
      ⟨[15, 0x12, 0x34], #v[10, 0, 0, 2], false⟩).2 = .error .socketError := by decide
  rw [raises] at sent
  cases sent

end Master

end OpServer
