import OpServer.RingSlave
import Mathlib.Data.List.ReduceOption

/-!
# Runs of the accept thread

What a run of `accept_joins` answers and in which state it leaves the master,
for connections that carry enough bytes and take the response.  Only the valid
requests matter: the others are skipped.
-/

namespace OpServer

open Python

/-- A connection that carries a whole request and takes the response. -/
structure Connection.Completes (connection : Connection) : Prop where
  enough : 3 ≤ connection.request.length
  delivers : connection.delivers = true

instance (connection : Connection) : Decidable connection.Completes :=
  decidable_of_iff (3 ≤ connection.request.length ∧ connection.delivers = true)
    ⟨fun both => ⟨both.1, both.2⟩, fun completes => ⟨completes.enough, completes.delivers⟩⟩

/-- The addresses from which valid requests came, in order. -/
def joiningPeers (connections : List Connection) : List IPv4 :=
  (connections.filter fun connection => connection.IsValid).map Connection.peer

@[simp]
theorem joiningPeers_cons_of_valid {connection : Connection} (valid : connection.IsValid)
    (connections : List Connection) :
    joiningPeers (connection :: connections) = connection.peer :: joiningPeers connections := by
  simp [joiningPeers, valid]

@[simp]
theorem joiningPeers_cons_of_invalid {connection : Connection} (invalid : ¬connection.IsValid)
    (connections : List Connection) :
    joiningPeers (connection :: connections) = joiningPeers connections := by
  simp [joiningPeers, invalid]

theorem joiningPeers_of_valid {connections : List Connection}
    (valid : ∀ connection ∈ connections, connection.IsValid) :
    joiningPeers connections = connections.map Connection.peer := by
  rw [joiningPeers, List.filter_eq_self.mpr fun connection member => by
    simpa using valid connection member]

namespace Master

/-- The state after joins from these addresses. -/
def joinedAll (master : Master) (peers : List IPv4) : Master :=
  peers.foldl joined master

/-- What the connections are answered, one by one. -/
def answers : Master → List Connection → List (Option (List Byte))
  | _, [] => []
  | master, connection :: connections =>
      if connection.IsValid then
        some (joinResponse master.nextSlaveRID master.nextSlaveIP) ::
          answers (master.joined connection.peer) connections
      else
        none :: answers master connections

/-- The responses to joins from these addresses. -/
def responses : Master → List IPv4 → List (List Byte)
  | _, [] => []
  | master, peer :: peers =>
      joinResponse master.nextSlaveRID master.nextSlaveIP :: responses (master.joined peer) peers

theorem run_acceptJoins (master : Master) {connections : List Connection}
    (completes : ∀ connection ∈ connections, connection.Completes)
    (room : master.nextSlaveRID + (joiningPeers connections).length ≤ 256) :
    Stepped.run acceptJoinsStep master connections =
      some (master.joinedAll (joiningPeers connections), master.answers connections) := by
  induction connections generalizing master with
  | nil => rfl
  | cons connection connections ih =>
      have first := completes connection (by simp)
      have later : ∀ connection ∈ connections, connection.Completes :=
        fun connection member => completes connection (by simp [member])
      by_cases valid : connection.IsValid
      · rw [joiningPeers_cons_of_valid valid, List.length_cons] at room
        have stepped := acceptJoinsStep_of_valid valid
          (show master.nextSlaveRID ≤ 255 by omega) first.delivers
        have roomLater : (master.joined connection.peer).nextSlaveRID +
            (joiningPeers connections).length ≤ 256 := by
          rw [joined_nextSlaveRID]
          omega
        rw [Stepped.run_cons_of_step stepped, ih _ later roomLater,
          joiningPeers_cons_of_valid valid, answers, if_pos valid]
        rfl
      · rw [joiningPeers_cons_of_invalid valid] at room ⊢
        have stepped := acceptJoinsStep_of_invalid master first.enough valid
        rw [Stepped.run_cons_of_step stepped, ih master later room, answers, if_neg valid]
        rfl

theorem answers_append (master : Master) (first second : List Connection) :
    master.answers (first ++ second) =
      master.answers first ++ (master.joinedAll (joiningPeers first)).answers second := by
  induction first generalizing master with
  | nil => rfl
  | cons connection first ih =>
      by_cases valid : connection.IsValid
      · rw [List.cons_append, answers, if_pos valid, answers, if_pos valid, ih,
          joiningPeers_cons_of_valid valid]
        rfl
      · rw [List.cons_append, answers, if_neg valid, answers, if_neg valid, ih,
          joiningPeers_cons_of_invalid valid]
        rfl

theorem answers_reduceOption (master : Master) (connections : List Connection) :
    (master.answers connections).reduceOption = master.responses (joiningPeers connections) := by
  induction connections generalizing master with
  | nil => rfl
  | cons connection connections ih =>
      by_cases valid : connection.IsValid
      · rw [answers, if_pos valid, List.reduceOption_cons_of_some, ih,
          joiningPeers_cons_of_valid valid, responses]
      · rw [answers, if_neg valid, List.reduceOption_cons_of_none, ih,
          joiningPeers_cons_of_invalid valid]

theorem answers_isSome (master : Master) (connections : List Connection) :
    (master.answers connections).map Option.isSome =
      connections.map fun connection => decide connection.IsValid := by
  induction connections generalizing master with
  | nil => rfl
  | cons connection connections ih =>
      by_cases valid : connection.IsValid
      · simp [answers, valid, ih]
      · simp [answers, valid, ih]

@[simp]
theorem joinedAll_nextSlaveRID (master : Master) (peers : List IPv4) :
    (master.joinedAll peers).nextSlaveRID = master.nextSlaveRID + peers.length := by
  induction peers generalizing master with
  | nil => rfl
  | cons peer peers ih =>
      rw [joinedAll, List.foldl_cons, ← joinedAll, ih]
      simp
      omega

/-- The master sends to the last slave that joined, or to itself. -/
theorem joinedAll_nextSlaveIP (master : Master) (peers : List IPv4) :
    (master.nextSlaveIP :: peers)[peers.length]? = some (master.joinedAll peers).nextSlaveIP := by
  induction peers generalizing master with
  | nil => rfl
  | cons peer peers ih => exact ih (master.joined peer)

@[simp]
theorem joinedAll_myRingID (master : Master) (peers : List IPv4) :
    (master.joinedAll peers).myRingID = master.myRingID := by
  induction peers generalizing master with
  | nil => rfl
  | cons peer peers ih => exact ih (master.joined peer)

@[simp]
theorem responses_length (master : Master) (peers : List IPv4) :
    (master.responses peers).length = peers.length := by
  induction peers generalizing master with
  | nil => rfl
  | cons peer peers ih => simp [responses, ih]

/-- A slave is given the next ring ID, and the address of the slave before
it. -/
theorem responses_getElem? (master : Master) {peers : List IPv4} {index : Nat}
    (inside : index < peers.length) :
    ∃ address, (master.nextSlaveIP :: peers)[index]? = some address ∧
      (master.responses peers)[index]? =
        some (joinResponse (master.nextSlaveRID + index) address) := by
  induction peers generalizing master index with
  | nil => simp at inside
  | cons peer peers ih =>
      cases index with
      | zero => exact ⟨master.nextSlaveIP, rfl, rfl⟩
      | succ index =>
          obtain ⟨address, found, response⟩ :=
            ih (master.joined peer) (show index < peers.length by simpa using inside)
          refine ⟨address, found, ?_⟩
          rw [responses, List.getElem?_cons_succ, response, joined_nextSlaveRID,
            Nat.add_right_comm, Nat.add_assoc]

end Master

end OpServer
