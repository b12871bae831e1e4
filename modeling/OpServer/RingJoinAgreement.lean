import OpServer.RingJoinSystem
import Mathlib.Data.List.Nodup

/-!
# What the slaves of a ring agree on

Whoever joins, in whatever order and with whatever cut off, the master counts the
joins, and a slave that receives a whole response learns the number of its own
join and the address of the join before it.  So no two slaves have the same ring
ID, and their pointers lead back to the master.
-/

namespace OpServer

open Python

/-! ## One connection -/

theorem Master.unpackRequest_ne_socketError (recData : List Byte) :
    Master.unpackRequest recData ≠ .error .socketError := by
  intro failed
  unfold Master.unpackRequest at failed
  rcases bind_eq_error_iff.mp failed with first | ⟨_, -, failed⟩
  · cases item_eq_error first
  rcases bind_eq_error_iff.mp failed with first | ⟨_, -, failed⟩
  · cases unpack_eq_error first
  rcases bind_eq_error_iff.mp failed with first | ⟨_, -, returned⟩
  · cases unpack_eq_error first
  · cases returned

/-- The peer of a connection that moved the master's counter: it was sent a
response, or sending that failed. -/
def joinedPeer {σ : Type*} : Option (JoinEvent σ) → Option IPv4
  | some (.handled peer (.ok (some _))) => some peer
  | some (.handled peer (.error .socketError)) => some peer
  | _ => none

/-- The peers of all connections that moved the counter. -/
def joinedPeers {σ : Type*} (trace : List (Option (JoinEvent σ))) : List IPv4 :=
  trace.filterMap joinedPeer

theorem joinedPeers_append {σ : Type*} (trace : List (Option (JoinEvent σ)))
    (event : Option (JoinEvent σ)) :
    joinedPeers (trace ++ [event]) = joinedPeers trace ++ (joinedPeer event).toList := by
  rw [joinedPeers, List.filterMap_append, List.filterMap_cons]
  cases joinedPeer event <;> rfl

/-- A connection leaves the master as it is, without a response, or makes it count
one more join, with the response of that join unless it gets lost. -/
theorem Master.acceptJoin_joinedPeer {σ : Type*} (master : Master) (connection : Connection) :
    ((master.acceptJoin connection).1 = master ∧
      JoinSystem.responseBytes (master.acceptJoin connection).2 = [] ∧
      joinedPeer (some (JoinEvent.handled (σ := σ) connection.peer
        (master.acceptJoin connection).2)) = none) ∨
    (master.nextSlaveRID ≤ 255 ∧
      (master.acceptJoin connection).1 = master.joined connection.peer ∧
      (JoinSystem.responseBytes (master.acceptJoin connection).2 = [] ∨
        JoinSystem.responseBytes (master.acceptJoin connection).2 =
          joinResponse master.nextSlaveRID master.nextSlaveIP) ∧
      joinedPeer (some (JoinEvent.handled (σ := σ) connection.peer
        (master.acceptJoin connection).2)) = some connection.peer) := by
  rcases master.acceptJoin_cases connection with
    ⟨raised, raises, short | ⟨valid, full⟩⟩ | ⟨rejects, -, -⟩ | ⟨joins, valid, room⟩
  · -- Such an exception does not come from the socket.
    have other : raised ≠ .socketError := by
      rintro rfl
      obtain ⟨unread, failed⟩ := @unpackRequest_of_short (connection.request.take BUFF_SIZE) (by
        rw [List.length_take]
        omega)
      simp only [acceptJoin, failed, Prod.mk.injEq, Except.error.injEq, true_and] at raises
      rw [raises] at failed
      exact unpackRequest_ne_socketError _ failed
    rw [raises]
    refine .inl ⟨rfl, rfl, ?_⟩
    cases raised with
    | socketError => exact absurd rfl other
    | indexError => rfl
    | keyError => rfl
    | valueError => rfl
    | structError => rfl
  · rw [master.acceptJoin_of_full valid full]
    exact .inl ⟨rfl, rfl, rfl⟩
  · rw [rejects]
    exact .inl ⟨rfl, rfl, rfl⟩
  · rw [joins]
    refine .inr ⟨room, rfl, ?_⟩
    cases connection.delivers with
    | true => exact ⟨.inr rfl, rfl⟩
    | false => exact ⟨.inl rfl, rfl⟩

theorem Master.joinedAll_concat (master : Master) (peers : List IPv4) (peer : IPv4) :
    master.joinedAll (peers ++ [peer]) = (master.joinedAll peers).joined peer :=
  List.foldl_append

/-! ## Tickets -/

/-- A response that tells a slave the number of its own join, and the address of
the join before it or of the master. -/
def IsTicket (lanIP : IPv4) (peers : List IPv4) (peer : IPv4) (response : List Byte) : Prop :=
  ∃ join nextSlaveIP, response = Master.joinResponse join nextSlaveIP ∧
    peers[join]? = some peer ∧ (lanIP :: peers)[join]? = some nextSlaveIP

theorem getElem?_append_of_some {α : Type*} {first : List α} {index : Nat} {element : α}
    (found : first[index]? = some element) (second : List α) :
    (first ++ second)[index]? = some element := by
  obtain ⟨inside, -⟩ := List.getElem?_eq_some_iff.mp found
  rw [List.getElem?_append_left inside, found]

theorem IsTicket.append {lanIP peer : IPv4} {peers : List IPv4} {response : List Byte}
    (ticket : IsTicket lanIP peers peer response) (later : List IPv4) :
    IsTicket lanIP (peers ++ later) peer response := by
  obtain ⟨join, nextSlaveIP, same, own, next⟩ := ticket
  refine ⟨join, nextSlaveIP, same, getElem?_append_of_some own later, ?_⟩
  rw [← List.cons_append]
  exact getElem?_append_of_some next later

/-- The ring ID in a response, if it has one. -/
def ringIDOf (response : List Byte) : Option Nat :=
  response[3]?.map BitVec.toNat

theorem ringIDOf_joinResponse {join : Nat} (small : join ≤ 255) (nextSlaveIP : IPv4) :
    ringIDOf (Master.joinResponse join nextSlaveIP) = some join := by
  have byte : (Master.joinResponse join nextSlaveIP)[3]? = some (BitVec.ofNat 8 join) := rfl
  rw [ringIDOf, byte, Option.map_some, BitVec.toNat_ofNat, Nat.mod_eq_of_lt (by omega)]

theorem ringIDOf_take (response : List Byte) (count : Nat) :
    ringIDOf (response.take count) = if 3 < count then ringIDOf response else none := by
  rw [ringIDOf, List.getElem?_take]
  split <;> rfl

/-! ## What `slave.c` reads -/

/-- `slave.c` reads the group ID and the ring ID where their bytes have come, and
otherwise what its array held. -/
theorem received_of_firstBytes {response : List Byte} {join : Nat} {nextSlaveIP : IPv4}
    (part : response <+: Master.joinResponse join nextSlaveIP) (uninitialised : Vector Byte 8) :
    (response ≠ [] → (RingInfo.received uninitialised response).mastGID = 15) ∧
      (RingInfo.received uninitialised response).rID =
        if 4 ≤ response.length then BitVec.ofNat 8 join else uninitialised[3]! := by
  have cell (index : Nat) (inside : index < 8) :
      (Buffer.overwrite uninitialised response)[index]! =
        response.getD index uninitialised[index] :=
    (getElem!_pos (Buffer.overwrite uninitialised response) index inside).trans
      (Buffer.getElem_overwrite _ _ index inside)
  have arrived (index : Nat) (inside : index < response.length) (own : Byte) :
      response.getD index own = (Master.joinResponse join nextSlaveIP).getD index own := by
    rw [List.getD_eq_getElem?_getD, List.getD_eq_getElem?_getD, List.getElem?_eq_getElem inside,
      List.prefix_iff_getElem?.mp part index inside]
  constructor
  · intro something
    refine (cell 0 (by decide)).trans ?_
    exact arrived 0 (List.length_pos_of_ne_nil something) _
  · refine (cell 3 (by decide)).trans ?_
    split
    · rename_i enough
      exact arrived 3 enough _
    · rename_i few
      rw [List.getD_eq_getElem?_getD, List.getElem?_eq_none (by omega)]
      rfl

theorem received_nextSlave (uninitialised : Vector Byte 8) (join : Nat) (nextSlaveIP : IPv4) :
    (RingInfo.received uninitialised (Master.joinResponse join nextSlaveIP)).nextSlave =
      nextSlaveIP := by
  have cell (index : Nat) (inside : index < 4) :
      (Buffer.overwrite uninitialised (Master.joinResponse join nextSlaveIP))[4 + index]! =
        nextSlaveIP[index] := by
    rw [getElem!_pos (Buffer.overwrite uninitialised _) (4 + index) (by omega),
      Buffer.getElem_overwrite_of_lt _ _ _ _ (by rw [Master.length_joinResponse]; omega)]
    simp [Master.joinResponse, Nat.add_comm 4 index]
  apply Vector.ext
  intro index inside
  rw [← cell index inside]
  have cells : index = 0 ∨ index = 1 ∨ index = 2 ∨ index = 3 := by omega
  rcases cells with rfl | rfl | rfl | rfl <;> rfl

namespace JoinSystem

variable {σ : Type*}

/-- The ring IDs in responses that no slave has received yet. -/
def openIDs (system : JoinSystem σ) : List Nat :=
  system.responses.filterMap fun response => ringIDOf response.2

theorem openIDs_cons (system : JoinSystem σ) (requests : List (σ × List Byte)) (slave : σ)
    (response : List Byte) :
    openIDs { system with requests := requests
                          responses := (slave, response) :: system.responses } =
      (ringIDOf response).toList ++ system.openIDs := by
  simp only [openIDs, List.filterMap_cons]
  cases ringIDOf response <;> rfl

/-- The ring ID among the bytes that a slave receives. -/
def receivedID : Option (JoinEvent σ) → Option Nat
  | some (.received _ response) => ringIDOf response
  | _ => none

/-- The ring IDs that slaves have received. -/
def receivedIDs (trace : List (Option (JoinEvent σ))) : List Nat :=
  trace.filterMap receivedID

theorem receivedIDs_append (trace : List (Option (JoinEvent σ)))
    (event : Option (JoinEvent σ)) :
    receivedIDs (trace ++ [event]) = receivedIDs trace ++ (receivedID event).toList := by
  rw [receivedIDs, List.filterMap_append, List.filterMap_cons]
  cases receivedID event <;> rfl

/-! ## The invariant -/

/-- The master has counted the joins so far, and every response is the ticket of one
of them, whole on its way and cut off or not when it is received. -/
structure Invariant (lanIP : IPv4) (address : σ → IPv4) (system : JoinSystem σ)
    (trace : List (Option (JoinEvent σ))) : Prop where
  addresses : ∀ slave, (system.slaves slave).address = address slave
  requests : ∀ slave request, (slave, request) ∈ system.requests → request = [15, 0x12, 0x34]
  master : system.master = (Master.start lanIP).joinedAll (joinedPeers trace)
  room : (joinedPeers trace).length ≤ 256
  responses : ∀ slave response, (slave, response) ∈ system.responses →
    response = [] ∨ IsTicket lanIP (joinedPeers trace) (address slave) response
  received : ∀ slave response, some (.received slave response) ∈ trace → response ≠ [] →
    ∃ ticket, IsTicket lanIP (joinedPeers trace) (address slave) ticket ∧ response <+: ticket
  counted : ∀ ringID ∈ system.openIDs ++ receivedIDs trace, ringID < (joinedPeers trace).length
  distinct : (system.openIDs ++ receivedIDs trace).Nodup

namespace Invariant

variable {lanIP : IPv4} {address : σ → IPv4} {system next : JoinSystem σ}
  {trace : List (Option (JoinEvent σ))}

theorem start (lanIP : IPv4) (program : σ → SlaveProgram) (address : σ → IPv4) :
    Invariant lanIP address (JoinSystem.start lanIP program address) [] where
  addresses := fun _ => rfl
  requests := fun _ _ impossible => by cases impossible
  master := rfl
  room := Nat.zero_le 256
  responses := fun _ _ impossible => by cases impossible
  received := fun _ _ impossible => by cases impossible
  counted := fun _ impossible => by cases impossible
  distinct := List.nodup_nil

theorem counter (invariant : Invariant lanIP address system trace) :
    system.master.nextSlaveRID = (joinedPeers trace).length := by
  rw [invariant.master, Master.joinedAll_nextSlaveRID]
  exact Nat.zero_add _

theorem last (invariant : Invariant lanIP address system trace) :
    (lanIP :: joinedPeers trace)[(joinedPeers trace).length]? = some system.master.nextSlaveIP := by
  rw [invariant.master]
  exact (Master.start lanIP).joinedAll_nextSlaveIP (joinedPeers trace)

theorem silent (invariant : Invariant lanIP address system trace) {event : Option (JoinEvent σ)}
    (uncounted : joinedPeer event = none)
    (unreceived : ∀ slave response, event ≠ some (.received slave response)) :
    Invariant lanIP address system (trace ++ [event]) := by
  have peers : joinedPeers (trace ++ [event]) = joinedPeers trace := by
    rw [joinedPeers_append, uncounted]
    exact List.append_nil _
  have known : receivedIDs (trace ++ [event]) = receivedIDs trace := by
    have nothing : receivedID event = none := by
      rcases event with _ | _ | ⟨slave, response⟩
      case some.received => exact absurd rfl (unreceived slave response)
      all_goals rfl
    rw [receivedIDs_append, nothing]
    exact List.append_nil _
  constructor
  case addresses => exact invariant.addresses
  case requests => exact invariant.requests
  case master => rw [peers]; exact invariant.master
  case room => rw [peers]; exact invariant.room
  case responses => rw [peers]; exact invariant.responses
  case received =>
    intro slave response member
    rw [peers]
    rcases List.mem_append.mp member with earlier | now
    · exact invariant.received slave response earlier
    · exact absurd (List.mem_singleton.mp now).symm (unreceived slave response)
  case counted => rw [peers, known]; exact invariant.counted
  case distinct => rw [known]; exact invariant.distinct

theorem connect (invariant : Invariant lanIP address system trace) (slave : σ) :
    Invariant lanIP address
      { system with requests := (slave, [15, 0x12, 0x34]) :: system.requests }
      (trace ++ [none]) := by
  have unchanged : Invariant lanIP address system (trace ++ [none]) :=
    invariant.silent rfl fun _ _ impossible => by cases impossible
  refine { unchanged with requests := ?_ }
  intro other request member
  rcases List.mem_cons.mp member with same | earlier
  · cases same
    rfl
  · exact invariant.requests other request earlier

theorem acceptJoin (invariant : Invariant lanIP address system trace) (connection : Connection) :
    let handled := system.acceptJoin connection
    let event := some (JoinEvent.handled connection.peer handled.2)
    Invariant lanIP address handled.1 (trace ++ [event]) ∧
      (responseBytes handled.2 = [] ∨
        responseBytes handled.2 = Master.joinResponse (joinedPeers trace).length
          system.master.nextSlaveIP ∧
        (joinedPeers trace).length ≤ 255 ∧
        joinedPeers (trace ++ [event]) = joinedPeers trace ++ [connection.peer]) := by
  intro handled event
  have unreceived : receivedIDs (trace ++ [event]) = receivedIDs trace := by
    rw [receivedIDs_append]
    exact List.append_nil _
  have earlier (slave : σ) (response : List Byte)
      (member : some (JoinEvent.received slave response) ∈ trace ++ [event]) :
      some (JoinEvent.received slave response) ∈ trace := by
    simpa [event] using member
  have counter := invariant.counter
  rcases system.master.acceptJoin_joinedPeer (σ := σ) connection with
    ⟨same, lost, uncounted⟩ | ⟨room, joins, answered, counts⟩
  · have unchanged := invariant.silent uncounted fun _ _ impossible => by cases impossible
    exact ⟨{ unchanged with master := same.trans unchanged.master }, .inl lost⟩
  · have peers : joinedPeers (trace ++ [event]) = joinedPeers trace ++ [connection.peer] := by
      rw [joinedPeers_append]
      change _ ++ (joinedPeer (some (JoinEvent.handled connection.peer
        (system.master.acceptJoin connection).2))).toList = _
      rw [counts]
      rfl
    rw [counter] at room answered
    refine ⟨?_, answered.imp_right fun ticket => ⟨ticket, room, peers⟩⟩
    constructor
    case addresses => exact invariant.addresses
    case requests => exact invariant.requests
    case master =>
      rw [peers, Master.joinedAll_concat, ← invariant.master]
      exact joins
    case room =>
      rw [peers, List.length_append, List.length_singleton]
      omega
    case responses =>
      intro slave response member
      rw [peers]
      exact (invariant.responses slave response member).imp_right fun ticket => ticket.append _
    case received =>
      intro slave response member something
      rw [peers]
      obtain ⟨ticket, own, part⟩ :=
        invariant.received slave response (earlier _ _ member) something
      exact ⟨ticket, own.append _, part⟩
    case counted =>
      intro ringID member
      rw [unreceived] at member
      rw [peers, List.length_append, List.length_singleton]
      exact Nat.lt_succ_of_lt (invariant.counted ringID member)
    case distinct =>
      rw [unreceived]
      exact invariant.distinct

theorem respond {peer : IPv4} {slave : σ} {response : List Byte}
    {outcome : Except PythonError (Option (List Byte))}
    (invariant : Invariant lanIP address next (trace ++ [some (.handled peer outcome)]))
    (answer : response = [] ∨ ∃ join nextSlaveIP, join ≤ 255 ∧
      response = Master.joinResponse join nextSlaveIP ∧
      IsTicket lanIP (joinedPeers (trace ++ [some (.handled peer outcome)])) (address slave)
        response ∧
      join < (joinedPeers (trace ++ [some (.handled peer outcome)])).length ∧
      join ∉ next.openIDs ++ receivedIDs (trace ++ [some (.handled peer outcome)]))
    {requests : List (σ × List Byte)} (fewer : requests ⊆ next.requests) :
    Invariant lanIP address
      { next with requests := requests, responses := (slave, response) :: next.responses }
      (trace ++ [some (.handled peer outcome)]) where
  addresses := invariant.addresses
  requests := fun slave request member => invariant.requests slave request (fewer member)
  master := invariant.master
  room := invariant.room
  responses := by
    intro other sent member
    rcases List.mem_cons.mp member with same | earlier
    · cases same
      rcases answer with empty | ⟨join, nextSlaveIP, -, -, ticket, -⟩
      · exact .inl empty
      · exact .inr ticket
    · exact invariant.responses other sent earlier
  received := invariant.received
  counted := by
    rcases answer with rfl | ⟨join, nextSlaveIP, small, rfl, -, inside, -⟩
    · exact invariant.counted
    · intro ringID member
      rw [openIDs_cons, ringIDOf_joinResponse small, List.append_assoc, Option.toList_some,
        List.singleton_append, List.mem_cons] at member
      rcases member with rfl | earlier
      · exact inside
      · exact invariant.counted ringID earlier
  distinct := by
    rcases answer with rfl | ⟨join, nextSlaveIP, small, rfl, -, -, fresh⟩
    · exact invariant.distinct
    · rw [openIDs_cons, ringIDOf_joinResponse small, List.append_assoc, Option.toList_some,
        List.singleton_append]
      exact List.nodup_cons.mpr ⟨fresh, invariant.distinct⟩

/-- The ring ID of a response that a slave receives is no longer open.  The slave
has received it, or nobody will. -/
theorem perm_of_receive {slave : σ} {response : List Byte} {rest : List (σ × List Byte)}
    (taken : ((slave, response) :: rest).Perm system.responses) (arrived : Nat) :
    ∃ dropped, (system.openIDs ++ receivedIDs trace).Perm
      (dropped ++ (openIDs { system with responses := rest } ++
        receivedIDs (trace ++ [some (.received slave ((response.take arrived).take 8))]))) := by
  have opened : system.openIDs.Perm
      ((ringIDOf response).toList ++ openIDs { system with responses := rest }) := by
    rw [← openIDs_cons { system with responses := rest } system.requests slave response]
    exact (taken.filterMap fun response => ringIDOf response.2).symm
  rw [receivedIDs_append, receivedID, List.take_take, ringIDOf_take]
  split
  · refine ⟨[], ?_⟩
    rw [List.nil_append, ← List.append_assoc]
    refine (opened.append_right _).trans ?_
    rw [List.append_assoc]
    exact List.perm_append_comm
  · refine ⟨(ringIDOf response).toList, ?_⟩
    rw [Option.toList_none, List.append_nil, ← List.append_assoc]
    exact opened.append_right _

theorem receive (invariant : Invariant lanIP address system trace) {slave : σ}
    {response : List Byte} {rest : List (σ × List Byte)}
    (taken : ((slave, response) :: rest).Perm system.responses) (arrived : Nat) :
    Invariant lanIP address { system with responses := rest }
      (trace ++ [some (.received slave ((response.take arrived).take 8))]) := by
  have peers : joinedPeers
      (trace ++ [some (.received slave ((response.take arrived).take 8))]) = joinedPeers trace := by
    rw [joinedPeers_append]
    exact List.append_nil _
  have member : (slave, response) ∈ system.responses := taken.subset (List.mem_cons_self ..)
  obtain ⟨dropped, ids⟩ :=
    @perm_of_receive σ system trace slave response rest taken arrived
  constructor
  case addresses => exact invariant.addresses
  case requests => exact invariant.requests
  case master => rw [peers]; exact invariant.master
  case room => rw [peers]; exact invariant.room
  case responses =>
    intro other sent remaining
    rw [peers]
    exact invariant.responses other sent (taken.subset (List.mem_cons_of_mem _ remaining))
  case received =>
    intro other sent now something
    rw [peers]
    rcases List.mem_append.mp now with earlier | last
    · exact invariant.received other sent earlier something
    · cases List.mem_singleton.mp last
      rcases invariant.responses slave response member with rfl | ticket
      · exact absurd (by simp) something
      · refine ⟨response, ticket, ?_⟩
        rw [List.take_take]
        exact List.take_prefix _ _
  case counted =>
    intro ringID known
    rw [peers]
    exact invariant.counted ringID (ids.symm.subset (List.mem_append_right _ known))
  case distinct => exact List.Nodup.of_append_right (ids.nodup_iff.mp invariant.distinct)

theorem acceptSlave (invariant : Invariant lanIP address system trace) (slave : σ)
    (request : List Byte) (delivers : Bool) {requests : List (σ × List Byte)}
    (fewer : requests ⊆ system.requests) :
    let handled := system.acceptJoin ⟨request, address slave, delivers⟩
    Invariant lanIP address
      { handled.1 with requests := requests
                       responses := (slave, responseBytes handled.2) :: handled.1.responses }
      (trace ++ [some (.handled (address slave) handled.2)]) := by
  intro handled
  obtain ⟨kept, answer⟩ := invariant.acceptJoin ⟨request, address slave, delivers⟩
  have unreceived : receivedIDs (trace ++ [some (.handled (address slave) handled.2)]) =
      receivedIDs trace := by
    rw [receivedIDs_append]
    exact List.append_nil _
  refine kept.respond (answer.imp_right ?_) fewer
  rintro ⟨ticket, small, peers⟩
  refine ⟨_, _, small, ticket, ⟨_, _, ticket, ?_, ?_⟩, ?_, ?_⟩
  · rw [peers]
    exact List.getElem?_concat_length
  · rw [peers, ← List.cons_append]
    exact getElem?_append_of_some invariant.last _
  · rw [peers, List.length_append, List.length_singleton]
    exact Nat.lt_succ_self _
  · -- All earlier ring IDs are smaller.
    intro known
    rw [unreceived] at known
    exact Nat.lt_irrefl _ (invariant.counted _ known)

variable [DecidableEq σ]

theorem turn (invariant : Invariant lanIP address system trace) (slave : σ) (task : SlaveTask) :
    Invariant lanIP address (system.turn slave task) trace where
  addresses := by
    intro other
    by_cases same : other = slave
    · subst same
      simpa [JoinSystem.turn] using invariant.addresses other
    · simpa [JoinSystem.turn, same] using invariant.addresses other
  requests := invariant.requests
  master := invariant.master
  room := invariant.room
  responses := invariant.responses
  received := invariant.received
  counted := invariant.counted
  distinct := invariant.distinct

theorem step {action : JoinAction σ} {event : Option (JoinEvent σ)}
    (invariant : Invariant lanIP address system trace)
    (stepped : system.step action = some (next, event)) :
    Invariant lanIP address next (trace ++ [event]) := by
  cases action with
  | connect slave =>
      obtain ⟨-, rfl, rfl⟩ := step_connect stepped
      exact (invariant.turn slave .waiting).connect slave
  | accept index arrived delivers =>
      obtain ⟨slave, request, rest, taken, -, rfl, rfl⟩ := step_accept stepped
      rw [invariant.addresses]
      exact invariant.acceptSlave slave _ delivers (Channel.subset_of_take taken)
  | acceptOther connection =>
      obtain ⟨-, rfl, rfl⟩ := step_acceptOther stepped
      exact (invariant.acceptJoin connection).1
  | receive index arrived userContinue =>
      obtain ⟨slave, response, rest, taken, -, rfl, rfl⟩ := step_receive stepped
      exact (invariant.turn slave _).receive (Channel.perm_of_take taken) arrived

theorem run {actions : List (JoinAction σ)} {events : List (Option (JoinEvent σ))}
    (invariant : Invariant lanIP address system trace)
    (runs : Stepped.run JoinSystem.step system actions = some (next, events)) :
    Invariant lanIP address next (trace ++ events) := by
  induction actions generalizing system trace events with
  | nil =>
      cases runs
      rw [List.append_nil]
      exact invariant
  | cons action actions ih =>
      obtain ⟨middle, event, later, stepped, rest, rfl⟩ := Stepped.run_cons_eq_some runs
      rw [← List.singleton_append, ← List.append_assoc]
      exact ih (invariant.step stepped) rest

end Invariant

/-! ## Runs -/

/-- No reception of fewer than four bytes. -/
def BringsRingID : Option (JoinEvent σ) → Bool
  | some (.received _ response) => 4 ≤ response.length
  | _ => true

section Decoding

variable (program : σ → SlaveProgram) (uninitialised : σ → Vector Byte 8)

/-- The ring ID that a slave decodes.  `slave.c` does not look at what `recv` has
returned and decodes its array, whatever has come. -/
def decodedID : Option (JoinEvent σ) → Option Int
  | some (.received slave response) =>
      match program slave with
      | .python =>
          match unpackReply response with
          | .ok (_, _, ringID, _) => some ringID
          | .error _ => none
      | .c => some (RingInfo.received (uninitialised slave) response).rID.toNat
  | _ => none

/-- The ring IDs that the slaves decode. -/
def decodedIDs (trace : List (Option (JoinEvent σ))) : List Int :=
  trace.filterMap (decodedID program uninitialised)

/-- Where at least four bytes come, only the ring ID among them is decoded. -/
theorem decodedID_eq {lanIP : IPv4} {address : σ → IPv4} {system : JoinSystem σ}
    {trace : List (Option (JoinEvent σ))} (invariant : Invariant lanIP address system trace)
    {event : Option (JoinEvent σ)} (member : event ∈ trace) (brings : BringsRingID event = true)
    {ringID : Int} (decoded : decodedID program uninitialised event = some ringID) :
    (receivedID event).map Nat.cast = some ringID := by
  rcases event with _ | ⟨peer, outcome⟩ | ⟨slave, response⟩
  · cases decoded
  · cases decoded
  · have enough : 4 ≤ response.length := of_decide_eq_true brings
    obtain ⟨ticket, ⟨join, nextSlaveIP, rfl, own, -⟩, part⟩ :=
      invariant.received slave response member (List.ne_nil_of_length_pos (by omega))
    obtain ⟨inside, -⟩ := List.getElem?_eq_some_iff.mp own
    have small : join ≤ 255 := by
      have room := invariant.room
      omega
    have number : receivedID (some (.received slave response)) = some join := by
      rw [receivedID, List.prefix_iff_eq_take.mp part, ringIDOf_take, if_pos (by omega),
        ringIDOf_joinResponse small]
    rw [number]
    dsimp only [decodedID] at decoded
    cases kind : program slave with
    | python =>
        simp only [kind] at decoded
        split at decoded
        · rename_i fields unpacked
          have whole := part.eq_of_length_le (by
            rw [Master.length_joinResponse]
            exact length_of_unpackReply unpacked)
          rw [whole, Master.unpackReply_joinResponse small] at unpacked
          cases unpacked
          exact decoded
        · cases decoded
    | c =>
        simp only [kind] at decoded
        rw [(received_of_firstBytes part _).2, if_pos enough, BitVec.toNat_ofNat,
          Nat.mod_eq_of_lt (by omega)] at decoded
        exact decoded

end Decoding

section Runs

variable [DecidableEq σ] {lanIP : IPv4} {program : σ → SlaveProgram} {address : σ → IPv4}
  {actions : List (JoinAction σ)} {final : JoinSystem σ} {trace : List (Option (JoinEvent σ))}

theorem Invariant.of_run
    (runs : Stepped.run JoinSystem.step (JoinSystem.start lanIP program address) actions =
      some (final, trace)) :
    Invariant lanIP address final trace :=
  (start lanIP program address).run runs

/-- A slave that receives a whole response learns from it how many joined before,
and the address of the last of these.  The master sends to the last of all.  A shorter
response ends `slave.py`, and `slave.c` takes what has not come from its array. -/
theorem tickets_of_run
    (runs : Stepped.run step (start lanIP program address) actions = some (final, trace)) :
    final.master.nextSlaveRID = (joinedPeers trace).length ∧
      (joinedPeers trace).length ≤ 256 ∧
      (lanIP :: joinedPeers trace)[(joinedPeers trace).length]? = some final.master.nextSlaveIP ∧
      ∀ slave response, some (.received slave response) ∈ trace →
        (response.length < 8 → ∀ decoded, unpackReply response ≠ .ok decoded) ∧
        (∀ uninitialised : Vector Byte 8, response.length < 4 →
          (RingInfo.received uninitialised response).rID = uninitialised[3]!) ∧
        (response ≠ [] → ∃ (join : Nat) (nextSlaveIP : IPv4),
          join ≤ 255 ∧ (joinedPeers trace)[join]? = some (address slave) ∧
          (lanIP :: joinedPeers trace)[join]? = some nextSlaveIP ∧
          (8 ≤ response.length → unpackReply response = .ok (15, 0x1234, join, nextSlaveIP)) ∧
          ∀ uninitialised, (RingInfo.received uninitialised response).mastGID = 15 ∧
            (4 ≤ response.length →
              (RingInfo.received uninitialised response).rID.toNat = join) ∧
            (8 ≤ response.length →
              (RingInfo.received uninitialised response).nextSlave = nextSlaveIP)) := by
  have invariant := Invariant.of_run runs
  refine ⟨invariant.counter, invariant.room, invariant.last, ?_⟩
  intro slave response member
  refine ⟨?_, ?_, ?_⟩
  · intro short decoded unpacked
    have enough := length_of_unpackReply unpacked
    omega
  · intro uninitialised few
    by_cases something : response = []
    · rw [something]
      rfl
    · obtain ⟨ticket, ⟨join, nextSlaveIP, rfl, -, -⟩, part⟩ :=
        invariant.received slave response member something
      rw [(received_of_firstBytes part uninitialised).2, if_neg (by omega)]
  · intro something
    obtain ⟨ticket, ⟨join, nextSlaveIP, rfl, own, next⟩, part⟩ :=
      invariant.received slave response member something
    obtain ⟨inside, -⟩ := List.getElem?_eq_some_iff.mp own
    have small : join ≤ 255 := by
      have room := invariant.room
      omega
    have complete (whole : 8 ≤ response.length) :
        response = Master.joinResponse join nextSlaveIP := by
      apply part.eq_of_length_le
      rwa [Master.length_joinResponse]
    refine ⟨join, nextSlaveIP, small, own, next, ?_, ?_⟩
    · intro whole
      rw [complete whole]
      exact Master.unpackReply_joinResponse small nextSlaveIP
    · intro uninitialised
      obtain ⟨mastGID, rID⟩ := received_of_firstBytes part uninitialised
      refine ⟨mastGID something, ?_, ?_⟩
      · intro enough
        rw [rID, if_pos enough, BitVec.toNat_ofNat, Nat.mod_eq_of_lt (by omega)]
      · intro whole
        rw [complete whole]
        exact received_nextSlave uninitialised join nextSlaveIP

theorem filterMap_sublist_of_imp {α β : Type*} {first second : α → Option β} {elements : List α}
    (implies : ∀ element ∈ elements, ∀ value, first element = some value →
      second element = some value) :
    (elements.filterMap first).Sublist (elements.filterMap second) := by
  induction elements with
  | nil => exact List.Sublist.refl _
  | cons element elements ih =>
      have later := ih fun other member => implies other (List.mem_cons_of_mem element member)
      cases found : first element with
      | none =>
          rw [List.filterMap_cons_none found, List.filterMap_cons]
          cases second element with
          | none => exact later
          | some value => exact later.cons value
      | some value =>
          have same := implies element (List.mem_cons_self ..) value found
          rw [List.filterMap_cons_some found, List.filterMap_cons_some same]
          exact later.cons_cons value

/-- Whatever else the arrays of `slave.c` hold, no ring ID is decoded twice where at
least four bytes of the responses come. -/
theorem decodedIDs_nodup
    (runs : Stepped.run step (start lanIP program address) actions = some (final, trace))
    (uninitialised : σ → Vector Byte 8) :
    (decodedIDs program uninitialised (trace.filter BringsRingID)).Nodup := by
  have invariant := Invariant.of_run runs
  have known : ((receivedIDs trace).map fun ringID : Nat => (ringID : Int)).Nodup :=
    (List.Nodup.of_append_right invariant.distinct).map Nat.cast_injective
  rw [receivedIDs, List.map_filterMap] at known
  have fewer : (trace.filter BringsRingID).Sublist trace := List.filter_sublist
  refine known.sublist (List.Sublist.trans ?_ (fewer.filterMap _))
  refine filterMap_sublist_of_imp fun event member ringID decoded => ?_
  obtain ⟨inside, brings⟩ := List.mem_filter.mp member
  exact decodedID_eq program uninitialised invariant inside brings decoded

end Runs

/-- A slave in C and one in Python join, and receive their responses in the other
order, the one in C only half of it. -/
def twoSlavesActions : List (JoinAction Bool) :=
  [.connect false, .connect true, .accept 1 3 true, .accept 0 3 true, .receive 0 8 0,
    .receive 0 4 0]

/-- The master of two slaves. -/
def twoSlavesStart : JoinSystem Bool :=
  start #v[10, 0, 0, 1] (fun slave => if slave then .python else .c)
    fun slave => if slave then #v[10, 0, 0, 3] else #v[10, 0, 0, 2]

def twoSlavesTrace : List (Option (JoinEvent Bool)) :=
  [none, none,
    some (.handled #v[10, 0, 0, 2] (.ok (some [15, 0x12, 0x34, 0, 10, 0, 0, 1]))),
    some (.handled #v[10, 0, 0, 3] (.ok (some [15, 0x12, 0x34, 1, 10, 0, 0, 2]))),
    some (.received true [15, 0x12, 0x34, 1, 10, 0, 0, 2]),
    some (.received false [15, 0x12, 0x34, 0])]

theorem run_twoSlaves :
    ∃ final, Stepped.run step twoSlavesStart twoSlavesActions = some (final, twoSlavesTrace) := by
  have emits : (Stepped.run step twoSlavesStart twoSlavesActions).map Prod.snd =
      some twoSlavesTrace := by
    decide +kernel
  obtain ⟨⟨final, trace⟩, completed, same⟩ := Option.map_eq_some_iff.mp emits
  cases same
  exact ⟨final, completed⟩

theorem tickets_of_run_twoSlaves :
    ∃ final, Stepped.run step twoSlavesStart twoSlavesActions = some (final, twoSlavesTrace) ∧
      final.master.nextSlaveRID = (joinedPeers twoSlavesTrace).length ∧
      (joinedPeers twoSlavesTrace).length ≤ 256 ∧
      (#v[10, 0, 0, 1] :: joinedPeers twoSlavesTrace)[(joinedPeers twoSlavesTrace).length]? =
        some final.master.nextSlaveIP ∧
      (∃ (join : Nat) (nextSlaveIP : IPv4),
        join ≤ 255 ∧ (joinedPeers twoSlavesTrace)[join]? = some #v[10, 0, 0, 3] ∧
          (#v[10, 0, 0, 1] :: joinedPeers twoSlavesTrace)[join]? = some nextSlaveIP ∧
          unpackReply [15, 0x12, 0x34, 1, 10, 0, 0, 2] = .ok (15, 0x1234, join, nextSlaveIP)) ∧
      (∀ decoded, unpackReply [15, 0x12, 0x34, 0] ≠ .ok decoded) ∧
      ∃ join : Nat, (joinedPeers twoSlavesTrace)[join]? = some #v[10, 0, 0, 2] ∧
        ∀ uninitialised,
          (RingInfo.received uninitialised [15, 0x12, 0x34, 0]).rID.toNat = join := by
  obtain ⟨final, runs⟩ := run_twoSlaves
  obtain ⟨counter, room, last, tickets⟩ := tickets_of_run runs
  refine ⟨final, runs, counter, room, last, ?_, ?_⟩
  · obtain ⟨-, -, learns⟩ :=
      tickets true [15, 0x12, 0x34, 1, 10, 0, 0, 2] (by simp [twoSlavesTrace])
    obtain ⟨join, nextSlaveIP, small, own, next, unpacked, -⟩ := learns (by simp)
    exact ⟨join, nextSlaveIP, small, own, next, unpacked (by decide)⟩
  · obtain ⟨fails, -, learns⟩ := tickets false [15, 0x12, 0x34, 0] (by simp [twoSlavesTrace])
    obtain ⟨join, nextSlaveIP, -, own, -, -, fields⟩ := learns (by simp)
    exact ⟨fails (by decide), join, own,
      fun uninitialised => (fields uninitialised).2.1 (by decide)⟩

theorem decodedIDs_nodup_twoSlaves :
    (decodedIDs (fun slave => if slave then .python else .c) (fun _ => Vector.replicate 8 0)
      (twoSlavesTrace.filter BringsRingID)).Nodup := by
  obtain ⟨final, runs⟩ := run_twoSlaves
  exact decodedIDs_nodup runs _

end JoinSystem

end OpServer
