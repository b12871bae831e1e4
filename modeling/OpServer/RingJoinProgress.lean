import OpServer.RingJoinAgreement

/-!
# Slaves that wait for a response

A slave waits until it receives something, and as long as it waits its request or
its response is under way, once.  Whether it can still join depends on the accept
thread, which ends with its first exception, and on the ring IDs that are left.
-/

namespace OpServer

open Python

/-! ## What a response does to a slave -/

namespace Slave

theorem afterResponse_ne_waiting (slave : Slave) (response : List Byte) (userContinue : Int) :
    slave.afterResponse response userContinue ≠ .waiting := by
  unfold afterResponse
  cases slave.program with
  | python =>
      dsimp only
      cases unpackReply response with
      | ok decoded =>
          dsimp only
          split <;> simp
      | error raised => simp
  | c => simp

theorem afterResponse_of_short (slave : Slave) {response : List Byte}
    (short : response.length < 8) (userContinue : Int) :
    slave.afterResponse response userContinue = .ended := by
  unfold afterResponse
  cases slave.program with
  | python =>
      dsimp only
      cases unpacked : unpackReply response with
      | ok decoded =>
          have enough := length_of_unpackReply unpacked
          omega
      | error raised => rfl
  | c => rfl

end Slave

namespace JoinSystem

variable {σ : Type*} {system next : JoinSystem σ} {event : Option (JoinEvent σ)}

/-! ## What is under way -/

/-- The slaves of all requests and responses under way. -/
def pending (system : JoinSystem σ) : List σ :=
  (system.requests ++ system.responses).map Prod.fst

theorem pending_of_take {requests rest responses : List (σ × List Byte)} {slave : σ}
    {request response : List Byte} {index : Nat}
    (taken : Channel.take requests index = some ((slave, request), rest)) :
    ((rest ++ (slave, response) :: responses).map Prod.fst).Perm
      ((requests ++ responses).map Prod.fst) := by
  have moved := ((Channel.perm_of_take taken).append_right responses).map Prod.fst
  have behind : ((rest ++ (slave, response) :: responses).map Prod.fst).Perm
      (slave :: (rest ++ responses).map Prod.fst) :=
    List.perm_middle.map Prod.fst
  exact behind.trans moved

/-- Of every slave that waits, one request or response is under way, and nothing of
any other slave. -/
structure Accounted (system : JoinSystem σ) : Prop where
  once : system.pending.Nodup
  mem_iff : ∀ slave, slave ∈ system.pending ↔ (system.slaves slave).task = .waiting

section Steps

variable [DecidableEq σ]

theorem turn_task (system : JoinSystem σ) (slave other : σ) (task : SlaveTask) :
    ((system.turn slave task).slaves other).task =
      if other = slave then task else (system.slaves other).task := by
  unfold turn
  by_cases same : other = slave
  · subst same
    simp
  · simp [same]

theorem Accounted.step {action : JoinAction σ} (accounted : Accounted system)
    (stepped : system.step action = some (next, event)) : Accounted next := by
  cases action with
  | connect slave =>
      obtain ⟨ready, -, rfl⟩ := step_connect stepped
      have fresh : slave ∉ system.pending := by
        rw [accounted.mem_iff, ready]
        simp
      constructor
      case once => exact List.nodup_cons.mpr ⟨fresh, accounted.once⟩
      case mem_iff =>
        intro other
        change other ∈ slave :: system.pending ↔ ((system.turn slave .waiting).slaves other).task = _
        rw [turn_task, List.mem_cons, accounted.mem_iff]
        split
        · rename_i same
          exact iff_of_true (.inl same) rfl
        · rename_i different
          exact or_iff_right different
  | accept index arrived delivers =>
      obtain ⟨slave, request, rest, taken, -, -, rfl⟩ := step_accept stepped
      have same := @pending_of_take σ system.requests rest system.responses slave request
        (responseBytes (system.acceptJoin
          ⟨request.take arrived, (system.slaves slave).address, delivers⟩).2) index taken
      constructor
      case once => exact same.nodup_iff.mpr accounted.once
      case mem_iff => exact fun other => same.mem_iff.trans (accounted.mem_iff other)
  | acceptOther connection =>
      obtain ⟨-, rfl, -⟩ := step_acceptOther stepped
      exact ⟨accounted.once, accounted.mem_iff⟩
  | receive index arrived userContinue =>
      obtain ⟨slave, response, rest, taken, -, -, rfl⟩ := step_receive stepped
      have split : system.pending.Perm (slave :: (system.requests ++ rest).map Prod.fst) := by
        have moved := ((Channel.perm_of_take taken).symm.append_left system.requests)
        exact (moved.trans List.perm_middle).map Prod.fst
      obtain ⟨gone, once⟩ := List.nodup_cons.mp (split.nodup_iff.mp accounted.once)
      constructor
      case once => exact once
      case mem_iff =>
        intro other
        change other ∈ (system.requests ++ rest).map Prod.fst ↔
          ((system.turn slave _).slaves other).task = _
        rw [turn_task]
        split
        · rename_i same
          rw [same]
          exact iff_of_false gone (Slave.afterResponse_ne_waiting _ _ _)
        · rename_i different
          rw [← accounted.mem_iff, split.mem_iff, List.mem_cons, or_iff_right different]

theorem Accounted.of_run {lanIP : IPv4} {program : σ → SlaveProgram} {address : σ → IPv4}
    {actions : List (JoinAction σ)} {trace : List (Option (JoinEvent σ))}
    (runs : Stepped.run JoinSystem.step (JoinSystem.start lanIP program address) actions =
      some (system, trace)) : Accounted system := by
  have keeps (state : JoinSystem σ) (trace : List (Option (JoinEvent σ))) (action : JoinAction σ)
      (next : JoinSystem σ) (event : Option (JoinEvent σ)) (accounted : Accounted state) (_ : True)
      (stepped : state.step action = some (next, event)) : Accounted next :=
    accounted.step stepped
  have starts : Accounted (JoinSystem.start lanIP program address) :=
    ⟨List.nodup_nil, fun slave => iff_of_false (by simp [pending, JoinSystem.start])
      (by simp [JoinSystem.start])⟩
  exact @Stepped.run_trace_invariant _ _ _ _ (fun state _ => Accounted state) _ keeps _ _ _ _
    starts (fun _ _ => trivial) runs

end Steps

/-! ## Slaves that cannot join any more -/

/-- A whole response to the slave is under way, or its request, to an accept thread
that runs and has a ring ID left. -/
def CanJoin (system : JoinSystem σ) (slave : σ) : Prop :=
  (∃ response, (slave, response) ∈ system.responses ∧ response.length = 8) ∨
    (∃ request, (slave, request) ∈ system.requests) ∧ system.accepting = true ∧
      system.master.nextSlaveRID ≤ 255

/-- A slave that has connected for the last time and will not get a ring ID. -/
structure Hopeless (slave : σ) (system : JoinSystem σ) : Prop where
  connected : (system.slaves slave).task ≠ .ready
  responses : ∀ response, (slave, response) ∈ system.responses → response.length ≠ 8
  requests : ∀ request, (slave, request) ∈ system.requests → system.accepting = true →
    255 < system.master.nextSlaveRID

theorem hopeless_of_not_canJoin {slave : σ} (connected : (system.slaves slave).task ≠ .ready)
    (cannot : ¬CanJoin system slave) : Hopeless slave system where
  connected := connected
  responses := fun response member whole => cannot (.inl ⟨response, member, whole⟩)
  requests := by
    intro request member accepting
    by_contra room
    exact cannot (.inr ⟨⟨request, member⟩, accepting, by omega⟩)

theorem acceptJoin_slaves (system : JoinSystem σ) (connection : Connection) :
    (system.acceptJoin connection).1.slaves = system.slaves :=
  rfl

theorem acceptJoin_outcome (system : JoinSystem σ) (connection : Connection) :
    (system.acceptJoin connection).2 = (system.master.acceptJoin connection).2 :=
  rfl

/-- Ring IDs are never freed, and a master without any does not respond. -/
theorem acceptJoin_counter (system : JoinSystem σ) (connection : Connection) :
    system.master.nextSlaveRID ≤ (system.acceptJoin connection).1.master.nextSlaveRID ∧
      (255 < system.master.nextSlaveRID → responseBytes (system.acceptJoin connection).2 = []) := by
  rcases system.master.acceptJoin_joinedPeer (σ := σ) connection with
    ⟨same, lost, -⟩ | ⟨room, joins, -, -⟩
  · exact ⟨Nat.le_of_eq (congrArg Master.nextSlaveRID same).symm, fun _ => lost⟩
  · refine ⟨?_, fun full => by omega⟩
    change _ ≤ (system.master.acceptJoin connection).1.nextSlaveRID
    rw [joins, Master.joined_nextSlaveRID]
    exact Nat.le_succ _

theorem Invariant.response_size {lanIP : IPv4} {address : σ → IPv4}
    {trace : List (Option (JoinEvent σ))} (invariant : Invariant lanIP address system trace)
    {slave : σ} {response : List Byte} (member : (slave, response) ∈ system.responses) :
    response = [] ∨ response.length = 8 := by
  rcases invariant.responses slave response member with empty | ⟨join, nextSlaveIP, rfl, -, -⟩
  · exact .inl empty
  · exact .inr (Master.length_joinResponse join nextSlaveIP)

theorem Hopeless.accept {slave other : σ} {connection : Connection}
    {requests : List (σ × List Byte)} (hopeless : Hopeless slave system)
    (accepting : system.accepting = true) {request : List Byte}
    (member : (other, request) ∈ system.requests) (fewer : requests ⊆ system.requests) :
    let handled := system.acceptJoin connection
    Hopeless slave { handled.1 with
      requests := requests
      responses := (other, responseBytes handled.2) :: system.responses } := by
  intro handled
  obtain ⟨counts, silent⟩ := system.acceptJoin_counter connection
  constructor
  case connected => exact hopeless.connected
  case responses =>
    intro response sent
    rcases List.mem_cons.mp sent with same | earlier
    · cases same
      rw [silent (hopeless.requests request member accepting)]
      simp
    · exact hopeless.responses response earlier
  case requests =>
    intro remaining sent _
    exact Nat.lt_of_lt_of_le (hopeless.requests remaining (fewer sent) accepting) counts

variable [DecidableEq σ]

theorem Hopeless.connect {slave other : σ} (hopeless : Hopeless slave system)
    (different : slave ≠ other) (request : List Byte) :
    Hopeless slave { system.turn other .waiting with
      requests := (other, request) :: system.requests } where
  connected := by
    change ((system.turn other .waiting).slaves slave).task ≠ _
    rw [turn_task, if_neg different]
    exact hopeless.connected
  responses := hopeless.responses
  requests := by
    intro sent member
    rcases List.mem_cons.mp member with same | earlier
    · cases same
      exact absurd rfl different
    · exact hopeless.requests sent earlier

theorem Hopeless.receive {slave other : σ} {response : List Byte} {rest : List (σ × List Byte)}
    (hopeless : Hopeless slave system) (size : response = [] ∨ response.length = 8)
    (member : (other, response) ∈ system.responses) (fewer : rest ⊆ system.responses)
    (arrived : Nat) (userContinue : Int) :
    let received := (response.take arrived).take 8
    Hopeless slave { system.turn other
        ((system.slaves other).afterResponse received userContinue) with responses := rest } ∧
      (slave = other → received = []) := by
  intro received
  have empty (same : slave = other) : received = [] := by
    subst same
    have cut : response = [] := size.resolve_right (hopeless.responses response member)
    simp [received, cut]
  refine ⟨?_, empty⟩
  constructor
  case connected =>
    change ((system.turn other _).slaves slave).task ≠ _
    rw [turn_task]
    split
    · rename_i same
      rw [empty same, Slave.afterResponse_of_short _ (by simp)]
      simp
    · exact hopeless.connected
  case responses => exact fun sent member => hopeless.responses sent (fewer member)
  case requests => exact hopeless.requests

/-- No step helps such a slave. -/
theorem Hopeless.step {slave : σ} {action : JoinAction σ} (hopeless : Hopeless slave system)
    (sizes : ∀ other response, (other, response) ∈ system.responses →
      response = [] ∨ response.length = 8)
    (stepped : system.step action = some (next, event)) :
    Hopeless slave next ∧
      ∀ response, event = some (.received slave response) → response.length ≠ 8 := by
  cases action with
  | connect other =>
      obtain ⟨ready, rfl, rfl⟩ := step_connect stepped
      have different : slave ≠ other := by
        rintro rfl
        exact hopeless.connected ready
      exact ⟨hopeless.connect different _, fun _ impossible => by cases impossible⟩
  | accept index arrived delivers =>
      obtain ⟨other, request, rest, taken, accepting, rfl, rfl⟩ := step_accept stepped
      exact ⟨hopeless.accept accepting (Channel.mem_of_take taken) (Channel.subset_of_take taken),
        fun _ impossible => by cases impossible⟩
  | acceptOther connection =>
      obtain ⟨accepting, rfl, rfl⟩ := step_acceptOther stepped
      have counts := (system.acceptJoin_counter connection).1
      refine ⟨⟨hopeless.connected, hopeless.responses, ?_⟩, fun _ impossible => by cases impossible⟩
      intro request member _
      exact Nat.lt_of_lt_of_le (hopeless.requests request member accepting) counts
  | receive index arrived userContinue =>
      obtain ⟨other, response, rest, taken, -, rfl, rfl⟩ := step_receive stepped
      have member := Channel.mem_of_take taken
      obtain ⟨remains, empty⟩ := hopeless.receive (sizes other response member) member
        (Channel.subset_of_take taken) arrived userContinue
      refine ⟨remains, ?_⟩
      intro received same
      cases same
      rw [empty rfl]
      simp

theorem Hopeless.run {lanIP : IPv4} {address : σ → IPv4} {trace : List (Option (JoinEvent σ))}
    {slave : σ} {later : List (JoinAction σ)} {final : JoinSystem σ}
    {events : List (Option (JoinEvent σ))} (hopeless : Hopeless slave system)
    (invariant : Invariant lanIP address system trace)
    (continued : Stepped.run JoinSystem.step system later = some (final, events))
    {response : List Byte} (received : some (.received slave response) ∈ events) :
    response.length ≠ 8 := by
  induction later generalizing system trace events with
  | nil =>
      cases continued
      cases received
  | cons action later ih =>
      obtain ⟨middle, event, rest, stepped, continues, rfl⟩ := Stepped.run_cons_eq_some continued
      obtain ⟨remains, short⟩ :=
        hopeless.step (fun _ _ member => invariant.response_size member) stepped
      rcases List.mem_cons.mp received with now | afterwards
      · exact short response now.symm
      · exact ih remains (invariant.step stepped) continues afterwards

/-! ## Slaves that can join -/

theorem exists_receive {slave : σ} (waiting : (system.slaves slave).task = .waiting)
    {response : List Byte} (member : (slave, response) ∈ system.responses)
    (whole : response.length = 8) :
    ∃ index final,
      system.step (.receive index 8 0) = some (final, some (.received slave response)) := by
  obtain ⟨index, inside, found⟩ := List.mem_iff_getElem.mp member
  have taken : Channel.take system.responses index =
      some ((slave, response), system.responses.eraseIdx index) := by
    rw [Channel.take, dif_pos inside, found]
  refine ⟨index, { system.turn slave ((system.slaves slave).afterResponse response 0) with
    responses := system.responses.eraseIdx index }, ?_⟩
  rw [step, taken, Option.bind_some]
  dsimp only
  rw [if_pos waiting, List.take_of_length_le whole.le, List.take_of_length_le whole.le]

/-- The accept thread can answer a slave while it has ring IDs left. -/
theorem exists_accept {slave : σ} (member : (slave, [15, 0x12, 0x34]) ∈ system.requests)
    (accepting : system.accepting = true) (room : system.master.nextSlaveRID ≤ 255) :
    ∃ index final event, system.step (.accept index 3 true) = some (final, event) ∧
      final.slaves = system.slaves ∧
      (slave, Master.joinResponse system.master.nextSlaveRID system.master.nextSlaveIP) ∈
        final.responses := by
  obtain ⟨index, inside, found⟩ := List.mem_iff_getElem.mp member
  have taken : Channel.take system.requests index =
      some ((slave, [15, 0x12, 0x34]), system.requests.eraseIdx index) := by
    rw [Channel.take, dif_pos inside, found]
  let connection : Connection :=
    ⟨([15, 0x12, 0x34] : List Byte).take 3, (system.slaves slave).address, true⟩
  have joins := @Master.acceptJoin_of_room system.master connection
    ((isValid_request_iff 3 _ true).mpr (Nat.le_refl 3)) room
  obtain ⟨middle, outcome, handled⟩ : ∃ middle outcome,
      system.acceptJoin connection = (middle, outcome) := ⟨_, _, rfl⟩
  have kept : middle.slaves = system.slaves := by
    rw [← acceptJoin_slaves system connection, handled]
  have answered : outcome = .ok (some
      (Master.joinResponse system.master.nextSlaveRID system.master.nextSlaveIP)) := by
    have same := acceptJoin_outcome system connection
    rw [handled, joins] at same
    exact same
  refine ⟨index,
    { middle with
      requests := system.requests.eraseIdx index
      responses := (slave, responseBytes outcome) :: system.responses },
    some (.handled (system.slaves slave).address outcome), ?_, kept, ?_⟩
  · rw [step, taken, Option.bind_some]
    dsimp only
    rw [if_pos accepting, handled]
  · rw [answered]
    exact List.mem_cons_self

theorem exists_run_of_canJoin {lanIP : IPv4} {address : σ → IPv4}
    {trace : List (Option (JoinEvent σ))} {slave : σ}
    (invariant : Invariant lanIP address system trace)
    (waiting : (system.slaves slave).task = .waiting) (possible : CanJoin system slave) :
    ∃ later final events response,
      Stepped.run JoinSystem.step system later = some (final, events) ∧
      some (.received slave response) ∈ events ∧ response.length = 8 := by
  rcases possible with ⟨response, member, whole⟩ | ⟨⟨request, member⟩, accepting, room⟩
  · obtain ⟨index, final, received⟩ := exists_receive waiting member whole
    refine ⟨[.receive index 8 0], final, [some (.received slave response)], response, ?_, ?_, whole⟩
    · rw [Stepped.run_cons_of_step received]
      rfl
    · exact List.mem_cons_self
  · rw [invariant.requests slave request member] at member
    obtain ⟨index, middle, event, accepted, same, answered⟩ := exists_accept member accepting room
    have whole := Master.length_joinResponse system.master.nextSlaveRID system.master.nextSlaveIP
    obtain ⟨index', final, received⟩ := exists_receive (same ▸ waiting) answered whole
    refine ⟨[.accept index 3 true, .receive index' 8 0], final,
      [event, some (.received slave (Master.joinResponse system.master.nextSlaveRID
        system.master.nextSlaveIP))], _, ?_, ?_, whole⟩
    · rw [Stepped.run_cons_of_step accepted, Stepped.run_cons_of_step received]
      rfl
    · exact List.mem_cons_of_mem _ List.mem_cons_self

/-- After any run, one request or response is under way for every slave that waits
and for no other.  A slave that waits can still join exactly if it is a whole
response, or a request to an accept thread that runs and has ring IDs left. -/
theorem joins_iff_canJoin {lanIP : IPv4} {program : σ → SlaveProgram} {address : σ → IPv4}
    {actions : List (JoinAction σ)} {trace : List (Option (JoinEvent σ))}
    (runs : Stepped.run JoinSystem.step (JoinSystem.start lanIP program address) actions =
      some (system, trace)) :
    Accounted system ∧ ∀ slave, (system.slaves slave).task = .waiting →
      ((∃ later final events response,
        Stepped.run JoinSystem.step system later = some (final, events) ∧
        some (.received slave response) ∈ events ∧ response.length = 8) ↔
      CanJoin system slave) := by
  have invariant := Invariant.of_run runs
  refine ⟨Accounted.of_run runs, ?_⟩
  intro slave waiting
  constructor
  · rintro ⟨later, final, events, response, continued, received, whole⟩
    by_contra cannot
    have hopeless := hopeless_of_not_canJoin (by rw [waiting]; simp) cannot
    exact hopeless.run invariant continued received whole
  · exact exists_run_of_canJoin invariant waiting

/-- The accept thread ends while a second slave waits. -/
theorem joins_iff_canJoin_ended :
    ∃ (system : JoinSystem Bool) (trace : List (Option (JoinEvent Bool))),
      Stepped.run JoinSystem.step twoSlavesStart
        [.connect false, .connect true, .accept 1 3 false] = some (system, trace) ∧
      (system.slaves true).task = .waiting ∧
      Accounted system ∧ ∀ slave, (system.slaves slave).task = .waiting →
        ((∃ later final events response,
          Stepped.run JoinSystem.step system later = some (final, events) ∧
          some (.received slave response) ∈ events ∧ response.length = 8) ↔
        CanJoin system slave) := by
  let outcome := Stepped.run JoinSystem.step twoSlavesStart
    [.connect false, .connect true, .accept 1 3 false]
  have waits : outcome.map (fun ran => (ran.1.slaves true).task) = some .waiting := by
    decide +kernel
  obtain ⟨⟨system, trace⟩, runs, waiting⟩ := Option.map_eq_some_iff.mp waits
  exact ⟨system, trace, runs, waiting, joins_iff_canJoin runs⟩

end JoinSystem

end OpServer
