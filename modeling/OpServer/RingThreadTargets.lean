import OpServer.RingThreads

/-!
# Where datagrams can go while slaves join

A thread reads the address before the counter, and the accept thread assigns
the two in the other order.  So the address that is passed to `sendto` never
belongs to a later join than the port.  It can belong to any earlier one, or be
the master's own.
-/

namespace OpServer

open Python

namespace RingThreads

/-- The addresses of the joins that some accesses begin, in order. -/
def begun (actions : List ThreadAction) : List IPv4 :=
  actions.filterMap fun
    | .increment peer => some peer
    | _ => none

theorem begun_append (first second : List ThreadAction) :
    begun (first ++ second) = begun first ++ begun second :=
  List.filterMap_append

/-- The fields after these joins have begun: the counter has counted them, and
every address in use is the host's or that of one of them. -/
structure HasBegun (lanIP : IPv4) (peers : List IPv4) (threads : RingThreads) : Prop where
  counter : threads.master.nextSlaveRID = peers.length
  room : peers.length ≤ 256
  nextSlaveIP : threads.master.nextSlaveIP ∈ lanIP :: peers
  joining : ∀ peer, threads.joining = some peer → peer ∈ peers
  held : ∀ thread address, threads.held thread = some address → address ∈ lanIP :: peers

namespace HasBegun

variable {lanIP : IPv4} {peers : List IPv4} {threads next final : RingThreads}
  {sent : Option (IPv4 × Nat)}

theorem start (lanIP : IPv4) : HasBegun lanIP [] (RingThreads.start lanIP) where
  counter := rfl
  room := Nat.zero_le 256
  nextSlaveIP := List.mem_cons_self
  joining := fun _ impossible => by cases impossible
  held := fun _ _ impossible => by cases impossible

theorem mem_of_increment {address : IPv4} (peer : IPv4) (member : address ∈ lanIP :: peers) :
    address ∈ lanIP :: (peers ++ [peer]) := by
  rw [← List.cons_append]
  exact List.mem_append_left _ member

theorem increment {peer : IPv4} (holds : HasBegun lanIP peers threads)
    (stepped : step threads (.increment peer) = some (next, sent)) :
    HasBegun lanIP (peers ++ [peer]) next := by
  obtain ⟨-, room, -, rfl⟩ := increment_eq_some stepped
  have counter := holds.counter
  constructor
  case counter =>
    rw [List.length_append, List.length_singleton, ← counter]
  case room =>
    rw [List.length_append, List.length_singleton]
    omega
  case nextSlaveIP => exact mem_of_increment peer holds.nextSlaveIP
  case joining =>
    intro other same
    cases same
    exact List.mem_append_right _ List.mem_cons_self
  case held =>
    intro thread address held
    exact mem_of_increment peer (holds.held thread address held)

theorem hold (holds : HasBegun lanIP peers threads) (thread : RingThread)
    {address : Option IPv4} (known : ∀ held, address = some held → held ∈ lanIP :: peers) :
    HasBegun lanIP peers (threads.hold thread address) where
  counter := holds.counter
  room := holds.room
  nextSlaveIP := holds.nextSlaveIP
  joining := holds.joining
  held := by
    intro other held holding
    by_cases same : other = thread
    · subst same
      rw [hold_held_self] at holding
      exact known held holding
    · rw [hold_held_of_ne threads same] at holding
      exact holds.held other held holding

theorem step {action : ThreadAction} (holds : HasBegun lanIP peers threads)
    (stepped : RingThreads.step threads action = some (next, sent)) :
    HasBegun lanIP (peers ++ begun [action]) next := by
  cases action with
  | increment peer => exact holds.increment stepped
  | assign =>
      obtain ⟨peer, joining, -, rfl⟩ := assign_eq_some stepped
      rw [begun, List.filterMap_cons_none rfl, List.filterMap_nil, List.append_nil]
      constructor
      case counter => exact holds.counter
      case room => exact holds.room
      case nextSlaveIP => exact List.mem_cons_of_mem _ (holds.joining peer joining)
      case joining => exact fun _ impossible => by cases impossible
      case held => exact holds.held
  | readIP thread =>
      obtain ⟨-, -, rfl⟩ := readIP_eq_some stepped
      rw [begun, List.filterMap_cons_none rfl, List.filterMap_nil, List.append_nil]
      apply holds.hold thread
      intro held same
      cases same
      exact holds.nextSlaveIP
  | readRID thread =>
      obtain ⟨_, -, rfl, -⟩ := readRID_eq_some stepped
      rw [begun, List.filterMap_cons_none rfl, List.filterMap_nil, List.append_nil]
      apply holds.hold thread
      intro held impossible
      cases impossible

theorem run {actions : List ThreadAction} {outputs : List (Option (IPv4 × Nat))}
    (holds : HasBegun lanIP peers threads)
    (completed : Stepped.run RingThreads.step threads actions = some (final, outputs)) :
    HasBegun lanIP (peers ++ begun actions) final := by
  induction actions generalizing threads peers outputs with
  | nil =>
      rw [Stepped.run_nil] at completed
      cases completed
      rwa [begun, List.filterMap_nil, List.append_nil]
  | cons action actions ih =>
      obtain ⟨next, first, rest, stepped, continued, -⟩ := Stepped.run_cons_eq_some completed
      have kept := ih (holds.step stepped) continued
      rwa [List.append_assoc, ← begun_append, List.singleton_append] at kept

/-- The port tells how many joins had begun, and the address is one of theirs. -/
theorem target {target : IPv4 × Nat} {thread : RingThread} (holds : HasBegun lanIP peers threads)
    (stepped : RingThreads.step threads (.readRID thread) = some (next, some target)) :
    target.2 = 10085 + peers.length ∧ target.1 ∈ lanIP :: peers := by
  obtain ⟨address, held, -, same⟩ := readRID_eq_some stepped
  cases same
  refine ⟨?_, holds.held thread address held⟩
  change 10010 + MASTER_ID * 5 + threads.master.nextSlaveRID = _
  rw [holds.counter]
  rfl

end HasBegun

/-! ## Joins between the two reads -/

/-- The accesses of joins from these addresses, one after the other. -/
def joins (peers : List IPv4) : List ThreadAction :=
  peers.flatMap fun peer => [.increment peer, .assign]

theorem begun_joins (peers : List IPv4) : begun (joins peers) = peers := by
  induction peers with
  | nil => rfl
  | cons peer peers ih =>
      change peer :: begun (joins peers) = peer :: peers
      rw [ih]

theorem run_joins {threads : RingThreads} (settled : threads.joining = none) {peers : List IPv4}
    (room : threads.master.nextSlaveRID + peers.length ≤ 256) :
    ∃ outputs, Stepped.run step threads (joins peers) =
      some ({ threads with master := threads.master.joinedAll peers }, outputs) := by
  induction peers generalizing threads with
  | nil => exact ⟨[], rfl⟩
  | cons peer peers ih =>
      rw [List.length_cons] at room
      have valid : Connection.IsValid ⟨[15, 0x12, 0x34], peer, true⟩ := rfl
      have joined := run_join settled valid (by omega)
      rw [threads.master.acceptJoin_of_room valid (by omega)] at joined
      obtain ⟨outputs, later⟩ := @ih { threads with master := threads.master.joined peer } settled (by
        rw [Master.joined_nextSlaveRID]
        omega)
      refine ⟨[none, none] ++ outputs, ?_⟩
      change Stepped.run step threads ([.increment peer, .assign] ++ joins peers) = _
      rw [Stepped.run_append_of_run joined, later]
      rfl

/-- A thread reads the address after some joins and the counter after more. -/
theorem exists_run_of_le (lanIP : IPv4) {earlier later : List IPv4} (thread : RingThread)
    (room : earlier.length + later.length ≤ 256) :
    ∃ final outputs, Stepped.run step (start lanIP)
        (joins earlier ++ .readIP thread :: (joins later ++ [.readRID thread])) =
      some (final, outputs) ∧
        some (((Master.start lanIP).joinedAll earlier).nextSlaveIP,
          10085 + (earlier.length + later.length)) ∈ outputs := by
  let master := (Master.start lanIP).joinedAll earlier
  have counter : master.nextSlaveRID = earlier.length := by
    rw [Master.joinedAll_nextSlaveRID]
    exact Nat.zero_add _
  let idle : RingThreads := { start lanIP with master := master }
  let reading := idle.hold thread (some master.nextSlaveIP)
  have begins := @run_joins (start lanIP) rfl earlier (by
    change 0 + earlier.length ≤ 256
    omega)
  have continues := @run_joins reading rfl later (by
    change master.nextSlaveRID + later.length ≤ 256
    omega)
  obtain ⟨first, begins⟩ := begins
  obtain ⟨second, continues⟩ := continues
  have unheld : idle.held thread = none := rfl
  have holds : step idle (.readIP thread) = some (reading, none) := by
    rw [step, if_pos unheld]
  let ready : RingThreads := { reading with master := reading.master.joinedAll later }
  have holding : ready.held thread = some master.nextSlaveIP := hold_held_self idle thread _
  have sends : step ready (.readRID thread) = some (ready.hold thread none,
      some (master.nextSlaveIP, ready.master.calculateTargetPort)) := by
    rw [step, holding]
    rfl
  have port : ready.master.calculateTargetPort = 10085 + (earlier.length + later.length) := by
    change 10010 + MASTER_ID * 5 + (master.joinedAll later).nextSlaveRID = _
    rw [Master.joinedAll_nextSlaveRID, counter]
    rfl
  rw [port] at sends
  have ends : Stepped.run step ready [.readRID thread] = some (ready.hold thread none,
      [some (master.nextSlaveIP, 10085 + (earlier.length + later.length))]) := by
    rw [Stepped.run_cons_of_step sends]
    rfl
  have rest : Stepped.run step reading (joins later ++ [.readRID thread]) =
      some (ready.hold thread none, second ++
        [some (master.nextSlaveIP, 10085 + (earlier.length + later.length))]) := by
    rw [Stepped.run_append_of_run continues, ends]
    rfl
  refine ⟨_, _, Stepped.run_through_step begins holds rest, ?_⟩
  simp [master]

/-- What is sent in a run has the port of some number of begun joins and an address of
one of these, or the master's own. -/
theorem address_not_ahead_of_run {lanIP : IPv4} {peers : List IPv4} {target : IPv4 × Nat}
    {actions : List ThreadAction} {final : RingThreads} {sent : List (Option (IPv4 × Nat))}
    (order : begun actions <+: peers)
    (completed : Stepped.run step (start lanIP) actions = some (final, sent))
    (passed : some target ∈ sent) :
    ∃ count ≤ peers.length, count ≤ 256 ∧ target.2 = 10085 + count ∧
      target.1 ∈ lanIP :: peers.take count := by
  obtain ⟨before, action, after, threads, earlier, next, rfl, reached, stepped⟩ :=
    Stepped.exists_step_of_mem completed passed
  have holds := (HasBegun.start lanIP).run reached
  rw [List.nil_append] at holds
  have earlierOrder : begun before <+: peers := by
    apply List.IsPrefix.trans _ order
    rw [begun_append]
    exact List.prefix_append _ _
  have taken : peers.take (begun before).length = begun before :=
    (List.prefix_iff_eq_take.mp earlierOrder).symm
  -- Only the second read of a thread passes anything to `sendto`.
  cases action with
  | increment peer =>
      obtain ⟨-, -, impossible, -⟩ := increment_eq_some stepped
      cases impossible
  | assign =>
      obtain ⟨_, -, impossible, -⟩ := assign_eq_some stepped
      cases impossible
  | readIP thread =>
      obtain ⟨-, impossible, -⟩ := readIP_eq_some stepped
      cases impossible
  | readRID thread =>
      obtain ⟨port, address⟩ := holds.target stepped
      refine ⟨_, earlierOrder.length_le, holds.room, port, ?_⟩
      rwa [taken]

/-- The address that is current after the first joins, if it is found among the first
`count` ones. -/
theorem nextSlaveIP_joinedAll_take {lanIP address : IPv4} {peers : List IPv4} {count join : Nat}
    (joinLe : join ≤ count) (inside : count ≤ peers.length)
    (found : (lanIP :: peers.take count)[join]? = some address) :
    ((Master.start lanIP).joinedAll (peers.take join)).nextSlaveIP = address := by
  have length : (peers.take join).length = join := by
    rw [List.length_take]
    omega
  have last := (Master.start lanIP).joinedAll_nextSlaveIP (peers.take join)
  have same : (lanIP :: peers.take join)[join]? = (lanIP :: peers.take count)[join]? := by
    cases join with
    | zero => rfl
    | succ join =>
        rw [List.getElem?_cons_succ, List.getElem?_cons_succ, List.getElem?_take,
          List.getElem?_take, if_pos (by omega), if_pos (by omega)]
  rw [length] at last
  change (lanIP :: peers.take join)[join]? = _ at last
  rw [same, found, Option.some.injEq] at last
  exact last.symm

/-- While slaves join from these addresses, in this order, the threads can send to
exactly the pairs of a port of some number of joins and an address of one of these
joins, or the master's own: an address may be out of date by any number of joins,
but is never ahead of its port. -/
theorem sends_iff_address_not_ahead (lanIP : IPv4) (peers : List IPv4) (target : IPv4 × Nat) :
    (∃ actions final sent, begun actions <+: peers ∧
      Stepped.run step (start lanIP) actions = some (final, sent) ∧ some target ∈ sent) ↔
    ∃ count ≤ peers.length, count ≤ 256 ∧ target.2 = 10085 + count ∧
      target.1 ∈ lanIP :: peers.take count := by
  constructor
  · rintro ⟨actions, final, sent, order, completed, passed⟩
    exact address_not_ahead_of_run order completed passed
  · rintro ⟨count, inside, room, port, address⟩
    obtain ⟨join, joinLt, found⟩ := List.getElem_of_mem address
    rw [List.length_cons, List.length_take, Nat.min_eq_left inside] at joinLt
    have gap : ((peers.take count).drop join).length = count - join := by
      rw [List.length_drop, List.length_take, Nat.min_eq_left inside]
    have length : (peers.take join).length = join := by
      rw [List.length_take]
      omega
    have split : peers.take join ++ (peers.take count).drop join = peers.take count := by
      have earlier : peers.take join = (peers.take count).take join := by
        rw [List.take_take, Nat.min_eq_left (by omega : join ≤ count)]
      rw [earlier, List.take_append_drop]
    obtain ⟨final, sent, completed, passed⟩ := @exists_run_of_le lanIP (peers.take join)
      ((peers.take count).drop join) .send (by omega)
    refine ⟨_, final, sent, ?_, completed, ?_⟩
    · -- The joins of the run are the first `count` ones.
      rw [begun_append, begun_joins, begun, List.filterMap_cons_none rfl, ← begun, begun_append,
        begun_joins, begun, List.filterMap_cons_none rfl, List.filterMap_nil, List.append_nil, split]
      exact List.take_prefix count peers
    · have here : (lanIP :: peers.take count)[join]? = some target.1 := by
        rw [← found]
        exact List.getElem?_eq_getElem _
      have current := nextSlaveIP_joinedAll_take (by omega : join ≤ count) inside here
      have total : 10085 + ((peers.take join).length + ((peers.take count).drop join).length) =
          target.2 := by omega
      rwa [current, total] at passed

end RingThreads

end OpServer
