import OpServer.RingForwarding

/-!
# The threads of the master

The accept thread assigns `nextSlaveRID` and `nextSlaveIP` one after the other.
The send thread and the receive thread read them in the other order, when they
evaluate the address and the port for `sendto`.  Nothing orders the accesses of
different threads.
-/

namespace OpServer

open Python

/-- The threads that call `sendto`. -/
inductive RingThread
  | send
  | recv
  deriving DecidableEq

/-- The fields of a master, with the joining address between the two assignments
of the accept thread, and the addresses that the other threads have read for a
`sendto` whose port they have not computed yet. -/
structure RingThreads where
  master : Master
  joining : Option IPv4
  held : RingThread → Option IPv4

/-- One access to the fields: the two assignments for a valid request, and the
two reads of a thread, the second of which is followed by `sendto`. -/
inductive ThreadAction
  | increment (peer : IPv4)
  | assign
  | readIP (thread : RingThread)
  | readRID (thread : RingThread)
  deriving DecidableEq

namespace RingThreads

/-- The threads of a master that starts on a host with the given address. -/
def start (lanIP : IPv4) : RingThreads where
  master := Master.start lanIP
  joining := none
  held := fun _ => none

def hold (threads : RingThreads) (thread : RingThread) (address : Option IPv4) : RingThreads :=
  { threads with held := Function.update threads.held thread address }

@[simp]
theorem hold_held_self (threads : RingThreads) (thread : RingThread) (address : Option IPv4) :
    (threads.hold thread address).held thread = address := by
  simp [hold]

theorem hold_held_of_ne (threads : RingThreads) {thread other : RingThread}
    (different : other ≠ thread) (address : Option IPv4) :
    (threads.hold thread address).held other = threads.held other := by
  simp [hold, different]

/-- An access of some thread, and what it passes to `sendto`, if anything.  The
accept thread gets to its assignments once `pack_response` has returned. -/
def step (threads : RingThreads) : ThreadAction → Option (RingThreads × Option (IPv4 × Nat))
  | .increment peer =>
      if threads.joining = none ∧ threads.master.nextSlaveRID ≤ 255 then
        some ({ threads with
          master := { threads.master with nextSlaveRID := threads.master.nextSlaveRID + 1 }
          joining := some peer }, none)
      else none
  | .assign =>
      threads.joining.map fun peer =>
        ({ threads with
          master := { threads.master with nextSlaveIP := peer }
          joining := none }, none)
  | .readIP thread =>
      if threads.held thread = none then
        some (threads.hold thread (some threads.master.nextSlaveIP), none)
      else none
  | .readRID thread =>
      (threads.held thread).map fun address =>
        (threads.hold thread none, some (address, threads.master.calculateTargetPort))

/-! ## What each access does -/

section Steps

variable {threads next : RingThreads} {sent : Option (IPv4 × Nat)}

theorem increment_eq_some {peer : IPv4}
    (stepped : step threads (.increment peer) = some (next, sent)) :
    threads.joining = none ∧ threads.master.nextSlaveRID ≤ 255 ∧ sent = none ∧
      next = { threads with
        master := { threads.master with nextSlaveRID := threads.master.nextSlaveRID + 1 }
        joining := some peer } := by
  rw [step] at stepped
  split at stepped
  · rename_i enabled
    cases stepped
    exact ⟨enabled.1, enabled.2, rfl, rfl⟩
  · cases stepped

theorem assign_eq_some (stepped : step threads .assign = some (next, sent)) :
    ∃ peer, threads.joining = some peer ∧ sent = none ∧
      next = { threads with
        master := { threads.master with nextSlaveIP := peer }
        joining := none } := by
  rw [step, Option.map_eq_some_iff] at stepped
  obtain ⟨peer, joining, same⟩ := stepped
  cases same
  exact ⟨peer, joining, rfl, rfl⟩

theorem readIP_eq_some {thread : RingThread}
    (stepped : step threads (.readIP thread) = some (next, sent)) :
    threads.held thread = none ∧ sent = none ∧
      next = threads.hold thread (some threads.master.nextSlaveIP) := by
  rw [step] at stepped
  split at stepped
  · rename_i idle
    cases stepped
    exact ⟨idle, rfl, rfl⟩
  · cases stepped

theorem readRID_eq_some {thread : RingThread}
    (stepped : step threads (.readRID thread) = some (next, sent)) :
    ∃ address, threads.held thread = some address ∧ next = threads.hold thread none ∧
      sent = some (address, threads.master.calculateTargetPort) := by
  rw [step, Option.map_eq_some_iff] at stepped
  obtain ⟨address, held, same⟩ := stepped
  cases same
  exact ⟨address, held, rfl, rfl⟩

end Steps

/-- Undisturbed, the two assignments are the join that an iteration of
`accept_joins` makes. -/
theorem run_join {threads : RingThreads} {connection : Connection}
    (settled : threads.joining = none) (valid : connection.IsValid)
    (room : threads.master.nextSlaveRID ≤ 255) :
    Stepped.run step threads [.increment connection.peer, .assign] =
      some ({ threads with master := (threads.master.acceptJoin connection).1 }, [none, none]) := by
  rw [threads.master.acceptJoin_of_room valid room, Stepped.run, step, if_pos ⟨settled, room⟩,
    Option.bind_some, Stepped.run, step, Option.map_some, Option.bind_some]
  simp only [Stepped.run_nil, Option.map_some, Master.joined, settled]

/-- Undisturbed, a thread sends to the master's target. -/
theorem run_sendto {threads : RingThreads} {thread : RingThread}
    (idle : threads.held thread = none) :
    (Stepped.run step threads [.readIP thread, .readRID thread]).map Prod.snd =
      some [none, some threads.master.target] := by
  rw [Stepped.run, step, if_pos idle, Option.bind_some, Stepped.run, step, hold_held_self,
    Option.map_some, Option.bind_some]
  rfl

/-! ## The address that goes with the counter -/

/-- The address of the slave that the counter counted last. -/
def owner (threads : RingThreads) : IPv4 :=
  threads.joining.getD threads.master.nextSlaveIP

/-- What a state has in common with a later one. -/
structure Precedes (threads later : RingThreads) : Prop where
  counter : threads.master.nextSlaveRID ≤ later.master.nextSlaveRID
  owner : threads.master.nextSlaveRID = later.master.nextSlaveRID → threads.owner = later.owner
  settled : threads.master.nextSlaveRID = later.master.nextSlaveRID →
    threads.joining = none → later.joining = none

theorem Precedes.refl (threads : RingThreads) : threads.Precedes threads :=
  ⟨le_refl _, fun _ => rfl, fun _ settled => settled⟩

theorem Precedes.trans {first second third : RingThreads} (earlier : first.Precedes second)
    (later : second.Precedes third) : first.Precedes third := by
  have lower := earlier.counter
  have upper := later.counter
  refine ⟨lower.trans upper, fun same => ?_, fun same settled => ?_⟩
  · rw [earlier.owner (by omega), later.owner (by omega)]
  · exact later.settled (by omega) (earlier.settled (by omega) settled)

/-- Only the increment moves the counter, and the assignment after it hands the
counter's address on. -/
theorem precedes_of_step {threads next : RingThreads} {action : ThreadAction}
    {sent : Option (IPv4 × Nat)} (stepped : step threads action = some (next, sent)) :
    threads.Precedes next := by
  cases action with
  | increment peer =>
      obtain ⟨-, -, -, rfl⟩ := increment_eq_some stepped
      exact ⟨Nat.le_succ _, fun same => absurd same (Nat.succ_ne_self _).symm,
        fun same => absurd same (Nat.succ_ne_self _).symm⟩
  | assign =>
      obtain ⟨peer, joining, -, rfl⟩ := assign_eq_some stepped
      exact ⟨le_refl _, fun _ => by simp [RingThreads.owner, joining], fun _ _ => rfl⟩
  | readIP thread =>
      obtain ⟨-, -, rfl⟩ := readIP_eq_some stepped
      exact ⟨le_refl _, fun _ => rfl, fun _ settled => settled⟩
  | readRID thread =>
      obtain ⟨_, -, rfl, -⟩ := readRID_eq_some stepped
      exact ⟨le_refl _, fun _ => rfl, fun _ settled => settled⟩

theorem joining_of_step {threads next : RingThreads} {action : ThreadAction}
    {sent : Option (IPv4 × Nat)} (pending : threads.joining ≠ none) (other : action ≠ .assign)
    (stepped : step threads action = some (next, sent)) : next.joining ≠ none := by
  cases action with
  | increment peer =>
      obtain ⟨-, -, -, rfl⟩ := increment_eq_some stepped
      exact Option.some_ne_none peer
  | assign => exact absurd rfl other
  | readIP thread =>
      obtain ⟨-, -, rfl⟩ := readIP_eq_some stepped
      exact pending
  | readRID thread =>
      obtain ⟨_, -, rfl, -⟩ := readRID_eq_some stepped
      exact pending

section Runs

variable {threads final : RingThreads} {actions : List ThreadAction}
  {sent : List (Option (IPv4 × Nat))} {peer : IPv4}

theorem precedes_of_run (completed : Stepped.run step threads actions = some (final, sent)) :
    threads.Precedes final := by
  apply Stepped.run_trace_invariant _ (Precedes.refl threads) (fun _ _ => trivial) completed
  intro state _ action next output earlier _ stepped
  exact earlier.trans (precedes_of_step stepped)

theorem joining_of_not_assign (pending : threads.joining ≠ none)
    (unassigned : .assign ∉ actions)
    (completed : Stepped.run step threads actions = some (final, sent)) :
    final.joining ≠ none := by
  have others : ∀ action ∈ actions, action ≠ .assign := by
    rintro _ member rfl
    exact unassigned member
  apply Stepped.run_trace_invariant _ pending others completed
  intro state _ action next output waiting other stepped
  exact joining_of_step waiting other stepped

/-- A join in progress is completed, before the next one, by an assignment. -/
theorem exists_settled_of_assign (pending : threads.joining = some peer)
    (assigns : .assign ∈ actions)
    (completed : Stepped.run step threads actions = some (final, sent)) :
    ∃ before after settled earlier, actions = before ++ after ∧
      Stepped.run step threads before = some (settled, earlier) ∧ settled.joining = none ∧
        settled.master.target = (peer, threads.master.calculateTargetPort) := by
  induction actions generalizing threads sent with
  | nil => cases assigns
  | cons action actions ih =>
      obtain ⟨next, first, _, stepped, continued, -⟩ := Stepped.run_cons_eq_some completed
      -- A read leaves the join in progress, and the rest of the run completes it.
      have later (same : next.joining = some peer ∧ next.master = threads.master)
          (assignsLater : .assign ∈ actions) : ∃ before after settled earlier,
          action :: actions = before ++ after ∧
            Stepped.run step threads before = some (settled, earlier) ∧ settled.joining = none ∧
              settled.master.target = (peer, threads.master.calculateTargetPort) := by
        obtain ⟨before, after, settled, earlier, rfl, reached, complete, target⟩ :=
          ih same.1 assignsLater continued
        refine ⟨action :: before, after, settled, first :: earlier, rfl, ?_, complete, ?_⟩
        · rw [Stepped.run_cons_of_step stepped, reached]
          rfl
        · rw [target, same.2]
      cases action with
      | increment other =>
          obtain ⟨idle, -⟩ := increment_eq_some stepped
          rw [idle] at pending
          cases pending
      | assign =>
          refine ⟨[.assign], actions, next, [first], rfl, ?_, ?_⟩
          · rw [Stepped.run_cons_of_step stepped]
            rfl
          · obtain ⟨assigned, joining, -, rfl⟩ := assign_eq_some stepped
            rw [pending, Option.some.injEq] at joining
            subst joining
            exact ⟨rfl, rfl⟩
      | readIP thread =>
          obtain ⟨-, -, rfl⟩ := readIP_eq_some stepped
          exact later ⟨pending, rfl⟩ (by simpa using assigns)
      | readRID thread =>
          obtain ⟨_, -, rfl, -⟩ := readRID_eq_some stepped
          exact later ⟨pending, rfl⟩ (by simpa using assigns)

end Runs

/-! ## What the threads send to -/

/-- Whatever is passed to `sendto` is the target of some state of the run between
two joins. -/
def SendsSettled (lanIP : IPv4) (actions : List ThreadAction)
    (sent : List (Option (IPv4 × Nat))) : Prop :=
  ∀ target, some target ∈ sent → ∃ before after threads earlier, actions = before ++ after ∧
    Stepped.run step (start lanIP) before = some (threads, earlier) ∧
      threads.joining = none ∧ target = threads.master.target

/-- Whenever a thread reads the counter, it holds the counter's address; and if
that belongs to a join in progress, the join completes. -/
def ReadsMatch (lanIP : IPv4) (actions : List ThreadAction) : Prop :=
  ∀ before thread after threads earlier, actions = before ++ .readRID thread :: after →
    Stepped.run step (start lanIP) before = some (threads, earlier) →
      threads.held thread = some threads.owner ∧
        (threads.joining ≠ none → .assign ∈ after)

section Targets

variable {lanIP : IPv4} {actions : List ThreadAction} {final : RingThreads}
  {sent : List (Option (IPv4 × Nat))}

theorem nextSlaveRID_eq_of_port {first second : Master}
    (same : first.calculateTargetPort = second.calculateTargetPort) :
    first.nextSlaveRID = second.nextSlaveRID := by
  simp only [Master.calculateTargetPort] at same
  omega

theorem readsMatch_of_sendsSettled
    (completed : Stepped.run step (start lanIP) actions = some (final, sent))
    (settled : SendsSettled lanIP actions sent) : ReadsMatch lanIP actions := by
  intro before thread after threads earlier split reached
  rw [split] at completed
  obtain ⟨next, output, later, stepped, -, rfl⟩ := Stepped.step_of_run completed reached
  obtain ⟨address, held, -, rfl⟩ := readRID_eq_some stepped
  obtain ⟨before', after', between, earlier', split', reached', complete, target⟩ :=
    settled (address, threads.master.calculateTargetPort) (by simp)
  obtain ⟨addressEq, portEq⟩ := Prod.mk.inj target
  have counter := nextSlaveRID_eq_of_port portEq
  have betweenOwner : between.owner = address := by rw [owner, complete, Option.getD_none, addressEq]
  rw [held]
  rcases List.append_eq_append_iff.mp (split.symm.trans split') with
    ⟨gap, rfl, gapEq⟩ | ⟨gap, rfl, -⟩
  · -- The state between two joins comes later than the read.
    obtain ⟨middle, _, _, reachedMiddle, continued, -⟩ :=
      Stepped.run_append_eq_some_iff.mp reached'
    rw [reached, Option.some.injEq, Prod.mk.injEq] at reachedMiddle
    obtain ⟨rfl, rfl⟩ := reachedMiddle
    refine ⟨?_, fun pending => ?_⟩
    · rw [(precedes_of_run continued).owner counter, betweenOwner]
    · by_contra unassigned
      refine joining_of_not_assign pending (fun assigns => unassigned ?_) continued complete
      have member : ThreadAction.assign ∈ ThreadAction.readRID thread :: after := by
        rw [gapEq]
        exact List.mem_append_left _ assigns
      simpa using member
  · -- It comes before the read, and no join has begun since.
    obtain ⟨middle, _, _, reachedMiddle, continued, -⟩ :=
      Stepped.run_append_eq_some_iff.mp reached
    rw [reached', Option.some.injEq, Prod.mk.injEq] at reachedMiddle
    obtain ⟨rfl, rfl⟩ := reachedMiddle
    have since := precedes_of_run continued
    refine ⟨?_, fun pending => absurd (since.settled counter.symm complete) pending⟩
    rw [← since.owner counter.symm, betweenOwner]

theorem sendsSettled_of_readsMatch
    (completed : Stepped.run step (start lanIP) actions = some (final, sent))
    (matched : ReadsMatch lanIP actions) : SendsSettled lanIP actions sent := by
  intro target emitted
  obtain ⟨before, action, after, threads, earlier, next, split, reached, stepped⟩ :=
    Stepped.exists_step_of_mem completed emitted
  cases action with
  | increment peer =>
      obtain ⟨-, -, silent, -⟩ := increment_eq_some stepped
      cases silent
  | assign =>
      obtain ⟨_, -, silent, -⟩ := assign_eq_some stepped
      cases silent
  | readIP thread =>
      obtain ⟨-, silent, -⟩ := readIP_eq_some stepped
      cases silent
  | readRID thread =>
      obtain ⟨address, held, rfl, sends⟩ := readRID_eq_some stepped
      obtain ⟨owned, completes⟩ := matched before thread after threads earlier split reached
      rw [held, Option.some.injEq] at owned
      rw [Option.some.injEq] at sends
      subst sends owned
      cases joining : threads.joining with
      | none =>
          refine ⟨before, _, threads, earlier, split, reached, joining, ?_⟩
          rw [owner, joining]
          rfl
      | some peer =>
          subst split
          obtain ⟨next', _, later, stepped', continued, -⟩ := Stepped.step_of_run completed reached
          rw [stepped, Option.some.injEq, Prod.mk.injEq] at stepped'
          obtain ⟨rfl, rfl⟩ := stepped'
          have pending : (threads.hold thread none).joining = some peer := joining
          have assigns := completes (by rw [joining]; exact Option.some_ne_none peer)
          obtain ⟨front, rest, settled, trace, rfl, reachedSettled, complete, targetEq⟩ :=
            exists_settled_of_assign pending assigns continued
          refine ⟨before ++ .readRID thread :: front, rest, settled, _, by simp,
            Stepped.run_through_step reached stepped reachedSettled, complete, ?_⟩
          rw [targetEq, owner, joining]
          rfl

end Targets

/-! ## Accesses that a lock would order -/

/-- No thread is between its two reads while the accept thread begins a join, and
none begins to read while a join is in progress. -/
def Undisturbed (threads : RingThreads) : ThreadAction → Prop
  | .increment _ => ∀ thread, threads.held thread = none
  | .readIP _ => threads.joining = none
  | .assign | .readRID _ => True

/-- Every access of the run is undisturbed. -/
def AllUndisturbed (lanIP : IPv4) (actions : List ThreadAction) : Prop :=
  ∀ before action after threads earlier, actions = before ++ action :: after →
    Stepped.run step (start lanIP) before = some (threads, earlier) → threads.Undisturbed action

/-- A thread that holds an address holds the current one, and no join is in
progress. -/
def HoldsCurrent (threads : RingThreads) : Prop :=
  ∀ thread address, threads.held thread = some address →
    threads.joining = none ∧ address = threads.master.nextSlaveIP

theorem holdsCurrent_of_step {threads next : RingThreads} {action : ThreadAction}
    {sent : Option (IPv4 × Nat)} (current : threads.HoldsCurrent)
    (undisturbed : threads.Undisturbed action) (stepped : step threads action = some (next, sent)) :
    next.HoldsCurrent := by
  intro thread address held
  cases action with
  | increment peer =>
      obtain ⟨-, -, -, rfl⟩ := increment_eq_some stepped
      rw [show threads.held thread = none from undisturbed thread] at held
      cases held
  | assign =>
      obtain ⟨peer, joining, -, rfl⟩ := assign_eq_some stepped
      rw [(current thread address held).1] at joining
      cases joining
  | readIP reader =>
      obtain ⟨-, -, rfl⟩ := readIP_eq_some stepped
      by_cases own : thread = reader
      · subst own
        rw [hold_held_self, Option.some.injEq] at held
        exact ⟨undisturbed, held.symm⟩
      · rw [hold_held_of_ne threads own] at held
        exact current thread address held
  | readRID reader =>
      obtain ⟨_, -, rfl, -⟩ := readRID_eq_some stepped
      by_cases own : thread = reader
      · subst own
        rw [hold_held_self] at held
        cases held
      · rw [hold_held_of_ne threads own] at held
        exact current thread address held

theorem readsMatch_of_allUndisturbed {lanIP : IPv4} {actions : List ThreadAction}
    {final : RingThreads} {sent : List (Option (IPv4 × Nat))}
    (completed : Stepped.run step (start lanIP) actions = some (final, sent))
    (undisturbed : AllUndisturbed lanIP actions) : ReadsMatch lanIP actions := by
  intro before thread after threads earlier split reached
  have current : threads.HoldsCurrent := by
    refine Stepped.run_guarded_invariant
      (fun _ _ _ _ holds allowed stepped => holdsCurrent_of_step holds allowed stepped)
      (fun _ _ held => by cases held) (Stepped.guarded_of_reached ?_) reached
    intro front action rest middle trace frontEq reachedFront
    apply undisturbed front action (rest ++ .readRID thread :: after) middle trace _ reachedFront
    rw [split, frontEq, List.append_assoc, List.cons_append]
  rw [split] at completed
  obtain ⟨_, _, _, stepped, -, -⟩ := Stepped.step_of_run completed reached
  obtain ⟨address, held, -, -⟩ := readRID_eq_some stepped
  obtain ⟨settled, rfl⟩ := current thread address held
  refine ⟨?_, fun pending => absurd settled pending⟩
  rw [held, owner, settled, Option.getD_none]

end RingThreads

/-- In every run of the threads, the targets of all `sendto` calls are those of
states between two joins if and only if every read of the counter finds its
thread holding the counter's address.  That is so if a lock keeps the accesses
of a join and those of a `sendto` apart. -/
theorem targets_settled_iff {lanIP : IPv4} {actions : List ThreadAction} {final : RingThreads}
    {sent : List (Option (IPv4 × Nat))}
    (completed : Stepped.run RingThreads.step (RingThreads.start lanIP) actions =
      some (final, sent)) :
    (RingThreads.SendsSettled lanIP actions sent ↔ RingThreads.ReadsMatch lanIP actions) ∧
    (RingThreads.AllUndisturbed lanIP actions → RingThreads.SendsSettled lanIP actions sent) := by
  have settled := RingThreads.sendsSettled_of_readsMatch completed
  refine ⟨⟨RingThreads.readsMatch_of_sendsSettled completed, settled⟩, fun undisturbed => ?_⟩
  exact settled (RingThreads.readsMatch_of_allUndisturbed completed undisturbed)

theorem targets_settled_iff_one_join :
    ∃ final sent, Stepped.run RingThreads.step (RingThreads.start #v[10, 0, 0, 1])
        [.increment #v[10, 0, 0, 2], .assign, .readIP .send, .readRID .send] = some (final, sent) ∧
      (RingThreads.SendsSettled #v[10, 0, 0, 1]
          [.increment #v[10, 0, 0, 2], .assign, .readIP .send, .readRID .send] sent ↔
        RingThreads.ReadsMatch #v[10, 0, 0, 1]
          [.increment #v[10, 0, 0, 2], .assign, .readIP .send, .readRID .send]) ∧
      (RingThreads.AllUndisturbed #v[10, 0, 0, 1]
          [.increment #v[10, 0, 0, 2], .assign, .readIP .send, .readRID .send] →
        RingThreads.SendsSettled #v[10, 0, 0, 1]
          [.increment #v[10, 0, 0, 2], .assign, .readIP .send, .readRID .send] sent) := by
  obtain ⟨⟨final, sent⟩, completed⟩ := Option.isSome_iff_exists.mp
    (show (Stepped.run RingThreads.step (RingThreads.start #v[10, 0, 0, 1])
      [.increment #v[10, 0, 0, 2], .assign, .readIP .send, .readRID .send]).isSome by decide)
  exact ⟨final, sent, completed, targets_settled_iff completed⟩

/-- A message that is sent while the first slave joins goes to the master's own
address, at the slave's port. -/
theorem send_during_join_goes_astray :
    ∃ final sent, Stepped.run RingThreads.step (RingThreads.start #v[10, 0, 0, 1])
        [.increment #v[10, 0, 0, 2], .readIP .send, .readRID .send, .assign] = some (final, sent) ∧
      sent = [none, none, some (#v[10, 0, 0, 1], 10086), none] ∧
      ¬RingThreads.SendsSettled #v[10, 0, 0, 1]
        [.increment #v[10, 0, 0, 2], .readIP .send, .readRID .send, .assign] sent := by
  have sends : (Stepped.run RingThreads.step (RingThreads.start #v[10, 0, 0, 1])
      [.increment #v[10, 0, 0, 2], .readIP .send, .readRID .send, .assign]).map Prod.snd =
      some [none, none, some (#v[10, 0, 0, 1], 10086), none] := by decide
  rw [Option.map_eq_some_iff] at sends
  obtain ⟨⟨final, sent⟩, completed, sentEq⟩ := sends
  refine ⟨final, sent, completed, sentEq, fun settled => ?_⟩
  have matched := RingThreads.readsMatch_of_sendsSettled completed settled
  have held := (matched [.increment #v[10, 0, 0, 2], .readIP .send] .send [.assign] _ _ rfl rfl).1
  exact absurd held (by decide)

end OpServer
