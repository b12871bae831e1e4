import OpServer.RingContents
import OpServer.RingForwarding
import Mathlib.Data.Fintype.Basic

/-!
# What the processes of a ring print

Whatever the threads do in whatever order, all data on the network goes back to
a message that a user typed for some ring ID.  So a process prints only messages
that were typed for its own ring ID, some of the long ones cut off, and its
receive thread never comes upon a datagram that it cannot read.
-/

namespace OpServer

open Python

namespace Master

/-! ## One datagram -/

theorem exists_ringDatagram_of_formDatagram {master : Master} {targetRID : Int}
    {userMessage formedDatagram : List Byte}
    (formed : master.formDatagram targetRID userMessage = .ok formedDatagram) :
    master.myRingID ≤ 255 ∧ ∃ target : Byte, targetRID = target.toNat ∧
      formedDatagram = ringDatagram target (BitVec.ofNat 8 master.myRingID) userMessage := by
  have fits := fits_of_formDatagram formed
  refine ⟨fits, BitVec.ofNat 8 targetRID.toNat, ?_⟩
  have range : 0 ≤ targetRID ∧ targetRID < 256 := by
    unfold formDatagram at formed
    obtain ⟨_, -, formed⟩ := bind_eq_ok_iff.mp formed
    obtain ⟨_, -, formed⟩ := bind_eq_ok_iff.mp formed
    obtain ⟨_, -, formed⟩ := bind_eq_ok_iff.mp formed
    obtain ⟨_, packed, -⟩ := bind_eq_ok_iff.mp formed
    exact (pack_eq_ok_iff.mp packed).1
  have target : targetRID = (BitVec.ofNat 8 targetRID.toNat).toNat := by
    rw [BitVec.toNat_ofNat]
    omega
  have same := formDatagram_eq fits (BitVec.ofNat 8 targetRID.toNat) userMessage
  rw [← target, formed, Except.ok.injEq] at same
  exact ⟨target, same⟩

theorem formDatagram_eq_error {master : Master} {targetRID : Int} {userMessage : List Byte}
    {error : PythonError} (failed : master.formDatagram targetRID userMessage = .error error) :
    error = .structError ∧
      ¬(0 ≤ targetRID ∧ targetRID ≤ 255 ∧ master.myRingID ≤ 255) := by
  have masterID : pack .B MASTER_ID = .ok [15] := pack_B_toNat 15
  have magic : pack .H 0x1234 = .ok [0x12, 0x34] := by decide
  have full : pack .B 255 = .ok [255] := pack_B_toNat 255
  by_cases target : Format.B.Fits targetRID
  · by_cases source : Format.B.Fits master.myRingID
    · -- Both ring IDs are bytes, and the datagram is formed.
      have fits : master.myRingID ≤ 255 := by
        have upper := source.2
        change (master.myRingID : Int) < 256 at upper
        omega
      have lower := target.1
      have upper := target.2
      change targetRID < 256 at upper
      have same : targetRID = (BitVec.ofNat 8 targetRID.toNat).toNat := by
        rw [BitVec.toNat_ofNat]
        omega
      rw [same, formDatagram_eq fits] at failed
      cases failed
    · have unpacked : pack .B master.myRingID = .error .structError := if_neg source
      obtain ⟨bytes, packed⟩ : ∃ bytes, pack .B targetRID = .ok bytes := ⟨_, if_pos target⟩
      simp only [formDatagram, masterID, magic, full, packed, unpacked, bind, Except.bind] at failed
      cases failed
      refine ⟨rfl, fun inRange => source ⟨Int.natCast_nonneg _, ?_⟩⟩
      change (master.myRingID : Int) < 256
      omega
  · have unpacked : pack .B targetRID = .error .structError := if_neg target
    simp only [formDatagram, masterID, magic, full, unpacked, bind, Except.bind] at failed
    cases failed
    refine ⟨rfl, fun inRange => target ⟨inRange.1, ?_⟩⟩
    change targetRID < 256
    omega

theorem recvHandleMessage_congr (node : Master) {first second : List Byte}
    (same : first.take BUFF_SIZE = second.take BUFF_SIZE) :
    node.recvHandleMessage first = node.recvHandleMessage second := by
  rw [recvHandleMessage, same, ← recvHandleMessage]

theorem forwarded_eq {node : Master} {datagram data : List Byte} {target : IPv4 × Nat}
    (handled : node.recvHandleMessage datagram = .ok (.forwarded data target)) :
    data = datagram.take BUFF_SIZE ∧ target = node.target := by
  by_cases verified : verifyChecksum (datagram.take BUFF_SIZE) = true
  · cases addressed : datagram[4]? with
    | none =>
        have short : (datagram.take BUFF_SIZE).length ≤ 4 := by
          rw [List.getElem?_eq_none_iff] at addressed
          rw [List.length_take]
          omega
        rw [node.recvHandleMessage_of_short verified short] at handled
        cases handled
    | some destination =>
        rw [node.recvHandleMessage_of_verified verified addressed] at handled
        split at handled
        · cases handled
        · cases handled
          exact ⟨rfl, rfl⟩
  · rw [node.recvHandleMessage_of_corrupted verified] at handled
    cases handled

section Handled

variable {node : Master} {targetRID sourceRID : Byte} {userMessage : List Byte}

/-- A message is printed by the process for which it was typed, in full if it is
short, and cut off after 64 bytes otherwise. -/
theorem printed_ringDatagram {message : List Byte}
    (handled : node.recvHandleMessage (ringDatagram targetRID sourceRID userMessage) =
      .ok (.printed message)) :
    targetRID.toNat = node.myRingID ∧
      (message = userMessage ∨ 64 < userMessage.length ∧ message = userMessage.take 64 ∧
        (340 + targetRID.toNat + sourceRID.toNat + byteTotal (userMessage.take 65)) % 255 = 0) := by
  by_cases addressed : targetRID.toNat = node.myRingID
  · refine ⟨addressed, ?_⟩
    by_cases short : userMessage.length ≤ 64
    · rw [recvHandleMessage_ringDatagram _ _ node short, if_pos addressed] at handled
      cases handled
      exact .inl rfl
    · have long : 64 < userMessage.length := Nat.lt_of_not_le short
      rw [recvHandleMessage_of_long _ _ addressed.symm long] at handled
      split at handled
      · rename_i multiple
        cases handled
        exact .inr ⟨long, rfl, multiple⟩
      · cases handled
  · rw [recvHandleMessage_of_other (ringDatagram_target _ _ _) addressed] at handled
    split at handled
    · cases handled
    · cases handled

theorem long_of_errorFound
    (handled : node.recvHandleMessage (ringDatagram targetRID sourceRID userMessage) =
      .ok .errorFound) : 64 < userMessage.length := by
  by_contra short
  rw [recvHandleMessage_ringDatagram _ _ node (Nat.le_of_not_lt short)] at handled
  split at handled
  · cases handled
  · cases handled

theorem recvHandleMessage_ringDatagram_ne_error (error : PythonError) :
    node.recvHandleMessage (ringDatagram targetRID sourceRID userMessage) ≠ .error error := by
  intro failed
  by_cases verified : verifyChecksum
      ((ringDatagram targetRID sourceRID userMessage).take BUFF_SIZE) = true
  · rw [node.recvHandleMessage_of_verified verified (ringDatagram_target _ _ _)] at failed
    cases failed
  · rw [node.recvHandleMessage_of_corrupted verified] at failed
    cases failed

end Handled

end Master

/-! ## All datagrams of a run -/

theorem RingThreads.myRingID_of_step {threads next : RingThreads} {action : ThreadAction}
    {sent : Option (IPv4 × Nat)} (stepped : threads.step action = some (next, sent)) :
    next.master.myRingID = threads.master.myRingID := by
  cases action with
  | increment peer =>
      obtain ⟨-, -, -, rfl⟩ := increment_eq_some stepped
      rfl
  | assign =>
      obtain ⟨_, -, -, rfl⟩ := assign_eq_some stepped
      rfl
  | readIP thread =>
      obtain ⟨-, -, rfl⟩ := readIP_eq_some stepped
      rfl
  | readRID thread =>
      obtain ⟨_, -, rfl, -⟩ := readRID_eq_some stepped
      rfl

namespace RingNetwork

variable {ι : Type*} {ringID : ι → Nat} {trace : List (Option (ι × RingEvent))}

/-- Of the data, the buffer keeps what it keeps of the datagram that a process
formed from a message that its user typed. -/
def Formed (ringID : ι → Nat) (trace : List (Option (ι × RingEvent))) (data : List Byte) : Prop :=
  ∃ sender userMessage, ∃ target : Byte,
    some (sender, .entered target.toNat userMessage) ∈ trace ∧ ringID sender ≤ 255 ∧
      data.take BUFF_SIZE =
        (Master.ringDatagram target (BitVec.ofNat 8 (ringID sender)) userMessage).take BUFF_SIZE

theorem Formed.mono {data : List Byte} (formed : Formed ringID trace data)
    (event : Option (ι × RingEvent)) : Formed ringID (trace ++ [event]) data := by
  obtain ⟨sender, userMessage, target, entered, rest⟩ := formed
  exact ⟨sender, userMessage, target, List.mem_append_left _ entered, rest⟩

theorem Formed.take {data : List Byte} (formed : Formed ringID trace data) :
    Formed ringID trace (data.take BUFF_SIZE) := by
  obtain ⟨sender, userMessage, target, entered, fits, same⟩ := formed
  refine ⟨sender, userMessage, target, entered, fits, ?_⟩
  rw [List.take_take, min_self, same]

variable [DecidableEq ι]

theorem myRingID_update {network : RingNetwork ι} {node : ι} {member : RingMember}
    (same : member.threads.master.myRingID = (network.members node).threads.master.myRingID)
    (packets : List RingPacket) (event : Option RingEvent) (other : ι) :
    ((network.update node (member, packets, event)).1.members other).threads.master.myRingID =
      (network.members other).threads.master.myRingID := by
  by_cases here : other = node
  · subst here
    simpa [update] using same
  · simp [update, here]

theorem myRingID_of_step {network next : RingNetwork ι} {action : RingAction ι}
    {event : Option (ι × RingEvent)} (stepped : network.step action = some (next, event))
    (node : ι) : (next.members node).threads.master.myRingID =
      (network.members node).threads.master.myRingID := by
  cases action with
  | prompt sender targetRID userMessage =>
      obtain ⟨⟨member, packets, outcome⟩, prompted, updated⟩ := Option.map_eq_some_iff.mp stepped
      obtain ⟨-, -, ⟨_, -, same, -⟩ | ⟨_, -, same, -⟩⟩ :=
        RingMember.sendMessagePrompt_eq_some prompted <;>
      · have kept := @myRingID_update _ _ network sender member (by rw [same]; rfl) packets outcome
          node
        rwa [updated] at kept
  | receive receiver index =>
      obtain ⟨⟨⟨target, datagram⟩, rest⟩, taken, stepped⟩ := Option.bind_eq_some_iff.mp stepped
      simp only at stepped
      split at stepped
      · obtain ⟨⟨member, packets, outcome⟩, handled, updated⟩ := Option.map_eq_some_iff.mp stepped
        have same : member.threads = (network.members receiver).threads := by
          obtain ⟨-, -, ⟨_, -, rfl, -⟩ | ⟨_, _, -, rfl, -⟩ | ⟨-, rfl, -⟩ | ⟨_, -, rfl, -⟩⟩ :=
            RingMember.recvHandleMessage_eq_some handled <;> rfl
        have kept := @myRingID_update _ _ { network with inFlight := rest } receiver member
          (by rw [same]) packets outcome node
        rwa [updated] at kept
      · cases stepped
  | access accessor action delivers =>
      obtain ⟨⟨member, packets, outcome⟩, accessed, updated⟩ := Option.map_eq_some_iff.mp stepped
      obtain ⟨threads, sent, threadsStep, outcomes⟩ := RingMember.access_eq_some accessed
      have same : member.threads = threads := by
        rcases outcomes with ⟨rfl, -, -⟩ | ⟨_, _, -, ⟨-, -, -, rfl⟩ | ⟨-, -, -, rfl⟩⟩ <;> rfl
      have kept := @myRingID_update _ _ network accessor member
        (by rw [same, RingThreads.myRingID_of_step threadsStep]) packets outcome node
      rwa [updated] at kept
  | fault what =>
      obtain ⟨inFlight, -, same⟩ := Option.map_eq_some_iff.mp stepped
      cases same
      rfl

variable [Fintype ι]

/-- Every process keeps its ring ID, and all data comes from messages. -/
structure Invariant (ringID : ι → Nat) (network : RingNetwork ι)
    (trace : List (Option (ι × RingEvent))) : Prop where
  ringIDs : ∀ node, (network.members node).threads.master.myRingID = ringID node
  formed : ∀ data ∈ network.contents, Formed ringID trace data

namespace Invariant

variable {network next : RingNetwork ι} {action : RingAction ι} {event : Option (ι × RingEvent)}

omit [DecidableEq ι] in
theorem start (ringID : ι → Nat) (address : ι → IPv4) :
    Invariant ringID (RingNetwork.start ringID address) [] where
  ringIDs := fun _ => rfl
  formed := by
    intro data member
    rw [contents_start] at member
    cases member

omit [DecidableEq ι] in
theorem formed_of_le (invariant : Invariant ringID network trace)
    (fewer : next.contents ≤ network.contents) (event : Option (ι × RingEvent)) :
    ∀ data ∈ next.contents, Formed ringID (trace ++ [event]) data :=
  fun data member => (invariant.formed data (Multiset.mem_of_le fewer member)).mono event

theorem step (invariant : Invariant ringID network trace)
    (stepped : network.step action = some (next, event)) :
    Invariant ringID next (trace ++ [event]) := by
  constructor
  case ringIDs =>
    intro node
    rw [myRingID_of_step stepped, invariant.ringIDs]
  case formed =>
    cases effect_of_step stepped with
    | @entered node targetRID userMessage formedDatagram formed contents =>
        intro data member
        rw [contents, Multiset.mem_cons] at member
        rcases member with rfl | earlier
        · obtain ⟨fits, target, rfl, rfl⟩ := Master.exists_ringDatagram_of_formDatagram formed
          rw [invariant.ringIDs] at fits ⊢
          exact ⟨node, userMessage, target, List.mem_append_right _ List.mem_cons_self, fits, rfl⟩
        · exact (invariant.formed data earlier).mono _
    | refused failed contents => exact invariant.formed_of_le contents.le _
    | printed handled contents =>
        exact invariant.formed_of_le (contents ▸ Multiset.le_cons_self _ _) _
    | forwarded handled before after =>
        intro data member
        rw [after, Multiset.mem_cons] at member
        have formed := invariant.formed
        rw [before] at formed
        rcases member with rfl | earlier
        · rw [(Master.forwarded_eq handled).1]
          exact (formed _ (Multiset.mem_cons_self _ _)).take.mono _
        · exact (formed data (Multiset.mem_cons_of_mem earlier)).mono _
    | corrupted handled contents =>
        exact invariant.formed_of_le (contents ▸ Multiset.le_cons_self _ _) _
    | failed handled contents =>
        exact invariant.formed_of_le (contents ▸ Multiset.le_cons_self _ _) _
    | moved contents => exact invariant.formed_of_le contents.le _
    | unsent contents => exact invariant.formed_of_le (contents ▸ Multiset.le_cons_self _ _) _
    | duplicated member contents =>
        intro data copied
        rw [contents, Multiset.mem_cons] at copied
        rcases copied with rfl | earlier
        · exact (invariant.formed data member).mono _
        · exact (invariant.formed data earlier).mono _
    | lost contents => exact invariant.formed_of_le (contents ▸ Multiset.le_cons_self _ _) _

theorem run {address : ι → IPv4} {actions : List (RingAction ι)}
    (completed : Stepped.run RingNetwork.step (RingNetwork.start ringID address) actions =
      some (next, trace)) : Invariant ringID next trace := by
  apply Stepped.run_trace_invariant _ (start ringID address) (fun _ _ => trivial) completed
  intro network trace action next event invariant _ stepped
  exact invariant.step stepped

omit [DecidableEq ι] in
/-- What a process receives is handled like the datagram of a message. -/
theorem handled_eq (invariant : Invariant ringID network trace) {datagram : List Byte}
    (member : datagram ∈ network.contents) (node : ι) :
    ∃ sender userMessage, ∃ target : Byte,
      some (sender, .entered target.toNat userMessage) ∈ trace ∧ ringID sender ≤ 255 ∧
        (network.members node).threads.master.recvHandleMessage datagram =
          (network.members node).threads.master.recvHandleMessage
            (Master.ringDatagram target (BitVec.ofNat 8 (ringID sender)) userMessage) := by
  obtain ⟨sender, userMessage, target, entered, fits, same⟩ := invariant.formed datagram member
  exact ⟨sender, userMessage, target, entered, fits, Master.recvHandleMessage_congr _ same⟩

end Invariant

/-! ## What is printed, and what goes wrong -/

section Runs

variable {address : ι → IPv4} {actions : List (RingAction ι)} {final : RingNetwork ι}

/-- In every run, a process prints only messages that some user typed earlier for
its ring ID.  It prints all of the message, or the first 64 bytes of a longer one
whose first 65 bytes, together with the header, add up to a multiple of 255. -/
theorem printed_was_entered
    (completed : Stepped.run step (start ringID address) actions = some (final, trace))
    {before after : List (Option (ι × RingEvent))} {node : ι} {message : List Byte}
    (split : trace = before ++ some (node, .printed message) :: after) :
    ∃ sender userMessage, some (sender, .entered (ringID node) userMessage) ∈ before ∧
      (message = userMessage ∨ 64 < userMessage.length ∧ message = userMessage.take 64 ∧
        (340 + ringID node + ringID sender + byteTotal (userMessage.take 65)) % 255 = 0) := by
  apply Stepped.run_emits
    (fun _ _ _ _ _ invariant _ stepped => Invariant.step invariant stepped) _
    (Invariant.start ringID address) (fun _ _ => trivial) completed split
  intro network trace action next invariant _ stepped
  cases effect_of_step stepped with
  | printed handled contents =>
      have member := contents ▸ Multiset.mem_cons_self _ next.contents
      obtain ⟨sender, userMessage, target, entered, fits, same⟩ :=
        invariant.handled_eq member node
      rw [same] at handled
      obtain ⟨addressed, prints⟩ := Master.printed_ringDatagram handled
      rw [invariant.ringIDs] at addressed
      rw [addressed, BitVec.toNat_ofNat,
        Nat.mod_eq_of_lt (show ringID sender < 2 ^ 8 by omega)] at prints
      rw [addressed] at entered
      exact ⟨sender, userMessage, entered, prints⟩

/-- In every run, only a failing `sendto` ends a receive thread.  A send thread can
also end when its user types a target that is no byte.  And an error is found
only where a user typed more than 64 bytes. -/
theorem failures_of_run
    (completed : Stepped.run step (start ringID address) actions = some (final, trace)) :
    (∀ node error, some (node, .raised .recv error) ∈ trace →
      error = .socketError ∧ ∃ action, .access node action false ∈ actions) ∧
    (∀ node error, some (node, .raised .send error) ∈ trace →
      (error = .socketError ∧ ∃ action, .access node action false ∈ actions) ∨
        error = .structError ∧ ∃ targetRID userMessage,
          .prompt node targetRID userMessage ∈ actions ∧
            ¬(0 ≤ targetRID ∧ targetRID ≤ 255 ∧ ringID node ≤ 255)) ∧
    ∀ node, some (node, .errorFound) ∈ trace → ∃ sender targetRID userMessage,
      some (sender, .entered targetRID userMessage) ∈ trace ∧ 64 < userMessage.length := by
  constructor
  · intro node error raised
    obtain ⟨before, action, after, middle, earlier, next, rfl, reached, stepped⟩ :=
      Stepped.exists_step_of_mem completed raised
    have invariant := Invariant.run reached
    cases effect_of_step stepped with
    | failed handled contents =>
        -- No datagram of a message makes the handler raise.
        have member := contents ▸ Multiset.mem_cons_self _ next.contents
        obtain ⟨sender, userMessage, target, -, -, same⟩ := invariant.handled_eq member node
        rw [same] at handled
        exact absurd handled (Master.recvHandleMessage_ringDatagram_ne_error error)
    | unsent contents => exact ⟨rfl, _, List.mem_append_right _ List.mem_cons_self⟩
  constructor
  · intro node error raised
    obtain ⟨before, action, after, middle, earlier, next, rfl, reached, stepped⟩ :=
      Stepped.exists_step_of_mem completed raised
    have invariant := Invariant.run reached
    cases effect_of_step stepped with
    | refused failed contents =>
        obtain ⟨same, outside⟩ := Master.formDatagram_eq_error failed
        rw [invariant.ringIDs] at outside
        exact .inr ⟨same, _, _, List.mem_append_right _ List.mem_cons_self, outside⟩
    | unsent contents => exact .inl ⟨rfl, _, List.mem_append_right _ List.mem_cons_self⟩
  · intro node found
    obtain ⟨before, event, after, rfl⟩ := List.append_of_mem found
    have earlier : ∃ sender targetRID userMessage,
        some (sender, .entered targetRID userMessage) ∈ before ∧ 64 < userMessage.length := by
      apply Stepped.run_emits
        (fun _ _ _ _ _ invariant _ stepped => Invariant.step invariant stepped) _
        (Invariant.start ringID address) (fun _ _ => trivial) completed rfl
      intro network trace action next invariant _ stepped
      cases effect_of_step stepped with
      | corrupted handled contents =>
          have member := contents ▸ Multiset.mem_cons_self _ next.contents
          obtain ⟨sender, userMessage, target, entered, -, same⟩ :=
            invariant.handled_eq member node
          rw [same] at handled
          exact ⟨sender, target.toNat, userMessage, entered, Master.long_of_errorFound handled⟩
    obtain ⟨sender, targetRID, userMessage, entered, long⟩ := earlier
    exact ⟨sender, targetRID, userMessage, List.mem_append_left _ entered, long⟩

end Runs

/-- An address in the network of the two processes below. -/
def twoMastersIP (last : Byte) : IPv4 :=
  #v[10, 0, 0, last]

/-- Two processes with the ring IDs 2 and 1. -/
def twoMasters : RingNetwork (Fin 2) :=
  start (fun node => 2 - node.val) fun node => twoMastersIP (1 + BitVec.ofNat 8 node.val)

/-- Joins after which each of the two sends to the other. -/
def twoMastersJoins : List (RingAction (Fin 2)) :=
  [.access 0 (.increment (twoMastersIP 2)) true, .access 0 .assign true,
    .access 1 (.increment (twoMastersIP 9)) true, .access 1 .assign true,
    .access 1 (.increment (twoMastersIP 1)) true, .access 1 .assign true]

/-- The first process sends a greeting to its own ring ID, and the other forwards it. -/
def greetingActions : List (RingAction (Fin 2)) :=
  twoMastersJoins ++
    [.prompt 0 2 [72, 105], .access 0 (.readIP .send) true, .access 0 (.readRID .send) true,
      .receive 1 0, .access 1 (.readIP .recv) true, .access 1 (.readRID .recv) true, .receive 0 0]

def greetingTrace : List (Option (Fin 2 × RingEvent)) :=
  List.replicate 6 none ++ some (0, .entered 2 [72, 105]) :: List.replicate 5 none

theorem run_greeting :
    ∃ final, Stepped.run step twoMasters greetingActions =
      some (final, greetingTrace ++ [some (0, .printed [72, 105])]) := by
  have emits : (Stepped.run step twoMasters greetingActions).map Prod.snd =
      some (greetingTrace ++ [some (0, .printed [72, 105])]) := by
    decide +kernel
  obtain ⟨⟨final, trace⟩, completed, same⟩ := Option.map_eq_some_iff.mp emits
  cases same
  exact ⟨final, completed⟩

theorem printed_was_entered_greeting :
    ∃ sender userMessage, some (sender, .entered 2 userMessage) ∈ greetingTrace ∧
      ([72, 105] = userMessage ∨ 64 < userMessage.length ∧ [72, 105] = userMessage.take 64 ∧
        (340 + 2 + (2 - sender.val) + byteTotal (userMessage.take 65)) % 255 = 0) := by
  obtain ⟨final, completed⟩ := run_greeting
  exact printed_was_entered completed rfl

/-- The second process finds an error in a message of 65 bytes, cannot forward a greeting,
and is asked to send to a ring ID that is no byte.  The first one cannot send. -/
def failingActions : List (RingAction (Fin 2)) :=
  twoMastersJoins ++
    [.prompt 0 2 (List.replicate 65 72), .access 0 (.readIP .send) true,
      .access 0 (.readRID .send) true, .receive 1 0, .prompt 0 2 [72, 105],
      .access 0 (.readIP .send) true, .access 0 (.readRID .send) true, .receive 1 0,
      .access 1 (.readIP .recv) true, .access 1 (.readRID .recv) false, .prompt 1 300 [72, 105],
      .prompt 0 1 [72, 105], .access 0 (.readIP .send) true, .access 0 (.readRID .send) false]

theorem failures_of_run_failing :
    ∃ final trace, Stepped.run step twoMasters failingActions = some (final, trace) ∧
      trace.reduceOption = [(0, .entered 2 (List.replicate 65 72)), (1, .errorFound),
        (0, .entered 2 [72, 105]), (1, .raised .recv .socketError),
        (1, .raised .send .structError), (0, .entered 1 [72, 105]),
        (0, .raised .send .socketError)] ∧
      (∀ node error, some (node, .raised .recv error) ∈ trace →
        error = .socketError ∧ ∃ action, .access node action false ∈ failingActions) ∧
      (∀ node error, some (node, .raised .send error) ∈ trace →
        (error = .socketError ∧ ∃ action, .access node action false ∈ failingActions) ∨
          error = .structError ∧ ∃ targetRID userMessage,
            .prompt node targetRID userMessage ∈ failingActions ∧
              ¬(0 ≤ targetRID ∧ targetRID ≤ 255 ∧ 2 - node.val ≤ 255)) ∧
      ∀ node, some (node, .errorFound) ∈ trace → ∃ sender targetRID userMessage,
        some (sender, .entered targetRID userMessage) ∈ trace ∧ 64 < userMessage.length := by
  have emits : (Stepped.run step twoMasters failingActions).map
      (fun ran => ran.2.reduceOption) = some [(0, .entered 2 (List.replicate 65 72)),
        (1, .errorFound), (0, .entered 2 [72, 105]), (1, .raised .recv .socketError),
        (1, .raised .send .structError), (0, .entered 1 [72, 105]),
        (0, .raised .send .socketError)] := by
    decide +kernel
  obtain ⟨⟨final, trace⟩, completed, events⟩ := Option.map_eq_some_iff.mp emits
  exact ⟨final, trace, completed, events, failures_of_run completed⟩

end RingNetwork

end OpServer
