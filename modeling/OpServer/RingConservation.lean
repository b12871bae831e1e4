import OpServer.LetterBags
import OpServer.RingIntegrity
import OpServer.SteppedSimulations

/-!
# No letter is lost or printed twice

To its users, a ring is a bag of letters, each a message for a ring ID: typing
one posts it, and printing one delivers it.  As long as nobody types more than
64 bytes, the network does nothing that a bag cannot do, and only faults of the
network and failing calls of `sendto` make the bag unreliable.
-/

namespace OpServer

open Python

namespace RingNetwork

/-! ## Letters -/

/-- The ring ID that a datagram is for, and the message in it. -/
def letterOf (data : List Byte) : Nat × List Byte :=
  ((data.getD 4 0).toNat, slice data 6 (data.length - 1))

@[simp]
theorem letterOf_ringDatagram (targetRID sourceRID : Byte) (userMessage : List Byte) :
    letterOf (Master.ringDatagram targetRID sourceRID userMessage) =
      (targetRID.toNat, userMessage) := by
  have content := Master.recvPrintMessage_ringDatagram targetRID sourceRID userMessage
  rw [Master.recvPrintMessage, Handled.printed.injEq] at content
  rw [letterOf, content]
  rfl

/-- The datagram of a message that fits the receive buffer. -/
def IsShort (data : List Byte) : Prop :=
  ∃ targetRID sourceRID userMessage, userMessage.length ≤ 64 ∧
    data = Master.ringDatagram targetRID sourceRID userMessage

namespace IsShort

variable {datagram : List Byte} {node : Master}

theorem printed (short : IsShort datagram) {message : List Byte}
    (handled : node.recvHandleMessage datagram = .ok (.printed message)) :
    letterOf datagram = (node.myRingID, message) := by
  obtain ⟨targetRID, sourceRID, userMessage, fits, rfl⟩ := short
  obtain ⟨addressed, same | ⟨long, -⟩⟩ := Master.printed_ringDatagram handled
  · rw [letterOf_ringDatagram, addressed, same]
  · omega

theorem forwarded (short : IsShort datagram) {data : List Byte} {target : IPv4 × Nat}
    (handled : node.recvHandleMessage datagram = .ok (.forwarded data target)) :
    data = datagram := by
  obtain ⟨targetRID, sourceRID, userMessage, fits, rfl⟩ := short
  rw [(Master.forwarded_eq handled).1]
  exact Master.take_ringDatagram_of_short targetRID sourceRID fits

theorem uncorrupted (short : IsShort datagram) :
    node.recvHandleMessage datagram ≠ .ok .errorFound := by
  obtain ⟨targetRID, sourceRID, userMessage, fits, rfl⟩ := short
  intro found
  exact Nat.not_lt_of_le fits (Master.long_of_errorFound found)

theorem ne_error (short : IsShort datagram) (error : PythonError) :
    node.recvHandleMessage datagram ≠ .error error := by
  obtain ⟨targetRID, sourceRID, userMessage, -, rfl⟩ := short
  exact Master.recvHandleMessage_ringDatagram_ne_error error

end IsShort

/-! ## The ring as a bag -/

variable {ι : Type*} [DecidableEq ι] [Fintype ι]

/-- What the users see of a step: a letter is typed or printed. -/
def observed (ringID : ι → Nat) :
    Option (ι × RingEvent) → Option (LetterBag.Event (Nat × List Byte))
  | some (_, .entered targetRID userMessage) => some (.posted (targetRID.toNat, userMessage))
  | some (node, .printed message) => some (.delivered (ringID node, message))
  | _ => none

/-- Users type short messages, and faults are limited. -/
def Allowed (mayLose mayCopy : Prop) : RingAction ι → Prop
  | .prompt _ _ userMessage => userMessage.length ≤ 64
  | .receive _ _ => True
  | .access _ _ delivers => delivers = true ∨ mayLose
  | .fault (.lose _) => mayLose
  | .fault (.duplicate _) => mayCopy

/-- The bag holds the letters of the data on the network. -/
structure Abstracts (ringID : ι → Nat) (network : RingNetwork ι)
    (bag : Multiset (Nat × List Byte)) : Prop where
  ringIDs : ∀ node, (network.members node).threads.master.myRingID = ringID node
  short : ∀ data ∈ network.contents, IsShort data
  bag : bag = network.contents.map letterOf

section Steps

variable {ringID : ι → Nat} {network next : RingNetwork ι} {bag : Multiset (Nat × List Byte)}
  {action : RingAction ι} {event : Option (ι × RingEvent)}

theorem Abstracts.of_same (abstracts : Abstracts ringID network bag)
    (stepped : network.step action = some (next, event))
    (contents : next.contents = network.contents) : Abstracts ringID next bag where
  ringIDs := fun node => by rw [myRingID_of_step stepped, abstracts.ringIDs]
  short := fun data member => abstracts.short data (contents ▸ member)
  bag := by rw [contents, abstracts.bag]

theorem Abstracts.of_taken (abstracts : Abstracts ringID network bag)
    (stepped : network.step action = some (next, event)) {data : List Byte}
    (contents : network.contents = data ::ₘ next.contents) :
    IsShort data ∧ Abstracts ringID next (next.contents.map letterOf) ∧
      bag = letterOf data ::ₘ next.contents.map letterOf := by
  have short := abstracts.short
  rw [contents] at short
  refine ⟨short data (Multiset.mem_cons_self _ _), ?_, ?_⟩
  · exact ⟨fun node => by rw [myRingID_of_step stepped, abstracts.ringIDs],
      fun data member => short data (Multiset.mem_cons_of_mem member), rfl⟩
  · rw [abstracts.bag, contents, Multiset.map_cons]

theorem Abstracts.of_put (abstracts : Abstracts ringID network bag)
    (stepped : network.step action = some (next, event)) {data : List Byte} (short : IsShort data)
    (contents : next.contents = data ::ₘ network.contents) :
    Abstracts ringID next (letterOf data ::ₘ bag) where
  ringIDs := fun node => by rw [myRingID_of_step stepped, abstracts.ringIDs]
  short := by
    intro other member
    rw [contents, Multiset.mem_cons] at member
    rcases member with rfl | earlier
    · exact short
    · exact abstracts.short other earlier
  bag := by rw [contents, Multiset.map_cons, abstracts.bag]

/-- Every step of the network is a step of the bag, or none. -/
theorem matches_of_step {mayLose mayCopy : Prop} (abstracts : Abstracts ringID network bag)
    (allowed : Allowed mayLose mayCopy action)
    (stepped : network.step action = some (next, event)) :
    Stepped.Matches LetterBag.step id (LetterBag.Permitted mayLose mayCopy) bag
      (Abstracts ringID next) (observed ringID event) := by
  cases effect_of_step stepped with
  | @entered node targetRID userMessage formedDatagram formed contents =>
      obtain ⟨-, target, rfl, rfl⟩ := Master.exists_ringDatagram_of_formDatagram formed
      have put := abstracts.of_put stepped ⟨_, _, _, allowed, rfl⟩ contents
      rw [letterOf_ringDatagram] at put
      have posts : LetterBag.step bag (.post (target.toNat, userMessage)) = some (_, _) := rfl
      exact .step posts put trivial rfl
  | refused failed contents => exact .stay (abstracts.of_same stepped contents) rfl
  | printed handled contents =>
      obtain ⟨short, abstractsNext, same⟩ := abstracts.of_taken stepped contents
      rw [short.printed handled, abstracts.ringIDs] at same
      subst same
      exact .step (LetterBag.step_deliver _ _) abstractsNext trivial rfl
  | @forwarded node index datagram data target others handled before after =>
      have short : IsShort datagram := by
        apply abstracts.short
        rw [before]
        exact Multiset.mem_cons_self _ _
      rw [short.forwarded handled, ← before] at after
      exact .stay (abstracts.of_same stepped after) rfl
  | corrupted handled contents =>
      exact absurd handled (abstracts.of_taken stepped contents).1.uncorrupted
  | failed handled contents =>
      exact absurd handled ((abstracts.of_taken stepped contents).1.ne_error _)
  | moved contents => exact .stay (abstracts.of_same stepped contents) rfl
  | unsent contents =>
      obtain ⟨-, abstractsNext, rfl⟩ := abstracts.of_taken stepped contents
      have mayLose : mayLose := allowed.resolve_left Bool.false_ne_true
      exact .step (LetterBag.step_lose _ _) abstractsNext mayLose rfl
  | @duplicated index datagram member contents =>
      have put := abstracts.of_put stepped (abstracts.short datagram member) contents
      have inBag : letterOf datagram ∈ bag := by
        rw [abstracts.bag]
        exact Multiset.mem_map_of_mem _ member
      have copies : LetterBag.step bag (.copy (letterOf datagram)) = some (_, none) :=
        if_pos inBag
      exact .step copies put allowed rfl
  | lost contents =>
      obtain ⟨-, abstractsNext, rfl⟩ := abstracts.of_taken stepped contents
      exact .step (LetterBag.step_lose _ _) abstractsNext allowed rfl

end Steps

/-- The ring is a bag of letters. -/
def bagSimulation (ringID : ι → Nat) (mayLose mayCopy : Prop) :
    Stepped.Simulation step LetterBag.step (observed ringID) id (Allowed mayLose mayCopy)
      (LetterBag.Permitted mayLose mayCopy) where
  relates := Abstracts ringID
  steps := matches_of_step

omit [DecidableEq ι] in
theorem Abstracts.start (ringID : ι → Nat) (address : ι → IPv4) :
    Abstracts ringID (RingNetwork.start ringID address) 0 where
  ringIDs := fun _ => rfl
  short := by
    intro data member
    rw [contents_start] at member
    cases member
  bag := by rw [contents_start, Multiset.map_zero]

/-! ## Letters in a run -/

/-- The letters that users typed. -/
def typedLetters (ringID : ι → Nat) (trace : List (Option (ι × RingEvent))) :
    List (Nat × List Byte) :=
  LetterBag.posted (trace.filterMap (observed ringID))

/-- The letters that processes printed. -/
def printedLetters (ringID : ι → Nat) (trace : List (Option (ι × RingEvent))) :
    List (Nat × List Byte) :=
  LetterBag.delivered (trace.filterMap (observed ringID))

/-- As long as users type at most 64 bytes, no letter is printed more often than it
was typed, unless the network duplicates datagrams.  And without faults or failing
calls of `sendto`, every letter that was typed and not printed is still in flight,
or in the hands of a thread that is about to send it. -/
theorem letters_conserved {ringID : ι → Nat} {address : ι → IPv4} {actions : List (RingAction ι)}
    {final : RingNetwork ι} {trace : List (Option (ι × RingEvent))}
    (short : ∀ node targetRID userMessage, .prompt node targetRID userMessage ∈ actions →
      userMessage.length ≤ 64)
    (completed : Stepped.run step (start ringID address) actions = some (final, trace)) :
    ((∀ index, .fault (.duplicate index) ∉ actions) →
      (printedLetters ringID trace : Multiset (Nat × List Byte)) ≤ typedLetters ringID trace) ∧
    ((∀ what, .fault what ∉ actions) → (∀ node action, .access node action false ∉ actions) →
      (typedLetters ringID trace : Multiset (Nat × List Byte)) =
        printedLetters ringID trace + final.contents.map letterOf) := by
  constructor
  · intro unduplicated
    have allowed : ∀ action ∈ actions, Allowed True False action := by
      intro action member
      cases action with
      | prompt node targetRID userMessage => exact short node targetRID userMessage member
      | receive node index => trivial
      | access node action delivers => exact .inr trivial
      | fault what =>
          cases what with
          | duplicate index => exact unduplicated index member
          | lose index => trivial
    obtain ⟨bagActions, bag, events, ran, -, permitted, observedEvents⟩ :=
      (bagSimulation ringID True False).exists_run (Abstracts.start ringID address) allowed completed
    have delivered := LetterBag.delivered_le_of_run (LetterBag.copies_eq_nil permitted) ran
    rwa [observedEvents] at delivered
  · intro faultless delivering
    have allowed : ∀ action ∈ actions, Allowed False False action := by
      intro action member
      cases action with
      | prompt node targetRID userMessage => exact short node targetRID userMessage member
      | receive node index => trivial
      | access node action delivers =>
          cases delivers with
          | true => exact .inl rfl
          | false => exact absurd member (delivering node action)
      | fault what => exact absurd member (faultless what)
    obtain ⟨bagActions, bag, events, ran, abstracts, permitted, observedEvents⟩ :=
      (bagSimulation ringID False False).exists_run (Abstracts.start ringID address) allowed completed
    have posted := LetterBag.posted_eq_of_run (LetterBag.copies_eq_nil permitted)
      (LetterBag.lost_eq_nil permitted) ran
    rwa [observedEvents, abstracts.bag] at posted

theorem letters_conserved_greeting :
    ∃ final trace, Stepped.run step twoMasters greetingActions = some (final, trace) ∧
      ((∀ index, .fault (.duplicate index) ∉ greetingActions) →
        (printedLetters (fun node => 2 - node.val) trace : Multiset (Nat × List Byte)) ≤
          typedLetters (fun node => 2 - node.val) trace) ∧
      ((∀ what, .fault what ∉ greetingActions) →
        (∀ node action, .access node action false ∉ greetingActions) →
          (typedLetters (fun node => 2 - node.val) trace : Multiset (Nat × List Byte)) =
            printedLetters (fun node => 2 - node.val) trace + final.contents.map letterOf) := by
  obtain ⟨final, completed⟩ := run_greeting
  refine ⟨final, _, completed, letters_conserved ?_ completed⟩
  intro node targetRID userMessage member
  simp only [greetingActions, twoMastersJoins, List.cons_append, List.nil_append, List.mem_cons,
    RingAction.prompt.injEq, reduceCtorEq, List.not_mem_nil, false_or, or_false] at member
  rw [member.2.2]
  decide

end RingNetwork

end OpServer
