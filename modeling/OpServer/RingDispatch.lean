import OpServer.RingReceiver
import OpServer.RingForwarding

/-!
# Where the receive loop of the C slave goes wrong

`main` of `Lab3slave.c` reads byte 4 of whatever passes the checksum, and
declares `theMessage` with six bytes less than it received, without looking at
the length.  It takes the destination of a datagram for its time to live.
-/

namespace OpServer

open Buffer Python

/-! ## The accesses of an iteration -/

/-- An array access, by its index, or the declaration of `theMessage`. -/
inductive SlaveAccess
  | recMsg (index : Nat)
  | declares (size : Int)
  | theMessage (index : Int)
  deriving DecidableEq

/-- An access within the arrays of an iteration that received `numbytes` bytes. -/
def SlaveAccess.InBounds (numbytes : Nat) : SlaveAccess → Prop
  | recMsg index => index < numbytes
  | declares size => 0 < size
  | theMessage index => 0 ≤ index ∧ index ≤ (numbytes : Int) - 7

instance (numbytes : Nat) : DecidablePred (SlaveAccess.InBounds numbytes)
  | .recMsg _ => inferInstanceAs (Decidable (_ < _))
  | .declares _ => inferInstanceAs (Decidable (_ < _))
  | .theMessage _ => inferInstanceAs (Decidable (_ ∧ _))

namespace RingInfo

/-- The branch for the slave's own ring ID. -/
def storeAccesses (numbytes : Nat) : List SlaveAccess :=
  .declares ((numbytes : Int) - 6) ::
    ((List.range (numbytes - 7)).flatMap fun p => [.recMsg (p + 6), .theMessage p]) ++
      [.theMessage ((numbytes : Int) - 7)]

/-- An iteration after `recv`, with the byte that a read behind `recMsg` gives. -/
def receiveAccesses (theRing : RingInfo) (outside : Byte) (recMsg : List Byte) :
    List SlaveAccess :=
  let numbytes := recMsg.length
  let copies := (List.range numbytes).map SlaveAccess.recMsg
  let sums := (List.range numbytes).map SlaveAccess.recMsg
  let dispatches : List SlaveAccess :=
    if checksum recMsg = 0 then
      .recMsg 4 ::
        if recMsg.getD 4 outside = theRing.rID then storeAccesses numbytes else [.recMsg 4]
    else []
  copies ++ sums ++ dispatches

theorem storeAccesses_inBounds_iff (numbytes : Nat) :
    (∀ access ∈ storeAccesses numbytes, access.InBounds numbytes) ↔ 6 < numbytes := by
  constructor
  · intro inBounds
    have declared : SlaveAccess.InBounds numbytes (.declares ((numbytes : Int) - 6)) :=
      inBounds _ (by simp [storeAccesses])
    simp only [SlaveAccess.InBounds] at declared
    omega
  · intro inside access member
    simp only [storeAccesses, List.cons_append, List.mem_cons, List.mem_append, List.mem_flatMap,
      List.mem_range, List.not_mem_nil, or_false] at member
    rcases member with rfl | ⟨p, below, rfl | rfl⟩ | rfl <;>
      simp only [SlaveAccess.InBounds] <;> omega

theorem range_inBounds (numbytes : Nat) :
    ∀ access ∈ (List.range numbytes).map SlaveAccess.recMsg, access.InBounds numbytes := by
  intro access member
  obtain ⟨index, below, rfl⟩ := List.mem_map.mp member
  exact List.mem_range.mp below

/-- An iteration stays within its arrays unless it takes at most four bytes for
a valid datagram, or at most six for one to the slave itself. -/
theorem receiveAccesses_inBounds_iff (theRing : RingInfo) (outside : Byte) (recMsg : List Byte) :
    (∀ access ∈ theRing.receiveAccesses outside recMsg, access.InBounds recMsg.length) ↔
      ¬(checksum recMsg = 0 ∧
        (recMsg.length ≤ 4 ∨ recMsg.length ≤ 6 ∧ recMsg[4]? = some theRing.rID)) := by
  constructor
  · rintro inBounds ⟨verified, short | ⟨short, addressed⟩⟩
    · have read : SlaveAccess.InBounds recMsg.length (.recMsg 4) :=
        inBounds _ (by simp [receiveAccesses, verified])
      exact absurd read (Nat.not_lt_of_le short)
    · have own : recMsg.getD 4 outside = theRing.rID := by
        rw [List.getD_eq_getElem?_getD, addressed, Option.getD_some]
      have stored := (storeAccesses_inBounds_iff recMsg.length).mp fun access member =>
        inBounds access (by
          rw [receiveAccesses, if_pos verified, if_pos own]
          simp [member])
      omega
  · intro harmless access member
    have loops := range_inBounds recMsg.length access
    simp only [receiveAccesses, List.mem_append] at member
    rcases member with (copies | sums) | dispatches
    · exact loops copies
    · exact loops sums
    · by_cases verified : checksum recMsg = 0
      · have long : 4 < recMsg.length :=
          Nat.lt_of_not_le fun short => harmless ⟨verified, .inl short⟩
        have addressed := List.getElem?_eq_getElem long
        rw [if_pos verified, List.mem_cons, List.getD_eq_getElem?_getD, addressed,
          Option.getD_some] at dispatches
        rcases dispatches with rfl | dispatches
        · exact long
        · by_cases own : recMsg[4] = theRing.rID
          · rw [if_pos own] at dispatches
            have room : 6 < recMsg.length := Nat.lt_of_not_le fun short =>
              harmless ⟨verified, .inr ⟨short, by rw [addressed, own]⟩⟩
            exact (storeAccesses_inBounds_iff recMsg.length).mpr room access dispatches
          · rw [if_neg own, List.mem_singleton] at dispatches
            subst dispatches
            exact long
      · rw [if_neg verified] at dispatches
        cases dispatches

/-! ## Which iterations are defined -/

section Undefined

variable {numbytes : Nat} (theRing : RingInfo) (uninitialised : Nat → Byte)
  {recMsg : Vector Byte numbytes}

theorem classify_of_short (verified : checksum recMsg.toList = 0) (short : numbytes ≤ 4) :
    theRing.classify uninitialised recMsg = none := by
  have missing : recMsg[4]? = none := Vector.getElem?_eq_none short
  rw [classify, if_pos verified, missing, Option.bind_none]

theorem classify_of_no_message (verified : checksum recMsg.toList = 0)
    (addressed : recMsg.toList[4]? = some theRing.rID) (short : numbytes ≤ 6) :
    theRing.classify uninitialised recMsg = none := by
  rw [Vector.getElem?_toList] at addressed
  rw [classify, if_pos verified, addressed, Option.bind_some, if_pos rfl, storeMessage,
    dif_neg (Nat.not_lt_of_le short), Option.map_none]

theorem classify_isSome_iff (outside : Byte) (recMsg : Vector Byte numbytes) :
    (theRing.classify uninitialised recMsg).isSome ↔
      ∀ access ∈ theRing.receiveAccesses outside recMsg.toList, access.InBounds numbytes := by
  have bounds := receiveAccesses_inBounds_iff theRing outside recMsg.toList
  rw [Vector.length_toList] at bounds
  rw [bounds]
  by_cases verified : checksum recMsg.toList = 0
  · rw [and_iff_right verified]
    by_cases short : numbytes ≤ 4
    · rw [theRing.classify_of_short uninitialised verified short]
      simp [short]
    · obtain ⟨destination, addressed⟩ : ∃ destination, recMsg.toList[4]? = some destination :=
        ⟨_, List.getElem?_eq_getElem (by rw [Vector.length_toList]; omega)⟩
      rw [addressed, Option.some.injEq]
      by_cases own : destination = theRing.rID
      · subst own
        by_cases room : 6 < numbytes
        · rw [theRing.classify_of_addressed uninitialised verified addressed room]
          exact iff_of_true rfl fun outOfBounds => by omega
        · rw [theRing.classify_of_no_message uninitialised verified addressed (by omega)]
          exact iff_of_false Bool.false_ne_true
            fun inBounds => inBounds (.inr ⟨by omega, rfl⟩)
      · rw [theRing.classify_of_other uninitialised verified addressed own]
        simp [short, own]
  · rw [theRing.classify_of_corrupted uninitialised verified]
    exact iff_of_true rfl fun impossible => verified impossible.1

theorem receiveStep_isSome_iff (outside : Byte) (recMsg : Vector Byte numbytes)
    (buf : Vector Byte 75) {data : List Byte} (received : data.take 74 = recMsg.toList) :
    (theRing.receiveStep uninitialised buf data).isSome ↔
      0 < numbytes ∧
        ∀ access ∈ theRing.receiveAccesses outside recMsg.toList, access.InBounds numbytes := by
  have length : min data.length 74 = numbytes := by
    rw [Nat.min_comm, ← List.length_take, received, Vector.length_toList]
  subst length
  by_cases positive : 0 < min data.length 74
  · obtain ⟨copied, contents, iteration⟩ :=
      theRing.receiveStep_eq uninitialised buf (show 0 < data.length by omega)
    rw [iteration, Option.isSome_map, theRing.classify_isSome_iff uninitialised outside,
      contents, received, and_iff_right positive]
  · rw [receiveStep, if_pos (by omega)]
    exact iff_of_false Bool.false_ne_true fun both => positive both.1

end Undefined

/-- Whatever is received, an iteration stays within its arrays unless it takes at
most four bytes for a valid datagram, or at most six for one to the slave
itself.  These, and the one that declares `recMsg` without elements, are the
iterations without a defined outcome. -/
theorem receive_loop_in_bounds_iff (theRing : RingInfo) (outside : Byte) {numbytes : Nat}
    (recMsg : Vector Byte numbytes) :
    ((∀ access ∈ theRing.receiveAccesses outside recMsg.toList, access.InBounds numbytes) ↔
      ¬(checksum recMsg.toList = 0 ∧
        (numbytes ≤ 4 ∨ numbytes ≤ 6 ∧ recMsg.toList[4]? = some theRing.rID))) ∧
    (∀ uninitialised, (theRing.classify uninitialised recMsg).isSome ↔
      ∀ access ∈ theRing.receiveAccesses outside recMsg.toList, access.InBounds numbytes) ∧
    ∀ uninitialised buf data, data.take 74 = recMsg.toList →
      ((theRing.receiveStep uninitialised buf data).isSome ↔
        0 < numbytes ∧
          ∀ access ∈ theRing.receiveAccesses outside recMsg.toList,
            access.InBounds numbytes) := by
  refine ⟨?_, fun uninitialised => theRing.classify_isSome_iff uninitialised outside recMsg,
    fun uninitialised buf _ received =>
      theRing.receiveStep_isSome_iff uninitialised outside recMsg buf received⟩
  have bounds := receiveAccesses_inBounds_iff theRing outside recMsg.toList
  rwa [Vector.length_toList] at bounds

/-- One byte 0xFF is a valid datagram without a byte 4, and one of six bytes to
the slave itself leaves no room for a message. -/
theorem short_datagrams_leave_arrays :
    ¬(∀ access ∈ (makeRing #v[15, 0x12, 0x34, 1, 10, 0, 0, 1]).receiveAccesses 0 [0xFF],
        access.InBounds 1) ∧
      ¬(∀ access ∈ (makeRing #v[15, 0x12, 0x34, 1, 10, 0, 0, 1]).receiveAccesses 0
          [0, 0, 0, 0xFE, 1, 0], access.InBounds 6) := by
  decide

/-! ## Time to live or destination -/

section Dispatch

variable (theRing : RingInfo) (uninitialised : Nat → Byte) (buf : Vector Byte 75)
  {data : List Byte} {destination : Byte}

theorem receiveStep_of_other (long : 7 ≤ data.length) (short : data.length ≤ 74)
    (verified : checksum data = 0) (addressed : data[4]? = some destination)
    (other : destination ≠ theRing.rID) :
    (theRing.receiveStep uninitialised buf data).map Prod.snd =
      some (if destination.toNat > 1 then .forwards else .timeToLiveTooLow) := by
  obtain ⟨recMsg, contents, iteration⟩ :=
    theRing.receiveStep_eq uninitialised buf (show 0 < data.length by omega)
  rw [List.take_of_length_le (by omega)] at contents
  rw [iteration, theRing.classify_of_other uninitialised (by rwa [contents]) (by rwa [contents])
    other]
  rfl

end Dispatch

end RingInfo

/-- The slave decides about a datagram to another node by its time to live only
if the time to live and the destination are on the same side of 1. -/
theorem dispatch_by_timeToLive_iff (theRing : RingInfo) (uninitialised : Nat → Byte)
    (buf : Vector Byte 75) {data : List Byte} (long : 7 ≤ data.length)
    (short : data.length ≤ 74) (verified : RingInfo.checksum data = 0) {destination : Byte}
    (addressed : data[4]? = some destination) (other : destination ≠ theRing.rID) :
    ((theRing.receiveStep uninitialised buf data).map Prod.snd =
        some (if Master.timeToLive data > 1 then .forwards else .timeToLiveTooLow) ↔
      (destination.toNat > 1 ↔ Master.timeToLive data > 1)) ∧
    (theRing.receiveStep uninitialised buf data).map Prod.snd =
      some (if destination.toNat > 1 then .forwards else .timeToLiveTooLow) := by
  have outcome := theRing.receiveStep_of_other uninitialised buf long short verified addressed other
  refine ⟨?_, outcome⟩
  rw [outcome, Option.some.injEq]
  by_cases far : destination.toNat > 1 <;> by_cases alive : Master.timeToLive data > 1 <;>
    simp [far, alive]

theorem dispatch_by_timeToLive_iff_greeting :
    (((RingInfo.makeRing #v[15, 0x12, 0x34, 1, 10, 0, 0, 1]).receiveStep (fun _ => 7)
        (Vector.replicate 75 1) [15, 0x12, 0x34, 255, 9, 0, 72, 105, 239]).map Prod.snd =
        some (if Master.timeToLive [15, 0x12, 0x34, 255, 9, 0, 72, 105, 239] > 1 then
          .forwards else .timeToLiveTooLow) ↔
      ((9 : Byte).toNat > 1 ↔
        Master.timeToLive [15, 0x12, 0x34, 255, 9, 0, 72, 105, 239] > 1)) ∧
    ((RingInfo.makeRing #v[15, 0x12, 0x34, 1, 10, 0, 0, 1]).receiveStep (fun _ => 7)
        (Vector.replicate 75 1) [15, 0x12, 0x34, 255, 9, 0, 72, 105, 239]).map Prod.snd =
      some (if (9 : Byte).toNat > 1 then .forwards else .timeToLiveTooLow) :=
  dispatch_by_timeToLive_iff _ _ _ (by decide) (by decide) (by decide) rfl (by decide)

/-- A greeting to the master, with all its time to live, does not pass a slave. -/
theorem greeting_to_master_stops :
    RingInfo.checksum [15, 0x12, 0x34, 255, 0, 2, 72, 105, 246] = 0 ∧
      Master.timeToLive [15, 0x12, 0x34, 255, 0, 2, 72, 105, 246] = 255 ∧
      ((RingInfo.makeRing #v[15, 0x12, 0x34, 1, 10, 0, 0, 1]).receiveStep (fun _ => 7)
        (Vector.replicate 75 1) [15, 0x12, 0x34, 255, 0, 2, 72, 105, 246]).map Prod.snd =
          some .timeToLiveTooLow := by
  have verified : RingInfo.checksum [15, 0x12, 0x34, 255, 0, 2, 72, 105, 246] = 0 := by decide
  exact ⟨verified, rfl, RingInfo.receiveStep_of_other _ _ _ (by decide) (by decide) verified rfl
    (by decide)⟩

end OpServer
