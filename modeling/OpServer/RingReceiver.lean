import OpServer.RingHandler

/-!
# The receive loop of the C slave

An iteration of the inner loop of `main` in `Lab3slave.c`.  The arrays of an
iteration have the length of what was received, and fresh contents.  An
iteration is undefined where an array would have no elements or is accessed
outside its bounds.
-/

namespace OpServer

open Buffer Python

/-- The message that an iteration prints, with its terminator, or the branch
that it takes instead. -/
inductive SlaveOutcome
  | received (theMessage : List Byte)
  | forwards
  | timeToLiveTooLow
  | corrupted
  deriving DecidableEq

namespace RingInfo

/-- An array on the stack. -/
def freshArray (uninitialised : Nat → Byte) (size : Nat) : Vector Byte size :=
  Vector.ofFn fun index => uninitialised index

variable {numbytes : Nat}

/-- The branch for the slave's own ring ID, which fills `theMessage`. -/
def storeMessage (uninitialised : Nat → Byte) (recMsg : Vector Byte numbytes) :
    Option (List Byte) :=
  if inside : 6 < numbytes then
    (copyOffsetLoop recMsg 6 (numbytes - 7) 0 (freshArray uninitialised (numbytes - 6))).map
      fun theMessage => (theMessage.set (numbytes - 7) 0 (by omega)).toList
  else none

/-- The tests on a received message. -/
def classify (theRing : RingInfo) (uninitialised : Nat → Byte) (recMsg : Vector Byte numbytes) :
    Option SlaveOutcome :=
  if checksum recMsg.toList = 0 then
    recMsg[4]?.bind fun destination =>
      if destination = theRing.rID then
        (storeMessage uninitialised recMsg).map .received
      else if destination.toNat > 1 then
        some .forwards
      else
        some .timeToLiveTooLow
  else
    some .corrupted

/-- An iteration of the inner loop, with what arrives on the socket. -/
def receiveStep (theRing : RingInfo) (uninitialised : Nat → Byte) (buf : Vector Byte 75)
    (data : List Byte) : Option (Vector Byte 75 × SlaveOutcome) :=
  let buf := overwrite buf (data.take 74)
  let numbytes := min data.length 74
  if numbytes = 0 then none
  else
    (copyLoop buf numbytes 0 (freshArray uninitialised numbytes)).bind fun recMsg =>
      (theRing.classify uninitialised recMsg).map fun outcome => (buf, outcome)

/-! ## What the loops of an iteration copy -/

theorem copyLoop_received (uninitialised : Nat → Byte) (buf : Vector Byte 75) (data : List Byte) :
    ∃ recMsg, copyLoop (overwrite buf (data.take 74)) (min data.length 74) 0
        (freshArray uninitialised (min data.length 74)) = some recMsg ∧
      recMsg.toList = data.take 74 := by
  refine ⟨_, copyLoop_zero_eq_copied _ _ _ (by omega) (le_refl _), ?_⟩
  apply List.ext_getElem
  · rw [Vector.length_toList, List.length_take, Nat.min_comm]
  · intro index inside taken
    rw [Vector.length_toList] at inside
    rw [Vector.getElem_toList, getElem_copied_of_lt _ _ _ _ inside inside (by omega),
      getElem_overwrite_of_lt _ _ _ _ taken]

/-- The second loop and the terminator fill `theMessage` with what stands between
the header and the checksum. -/
theorem storeMessage_eq_some (uninitialised : Nat → Byte) {recMsg : Vector Byte numbytes}
    (inside : 6 < numbytes) :
    storeMessage uninitialised recMsg =
      some (slice recMsg.toList 6 (numbytes - 1) ++ [0]) := by
  obtain ⟨theMessage, copies, cells⟩ := copyOffsetLoop_eq_some recMsg 6 (numbytes - 7) 0
    (freshArray uninitialised (numbytes - 6)) (by omega) (by omega)
  have length : (slice recMsg.toList 6 (numbytes - 1)).length = numbytes - 7 := by
    rw [slice_length, Vector.length_toList]
    omega
  rw [storeMessage, dif_pos inside, copies, Option.map_some, Option.some.injEq]
  apply List.ext_getElem
  · rw [Vector.length_toList, List.length_append, length, List.length_singleton]
    omega
  · intro index stored expected
    rw [Vector.length_toList] at stored
    rw [Vector.getElem_toList, Vector.getElem_set]
    by_cases last : numbytes - 7 = index
    · subst last
      rw [if_pos rfl, List.getElem_append_right (by omega)]
      simp [length]
    · rw [if_neg last, cells index stored, dif_pos (by omega),
        List.getElem_append_left (by omega)]
      simp [slice, Nat.add_comm]

/-! ## The branches of an iteration -/

section Branches

variable (theRing : RingInfo) (uninitialised : Nat → Byte) {recMsg : Vector Byte numbytes}

theorem classify_of_corrupted (corrupted : checksum recMsg.toList ≠ 0) :
    theRing.classify uninitialised recMsg = some .corrupted := by
  rw [classify, if_neg corrupted]

theorem classify_of_addressed (verified : checksum recMsg.toList = 0)
    (addressed : recMsg.toList[4]? = some theRing.rID) (inside : 6 < numbytes) :
    theRing.classify uninitialised recMsg =
      some (.received (slice recMsg.toList 6 (numbytes - 1) ++ [0])) := by
  rw [Vector.getElem?_toList] at addressed
  rw [classify, if_pos verified, addressed, Option.bind_some, if_pos rfl,
    storeMessage_eq_some uninitialised inside]
  rfl

/-- The test of the last branch reads the destination. -/
theorem classify_of_other (verified : checksum recMsg.toList = 0) {destination : Byte}
    (addressed : recMsg.toList[4]? = some destination) (other : destination ≠ theRing.rID) :
    theRing.classify uninitialised recMsg =
      some (if destination.toNat > 1 then .forwards else .timeToLiveTooLow) := by
  rw [Vector.getElem?_toList] at addressed
  rw [classify, if_pos verified, addressed, Option.bind_some, if_neg other]
  split <;> rfl

theorem receiveStep_eq (buf : Vector Byte 75) {data : List Byte} (nonempty : 0 < data.length) :
    ∃ recMsg : Vector Byte (min data.length 74), recMsg.toList = data.take 74 ∧
      theRing.receiveStep uninitialised buf data =
        (theRing.classify uninitialised recMsg).map fun outcome =>
          (overwrite buf (data.take 74), outcome) := by
  obtain ⟨recMsg, copies, contents⟩ := copyLoop_received uninitialised buf data
  refine ⟨recMsg, contents, ?_⟩
  simp only [receiveStep, if_neg (show ¬min data.length 74 = 0 by omega), copies,
    Option.bind_some]

end Branches

end RingInfo

/-! ## The slave and the master side by side -/

/-- The verdicts of a slave and of a master on one datagram that go together. -/
inductive SameVerdict (data : List Byte) : SlaveOutcome → Handled → Prop
  | corrupted (failed : RingInfo.checksum data ≠ 0) : SameVerdict data .corrupted .errorFound
  | recipient (verified : RingInfo.checksum data = 0) :
      SameVerdict data (.received (slice data 6 (data.length - 1) ++ [0]))
        (.printed (slice data 6 (data.length - 1)))
  | other (verified : RingInfo.checksum data = 0) {outcome : SlaveOutcome}
      (passes : outcome = .forwards ∨ outcome = .timeToLiveTooLow) (target : IPv4 × Nat) :
      SameVerdict data outcome (.forwarded data target)

/-- A slave and a master with one ring ID reach the same verdict on a datagram
that fits the master's buffer. -/
theorem exists_sameVerdict (theRing : RingInfo) {master : Master}
    (same : master.myRingID = theRing.rID.toNat) (uninitialised : Nat → Byte)
    (buf : Vector Byte 75) {data : List Byte} (long : 7 ≤ data.length)
    (short : data.length ≤ 71) :
    ∃ next outcome handled, theRing.receiveStep uninitialised buf data = some (next, outcome) ∧
      master.recvHandleMessage data = .ok handled ∧ SameVerdict data outcome handled := by
  obtain ⟨recMsg, contents, iteration⟩ :=
    theRing.receiveStep_eq uninitialised buf (show 0 < data.length by omega)
  rw [List.take_of_length_le (by omega)] at contents
  have whole : data.take BUFF_SIZE = data := List.take_of_length_le short
  by_cases verified : RingInfo.checksum data = 0
  · have accepted : Master.verifyChecksum (data.take BUFF_SIZE) := by
      rw [whole]
      exact (checksum_eq_zero_iff data).mp verified
    obtain ⟨destination, addressed⟩ : ∃ destination, data[4]? = some destination :=
      ⟨_, List.getElem?_eq_getElem (by omega)⟩
    have handled := master.recvHandleMessage_of_verified accepted addressed
    rw [whole] at handled
    by_cases own : destination = theRing.rID
    · subst own
      rw [if_pos same.symm] at handled
      rw [theRing.classify_of_addressed uninitialised (by rwa [contents]) (by rwa [contents])
        (by omega), contents, show min data.length 74 = data.length by omega] at iteration
      exact ⟨_, _, _, iteration, handled, .recipient verified⟩
    · have elsewhere : ¬destination.toNat = master.myRingID := fun equal =>
        own (BitVec.eq_of_toNat_eq (equal.trans same))
      rw [if_neg elsewhere] at handled
      rw [theRing.classify_of_other uninitialised (by rwa [contents]) (by rwa [contents]) own]
        at iteration
      refine ⟨_, _, _, iteration, handled, .other verified ?_ _⟩
      split
      · exact Or.inl rfl
      · exact Or.inr rfl
  · have rejected : ¬Master.verifyChecksum (data.take BUFF_SIZE) = true := by
      rw [whole, ← checksum_eq_zero_iff]
      exact verified
    rw [theRing.classify_of_corrupted uninitialised (by rwa [contents])] at iteration
    exact ⟨_, _, _, iteration, master.recvHandleMessage_of_corrupted rejected,
      .corrupted verified⟩

/-- The slave and the master agree on the check, on the recipient, and on the
message. -/
theorem slave_agrees_with_master (theRing : RingInfo) {master : Master}
    (same : master.myRingID = theRing.rID.toNat) (uninitialised : Nat → Byte)
    (buf : Vector Byte 75) {data : List Byte} (long : 7 ≤ data.length)
    (short : data.length ≤ 71) :
    (RingInfo.checksum data = 0 ↔ Master.verifyChecksum data) ∧
    ∃ next outcome,
      theRing.receiveStep uninitialised buf data = some (next, outcome) ∧
      (outcome = .corrupted ↔ RingInfo.checksum data ≠ 0) ∧
      (outcome = .corrupted ↔ master.recvHandleMessage data = .ok .errorFound) ∧
      ((∃ theMessage, outcome = .received theMessage) ↔
        ∃ message, master.recvHandleMessage data = .ok (.printed message)) ∧
      ∀ theMessage, outcome = .received theMessage →
        theMessage.length = data.length - 6 ∧
        theMessage = slice data 6 (data.length - 1) ++ [0] ∧
        master.recvHandleMessage data = .ok (.printed (slice data 6 (data.length - 1))) := by
  obtain ⟨next, outcome, handled, iteration, handles, verdict⟩ :=
    exists_sameVerdict theRing same uninitialised buf long short
  refine ⟨checksum_eq_zero_iff data, next, outcome, iteration, ?_⟩
  rw [handles]
  cases verdict with
  | corrupted failed => simpa using failed
  | recipient verified =>
      have stored : data.length - 1 - 6 + 1 = data.length - 6 := by omega
      simp [verified, stored]
  | other verified passes target =>
      rcases passes with rfl | rfl
      · simp [verified]
      · simp [verified]

theorem slave_agrees_with_master_greeting :
    (RingInfo.checksum [15, 0x12, 0x34, 255, 9, 0, 72, 105, 239] = 0 ↔
      Master.verifyChecksum [15, 0x12, 0x34, 255, 9, 0, 72, 105, 239]) ∧
    ∃ next outcome,
      (RingInfo.makeRing #v[15, 0x12, 0x34, 9, 10, 0, 0, 1]).receiveStep (fun _ => 7)
        (Vector.replicate 75 1) [15, 0x12, 0x34, 255, 9, 0, 72, 105, 239] =
        some (next, outcome) ∧
      (outcome = .corrupted ↔ RingInfo.checksum [15, 0x12, 0x34, 255, 9, 0, 72, 105, 239] ≠ 0) ∧
      (outcome = .corrupted ↔ (⟨9, 0, #v[10, 0, 0, 1]⟩ : Master).recvHandleMessage
        [15, 0x12, 0x34, 255, 9, 0, 72, 105, 239] = .ok .errorFound) ∧
      ((∃ theMessage, outcome = .received theMessage) ↔
        ∃ message, (⟨9, 0, #v[10, 0, 0, 1]⟩ : Master).recvHandleMessage
          [15, 0x12, 0x34, 255, 9, 0, 72, 105, 239] = .ok (.printed message)) ∧
      ∀ theMessage, outcome = .received theMessage →
        theMessage.length = ([15, 0x12, 0x34, 255, 9, 0, 72, 105, 239] : List Byte).length - 6 ∧
        theMessage = slice [15, 0x12, 0x34, 255, 9, 0, 72, 105, 239] 6
          (([15, 0x12, 0x34, 255, 9, 0, 72, 105, 239] : List Byte).length - 1) ++ [0] ∧
        (⟨9, 0, #v[10, 0, 0, 1]⟩ : Master).recvHandleMessage
          [15, 0x12, 0x34, 255, 9, 0, 72, 105, 239] = .ok (.printed
            (slice [15, 0x12, 0x34, 255, 9, 0, 72, 105, 239] 6
              (([15, 0x12, 0x34, 255, 9, 0, 72, 105, 239] : List Byte).length - 1))) :=
  slave_agrees_with_master _ rfl _ _ (by decide) (by decide)

end OpServer
