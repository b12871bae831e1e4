import OpServer.UdpSession
import Mathlib.Tactic.IntervalCases

/-!
# What a reply of the UDP server depends on

The copy loop of `servRun` follows the first byte of a datagram, not the number
of bytes received, and `processRequest` always reads eight bytes.  So a reply
can depend on datagrams of other clients.  This file says for which datagrams
it does not.
-/

namespace OpServer

open Buffer BigEndian

/-- The reply to a datagram that arrives after a history. -/
def replyAfter (memory : ReceiveMemory 8) (history : List Arrival) (arrival : Arrival) :
    Option (Vector Byte 7) :=
  (Stepped.run servRunStep memory history).bind fun handled =>
    (servRunStep handled.1 arrival).map Prod.snd

/-- No two histories lead to different replies to the datagram. -/
def AnsweredFromItself (datagram : List Byte) : Prop :=
  ∀ (memory : ReceiveMemory 8) (first second : List Arrival),
    (∀ arrival ∈ first, DeclaresAtMost 8 arrival.bytes) →
    (∀ arrival ∈ second, DeclaresAtMost 8 arrival.bytes) →
    ∀ firstUnassigned secondUnassigned,
      replyAfter memory first ⟨datagram, firstUnassigned⟩ =
        replyAfter memory second ⟨datagram, secondUnassigned⟩

/-- The datagram is a whole request whose evaluation C defines, or its first
six or seven bytes already force the result of a bitwise operation. -/
def DeterminesReply (datagram : List Byte) : Prop :=
  (8 ≤ freshCount datagram ∧ ∃ operation : Operation,
      datagram.getD 2 0 = operation.code ∧ operation.CountInRange
        (get16FromBytes #v[datagram.getD 6 0, datagram.getD 7 0]).toInt) ∨
    (6 ≤ freshCount datagram ∧ datagram.getD 2 0 = Operation.or.code ∧
      datagram.getD 5 0 = 255#8 ∧ (freshCount datagram = 6 → datagram.getD 4 0 = 255#8)) ∨
    (6 ≤ freshCount datagram ∧ datagram.getD 2 0 = Operation.and.code ∧
      datagram.getD 5 0 = 0#8 ∧ (freshCount datagram = 6 → datagram.getD 4 0 = 0#8))

/-- The bytes a datagram leaves in `recBytes` over stale ones. -/
def mergeStale (datagram : List Byte) (stale : Vector Byte 8) : Vector Byte 8 :=
  Vector.ofFn fun index =>
    if index.val < freshCount datagram then datagram.getD index 0 else stale[index]

theorem getElem_mergeStale (datagram : List Byte) (stale : Vector Byte 8)
    (index : Nat) (inside : index < 8) :
    (mergeStale datagram stale)[index] =
      if index < freshCount datagram then datagram.getD index 0 else stale[index] := by
  simp [mergeStale]

/-- The stale bytes behind a datagram: those of `buf` as far as the copy loop
runs, and behind that those of `recBytes`. -/
def leftover (memory : ReceiveMemory 8) (datagram : List Byte) : Vector Byte 8 :=
  Vector.ofFn fun index =>
    if index.val < (datagram.headD 0).toNat then memory.buf[index.val]
    else memory.recBytes[index]

theorem servRunStep_eq_merge (memory : ReceiveMemory 8) {datagram : List Byte}
    (declares : DeclaresAtMost 8 datagram) (unassigned : BitVec 32) :
    (servRunStep memory ⟨datagram, unassigned⟩).map Prod.snd =
      some (replyBytes unassigned (mergeStale datagram (leftover memory datagram))) := by
  have merged : copied (overwrite memory.buf (datagram.take 99)) (datagram.headD 0).toNat
      memory.recBytes = mergeStale datagram (leftover memory datagram) := by
    apply Vector.ext
    intro index inside
    rw [getElem_mergeStale]
    split
    · exact getElem_recBytes_of_lt memory datagram index inside ‹_›
    · rw [getElem_recBytes_of_le memory datagram index inside (by decide) (by omega)]
      simp [leftover]
  rw [servRunStep, receive_of_declares (by decide) memory declares, merged]
  rfl

theorem replyAfter_eq_merge (memory : ReceiveMemory 8) {history : List Arrival}
    (handled : ∀ arrival ∈ history, DeclaresAtMost 8 arrival.bytes)
    {datagram : List Byte} (declares : DeclaresAtMost 8 datagram)
    (unassigned : BitVec 32) :
    ∃ stale, replyAfter memory history ⟨datagram, unassigned⟩ =
      some (replyBytes unassigned (mergeStale datagram stale)) := by
  obtain ⟨afterHistory, replies, ran⟩ :=
    Stepped.run_isSome (fun state _ => servRunStep_isSome state) memory handled
  refine ⟨leftover afterHistory datagram, ?_⟩
  simp only [replyAfter, ran, Option.bind_some]
  exact servRunStep_eq_merge afterHistory declares unassigned

/-- One earlier whole message chooses all stale bytes. -/
theorem replyAfter_message (memory : ReceiveMemory 8) (stale : Vector Byte 8)
    (declared : (remakeRequest stale).TML = 8) {datagram : List Byte}
    (declares : DeclaresAtMost 8 datagram) (unassigned : BitVec 32) :
    replyAfter memory [⟨stale.toList, 0⟩] ⟨datagram, unassigned⟩ =
      some (replyBytes unassigned (mergeStale datagram stale)) := by
  have received := receive_whole_message (by decide) memory stale (by decide)
    (congrArg BitVec.toNat declared)
  have stepped : servRunStep memory ⟨stale.toList, 0⟩ = some
      ({ buf := (overwrite memory.buf (stale.toList.take 99)).set 8 0
         recBytes := stale }, replyBytes 0 stale) := by
    rw [servRunStep, received]
    simp
  rw [replyAfter, Stepped.run_cons_of_step stepped, Stepped.run_nil]
  simp only [Option.map_some, Option.bind_some]
  rw [servRunStep_eq_merge _ declares]
  have leftoverEq : leftover
      { buf := (overwrite memory.buf (stale.toList.take 99)).set 8 0
        recBytes := stale } datagram = stale := by
    apply Vector.ext
    intro index inside
    have fromBuf : ((overwrite memory.buf (stale.toList.take 99)).set 8 0)[index] =
        stale[index] := by
      rw [Vector.getElem_set_ne _ _ (by omega),
        getElem_overwrite_of_lt _ _ _ _ (by simp; omega)]
      simp
    simp only [leftover, Vector.getElem_ofFn]
    split
    · exact fromBuf
    · rfl
  rw [leftoverEq]

/-! ## Datagrams that determine their reply -/

theorem word_eq_iff_lanes {first second : BitVec 16} :
    first = second ↔ lane first 8 = lane second 8 ∧ lane first 0 = lane second 0 := by
  constructor
  · rintro rfl
    exact ⟨rfl, rfl⟩
  · rintro ⟨high, low⟩
    apply eq_of_lanes 2 first second
    intro index inside
    interval_cases index
    · exact low
    · exact high

theorem signExtend_eq_iff {first second : BitVec 16} :
    first.signExtend 32 = second.signExtend 32 ↔ first = second := by
  rw [← BitVec.toInt_inj, BitVec.toInt_signExtend_of_le (by decide),
    BitVec.toInt_signExtend_of_le (by decide), BitVec.toInt_inj]

section Sufficient

variable {datagram : List Byte}

theorem mergeStale_eq_of_whole (whole : 8 ≤ freshCount datagram)
    (first second : Vector Byte 8) :
    mergeStale datagram first = mergeStale datagram second := by
  apply Vector.ext
  intro index inside
  rw [getElem_mergeStale, getElem_mergeStale, if_pos (by omega), if_pos (by omega)]

theorem getElem_mergeStale_of_lt (stale : Vector Byte 8) {index : Nat} (inside : index < 8)
    (fresh : index < freshCount datagram) :
    (mergeStale datagram stale)[index] = datagram.getD index 0 := by
  rw [getElem_mergeStale, if_pos fresh]

theorem getElem_mergeStale_of_le (stale : Vector Byte 8) {index : Nat} (inside : index < 8)
    (beyond : freshCount datagram ≤ index) :
    (mergeStale datagram stale)[index] = stale[index] := by
  rw [getElem_mergeStale, if_neg (by omega)]

end Sufficient

theorem calcTheInt_or {request : Request} (opCode : request.opCode = Operation.or.code) :
    calcTheInt request = some
      ((request.operandOne.theInt ||| request.operandTwo.theInt).signExtend 32) := by
  rw [calcTheInt, opCode, BitVec.signExtend_or]
  rfl

theorem calcTheInt_and {request : Request} (opCode : request.opCode = Operation.and.code) :
    calcTheInt request = some
      ((request.operandOne.theInt &&& request.operandTwo.theInt).signExtend 32) := by
  rw [calcTheInt, opCode, BitVec.signExtend_and]
  rfl

/-- A bitwise operator on the bytes of the operands, the high ones and the low
ones. -/
def operandBits (bits : Byte → Byte → Byte) (request : Request) : Byte × Byte :=
  (bits (lane request.operandOne.theInt 8) (lane request.operandTwo.theInt 8),
    bits (lane request.operandOne.theInt 0) (lane request.operandTwo.theInt 0))

theorem calcTheInt_or_eq_iff {first second : Request}
    (firstCode : first.opCode = Operation.or.code)
    (secondCode : second.opCode = Operation.or.code) :
    calcTheInt first = calcTheInt second ↔
      operandBits (· ||| ·) first = operandBits (· ||| ·) second := by
  rw [calcTheInt_or firstCode, calcTheInt_or secondCode, Option.some.injEq,
    signExtend_eq_iff, word_eq_iff_lanes]
  simp only [operandBits, lane_or, Prod.mk.injEq]

theorem calcTheInt_and_eq_iff {first second : Request}
    (firstCode : first.opCode = Operation.and.code)
    (secondCode : second.opCode = Operation.and.code) :
    calcTheInt first = calcTheInt second ↔
      operandBits (· &&& ·) first = operandBits (· &&& ·) second := by
  rw [calcTheInt_and firstCode, calcTheInt_and secondCode, Option.some.injEq,
    signExtend_eq_iff, word_eq_iff_lanes]
  simp only [operandBits, lane_and, Prod.mk.injEq]

/-- Where the fresh first operand absorbs the stale bytes of the second, a
bitwise operator gives the same bytes over any stale ones. -/
theorem operandBits_mergeStale_eq {datagram : List Byte} {bits : Byte → Byte → Byte}
    {absorbing : Byte} (absorbs : ∀ byte, bits absorbing byte = absorbing)
    (six : 6 ≤ freshCount datagram) (low : datagram.getD 5 0 = absorbing)
    (high : freshCount datagram = 6 → datagram.getD 4 0 = absorbing)
    (first second : Vector Byte 8) :
    operandBits bits (remakeRequest (mergeStale datagram first)) =
      operandBits bits (remakeRequest (mergeStale datagram second)) := by
  have four (stale : Vector Byte 8) :
      (mergeStale datagram stale)[4] = datagram.getD 4 0 :=
    getElem_mergeStale_of_lt stale (by decide) (by omega)
  have five (stale : Vector Byte 8) :
      (mergeStale datagram stale)[5] = absorbing :=
    (getElem_mergeStale_of_lt stale (by decide) (by omega)).trans low
  simp only [operandBits, remakeRequest, lane_get16FromBytes_high, lane_get16FromBytes_low,
    Prod.mk.injEq]
  constructor
  · rw [four, four]
    by_cases exactlySix : freshCount datagram = 6
    · rw [high exactlySix, absorbs, absorbs]
    · rw [getElem_mergeStale_of_lt first (by decide) (by omega),
        getElem_mergeStale_of_lt second (by decide) (by omega)]
  · rw [five, five, absorbs, absorbs]

theorem replyBytes_mergeStale_eq {datagram : List Byte} (determines : DeterminesReply datagram)
    (first second : Vector Byte 8) (firstUnassigned secondUnassigned : BitVec 32) :
    replyBytes firstUnassigned (mergeStale datagram first) =
      replyBytes secondUnassigned (mergeStale datagram second) := by
  have byte (stale : Vector Byte 8) (index : Nat) (inside : index < 8)
      (fresh : index < freshCount datagram) :
      (mergeStale datagram stale)[index] = datagram.getD index 0 :=
    getElem_mergeStale_of_lt stale inside fresh
  have six : 6 ≤ freshCount datagram := by
    rcases determines with ⟨whole, -⟩ | ⟨fresh, -⟩ | ⟨fresh, -⟩ <;> omega
  have opCode (stale : Vector Byte 8) :
      (remakeRequest (mergeStale datagram stale)).opCode = datagram.getD 2 0 :=
    byte stale 2 (by decide) (by omega)
  have requestID (stale : Vector Byte 8) :
      (remakeRequest (mergeStale datagram stale)).requestID = datagram.getD 1 0 :=
    byte stale 1 (by decide) (by omega)
  rw [replyBytes_eq_iff, requestID, requestID]
  refine ⟨rfl, ?_⟩
  suffices same : ∃ theInt,
      calcTheInt (remakeRequest (mergeStale datagram first)) = some theInt ∧
        calcTheInt (remakeRequest (mergeStale datagram second)) = some theInt by
    obtain ⟨theInt, firstInt, secondInt⟩ := same
    rw [firstInt, secondInt]
    rfl
  rcases determines with ⟨whole, operation, code, inRange⟩ | ⟨-, code, low, high⟩ |
    ⟨-, code, low, high⟩
  · rw [mergeStale_eq_of_whole whole first second]
    simp only [and_self]
    rw [← Option.isSome_iff_exists, calcTheInt_isSome_iff]
    refine ⟨operation, (opCode second).trans code, ?_⟩
    change operation.CountInRange (get16FromBytes #v[(mergeStale datagram second)[6],
      (mergeStale datagram second)[7]]).toInt
    rwa [byte second 6 (by decide) (by omega), byte second 7 (by decide) (by omega)]
  · have firstCode := (opCode first).trans code
    have secondCode := (opCode second).trans code
    refine ⟨_, calcTheInt_or firstCode, ?_⟩
    rw [← calcTheInt_or firstCode, calcTheInt_or_eq_iff secondCode firstCode]
    exact operandBits_mergeStale_eq or_255 six low high second first
  · have firstCode := (opCode first).trans code
    have secondCode := (opCode second).trans code
    refine ⟨_, calcTheInt_and firstCode, ?_⟩
    rw [← calcTheInt_and firstCode, calcTheInt_and_eq_iff secondCode firstCode]
    exact operandBits_mergeStale_eq (fun _ => BitVec.zero_and) six low high second first

/-! ## Datagrams that do not -/

/-- Stale bytes as an earlier message of the protocol leaves them. -/
def staleBytes (requestID opCode highOne lowOne highTwo lowTwo : Byte) : Vector Byte 8 :=
  #v[8, requestID, opCode, 2, highOne, lowOne, highTwo, lowTwo]

/-- Whatever the stale bytes and the unassigned value are, the reply is the
same. -/
def IgnoresStale (datagram : List Byte) : Prop :=
  ∀ (first second : Vector Byte 8),
    (remakeRequest first).TML = 8 → (remakeRequest second).TML = 8 →
    ∀ firstUnassigned secondUnassigned,
      replyBytes firstUnassigned (mergeStale datagram first) =
        replyBytes secondUnassigned (mergeStale datagram second)

theorem ignoresStale_of_answeredFromItself {datagram : List Byte}
    (declares : DeclaresAtMost 8 datagram) (answered : AnsweredFromItself datagram) :
    IgnoresStale datagram := by
  intro first second firstDeclared secondDeclared firstUnassigned secondUnassigned
  have handled (stale : Vector Byte 8) (declared : (remakeRequest stale).TML = 8) :
      ∀ arrival ∈ [(⟨stale.toList, 0⟩ : Arrival)], DeclaresAtMost 8 arrival.bytes := by
    intro arrival member
    rw [List.mem_singleton] at member
    subst member
    have declares := declaresAtMost_message stale [] (by decide)
      (congrArg BitVec.toNat declared)
    rwa [List.append_nil] at declares
  have memory : ReceiveMemory 8 := ⟨Vector.replicate 100 0, Vector.replicate 8 0⟩
  have equal := answered memory _ _ (handled first firstDeclared)
    (handled second secondDeclared) firstUnassigned secondUnassigned
  rw [replyAfter_message memory first firstDeclared declares,
    replyAfter_message memory second secondDeclared declares, Option.some.injEq] at equal
  exact equal

namespace IgnoresStale

variable {datagram : List Byte} (ignores : IgnoresStale datagram)
include ignores

theorem isSome (stale : Vector Byte 8) (declared : (remakeRequest stale).TML = 8) :
    (calcTheInt (remakeRequest (mergeStale datagram stale))).isSome := by
  have theInts :=
    ((replyBytes_eq_iff 0 1 _ _).mp (ignores stale stale declared declared 0 1)).2
  cases assigned : calcTheInt (remakeRequest (mergeStale datagram stale)) with
  | none =>
      rw [assigned] at theInts
      exact absurd theInts (by decide)
  | some theInt => rfl

theorem calcTheInt_eq (first second : Vector Byte 8)
    (firstDeclared : (remakeRequest first).TML = 8)
    (secondDeclared : (remakeRequest second).TML = 8) :
    calcTheInt (remakeRequest (mergeStale datagram first)) =
      calcTheInt (remakeRequest (mergeStale datagram second)) := by
  have theInts := ((replyBytes_eq_iff 0 0 _ _).mp
    (ignores first second firstDeclared secondDeclared 0 0)).2
  obtain ⟨firstInt, firstEq⟩ := Option.isSome_iff_exists.mp (ignores.isSome first firstDeclared)
  obtain ⟨secondInt, secondEq⟩ := Option.isSome_iff_exists.mp (ignores.isSome second secondDeclared)
  rw [firstEq, secondEq] at theInts ⊢
  exact congrArg some theInts

theorem three_le_freshCount : 3 ≤ freshCount datagram := by
  by_contra few
  have opCode : (mergeStale datagram (staleBytes 0 6 0 0 0 0))[2] = 6 := by
    rw [getElem_mergeStale_of_le _ _ (by omega)]
    rfl
  have assigned := ignores.isSome (staleBytes 0 6 0 0 0 0) rfl
  rw [calcTheInt_isSome_iff] at assigned
  obtain ⟨operation, code, -⟩ := assigned
  have bounded := operation.code_toNat_le
  rw [← code] at bounded
  change (mergeStale datagram (staleBytes 0 6 0 0 0 0))[2].toNat ≤ 5 at bounded
  rw [opCode] at bounded
  exact absurd bounded (by decide)

theorem exists_operation : ∃ operation : Operation, datagram.getD 2 0 = operation.code ∧
    (∀ stale, (remakeRequest (mergeStale datagram stale)).opCode = operation.code) ∧
    ∀ stale, (remakeRequest stale).TML = 8 → operation.CountInRange
      (remakeRequest (mergeStale datagram stale)).operandTwo.theInt.toInt := by
  have opCode (stale : Vector Byte 8) :
      (remakeRequest (mergeStale datagram stale)).opCode = datagram.getD 2 0 :=
    getElem_mergeStale_of_lt stale (by decide) ignores.three_le_freshCount
  have witness (stale : Vector Byte 8) (declared : (remakeRequest stale).TML = 8) :=
    (calcTheInt_isSome_iff _).mp (ignores.isSome stale declared)
  obtain ⟨operation, code, -⟩ := witness (staleBytes 0 0 0 0 0 0) rfl
  have own : datagram.getD 2 0 = operation.code := (opCode _).symm.trans code
  refine ⟨operation, own, fun stale => (opCode stale).trans own, ?_⟩
  intro stale declared
  obtain ⟨other, otherCode, inRange⟩ := witness stale declared
  have sameOperation : operation = other :=
    Operation.code_injective (own.symm.trans ((opCode stale).symm.trans otherCode))
  subst sameOperation
  exact inRange

end IgnoresStale

/-- An additive operation tells second operands apart. -/
theorem calcTheInt_injective_of_additive {first second : Request}
    {operation : Operation} (additive : operation = .add ∨ operation = .sub)
    (firstCode : first.opCode = operation.code) (secondCode : second.opCode = operation.code)
    (operandOne : first.operandOne.theInt = second.operandOne.theInt)
    (equal : calcTheInt first = calcTheInt second) :
    first.operandTwo.theInt = second.operandTwo.theInt := by
  simp only [calcTheInt, operandOne, firstCode, secondCode] at equal
  rw [← signExtend_eq_iff]
  rcases additive with rfl | rfl
  · exact (BitVec.add_right_inj _).mp (Option.some.inj equal)
  · exact (BitVec.sub_right_inj _).mp (Option.some.inj equal)

theorem not_countInRange_32 (high : Byte) :
    ¬(0 ≤ (get16FromBytes #v[high, 32]).toInt ∧
      (get16FromBytes #v[high, 32]).toInt ≤ 31) := by
  rintro ⟨nonnegative, small⟩
  have low := congrArg BitVec.toNat (lane_get16FromBytes_low high 32)
  rw [show (0 : Nat) = 8 * 0 from rfl, toNat_lane, pow_zero, Nat.div_one] at low
  rw [BitVec.toInt_eq_toNat_cond] at nonnegative small
  have bound := (get16FromBytes #v[high, 32]).isLt
  change _ = 32 at low
  split at small <;> omega

/-- Where a bitwise operator must give the same bytes for every stale second
operand, the first operand absorbs the second. -/
theorem absorbs_of_bitwise {datagram : List Byte} {bits : Byte → Byte → Byte}
    {absorbing : Byte} (notWhole : freshCount datagram < 8)
    (absorbs : ∀ byte, bits byte 0 = bits byte 255 → byte = absorbing)
    (same : ∀ first second : Vector Byte 8,
      (remakeRequest first).TML = 8 → (remakeRequest second).TML = 8 →
      operandBits bits (remakeRequest (mergeStale datagram first)) =
        operandBits bits (remakeRequest (mergeStale datagram second))) :
    6 ≤ freshCount datagram ∧ datagram.getD 5 0 = absorbing ∧
      (freshCount datagram = 6 → datagram.getD 4 0 = absorbing) := by
  simp only [operandBits, remakeRequest, lane_get16FromBytes_high, lane_get16FromBytes_low,
    Prod.mk.injEq] at same
  have lowOne (byte : Byte) :
      (mergeStale datagram (staleBytes 0 0 0 byte 0 0))[5] = absorbing := by
    apply absorbs
    have equal := (same (staleBytes 0 0 0 byte 0 0) (staleBytes 0 0 0 byte 0 255) rfl rfl).2
    simp only [getElem_mergeStale, if_neg (show ¬7 < freshCount datagram by omega)] at equal ⊢
    exact equal
  have six : 6 ≤ freshCount datagram := by
    by_contra few
    have zero := lowOne 0
    have one := lowOne 1
    rw [getElem_mergeStale_of_le _ _ (by omega)] at zero one
    exact absurd (show (0 : Byte) = 1 from zero.trans one.symm) (by decide)
  refine ⟨six, ?_, fun exactlySix => ?_⟩
  · rw [← lowOne 0, getElem_mergeStale_of_lt _ _ (by omega)]
  · apply absorbs
    have equal := (same (staleBytes 0 0 0 0 0 0) (staleBytes 0 0 0 0 255 0) rfl rfl).1
    simp only [getElem_mergeStale, if_pos (show 4 < freshCount datagram by omega),
      if_neg (show ¬6 < freshCount datagram by omega)] at equal
    exact equal

theorem IgnoresStale.determinesReply {datagram : List Byte} (ignores : IgnoresStale datagram) :
    DeterminesReply datagram := by
  obtain ⟨operation, own, code, inRange⟩ := ignores.exists_operation
  by_cases whole : 8 ≤ freshCount datagram
  · refine Or.inl ⟨whole, operation, own, ?_⟩
    have counts := inRange (staleBytes 0 0 0 0 0 0) rfl
    simp only [remakeRequest] at counts
    rwa [getElem_mergeStale_of_lt _ _ (by omega), getElem_mergeStale_of_lt _ _ (by omega)]
      at counts
  · have stale7 (stale : Vector Byte 8) : (mergeStale datagram stale)[7] = stale[7] :=
      getElem_mergeStale_of_le stale (by decide) (by omega)
    have notShift : ¬operation.IsShift := fun shift => by
      have counts := inRange (staleBytes 0 0 0 0 0 32) rfl shift
      simp only [remakeRequest, stale7] at counts
      exact not_countInRange_32 _ counts
    have notAdditive : ¬(operation = .add ∨ operation = .sub) := fun additive => by
      have words := calcTheInt_injective_of_additive additive (code _) (code _) ?_
        (ignores.calcTheInt_eq (staleBytes 0 0 0 0 0 0) (staleBytes 0 0 0 0 0 1) rfl rfl)
      · have bytes := congrArg (fun word => lane word 0) words
        simp only [remakeRequest, lane_get16FromBytes_low, stale7] at bytes
        exact absurd (show (0 : Byte) = 1 from bytes) (by decide)
      · simp only [remakeRequest, getElem_mergeStale]
        rfl
    cases operation with
    | add => exact (notAdditive (Or.inl rfl)).elim
    | sub => exact (notAdditive (Or.inr rfl)).elim
    | shiftRight => exact (notShift (Or.inl rfl)).elim
    | shiftLeft => exact (notShift (Or.inr rfl)).elim
    | or =>
        have absorbs : ∀ byte : Byte, byte ||| 0 = byte ||| 255 → byte = 255#8 := by
          decide +kernel
        have forced := absorbs_of_bitwise (by omega) absorbs
          fun first second firstDeclared secondDeclared =>
            (calcTheInt_or_eq_iff (code first) (code second)).mp
              (ignores.calcTheInt_eq first second firstDeclared secondDeclared)
        exact Or.inr (Or.inl ⟨forced.1, own, forced.2⟩)
    | and =>
        have absorbs : ∀ byte : Byte, byte &&& 0 = byte &&& 255 → byte = 0#8 := by
          decide +kernel
        have forced := absorbs_of_bitwise (by omega) absorbs
          fun first second firstDeclared secondDeclared =>
            (calcTheInt_and_eq_iff (code first) (code second)).mp
              (ignores.calcTheInt_eq first second firstDeclared secondDeclared)
        exact Or.inr (Or.inr ⟨forced.1, own, forced.2⟩)

/-- The reply to a datagram is a function of the datagram alone exactly when
the datagram is a whole request that C evaluates, or forces its result. -/
theorem answeredFromItself_iff {datagram : List Byte}
    (declares : DeclaresAtMost 8 datagram) :
    AnsweredFromItself datagram ↔ DeterminesReply datagram := by
  constructor
  · intro answered
    exact (ignoresStale_of_answeredFromItself declares answered).determinesReply
  · intro determines memory first second firstHandled secondHandled
      firstUnassigned secondUnassigned
    obtain ⟨firstStale, firstReply⟩ :=
      replyAfter_eq_merge memory firstHandled declares firstUnassigned
    obtain ⟨secondStale, secondReply⟩ :=
      replyAfter_eq_merge memory secondHandled declares secondUnassigned
    rw [firstReply, secondReply, Option.some.injEq]
    exact replyBytes_mergeStale_eq determines _ _ _ _

theorem answeredFromItself_iff_sum :
    AnsweredFromItself [8, 1, 0, 2, 0, 3, 0, 4] ↔
      DeterminesReply [8, 1, 0, 2, 0, 3, 0, 4] :=
  answeredFromItself_iff (by decide)

/-- A lone zero byte is answered with the previous client's request ID and
result. -/
theorem reply_to_zero_leaks :
    replyAfter ⟨Vector.replicate 100 0, Vector.replicate 8 0⟩
        [⟨[8, 1, 0, 2, 0, 1, 0, 1], 0⟩] ⟨[0], 0⟩ = some #v[7, 1, 0, 0, 0, 0, 2] ∧
      replyAfter ⟨Vector.replicate 100 0, Vector.replicate 8 0⟩
        [⟨[8, 2, 0, 2, 0, 5, 0, 5], 0⟩] ⟨[0], 0⟩ = some #v[7, 2, 0, 0, 0, 0, 10] ∧
      ¬∀ datagram, DeclaresAtMost 8 datagram → datagram.length ≤ 99 →
        AnsweredFromItself datagram := by
  have first : replyAfter ⟨Vector.replicate 100 0, Vector.replicate 8 0⟩
      [⟨[8, 1, 0, 2, 0, 1, 0, 1], 0⟩] ⟨[0], 0⟩ = some #v[7, 1, 0, 0, 0, 0, 2] := by
    decide +kernel
  have second : replyAfter ⟨Vector.replicate 100 0, Vector.replicate 8 0⟩
      [⟨[8, 2, 0, 2, 0, 5, 0, 5], 0⟩] ⟨[0], 0⟩ = some #v[7, 2, 0, 0, 0, 0, 10] := by
    decide +kernel
  refine ⟨first, second, fun claim => ?_⟩
  have same := claim [0] (by decide) (by decide)
    ⟨Vector.replicate 100 0, Vector.replicate 8 0⟩ [⟨[8, 1, 0, 2, 0, 1, 0, 1], 0⟩]
    [⟨[8, 2, 0, 2, 0, 5, 0, 5], 0⟩] (by decide) (by decide) 0 0
  rw [first, second] at same
  exact absurd same (by decide)

end OpServer
