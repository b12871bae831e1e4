import OpServer.RingHandler

/-!
# Which message the recipient prints

A datagram fits the receive buffer if its message has at most 64 bytes; then it
reaches its recipient unchanged, over any number of other nodes.  Of a longer
message the buffer keeps 65 bytes and no checksum, and whether the recipient
notices depends on what these bytes add up to.
-/

namespace OpServer

open Python

namespace Master

/-- What arrives behind nodes that each forward the datagram to the next. -/
def relay : List Master → List Byte → Option (List Byte)
  | [], datagram => some datagram
  | node :: nodes, datagram =>
      match node.recvHandleMessage datagram with
      | .ok (.forwarded data _) => relay nodes data
      | _ => none

theorem recvPrintMessage_datagramBody (targetRID sourceRID : Byte) (content : List Byte) :
    recvPrintMessage (datagramBody targetRID sourceRID content) =
      .printed (content.take (content.length - 1)) := by
  rw [recvPrintMessage, datagramBody_length]
  congr 1
  cases content with
  | nil => rfl
  | cons first rest =>
      change List.drop 6 (List.take (rest.length + 6)
        ([15, 0x12, 0x34, 255, targetRID, sourceRID] ++ (first :: rest))) = _
      rw [List.take_append, List.drop_append]
      simp

theorem ringDatagram_eq_body (targetRID sourceRID : Byte) (userMessage : List Byte) :
    ringDatagram targetRID sourceRID userMessage =
      datagramBody targetRID sourceRID (userMessage ++
        [RingInfo.checksum (datagramBody targetRID sourceRID userMessage)]) := by
  simp only [ringDatagram, datagramBody, List.append_assoc]

theorem recvPrintMessage_ringDatagram (targetRID sourceRID : Byte) (userMessage : List Byte) :
    recvPrintMessage (ringDatagram targetRID sourceRID userMessage) = .printed userMessage := by
  rw [ringDatagram_eq_body, recvPrintMessage_datagramBody]
  simp

section Short

variable (targetRID sourceRID : Byte) {userMessage : List Byte}

theorem take_ringDatagram_of_short (short : userMessage.length ≤ 64) :
    (ringDatagram targetRID sourceRID userMessage).take BUFF_SIZE =
      ringDatagram targetRID sourceRID userMessage := by
  apply List.take_of_length_le
  rw [ringDatagram_length, BUFF_SIZE]
  omega

theorem recvHandleMessage_ringDatagram (node : Master) (short : userMessage.length ≤ 64) :
    node.recvHandleMessage (ringDatagram targetRID sourceRID userMessage) =
      .ok (if targetRID.toNat = node.myRingID then .printed userMessage
        else .forwarded (ringDatagram targetRID sourceRID userMessage) node.target) := by
  have kept := take_ringDatagram_of_short targetRID sourceRID short
  have verified := verifyChecksum_ringDatagram targetRID sourceRID userMessage
  rw [node.recvHandleMessage_of_verified (by rwa [kept])
    (ringDatagram_target targetRID sourceRID userMessage), kept, recvPrintMessage_ringDatagram]
  rfl

theorem relay_ringDatagram (short : userMessage.length ≤ 64) {nodes : List Master}
    (others : ∀ node ∈ nodes, node.myRingID ≠ targetRID.toNat) :
    relay nodes (ringDatagram targetRID sourceRID userMessage) =
      some (ringDatagram targetRID sourceRID userMessage) := by
  induction nodes with
  | nil => rfl
  | cons node nodes ih =>
      have other : ¬targetRID.toNat = node.myRingID := fun same => others node (by simp) same.symm
      rw [relay, recvHandleMessage_ringDatagram _ _ node short, if_neg other]
      exact ih fun later member => others later (by simp [member])

end Short

section Long

variable (targetRID sourceRID : Byte) {userMessage : List Byte}

theorem take_ringDatagram_of_long (long : 64 < userMessage.length) :
    (ringDatagram targetRID sourceRID userMessage).take BUFF_SIZE =
      datagramBody targetRID sourceRID (userMessage.take 65) := by
  rw [ringDatagram, List.take_append_of_le_length (by
    rw [datagramBody_length, BUFF_SIZE]
    omega)]
  rfl

/-- The recipient of a long message misses its end if the bytes that the buffer
keeps add up to a multiple of 255, and finds an error otherwise. -/
theorem recvHandleMessage_of_long {node : Master} (addressed : node.myRingID = targetRID.toNat)
    (long : 64 < userMessage.length) :
    node.recvHandleMessage (ringDatagram targetRID sourceRID userMessage) =
      .ok (if (340 + targetRID.toNat + sourceRID.toNat + byteTotal (userMessage.take 65)) % 255 = 0
        then .printed (userMessage.take 64) else .errorFound) := by
  have kept := take_ringDatagram_of_long targetRID sourceRID long
  have verified := verifyChecksum_iff_total
    ((ringDatagram targetRID sourceRID userMessage).take BUFF_SIZE)
  rw [kept, byteTotal_datagramBody] at verified
  split
  · rename_i multiple
    rw [node.recvHandleMessage_of_verified (by
      rw [kept]
      exact verified.mpr ⟨by omega, multiple⟩) (ringDatagram_target targetRID sourceRID _), kept,
      if_pos addressed.symm, recvPrintMessage_datagramBody, List.length_take, List.take_take]
    rw [show min (min 65 userMessage.length - 1) 65 = 64 by omega]
  · rename_i other
    apply recvHandleMessage_of_corrupted
    rw [kept, verified]
    exact fun both => other both.2

end Long

end Master

/-- A datagram with a message of at most 64 bytes is printed in full by its
recipient and forwarded unchanged by every other node. -/
theorem ring_datagram_round_trip (sender : Master) (targetRID : Byte) {userMessage : List Byte}
    (short : userMessage.length ≤ 64) :
    (sender.myRingID ≤ 255 →
      ∃ datagram, sender.formDatagram targetRID.toNat userMessage = .ok datagram) ∧
    ∀ datagram, sender.formDatagram targetRID.toNat userMessage = .ok datagram →
      Master.verifyChecksum (datagram.take BUFF_SIZE) ∧
      (∀ node : Master, node.myRingID = targetRID.toNat →
        node.recvHandleMessage datagram = .ok (.printed userMessage)) ∧
      (∀ node : Master, node.myRingID ≠ targetRID.toNat →
        node.recvHandleMessage datagram = .ok (.forwarded datagram node.target)) ∧
      ∀ nodes : List Master, (∀ node ∈ nodes, node.myRingID ≠ targetRID.toNat) →
        Master.relay nodes datagram = some datagram ∧
        ∀ recipient : Master, recipient.myRingID = targetRID.toNat →
          (Master.relay nodes datagram).map recipient.recvHandleMessage =
            some (.ok (.printed userMessage)) := by
  refine ⟨fun fits => ⟨_, Master.formDatagram_eq fits targetRID userMessage⟩, ?_⟩
  intro datagram formed
  have fits := Master.fits_of_formDatagram formed
  rw [Master.formDatagram_eq fits targetRID userMessage, Except.ok.injEq] at formed
  subst formed
  have prints (recipient : Master) (same : recipient.myRingID = targetRID.toNat) :
      recipient.recvHandleMessage (Master.ringDatagram targetRID
        (BitVec.ofNat 8 sender.myRingID) userMessage) = .ok (.printed userMessage) := by
    rw [Master.recvHandleMessage_ringDatagram _ _ recipient short, if_pos same.symm]
  refine ⟨?_, prints, fun node other => ?_, fun nodes others => ?_⟩
  · rw [Master.take_ringDatagram_of_short _ _ short]
    exact Master.verifyChecksum_ringDatagram _ _ _
  · rw [Master.recvHandleMessage_ringDatagram _ _ node short, if_neg fun same => other same.symm]
  · have arrives := Master.relay_ringDatagram targetRID (BitVec.ofNat 8 sender.myRingID)
      short others
    refine ⟨arrives, fun recipient same => ?_⟩
    rw [arrives, Option.map_some, prints recipient same]

theorem ring_datagram_round_trip_greeting :
    ((Master.start #v[10, 0, 0, 1]).myRingID ≤ 255 →
      ∃ datagram, (Master.start #v[10, 0, 0, 1]).formDatagram (3 : Byte).toNat [72, 105] =
        .ok datagram) ∧
    ∀ datagram, (Master.start #v[10, 0, 0, 1]).formDatagram (3 : Byte).toNat [72, 105] =
        .ok datagram →
      Master.verifyChecksum (datagram.take BUFF_SIZE) ∧
      (∀ node : Master, node.myRingID = (3 : Byte).toNat →
        node.recvHandleMessage datagram = .ok (.printed [72, 105])) ∧
      (∀ node : Master, node.myRingID ≠ (3 : Byte).toNat →
        node.recvHandleMessage datagram = .ok (.forwarded datagram node.target)) ∧
      ∀ nodes : List Master, (∀ node ∈ nodes, node.myRingID ≠ (3 : Byte).toNat) →
        Master.relay nodes datagram = some datagram ∧
        ∀ recipient : Master, recipient.myRingID = (3 : Byte).toNat →
          (Master.relay nodes datagram).map recipient.recvHandleMessage =
            some (.ok (.printed [72, 105])) :=
  ring_datagram_round_trip _ 3 (by decide)

/-- The recipient of a message prints it in full or reports an error, unless the
message has more than 64 bytes and its first 65, together with the header, add
up to a multiple of 255. -/
theorem delivered_unaltered_iff {sender node : Master} {targetRID : Byte}
    (fits : sender.myRingID ≤ 255) (addressed : node.myRingID = targetRID.toNat)
    (userMessage : List Byte) :
    ∃ datagram, sender.formDatagram targetRID.toNat userMessage = .ok datagram ∧
      (node.recvHandleMessage datagram = .ok (.printed userMessage) ∨
          node.recvHandleMessage datagram = .ok .errorFound ↔
        userMessage.length ≤ 64 ∨
          (340 + targetRID.toNat + sender.myRingID + byteTotal (userMessage.take 65)) % 255 ≠
            0) := by
  refine ⟨_, Master.formDatagram_eq fits targetRID userMessage, ?_⟩
  by_cases short : userMessage.length ≤ 64
  · rw [Master.recvHandleMessage_ringDatagram _ _ node short, if_pos addressed.symm]
    exact iff_of_true (Or.inl rfl) (Or.inl short)
  · rw [Master.recvHandleMessage_of_long _ _ addressed (by omega), BitVec.toNat_ofNat,
      Nat.mod_eq_of_lt (show sender.myRingID < 2 ^ 8 by omega)]
    split
    · rename_i multiple
      refine iff_of_false ?_ (by omega)
      rintro (same | impossible)
      · -- The last byte that the buffer keeps is taken for the checksum.
        rw [Except.ok.injEq, Handled.printed.injEq] at same
        have lengths := congrArg List.length same
        rw [List.length_take] at lengths
        omega
      · cases impossible
    · rename_i other
      exact iff_of_true (Or.inr rfl) (Or.inr other)

theorem delivered_unaltered_iff_greeting :
    ∃ datagram, (Master.start #v[10, 0, 0, 1]).formDatagram (0 : Byte).toNat [72, 105] =
        .ok datagram ∧
      ((Master.start #v[10, 0, 0, 1]).recvHandleMessage datagram = .ok (.printed [72, 105]) ∨
          (Master.start #v[10, 0, 0, 1]).recvHandleMessage datagram = .ok .errorFound ↔
        ([72, 105] : List Byte).length ≤ 64 ∨
          (340 + (0 : Byte).toNat + (Master.start #v[10, 0, 0, 1]).myRingID +
            byteTotal (([72, 105] : List Byte).take 65)) % 255 ≠ 0) :=
  delivered_unaltered_iff (by decide) (by decide) _

/-- A message of 64 letters a and an R is delivered without the R. -/
theorem long_message_loses_its_end :
    ¬∀ (sender node : Master) (targetRID : Byte) (userMessage datagram : List Byte),
      sender.myRingID ≤ 255 → node.myRingID = targetRID.toNat →
      sender.formDatagram targetRID.toNat userMessage = .ok datagram →
      node.recvHandleMessage datagram = .ok (.printed userMessage) ∨
        node.recvHandleMessage datagram = .ok .errorFound := by
  intro claim
  have delivered := claim (Master.start #v[10, 0, 0, 1]) (Master.start #v[10, 0, 0, 1]) 0
    (List.replicate 64 97 ++ [82]) _ (by decide) rfl (Master.formDatagram_eq (by decide) 0 _)
  rw [Master.recvHandleMessage_of_long 0 _ rfl (by decide), if_pos (by decide)] at delivered
  exact absurd delivered (by decide)

end OpServer
