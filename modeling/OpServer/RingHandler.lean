import OpServer.RingIdentities

/-!
# How the master forms and handles datagrams

`form_datagram` and the receiving methods of `master.py`.  A datagram carries
the master's ID, the magic value, a byte 255, the ring IDs of its target and of
its sender, the message, and a checksum byte.
-/

namespace OpServer

open Python

/-- What an iteration of `recv_handle_message` does with a datagram: it prints a
message, sends data on to an address and a port, or reports an error. -/
inductive Handled
  | printed (message : List Byte)
  | forwarded (data : List Byte) (target : IPv4 × Nat)
  | errorFound
  deriving DecidableEq

namespace Master

def formDatagram (master : Master) (targetRID : Int) (userMessage : List Byte) :
    Except PythonError (List Byte) := do
  let formedDatagram ← pack .B MASTER_ID
  let formedDatagram := formedDatagram ++ (← pack .H 0x1234)
  let formedDatagram := formedDatagram ++ (← pack .B 255)
  let formedDatagram := formedDatagram ++ (← pack .B targetRID)
  let formedDatagram := formedDatagram ++ (← pack .B master.myRingID)
  let formedDatagram ← userMessage.foldlM (fun formedDatagram littleByte => do
    return formedDatagram ++ (← pack .B littleByte.toNat)) formedDatagram
  return formedDatagram ++ (← pack .B (calculateChecksum formedDatagram))

def recvForwardMessage (master : Master) (data : List Byte) : Handled :=
  .forwarded data master.target

def recvPrintMessage (data : List Byte) : Handled :=
  .printed (slice data 6 (data.length - 1))

/-- An iteration of `recv_handle_message` for a datagram that arrives.
`recvfrom` keeps the first `BUFF_SIZE` bytes of it. -/
def recvHandleMessage (master : Master) (datagram : List Byte) : Except PythonError Handled := do
  let data := datagram.take BUFF_SIZE
  if verifyChecksum data then
    if ← master.iAmRecipient data then
      return recvPrintMessage data
    else
      return master.recvForwardMessage data
  else
    return .errorFound

/-! ## The datagram of a message -/

/-- The bytes of a datagram before its checksum. -/
def datagramBody (targetRID sourceRID : Byte) (userMessage : List Byte) : List Byte :=
  [15, 0x12, 0x34, 255, targetRID, sourceRID] ++ userMessage

/-- The datagram of a message. -/
def ringDatagram (targetRID sourceRID : Byte) (userMessage : List Byte) : List Byte :=
  datagramBody targetRID sourceRID userMessage ++
    [RingInfo.checksum (datagramBody targetRID sourceRID userMessage)]

@[simp]
theorem datagramBody_length (targetRID sourceRID : Byte) (userMessage : List Byte) :
    (datagramBody targetRID sourceRID userMessage).length = userMessage.length + 6 := by
  simp [datagramBody]

@[simp]
theorem ringDatagram_length (targetRID sourceRID : Byte) (userMessage : List Byte) :
    (ringDatagram targetRID sourceRID userMessage).length = userMessage.length + 7 := by
  rw [ringDatagram, List.length_append, datagramBody_length, List.length_singleton]

theorem ringDatagram_target (targetRID sourceRID : Byte) (userMessage : List Byte) :
    (ringDatagram targetRID sourceRID userMessage)[4]? = some targetRID :=
  rfl

theorem byteTotal_datagramBody (targetRID sourceRID : Byte) (userMessage : List Byte) :
    byteTotal (datagramBody targetRID sourceRID userMessage) =
      340 + targetRID.toNat + sourceRID.toNat + byteTotal userMessage := by
  have header : byteTotal [15, 0x12, 0x34, 255] = 340 := rfl
  have split : datagramBody targetRID sourceRID userMessage =
      [15, 0x12, 0x34, 255] ++ (targetRID :: sourceRID :: userMessage) := rfl
  rw [split, byteTotal_append, header, byteTotal_cons, byteTotal_cons]
  omega

theorem foldlM_pack_B (userMessage formedDatagram : List Byte) :
    userMessage.foldlM (fun formedDatagram littleByte =>
      (do return formedDatagram ++ (← pack .B littleByte.toNat) :
        Except PythonError (List Byte))) formedDatagram =
      .ok (formedDatagram ++ userMessage) := by
  induction userMessage generalizing formedDatagram with
  | nil => simp [pure, Except.pure]
  | cons littleByte userMessage ih =>
      rw [List.foldlM_cons, pack_B_toNat]
      change userMessage.foldlM _ (formedDatagram ++ [littleByte]) = _
      rw [ih, List.append_assoc]
      rfl

theorem formDatagram_eq {master : Master} (fits : master.myRingID ≤ 255) (targetRID : Byte)
    (userMessage : List Byte) :
    master.formDatagram targetRID.toNat userMessage =
      .ok (ringDatagram targetRID (BitVec.ofNat 8 master.myRingID) userMessage) := by
  have masterID : pack .B MASTER_ID = .ok [15] := pack_B_toNat 15
  have magic : pack .H 0x1234 = .ok [0x12, 0x34] := by decide
  have full : pack .B 255 = .ok [255] := pack_B_toNat 255
  have source := pack_B_toNat (BitVec.ofNat 8 master.myRingID)
  rw [BitVec.toNat_ofNat, Nat.mod_eq_of_lt (by omega)] at source
  have checksum (bytes : List Byte) :
      pack .B (calculateChecksum bytes) = .ok [RingInfo.checksum bytes] := by
    rw [← checksum_toNat]
    exact pack_B_toNat _
  simp only [formDatagram, masterID, magic, full, source, pack_B_toNat, bind, Except.bind]
  have folded := foldlM_pack_B userMessage
    ([15] ++ [0x12, 0x34] ++ [255] ++ [targetRID] ++ [BitVec.ofNat 8 master.myRingID])
  simp only [pack_B_toNat, bind, Except.bind] at folded
  rw [folded]
  simp only [checksum]
  rfl

theorem fits_of_formDatagram {master : Master} {targetRID : Int} {userMessage datagram : List Byte}
    (formed : master.formDatagram targetRID userMessage = .ok datagram) :
    master.myRingID ≤ 255 := by
  unfold formDatagram at formed
  obtain ⟨_, -, formed⟩ := bind_eq_ok_iff.mp formed
  obtain ⟨_, -, formed⟩ := bind_eq_ok_iff.mp formed
  obtain ⟨_, -, formed⟩ := bind_eq_ok_iff.mp formed
  obtain ⟨_, -, formed⟩ := bind_eq_ok_iff.mp formed
  obtain ⟨_, packed, -⟩ := bind_eq_ok_iff.mp formed
  have fits : Format.B.Fits master.myRingID := (pack_eq_ok_iff.mp packed).1
  simp only [Format.Fits, Format.B, Bool.false_eq_true, if_false] at fits
  omega

theorem verifyChecksum_ringDatagram (targetRID sourceRID : Byte) (userMessage : List Byte) :
    verifyChecksum (ringDatagram targetRID sourceRID userMessage) :=
  verifyChecksum_append _

/-! ## The branches of the handler -/

variable (master : Master) {datagram : List Byte}

theorem recvHandleMessage_of_corrupted
    (corrupted : ¬verifyChecksum (datagram.take BUFF_SIZE) = true) :
    master.recvHandleMessage datagram = .ok .errorFound := by
  rw [recvHandleMessage, if_neg corrupted]
  rfl

/-- Byte 4 of a datagram that passes the check decides what becomes of it. -/
theorem recvHandleMessage_of_verified (verified : verifyChecksum (datagram.take BUFF_SIZE))
    {destination : Byte} (addressed : datagram[4]? = some destination) :
    master.recvHandleMessage datagram =
      .ok (if destination.toNat = master.myRingID then
          recvPrintMessage (datagram.take BUFF_SIZE)
        else
          master.recvForwardMessage (datagram.take BUFF_SIZE)) := by
  have kept : (datagram.take BUFF_SIZE)[4]? = some destination := by
    rw [List.getElem?_take, if_pos (by decide), addressed]
  simp only [recvHandleMessage, if_pos verified, master.iAmRecipient_eq kept, bind, Except.bind,
    beq_iff_eq]
  split <;> rfl

/-- A datagram that passes the check but has no byte 4 ends the loop. -/
theorem recvHandleMessage_of_short (verified : verifyChecksum (datagram.take BUFF_SIZE))
    (short : (datagram.take BUFF_SIZE).length ≤ 4) :
    master.recvHandleMessage datagram = .error .indexError := by
  have missing : item (datagram.take BUFF_SIZE) 4 = .error .indexError := by
    rw [item, List.getElem?_eq_none short]
  simp only [recvHandleMessage, if_pos verified, iAmRecipient, missing, bind, Except.bind]

theorem slice_message_of_short {data : List Byte} (short : data.length ≤ 6) :
    slice data 6 (data.length - 1) = [] := by
  apply List.eq_nil_of_length_eq_zero
  rw [slice_length]
  omega

/-- What the handler does with a datagram, by the total of the bytes that
`recvfrom` keeps and by byte 4. -/
theorem recvHandleMessage_complete (datagram : List Byte) :
    let received := datagram.take BUFF_SIZE
    let verified := 0 < byteTotal received ∧ byteTotal received % 255 = 0
    (master.recvHandleMessage datagram = .ok .errorFound ↔ ¬verified) ∧
    ((∃ raised, master.recvHandleMessage datagram = .error raised) ↔
      verified ∧ received.length ≤ 4) ∧
    (∀ message, master.recvHandleMessage datagram = .ok (.printed message) ↔
      verified ∧ (∃ destination, received[4]? = some destination ∧
        destination.toNat = master.myRingID) ∧
        message = slice received 6 (received.length - 1)) ∧
    (∀ data target, master.recvHandleMessage datagram = .ok (.forwarded data target) ↔
      verified ∧ (∃ destination, received[4]? = some destination ∧
        destination.toNat ≠ master.myRingID) ∧
        data = received ∧
        target = (master.nextSlaveIP, 10010 + 15 * 5 + master.nextSlaveRID)) ∧
    (received.length ≤ 6 → slice received 6 (received.length - 1) = []) := by
  intro received verified
  have accepted : verifyChecksum received ↔ verified := verifyChecksum_iff_total received
  have nothing : received.length ≤ 6 → slice received 6 (received.length - 1) = [] :=
    slice_message_of_short
  by_cases passes : verified
  · by_cases short : received.length ≤ 4
    · have missing : received[4]? = none := List.getElem?_eq_none short
      rw [master.recvHandleMessage_of_short (accepted.mpr passes) short]
      simpa [passes, short, missing] using nothing
    · obtain ⟨destination, kept⟩ : ∃ destination, received[4]? = some destination :=
        ⟨_, List.getElem?_eq_getElem (by omega)⟩
      have addressed : datagram[4]? = some destination := by
        rwa [List.getElem?_take, if_pos (by decide)] at kept
      have handled := master.recvHandleMessage_of_verified (accepted.mpr passes) addressed
      by_cases own : destination.toNat = master.myRingID
      · have prints : master.recvHandleMessage datagram =
            .ok (.printed (slice received 6 (received.length - 1))) := by
          rw [handled, if_pos own]
          rfl
        rw [prints]
        refine ⟨?_, ?_, fun message => ?_, fun data target => ?_, nothing⟩
        · simp [passes]
        · simp [short]
        · simpa [passes, kept, own] using eq_comm
        · simp [kept, own]
      · have forwards : master.recvHandleMessage datagram =
            .ok (.forwarded received
              (master.nextSlaveIP, 10010 + 15 * 5 + master.nextSlaveRID)) := by
          rw [handled, if_neg own]
          rfl
        rw [forwards]
        refine ⟨?_, ?_, fun message => ?_, fun data target => ?_, nothing⟩
        · simp [passes]
        · simp [short]
        · simp [kept, own]
        · simpa [passes, kept, own, @eq_comm _ data] using fun _ => eq_comm
  · rw [master.recvHandleMessage_of_corrupted (mt accepted.mp passes)]
    simpa [passes] using nothing

end Master

end OpServer
