import OpServer.PythonRuntime
import OpServer.OnesComplementSum
import OpServer.SteppedRuns

/-!
# The master of the ring

`Master` of `master.py`.  Its accept thread hands a ring ID and the address of
the last slave to every slave that joins; its other threads send datagrams to
that last slave.  The fields that no method assigns are constants here, except
the ring ID, in which the receiving methods are generic.
-/

namespace OpServer

open BigEndian Python

def MASTER_ID : Nat := 15

def BUFF_SIZE : Nat := 71

def MAGIC_VALUE : Int := 0x1234

structure Master where
  myRingID : Nat
  nextSlaveRID : Nat
  nextSlaveIP : IPv4
  deriving DecidableEq

namespace Master

/-- The state in which `server` starts the threads, on a host with the given
address. -/
def start (lanIP : IPv4) : Master where
  myRingID := 0
  nextSlaveRID := 0
  nextSlaveIP := lanIP

/-! ## Ports -/

def calculateMyPort (master : Master) : Nat :=
  10010 + MASTER_ID * 5 + master.myRingID

def calculateTargetPort (master : Master) : Nat :=
  10010 + MASTER_ID * 5 + master.nextSlaveRID

/-! ## Joins -/

def requestIsValid (extractedMagic : Int) : Bool :=
  extractedMagic == MAGIC_VALUE

def unpackRequest (recData : List Byte) : Except PythonError (Int × Int) := do
  let extractedId ← unpack .B (← item recData 0)
  let extractedMagic ← unpack .H (slice recData 1 3)
  return (extractedId, extractedMagic)

def packResponse (master : Master) : Except PythonError (List Byte) := do
  let retBytes ← pack .B MASTER_ID
  let retBytes := retBytes ++ (← pack .H 0x1234)
  let retBytes := retBytes ++ (← pack .B master.nextSlaveRID)
  return retBytes ++ inetAton master.nextSlaveIP

end Master

/-- A connection to the accept thread: the bytes that wait on it, the address
of its peer, and whether `sendall` will get through. -/
structure Connection where
  request : List Byte
  peer : IPv4
  delivers : Bool
  deriving DecidableEq

namespace Master

/-- One iteration of `accept_joins`: the state it leaves, and the response it
sends, if any, or the exception it ends with. -/
def acceptJoin (master : Master) (connection : Connection) :
    Master × Except PythonError (Option (List Byte)) :=
  let data := connection.request.take BUFF_SIZE
  match unpackRequest data with
  | .error raised => (master, .error raised)
  | .ok (_, extractedMagic) =>
      if requestIsValid extractedMagic then
        match master.packResponse with
        | .error raised => (master, .error raised)
        | .ok response =>
            let master := { master with nextSlaveRID := master.nextSlaveRID + 1 }
            let master := { master with nextSlaveIP := connection.peer }
            if connection.delivers then (master, .ok (some response))
            else (master, .error .socketError)
      else
        (master, .ok none)

/-- The loop of `accept_joins` goes on as long as no iteration raises. -/
def acceptJoinsStep (master : Master) (connection : Connection) :
    Option (Master × Option (List Byte)) :=
  match master.acceptJoin connection with
  | (next, .ok response) => some (next, response)
  | (_, .error _) => none

end Master

/-- Bytes 1 and 2 of a join request carry the magic value. -/
def Connection.IsValid (connection : Connection) : Prop :=
  slice connection.request 1 3 = [0x12, 0x34]

instance (connection : Connection) : Decidable connection.IsValid :=
  inferInstanceAs (Decidable (_ = _))

theorem Connection.IsValid.enough {connection : Connection} (valid : connection.IsValid) :
    3 ≤ connection.request.length := by
  have length := congrArg List.length valid
  rw [slice_length] at length
  change min 3 connection.request.length - 1 = 2 at length
  omega

namespace Master

/-- The state after a join from the given address. -/
def joined (master : Master) (peer : IPv4) : Master :=
  { master with nextSlaveRID := master.nextSlaveRID + 1, nextSlaveIP := peer }

@[simp]
theorem joined_myRingID (master : Master) (peer : IPv4) :
    (master.joined peer).myRingID = master.myRingID :=
  rfl

@[simp]
theorem joined_nextSlaveRID (master : Master) (peer : IPv4) :
    (master.joined peer).nextSlaveRID = master.nextSlaveRID + 1 :=
  rfl

@[simp]
theorem joined_nextSlaveIP (master : Master) (peer : IPv4) :
    (master.joined peer).nextSlaveIP = peer :=
  rfl

/-- The eight bytes of a join response. -/
def joinResponse (nextSlaveRID : Nat) (nextSlaveIP : IPv4) : List Byte :=
  [15, 0x12, 0x34, BitVec.ofNat 8 nextSlaveRID] ++ nextSlaveIP.toList

@[simp]
theorem length_joinResponse (nextSlaveRID : Nat) (nextSlaveIP : IPv4) :
    (joinResponse nextSlaveRID nextSlaveIP).length = 8 := by
  simp [joinResponse]

theorem packResponse_eq {master : Master} (room : master.nextSlaveRID ≤ 255) :
    master.packResponse = .ok (joinResponse master.nextSlaveRID master.nextSlaveIP) := by
  have masterID : pack .B MASTER_ID = .ok [15] := pack_B_toNat 15
  have magic : pack .H 0x1234 = .ok [0x12, 0x34] := by decide
  have ringID := pack_B_toNat (BitVec.ofNat 8 master.nextSlaveRID)
  rw [BitVec.toNat_ofNat, Nat.mod_eq_of_lt (by omega)] at ringID
  simp only [packResponse, masterID, magic, ringID, bind, Except.bind]
  rfl

theorem unpack_H_magic (high low : Byte) :
    ∃ extractedMagic, unpack .H [high, low] = .ok extractedMagic ∧
      (requestIsValid extractedMagic ↔ [high, low] = [0x12, 0x34]) := by
  refine ⟨_, rfl, ?_⟩
  have highLt := high.isLt
  have lowLt := low.isLt
  have magicBytes : (0x12 : Byte).toNat = 18 ∧ (0x34 : Byte).toNat = 52 := ⟨rfl, rfl⟩
  simp only [requestIsValid, MAGIC_VALUE, beq_iff_eq, value, List.cons.injEq, and_true,
    ← BitVec.toNat_inj, Format.H, List.length_cons, List.length_nil, magicBytes,
    Bool.false_eq_true, if_false]
  omega

theorem unpackRequest_eq {recData : List Byte} (enough : 3 ≤ recData.length) :
    ∃ extractedId extractedMagic, unpackRequest recData = .ok (extractedId, extractedMagic) ∧
      (requestIsValid extractedMagic ↔ slice recData 1 3 = [0x12, 0x34]) := by
  match recData, enough with
  | first :: second :: third :: rest, _ =>
      obtain ⟨extractedMagic, unpacked, valid⟩ := unpack_H_magic second third
      refine ⟨first.toNat, extractedMagic, ?_, valid⟩
      have fields : slice (first :: second :: third :: rest) 1 3 = [second, third] := rfl
      simp only [unpackRequest, item, fields, unpacked, unpack_B, List.getElem?_cons_zero,
        bind, Except.bind]
      rfl

theorem unpackRequest_received {connection : Connection}
    (enough : 3 ≤ connection.request.length) :
    ∃ extractedId extractedMagic,
      unpackRequest (connection.request.take BUFF_SIZE) = .ok (extractedId, extractedMagic) ∧
        (requestIsValid extractedMagic ↔ connection.IsValid) := by
  have received : slice (connection.request.take BUFF_SIZE) 1 3 = slice connection.request 1 3 := by
    rw [slice, slice, List.take_take]
    rfl
  have enoughReceived : 3 ≤ (connection.request.take BUFF_SIZE).length := by
    rw [List.length_take, BUFF_SIZE]
    omega
  obtain ⟨extractedId, extractedMagic, unpacked, valid⟩ := unpackRequest_eq enoughReceived
  exact ⟨extractedId, extractedMagic, unpacked, by rw [valid, received]; rfl⟩

theorem unpackRequest_of_short {recData : List Byte} (short : recData.length < 3) :
    ∃ raised, unpackRequest recData = .error raised := by
  cases unpacked : unpackRequest recData with
  | error raised => exact ⟨raised, rfl⟩
  | ok extracted =>
      obtain ⟨_, -, unpacked⟩ := bind_eq_ok_iff.mp unpacked
      obtain ⟨_, -, unpacked⟩ := bind_eq_ok_iff.mp unpacked
      obtain ⟨_, magic, -⟩ := bind_eq_ok_iff.mp unpacked
      have length := length_of_unpack magic
      rw [slice_length] at length
      change min 3 recData.length - 1 = 2 at length
      omega

theorem packResponse_of_full {master : Master} (full : 255 < master.nextSlaveRID) :
    master.packResponse = .error .structError := by
  have masterID : pack .B MASTER_ID = .ok [15] := pack_B_toNat 15
  have magic : pack .H 0x1234 = .ok [0x12, 0x34] := by decide
  have outside : ¬Format.B.Fits master.nextSlaveRID := by
    simp only [Format.Fits, Format.B, Bool.false_eq_true, if_false]
    omega
  have ringID : pack .B master.nextSlaveRID = .error .structError := if_neg outside
  simp only [packResponse, masterID, magic, ringID, bind, Except.bind]

/-! ## The branches of an iteration -/

section Branches

variable (master : Master) {connection : Connection}

theorem acceptJoin_of_short (short : connection.request.length < 3) :
    ∃ raised, master.acceptJoin connection = (master, .error raised) := by
  have received : (connection.request.take BUFF_SIZE).length < 3 := by
    rw [List.length_take]
    omega
  obtain ⟨raised, unread⟩ := unpackRequest_of_short received
  exact ⟨raised, by simp only [acceptJoin, unread]⟩

theorem acceptJoin_of_invalid (enough : 3 ≤ connection.request.length)
    (invalid : ¬connection.IsValid) : master.acceptJoin connection = (master, .ok none) := by
  obtain ⟨extractedId, extractedMagic, unpacked, validIff⟩ := unpackRequest_received enough
  simp only [acceptJoin, unpacked, if_neg (mt validIff.mp invalid)]

theorem acceptJoin_of_full (valid : connection.IsValid) (full : 255 < master.nextSlaveRID) :
    master.acceptJoin connection = (master, .error .structError) := by
  obtain ⟨extractedId, extractedMagic, unpacked, validIff⟩ := unpackRequest_received valid.enough
  simp only [acceptJoin, unpacked, if_pos (validIff.mpr valid), packResponse_of_full full]

theorem acceptJoin_of_room (valid : connection.IsValid) (room : master.nextSlaveRID ≤ 255) :
    master.acceptJoin connection =
      (master.joined connection.peer,
        if connection.delivers then
          .ok (some (joinResponse master.nextSlaveRID master.nextSlaveIP))
        else
          .error .socketError) := by
  obtain ⟨extractedId, extractedMagic, unpacked, validIff⟩ := unpackRequest_received valid.enough
  simp only [acceptJoin, unpacked, if_pos (validIff.mpr valid), packResponse_eq room]
  split <;> rfl

/-- All that an iteration can do. -/
theorem acceptJoin_cases (connection : Connection) :
    (∃ raised, master.acceptJoin connection = (master, .error raised) ∧
      (connection.request.length < 3 ∨ connection.IsValid ∧ 255 < master.nextSlaveRID)) ∨
    (master.acceptJoin connection = (master, .ok none) ∧ 3 ≤ connection.request.length ∧
      ¬connection.IsValid) ∨
    (master.acceptJoin connection =
        (master.joined connection.peer,
          if connection.delivers then
            .ok (some (joinResponse master.nextSlaveRID master.nextSlaveIP))
          else
            .error .socketError) ∧
      connection.IsValid ∧ master.nextSlaveRID ≤ 255) := by
  by_cases enough : 3 ≤ connection.request.length
  · by_cases valid : connection.IsValid
    · by_cases room : master.nextSlaveRID ≤ 255
      · exact .inr (.inr ⟨master.acceptJoin_of_room valid room, valid, room⟩)
      · have full : 255 < master.nextSlaveRID := Nat.lt_of_not_le room
        exact .inl ⟨_, master.acceptJoin_of_full valid full, .inr ⟨valid, full⟩⟩
    · exact .inr (.inl ⟨master.acceptJoin_of_invalid enough valid, enough, valid⟩)
  · have short : connection.request.length < 3 := Nat.lt_of_not_le enough
    obtain ⟨raised, raises⟩ := master.acceptJoin_of_short short
    exact .inl ⟨raised, raises, .inl short⟩

theorem acceptJoin_fst_eq_ite (connection : Connection) :
    (master.acceptJoin connection).1 =
      if connection.IsValid ∧ master.nextSlaveRID ≤ 255 then master.joined connection.peer
      else master := by
  rcases master.acceptJoin_cases connection with
    ⟨_, raises, short | ⟨-, full⟩⟩ | ⟨rejects, -, invalid⟩ | ⟨joins, valid, room⟩
  · have incomplete : ¬connection.IsValid := fun valid => Nat.not_lt_of_le valid.enough short
    rw [raises, if_neg fun both => incomplete both.1]
  · rw [raises, if_neg fun both => Nat.not_le_of_lt full both.2]
  · rw [rejects, if_neg fun both => invalid both.1]
  · have both : connection.IsValid ∧ master.nextSlaveRID ≤ 255 := ⟨valid, room⟩
    rw [joins, if_pos both]

/-- Whatever arrives on a connection, and whatever becomes of the response, the
state stays as it is or is the one after the join. -/
theorem acceptJoin_fst (connection : Connection) :
    (master.acceptJoin connection).1 = master ∨
      (master.acceptJoin connection).1 = master.joined connection.peer := by
  rw [acceptJoin_fst_eq_ite]
  split
  · exact .inr rfl
  · exact .inl rfl

end Branches

theorem acceptJoinsStep_of_valid {master : Master} {connection : Connection}
    (valid : connection.IsValid) (room : master.nextSlaveRID ≤ 255)
    (delivers : connection.delivers = true) :
    master.acceptJoinsStep connection =
      some (master.joined connection.peer,
        some (joinResponse master.nextSlaveRID master.nextSlaveIP)) := by
  rw [acceptJoinsStep, master.acceptJoin_of_room valid room, if_pos delivers]

theorem acceptJoinsStep_of_invalid (master : Master) {connection : Connection}
    (enough : 3 ≤ connection.request.length) (invalid : ¬connection.IsValid) :
    master.acceptJoinsStep connection = some (master, none) := by
  rw [acceptJoinsStep, master.acceptJoin_of_invalid enough invalid]

end Master

end OpServer
