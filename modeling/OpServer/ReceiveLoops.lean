import OpServer.BoundedCopy
import OpServer.CalcEvaluator
import OpServer.SteppedRuns

/-!
# The receive loops of the calculator programs

Every program keeps `buf` and `recBytes` outside its loop.  One iteration
receives up to 99 bytes into `buf` and copies as many bytes to `recBytes` as
the first byte of `buf` says, whatever was received.  The servers evaluate
`recBytes` and send seven bytes back; the clients decode it.  An iteration
whose copy loop leaves an array is undefined.
-/

namespace OpServer

open Buffer

/-- `buf` and `recBytes`, which survive from one iteration to the next.  The
servers have a `MAXRECLEN` of 8, the clients one of 7. -/
structure ReceiveMemory (maxRecLen : Nat) where
  buf : Vector Byte 100
  recBytes : Vector Byte maxRecLen
  deriving DecidableEq

/-- One `recv` or `recvfrom` into `buf` and the copy loop behind it. -/
def receive {maxRecLen : Nat} (memory : ReceiveMemory maxRecLen) (data : List Byte) :
    Option (ReceiveMemory maxRecLen) :=
  let buf := overwrite memory.buf (data.take 99)
  let messageLength := buf[0].toNat
  (copyLoop buf messageLength 0 memory.recBytes).map fun recBytes =>
    { buf := buf, recBytes := recBytes }

/-- What reaches a server's loop: received bytes, and the value an unassigned
`theInt` holds in this iteration. -/
structure Arrival where
  bytes : List Byte
  unassigned : BitVec 32
  deriving DecidableEq

/-- One iteration of the loop of `servRun` in `ServerUDP.c`.  It terminates the
received bytes with a NUL before it prints them. -/
def servRunStep (memory : ReceiveMemory 8) (arrival : Arrival) :
    Option (ReceiveMemory 8 × Vector Byte 7) :=
  (receive memory arrival.bytes).map fun received =>
    let numbytes := min arrival.bytes.length 99
    ({ received with buf := received.buf.set numbytes 0 },
      replyBytes arrival.unassigned received.recBytes)

/-- One iteration of the per-connection loop of `TCP-server.c`. -/
def connectionStep (memory : ReceiveMemory 8) (arrival : Arrival) :
    Option (ReceiveMemory 8 × Vector Byte 7) :=
  (receive memory arrival.bytes).map fun received =>
    (received, replyBytes arrival.unassigned received.recBytes)

/-- The receiving half of an iteration of `clientRun` in `ClientUDP.c`, and of
the request loop in `TCP-client.c`. -/
def clientReceive (memory : ReceiveMemory 7) (data : List Byte) :
    Option (ReceiveMemory 7 × Response) :=
  (receive memory data).map fun received =>
    (received, remakeResponse received.recBytes)

variable {maxRecLen : Nat}

/-- Received bytes that declare no more than fits the receiving array. -/
def DeclaresAtMost (limit : Nat) : List Byte → Prop
  | [] => False
  | first :: _ => first.toNat ≤ limit

instance (limit : Nat) : DecidablePred (DeclaresAtMost limit)
  | [] => inferInstanceAs (Decidable False)
  | first :: _ => inferInstanceAs (Decidable (first.toNat ≤ limit))

theorem declaresAtMost_iff {limit : Nat} {data : List Byte} :
    DeclaresAtMost limit data ↔ data ≠ [] ∧ (data.headD 0).toNat ≤ limit := by
  cases data with
  | nil => simp [DeclaresAtMost]
  | cons first rest => simp [DeclaresAtMost]

/-- How many bytes of the received data the copy loop moves. -/
def freshCount (data : List Byte) : Nat :=
  min (data.headD 0).toNat (min data.length 99)

theorem receive_of_declares (room : maxRecLen ≤ 99) (memory : ReceiveMemory maxRecLen)
    {data : List Byte} (declares : DeclaresAtMost maxRecLen data) :
    receive memory data = some
      { buf := overwrite memory.buf (data.take 99)
        recBytes := copied (overwrite memory.buf (data.take 99)) (data.headD 0).toNat
          memory.recBytes } := by
  cases data with
  | nil => exact declares.elim
  | cons first rest =>
      have length : (overwrite memory.buf ((first :: rest).take 99))[0] = first :=
        getElem_overwrite_of_lt _ _ _ _ (by simp)
      have bound : first.toNat ≤ maxRecLen := declares
      simp only [receive, length]
      rw [copyLoop_zero_eq_copied _ _ _ (by omega) bound]
      rfl

/-- The copy loop stays inside `buf` and `recBytes` exactly if the declared
length does not exceed `recBytes`, however much was received. -/
theorem receive_isSome_iff (room : maxRecLen ≤ 100) (memory : ReceiveMemory maxRecLen)
    {data : List Byte} (nonempty : data ≠ []) :
    (receive memory data).isSome ↔ (data.headD 0).toNat ≤ maxRecLen := by
  obtain ⟨first, rest, rfl⟩ := List.exists_cons_of_ne_nil nonempty
  have length : (overwrite memory.buf ((first :: rest).take 99))[0] = first :=
    getElem_overwrite_of_lt _ _ _ _ (by simp)
  rw [receive, Option.isSome_map, copyLoop_zero_isSome_iff, length, List.headD_cons]
  omega

/-- What one iteration has left in its arrays, another one that receives nothing
leaves there, too. -/
theorem receive_nil_of_receive {memory next : ReceiveMemory maxRecLen} {data : List Byte}
    (received : receive memory data = some next) : receive next [] = some next := by
  rw [receive, Option.map_eq_some_iff] at received
  obtain ⟨recBytes, copies, rfl⟩ := received
  generalize overwrite memory.buf (data.take 99) = buf at copies
  obtain ⟨inBuf, inRecBytes⟩ := (copyLoop_zero_isSome_iff buf buf[0].toNat memory.recBytes).mp
    (Option.isSome_of_eq_some copies)
  have settles := copyLoop_zero_eq_copied buf buf[0].toNat memory.recBytes inBuf inRecBytes
  rw [copies, Option.some.injEq] at settles
  subst settles
  have again := copyLoop_zero_eq_copied buf buf[0].toNat
    (copied buf buf[0].toNat memory.recBytes) inBuf inRecBytes
  rw [copied_copied] at again
  simp only [receive, List.take_nil, overwrite_nil, again, Option.map_some]

/-- After an iteration a byte is the received one where it was received and
copied, and otherwise was there before. -/
theorem getElem_recBytes_of_lt (memory : ReceiveMemory maxRecLen) (data : List Byte)
    (index : Nat) (inside : index < maxRecLen) (fresh : index < freshCount data) :
    (copied (overwrite memory.buf (data.take 99)) (data.headD 0).toNat
      memory.recBytes)[index] = data.getD index 0 := by
  have bounds : index < (data.headD 0).toNat ∧ index < data.length ∧ index < 99 := by
    simp only [freshCount] at fresh
    omega
  rw [getElem_copied_of_lt _ _ _ _ inside bounds.1 (by omega),
    getElem_overwrite_of_lt _ _ _ _ (by simp; omega), List.getElem_take,
    List.getD_eq_getElem _ _ bounds.2.1]

theorem getElem_recBytes_of_le (memory : ReceiveMemory maxRecLen) (data : List Byte)
    (index : Nat) (inside : index < maxRecLen) (room : maxRecLen ≤ 99)
    (stale : freshCount data ≤ index) :
    (copied (overwrite memory.buf (data.take 99)) (data.headD 0).toNat
      memory.recBytes)[index] =
      if index < (data.headD 0).toNat then memory.buf[index]
      else memory.recBytes[index] := by
  simp only [freshCount] at stale
  rw [getElem_copied]
  by_cases copiedHere : index < (data.headD 0).toNat
  · rw [dif_pos ⟨copiedHere, by omega⟩, if_pos copiedHere,
      getElem_overwrite_of_le _ _ _ _ (by simp; omega)]
  · rw [dif_neg (by omega), if_neg copiedHere]

theorem headD_message (message : Vector Byte maxRecLen) (trailing : List Byte)
    (positive : 0 < maxRecLen) : (message.toList ++ trailing).headD 0 = message[0] := by
  rw [List.headD_eq_head?_getD, List.head?_append, List.head?_eq_getElem?]
  simp [positive]

theorem declaresAtMost_message (message : Vector Byte maxRecLen) (trailing : List Byte)
    (positive : 0 < maxRecLen) (declared : message[0].toNat = maxRecLen) :
    DeclaresAtMost maxRecLen (message.toList ++ trailing) := by
  refine declaresAtMost_iff.mpr ⟨fun empty => ?_, ?_⟩
  · have length := congrArg List.length empty
    rw [List.length_append, Vector.length_toList, List.length_nil] at length
    omega
  · rw [headD_message message trailing positive, declared]

theorem receive_message (room : maxRecLen ≤ 99) (memory : ReceiveMemory maxRecLen)
    (message : Vector Byte maxRecLen) (trailing : List Byte) (positive : 0 < maxRecLen)
    (declared : message[0].toNat = maxRecLen) :
    receive memory (message.toList ++ trailing) = some
      { buf := overwrite memory.buf ((message.toList ++ trailing).take 99)
        recBytes := message } := by
  have head := headD_message message trailing positive
  have declares := declaresAtMost_message message trailing positive declared
  rw [receive_of_declares room memory declares]
  congr 2
  apply Vector.ext
  intro index inside
  rw [getElem_recBytes_of_lt memory _ index inside (by
    simp only [freshCount, head, declared]
    simp
    omega)]
  simp [List.getD_eq_getElem?_getD, List.getElem?_append, inside]

theorem receive_whole_message (room : maxRecLen ≤ 99) (memory : ReceiveMemory maxRecLen)
    (message : Vector Byte maxRecLen) (positive : 0 < maxRecLen)
    (declared : message[0].toNat = maxRecLen) :
    receive memory message.toList = some
      { buf := overwrite memory.buf (message.toList.take 99)
        recBytes := message } := by
  have received := receive_message room memory message [] positive declared
  rwa [List.append_nil] at received

/-- A whole message is answered from its own bytes, whatever the buffers held. -/
theorem servRunStep_message (memory : ReceiveMemory 8) (message : Vector Byte 8)
    (unassigned : BitVec 32) (declared : (remakeRequest message).TML = 8) :
    ∃ next, servRunStep memory ⟨message.toList, unassigned⟩ =
      some (next, replyBytes unassigned message) := by
  rw [servRunStep, receive_whole_message (by decide) memory message (by decide)
    (congrArg BitVec.toNat declared)]
  exact ⟨_, rfl⟩

theorem connectionStep_message (memory : ReceiveMemory 8) (message : Vector Byte 8)
    (unassigned : BitVec 32) (declared : (remakeRequest message).TML = 8) :
    ∃ next, connectionStep memory ⟨message.toList, unassigned⟩ =
      some (next, replyBytes unassigned message) := by
  rw [connectionStep, receive_whole_message (by decide) memory message (by decide)
    (congrArg BitVec.toNat declared)]
  exact ⟨_, rfl⟩

theorem clientReceive_message (memory : ReceiveMemory 7) (message : Vector Byte 7)
    (declared : (remakeResponse message).TML = 7) :
    ∃ next, clientReceive memory message.toList = some (next, remakeResponse message) := by
  rw [clientReceive, receive_whole_message (by decide) memory message (by decide)
    (congrArg BitVec.toNat declared)]
  exact ⟨_, rfl⟩

/-! ## Which messages drive a copy loop out of its arrays -/

/-- Every access of the four copy loops lies inside its array exactly when the
first byte of the message is at most the size of the receiving array. -/
theorem copy_loops_stay_inside_iff {data : List Byte} (nonempty : data ≠ []) :
    (∀ (memory : ReceiveMemory 8) (unassigned : BitVec 32),
      (servRunStep memory ⟨data, unassigned⟩).isSome ↔ (data.headD 0).toNat ≤ 8) ∧
    (∀ (memory : ReceiveMemory 8) (unassigned : BitVec 32),
      (connectionStep memory ⟨data, unassigned⟩).isSome ↔ (data.headD 0).toNat ≤ 8) ∧
    ∀ memory : ReceiveMemory 7,
      (clientReceive memory data).isSome ↔ (data.headD 0).toNat ≤ 7 := by
  refine ⟨fun memory unassigned => ?_, fun memory unassigned => ?_, fun memory => ?_⟩
  · rw [servRunStep, Option.isSome_map]
    exact receive_isSome_iff (by decide) memory nonempty
  · rw [connectionStep, Option.isSome_map]
    exact receive_isSome_iff (by decide) memory nonempty
  · rw [clientReceive, Option.isSome_map]
    exact receive_isSome_iff (by decide) memory nonempty

theorem copy_loops_stay_inside_iff_request :
    (∀ (memory : ReceiveMemory 8) (unassigned : BitVec 32),
      (servRunStep memory ⟨[8, 1, 0, 2, 0, 1, 0, 1], unassigned⟩).isSome ↔
        (([8, 1, 0, 2, 0, 1, 0, 1] : List Byte).headD 0).toNat ≤ 8) ∧
    (∀ (memory : ReceiveMemory 8) (unassigned : BitVec 32),
      (connectionStep memory ⟨[8, 1, 0, 2, 0, 1, 0, 1], unassigned⟩).isSome ↔
        (([8, 1, 0, 2, 0, 1, 0, 1] : List Byte).headD 0).toNat ≤ 8) ∧
    ∀ memory : ReceiveMemory 7,
      (clientReceive memory [8, 1, 0, 2, 0, 1, 0, 1]).isSome ↔
        (([8, 1, 0, 2, 0, 1, 0, 1] : List Byte).headD 0).toNat ≤ 7 :=
  copy_loops_stay_inside_iff (by decide)

/-- One byte is enough: the ninth write of a server's loop and the eighth of a
client's lie behind `recBytes`. -/
theorem one_byte_leaves_recBytes :
    servRunStep ⟨Vector.replicate 100 0, Vector.replicate 8 0⟩ ⟨[9], 0⟩ = none ∧
      connectionStep ⟨Vector.replicate 100 0, Vector.replicate 8 0⟩ ⟨[9], 0⟩ = none ∧
      clientReceive ⟨Vector.replicate 100 0, Vector.replicate 7 0⟩ [8] = none := by
  decide

end OpServer
