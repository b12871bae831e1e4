import OpServer.UdpSession

/-!
# The loop of a UDP client

An iteration of `clientRun` in `ClientUDP.c` sends a request, waits in
`recvfrom`, prints the response and asks its user whether to go on.  The answer
is read by `scanf("%d" SCNd8, &keepGoing)`, which stores an `int` of four bytes
at a variable of one.  The other three land on whatever the compiler has put
behind `keepGoing`, which is a parameter here.
-/

namespace OpServer

open BigEndian

/-- An `int` in memory, its lowest byte first. -/
def storedInt (number : BitVec 32) : Vector Byte 4 :=
  #v[lane number 0, lane number 8, lane number 16, lane number 24]

/-- What a byte behind `keepGoing` belongs to.  A held byte is one of `sockfd` or
`p`, which the loop uses and never sets.  A free byte is one that the loop sets
before it reads it, or never reads. -/
inductive FrameByte
  | requestID
  | totMessLength
  | buf (index : Fin 100)
  | recBytes (index : Fin 7)
  | held (byte : Byte)
  | free
  deriving DecidableEq, Inhabited

/-- The layout of an ordinary build: `OpCode`, `requestID` and `totMessLength` follow
`keepGoing`. -/
def ordinaryFrame : Vector FrameByte 3 :=
  #v[.free, .requestID, .totMessLength]

/-- The variables of `clientRun` that survive an iteration, what lies behind
`keepGoing`, whether all held bytes are as they were, and whether the client
waits in `recvfrom`. -/
structure UdpClient where
  frame : Vector FrameByte 3
  keepGoing : Byte
  requestID : Byte
  totMessLength : Byte
  memory : ReceiveMemory 7
  intact : Bool
  waiting : Bool

/-- The part of a message that its first byte declares. -/
def declaredPart (message : Vector Byte 8) : List Byte :=
  message.toList.take (remakeRequest message).TML.toNat

theorem declaredPart_of_whole {message : Vector Byte 8}
    (whole : (remakeRequest message).TML = 8) : declaredPart message = message.toList := by
  rw [declaredPart, whole]
  exact List.take_of_length_le (by simp)

/-- No message is longer than eight bytes. -/
theorem declaredPart_of_complete {message : Vector Byte 8}
    (complete : 8 ≤ (declaredPart message).length) : declaredPart message = message.toList := by
  rw [declaredPart, List.length_take] at complete
  exact List.take_of_length_le (by rw [Vector.length_toList]; omega)

theorem whole_of_declaredPart {message : Vector Byte 8}
    (bounded : (remakeRequest message).TML.toNat ≤ 8)
    (same : declaredPart message = message.toList) : (remakeRequest message).TML = 8 := by
  have length := congrArg List.length same
  rw [declaredPart, List.length_take, Vector.length_toList] at length
  exact BitVec.eq_of_toNat_eq (by change _ = 8; omega)

namespace UdpClient

/-- The variables before the loop.  The arrays hold anything. -/
def start (frame : Vector FrameByte 3) (memory : ReceiveMemory 7) : UdpClient where
  frame := frame
  keepGoing := 1
  requestID := 0
  totMessLength := 8
  memory := memory
  intact := true
  waiting := false

/-- An iteration up to `sendto`, with the array `sendBytes` and the datagram.
Where a held byte has changed, `sendto` fails or is undefined, and with a length
above 8 it reads behind the array. -/
def send (client : UdpClient) (operandOne operandTwo : BitVec 16) (OpCode : Byte) :
    Option (UdpClient × Vector Byte 8 × List Byte) :=
  if client.keepGoing = 1 ∧ client.waiting = false ∧ client.intact = true ∧
      client.totMessLength.toNat ≤ 8 then
    let requestID := client.requestID + 1
    let operandCount := 2
    let sendBytes := getTotalMessage
      (makeRequest client.totMessLength requestID OpCode operandCount operandOne operandTwo)
    some ({ client with requestID := requestID, waiting := true }, sendBytes,
      sendBytes.toList.take client.totMessLength.toNat)
  else none

/-- A byte is stored over one behind `keepGoing`. -/
def poke (client : UdpClient) (target : FrameByte) (byte : Byte) : UdpClient :=
  match target with
  | .requestID => { client with requestID := byte }
  | .totMessLength => { client with totMessLength := byte }
  | .buf index =>
      { client with memory := { client.memory with buf := client.memory.buf.set index byte } }
  | .recBytes index =>
      { client with
        memory := { client.memory with recBytes := client.memory.recBytes.set index byte } }
  | .held original => { client with intact := client.intact && decide (byte = original) }
  | .free => client

/-- The store of the typed number, given by its bytes in memory. -/
def storeKeepGoing (client : UdpClient) (typed : Vector Byte 4) : UdpClient :=
  let stored := { client with keepGoing := typed[0]! }
  let stored := stored.poke client.frame[0]! typed[1]!
  let stored := stored.poke client.frame[1]! typed[2]!
  stored.poke client.frame[2]! typed[3]!

/-- The rest of an iteration, from `recvfrom`, with the response that is printed
and the answer that the user types. -/
def receive (client : UdpClient) (data : List Byte) (typed : Vector Byte 4) :
    Option (UdpClient × Response) :=
  if client.waiting then
    (clientReceive client.memory data).map fun received =>
      ({ client with memory := received.1, waiting := false }.storeKeepGoing typed, received.2)
  else none

variable {client next : UdpClient}

/-! ## What a store changes -/

section Store

variable (client : UdpClient) (target : FrameByte) (byte : Byte)

@[simp]
theorem poke_frame : (client.poke target byte).frame = client.frame := by
  cases target <;> rfl

@[simp]
theorem poke_keepGoing : (client.poke target byte).keepGoing = client.keepGoing := by
  cases target <;> rfl

@[simp]
theorem poke_waiting : (client.poke target byte).waiting = client.waiting := by
  cases target <;> rfl

theorem poke_requestID : (client.poke target byte).requestID =
    if target = .requestID then byte else client.requestID := by
  cases target <;> rfl

theorem poke_totMessLength : (client.poke target byte).totMessLength =
    if target = .totMessLength then byte else client.totMessLength := by
  cases target <;> rfl

variable (typed : Vector Byte 4)

@[simp]
theorem storeKeepGoing_frame : (client.storeKeepGoing typed).frame = client.frame := by
  simp [storeKeepGoing]

@[simp]
theorem storeKeepGoing_keepGoing : (client.storeKeepGoing typed).keepGoing = typed[0]! := by
  simp [storeKeepGoing]

@[simp]
theorem storeKeepGoing_waiting : (client.storeKeepGoing typed).waiting = client.waiting := by
  simp [storeKeepGoing]

end Store

/-- The answer ends the loop, or every byte of it that lands on `requestID` is the
one that is there. -/
def KeepsRequestID (client : UdpClient) (typed : Vector Byte 4) : Prop :=
  typed[0]! = 1 → ∀ position : Fin 3, client.frame[position] = .requestID →
    typed[position.succ] = client.requestID

instance (client : UdpClient) : DecidablePred client.KeepsRequestID := fun typed =>
  inferInstanceAs (Decidable (typed[0]! = 1 → _))

theorem storeKeepGoing_requestID {typed : Vector Byte 4} (keeps : client.KeepsRequestID typed)
    (continues : typed[0]! = 1) :
    (client.storeKeepGoing typed).requestID = client.requestID := by
  have first := keeps continues 0
  have second := keeps continues 1
  have third := keeps continues 2
  simp only [storeKeepGoing, poke_requestID]
  split
  · exact third ‹_›
  · split
    · exact second ‹_›
    · split
      · exact first ‹_›
      · rfl

theorem storeKeepGoing_totMessLength (apart : .totMessLength ∉ client.frame)
    (typed : Vector Byte 4) :
    (client.storeKeepGoing typed).totMessLength = client.totMessLength := by
  have other (position : Nat) (inside : position < 3) :
      client.frame[position] ≠ .totMessLength :=
    fun same => apart (same ▸ Vector.getElem_mem inside)
  simp [storeKeepGoing, poke_totMessLength, other]

/-- The byte of an answer that puts a length over `totMessLength` and spares what
is held. -/
def FrameByte.typedFor (length : Byte) : FrameByte → Byte
  | .totMessLength => length
  | .held byte => byte
  | _ => 0

theorem poke_typedFor_intact (client : UdpClient) (length : Byte) (target : FrameByte) :
    (client.poke target (FrameByte.typedFor length target)).intact = client.intact := by
  cases target with
  | held byte => simp [poke, FrameByte.typedFor]
  | _ => rfl

/-- Where `totMessLength` lies behind `keepGoing`, an answer that continues can set it to
any value. -/
theorem exists_typed (client : UdpClient) (behind : .totMessLength ∈ client.frame)
    (length : Byte) :
    ∃ typed : Vector Byte 4, typed[0]! = 1 ∧
      (client.storeKeepGoing typed).totMessLength = length ∧
      (client.storeKeepGoing typed).intact = client.intact := by
  let typedFor := FrameByte.typedFor length
  refine ⟨#v[1, typedFor client.frame[0]!, typedFor client.frame[1]!, typedFor client.frame[2]!],
    rfl, ?_, ?_⟩
  · obtain ⟨position, inside, same⟩ := Vector.mem_iff_getElem.mp behind
    have stored (target : FrameByte) (here : target = .totMessLength) :
        typedFor target = length := by
      rw [here]
      rfl
    change (((UdpClient.poke _ _ (typedFor client.frame[0]!)).poke _
      (typedFor client.frame[1]!)).poke _ (typedFor client.frame[2]!)).totMessLength = length
    simp only [poke_totMessLength]
    split
    · exact stored _ ‹_›
    · split
      · exact stored _ ‹_›
      · have first : client.frame[0]! = .totMessLength := by
          rcases (by omega : position = 0 ∨ position = 1 ∨ position = 2) with rfl | rfl | rfl
          · exact same
          · exact absurd same ‹_›
          · exact absurd same ‹_›
        rw [if_pos first]
        exact stored _ first
  · change (((UdpClient.poke _ _ (typedFor client.frame[0]!)).poke _
      (typedFor client.frame[1]!)).poke _ (typedFor client.frame[2]!)).intact = client.intact
    rw [poke_typedFor_intact, poke_typedFor_intact, poke_typedFor_intact]

/-! ## What the halves of an iteration do -/

theorem send_eq_some {operandOne operandTwo : BitVec 16} {OpCode : Byte}
    {sendBytes : Vector Byte 8} {datagram : List Byte}
    (sent : client.send operandOne operandTwo OpCode = some (next, sendBytes, datagram)) :
    client.keepGoing = 1 ∧ client.waiting = false ∧
      remakeRequest sendBytes = makeRequest client.totMessLength (client.requestID + 1) OpCode 2
        operandOne operandTwo ∧
      client.totMessLength.toNat ≤ 8 ∧ datagram = declaredPart sendBytes ∧
      next = { client with requestID := client.requestID + 1, waiting := true } := by
  unfold send at sent
  split at sent
  · rename_i possible
    obtain ⟨continues, idle, -, bounded⟩ := possible
    cases sent
    have decoded := remakeRequest_getTotalMessage (makeRequest_coherent client.totMessLength
      (client.requestID + 1) OpCode 2 operandOne operandTwo)
    refine ⟨continues, idle, decoded, bounded, ?_, rfl⟩
    rw [declaredPart, decoded]
    rfl
  · cases sent

theorem receive_eq_some {data : List Byte} {typed : Vector Byte 4} {response : Response}
    (received : client.receive data typed = some (next, response)) :
    ∃ memory, client.waiting = true ∧
      clientReceive client.memory data = some (memory, response) ∧
      next = { client with memory := memory, waiting := false }.storeKeepGoing typed := by
  unfold receive at received
  split at received
  · rename_i waiting
    obtain ⟨⟨memory, decoded⟩, decodes, same⟩ := Option.map_eq_some_iff.mp received
    obtain ⟨rfl, rfl⟩ := Prod.mk.inj same
    exact ⟨memory, waiting, decodes, rfl⟩
  · cases received

theorem send_isSome {operandOne operandTwo : BitVec 16} {OpCode : Byte}
    (continues : client.keepGoing = 1) (idle : client.waiting = false)
    (intact : client.intact = true) (bounded : client.totMessLength.toNat ≤ 8) :
    (client.send operandOne operandTwo OpCode).isSome := by
  rw [send, if_pos ⟨continues, idle, intact, bounded⟩]
  rfl

theorem receive_of_clientReceive {data : List Byte} {memory : ReceiveMemory 7}
    {response : Response} (waiting : client.waiting = true)
    (decodes : clientReceive client.memory data = some (memory, response))
    (typed : Vector Byte 4) :
    client.receive data typed =
      some ({ client with memory := memory, waiting := false }.storeKeepGoing typed, response) := by
  rw [receive, if_pos waiting, decodes]
  rfl

/-! ## The request IDs of a session -/

/-- As long as its loop goes on a client has counted its requests, and each of them
carries its number. -/
structure Numbered (client : UdpClient) (sent : List (Vector Byte 8)) : Prop where
  counter : client.waiting = true ∨ client.keepGoing = 1 →
    client.requestID = BitVec.ofNat 8 sent.length
  numbered : ∀ index message, sent[index]? = some message →
    (remakeRequest message).requestID = BitVec.ofNat 8 (index + 1)

namespace Numbered

variable {sent : List (Vector Byte 8)}

theorem start (frame : Vector FrameByte 3) (memory : ReceiveMemory 7) :
    (UdpClient.start frame memory).Numbered [] where
  counter := fun _ => rfl
  numbered := fun _ _ found => by simp at found

theorem send (numbered : client.Numbered sent) {operandOne operandTwo : BitVec 16}
    {OpCode : Byte} {sendBytes : Vector Byte 8} {datagram : List Byte}
    (sends : client.send operandOne operandTwo OpCode = some (next, sendBytes, datagram)) :
    next.Numbered (sent ++ [sendBytes]) := by
  obtain ⟨continues, -, decoded, -, -, rfl⟩ := send_eq_some sends
  have counter := numbered.counter (.inr continues)
  constructor
  case counter =>
    intro _
    rw [List.length_append, List.length_singleton, BitVec.ofNat_add, ← counter]
    rfl
  case numbered =>
    intro index message found
    rcases Stepped.getElem?_concat_cases found with earlier | ⟨rfl, rfl⟩
    · exact numbered.numbered index message earlier
    · rw [decoded, BitVec.ofNat_add, ← counter]
      rfl

theorem receive (numbered : client.Numbered sent) {data : List Byte} {typed : Vector Byte 4}
    {response : Response} (keeps : client.KeepsRequestID typed)
    (receives : client.receive data typed = some (next, response)) :
    next.Numbered sent := by
  obtain ⟨memory, waiting, -, rfl⟩ := receive_eq_some receives
  refine ⟨fun goesOn => ?_, numbered.numbered⟩
  have continues : typed[0]! = 1 := by
    rcases goesOn with impossible | continues
    · simp at impossible
    · rwa [storeKeepGoing_keepGoing] at continues
  have kept : KeepsRequestID { client with memory := memory, waiting := false } typed := keeps
  rw [storeKeepGoing_requestID kept continues]
  exact numbered.counter (.inl waiting)

end Numbered

/-! ## The length of a request -/

/-- No answer reaches `totMessLength`, so it is as it was before the loop. -/
structure LengthApart (client : UdpClient) : Prop where
  apart : .totMessLength ∉ client.frame
  length : client.totMessLength = 8

namespace LengthApart

theorem send (lengthApart : client.LengthApart) {operandOne operandTwo : BitVec 16}
    {OpCode : Byte} {sendBytes : Vector Byte 8} {datagram : List Byte}
    (sends : client.send operandOne operandTwo OpCode = some (next, sendBytes, datagram)) :
    next.LengthApart := by
  obtain ⟨-, -, -, -, -, rfl⟩ := send_eq_some sends
  exact ⟨lengthApart.apart, lengthApart.length⟩

theorem receive (lengthApart : client.LengthApart) {data : List Byte} {typed : Vector Byte 4}
    {response : Response} (receives : client.receive data typed = some (next, response)) :
    next.LengthApart := by
  obtain ⟨memory, -, -, rfl⟩ := receive_eq_some receives
  constructor
  · rw [storeKeepGoing_frame]
    exact lengthApart.apart
  · rw [storeKeepGoing_totMessLength]
    · exact lengthApart.length
    · exact lengthApart.apart

end LengthApart

end UdpClient

end OpServer
