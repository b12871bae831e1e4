import OpServer.PythonReplies
import OpServer.UdpSystem

/-!
# Clients in C and a server in Python

The clients of `ClientUDP.c` with `udpserv.py` as their server.  The loop of that
server ends with the first exception.  Other programs may send it any datagram.
-/

namespace OpServer

open Python

variable {ι : Type*}

/-- `BUFSIZE` of `udpserv.py` -/
def BUFSIZE : Nat := 1024

/-- An iteration of the loop of `server` in `udpserv.py`: the response that it
sends, unless it raises. -/
def serverStep (datagram : List Byte) (delivers : Bool) : Except PythonError (List Byte) := do
  let data := datagram.take BUFSIZE
  let response ← formatResponse data
  if delivers then return response else .error .socketError

theorem serverStep_eq_ok_iff {datagram response : List Byte} {delivers : Bool} :
    serverStep datagram delivers = .ok response ↔
      formatResponse (datagram.take BUFSIZE) = .ok response ∧ delivers = true := by
  unfold serverStep
  constructor
  · intro returned
    obtain ⟨formatted, same, sent⟩ := bind_eq_ok_iff.mp returned
    cases delivers with
    | true =>
        cases sent
        exact ⟨same, rfl⟩
    | false => cases sent
  · rintro ⟨returned, rfl⟩
    exact bind_eq_ok_iff.mpr ⟨response, returned, rfl⟩

/-- A request of a client fits the buffer of the server, which only answers a whole
message. -/
theorem formatResponse_of_serverStep {message : Vector Byte 8} {response : List Byte}
    {delivers : Bool} (returned : serverStep (declaredPart message) delivers = .ok response) :
    declaredPart message = message.toList ∧ formatResponse message.toList = .ok response := by
  have short : (declaredPart message).length ≤ 8 := by
    rw [declaredPart, List.length_take, Vector.length_toList]
    exact Nat.min_le_right _ _
  have formatted := (serverStep_eq_ok_iff.mp returned).1
  rw [List.take_of_length_le (by change _ ≤ 1024; omega)] at formatted
  have same := declaredPart_of_complete (length_of_formatResponse formatted)
  exact ⟨same, same ▸ formatted⟩

/-- The processes, and the datagrams in flight, each with its client. -/
structure PythonUdpSystem (ι : Type*) where
  serving : Bool
  clients : ι → UdpClient
  requests : List (ι × List Byte)
  replies : List (ι × List Byte)

inductive PythonUdpAction (ι : Type*)
  | clientSend (client : ι) (operandOne operandTwo : BitVec 16) (OpCode : Byte)
  | serverReceive (index : Nat) (delivers : Bool)
  | strangerSend (datagram : List Byte) (delivers : Bool)
  | clientReceive (index : Nat) (typed : Vector Byte 4)
  | requestFault (what : Channel.Fault)
  | replyFault (what : Channel.Fault)

/-- What a client does, or an iteration of the server's loop. -/
inductive PythonUdpEvent (ι : Type*)
  | client (event : UdpEvent ι)
  | handled (datagram : List Byte) (delivers : Bool)
  deriving DecidableEq

namespace PythonUdpSystem

/-- The server has printed that it is ready, and no client has started its loop. -/
def start (frames : ι → Vector FrameByte 3) (memories : ι → ReceiveMemory 7) :
    PythonUdpSystem ι where
  serving := true
  clients := fun client => UdpClient.start (frames client) (memories client)
  requests := []
  replies := []

variable [DecidableEq ι]

/-- The first half of an iteration of `clientRun`, up to `sendto`. -/
def clientSend (system : PythonUdpSystem ι) (client : ι) (operandOne operandTwo : BitVec 16)
    (OpCode : Byte) : Option (PythonUdpSystem ι × PythonUdpEvent ι) :=
  ((system.clients client).send operandOne operandTwo OpCode).map
    fun (sending, sendBytes, datagram) =>
      ({ system with
          clients := Function.update system.clients client sending
          requests := (client, datagram) :: system.requests },
        .client (.sent client sendBytes))

/-- The second half of an iteration of `clientRun`, from `recvfrom`. -/
def clientReceive (system : PythonUdpSystem ι) (index : Nat) (typed : Vector Byte 4) :
    Option (PythonUdpSystem ι × PythonUdpEvent ι) :=
  (Channel.take system.replies index).bind fun taken =>
    let client := taken.1.1
    ((system.clients client).receive taken.1.2 typed).map fun (printing, response) =>
      ({ system with
          clients := Function.update system.clients client printing
          replies := taken.2 },
        .client (.printed client response.requestID response.result.theInt))

/-- The server handles a client's request, if it has not ended. -/
def serverReceive (system : PythonUdpSystem ι) (index : Nat) (delivers : Bool) :
    Option (PythonUdpSystem ι × PythonUdpEvent ι) :=
  (Channel.take system.requests index).bind fun taken =>
    if system.serving then
      let event := .handled taken.1.2 delivers
      match serverStep taken.1.2 delivers with
      | .ok response =>
          some ({ system with
              requests := taken.2
              replies := (taken.1.1, response) :: system.replies },
            event)
      | .error _ => some ({ system with serving := false, requests := taken.2 }, event)
    else none

/-- The server handles a datagram that no client sent. -/
def strangerSend (system : PythonUdpSystem ι) (datagram : List Byte) (delivers : Bool) :
    Option (PythonUdpSystem ι × PythonUdpEvent ι) :=
  if system.serving then
    let serving := match serverStep datagram delivers with
      | .ok _ => true
      | .error _ => false
    some ({ system with serving := serving }, .handled datagram delivers)
  else none

/-- One step of the system.  It is impossible where the action is disabled, and
where a client would behave undefinedly. -/
def step (system : PythonUdpSystem ι) :
    PythonUdpAction ι → Option (PythonUdpSystem ι × PythonUdpEvent ι)
  | .clientSend client operandOne operandTwo OpCode =>
      system.clientSend client operandOne operandTwo OpCode
  | .serverReceive index delivers => system.serverReceive index delivers
  | .strangerSend datagram delivers => system.strangerSend datagram delivers
  | .clientReceive index typed => system.clientReceive index typed
  | .requestFault what =>
      (Channel.fault system.requests what).map fun requests =>
        ({ system with requests := requests }, .client .silent)
  | .replyFault what =>
      (Channel.fault system.replies what).map fun replies =>
        ({ system with replies := replies }, .client .silent)

/-! ## What the steps can do -/

variable {system next : PythonUdpSystem ι} {event : PythonUdpEvent ι}

theorem clientSend_eq_some {client : ι} {operandOne operandTwo : BitVec 16} {OpCode : Byte}
    (stepped : system.clientSend client operandOne operandTwo OpCode = some (next, event)) :
    ∃ sending sendBytes datagram,
      (system.clients client).send operandOne operandTwo OpCode =
        some (sending, sendBytes, datagram) ∧
      event = .client (.sent client sendBytes) ∧
      next = { system with
        clients := Function.update system.clients client sending
        requests := (client, datagram) :: system.requests } := by
  obtain ⟨⟨sending, sendBytes, datagram⟩, sends, same⟩ := Option.map_eq_some_iff.mp stepped
  obtain ⟨rfl, rfl⟩ := Prod.mk.inj same
  exact ⟨sending, sendBytes, datagram, sends, rfl, rfl⟩

theorem clientReceive_eq_some {index : Nat} {typed : Vector Byte 4}
    (stepped : system.clientReceive index typed = some (next, event)) :
    ∃ client reply replies printing response,
      Channel.take system.replies index = some ((client, reply), replies) ∧
      (system.clients client).receive reply typed = some (printing, response) ∧
      event = .client (.printed client response.requestID response.result.theInt) ∧
      next = { system with
        clients := Function.update system.clients client printing
        replies := replies } := by
  obtain ⟨⟨⟨client, reply⟩, replies⟩, taken, stepped⟩ := Option.bind_eq_some_iff.mp stepped
  obtain ⟨⟨printing, response⟩, received, same⟩ := Option.map_eq_some_iff.mp stepped
  obtain ⟨rfl, rfl⟩ := Prod.mk.inj same
  exact ⟨client, reply, replies, printing, response, taken, received, rfl, rfl⟩

omit [DecidableEq ι] in
theorem serverReceive_eq_some {index : Nat} {delivers : Bool}
    (stepped : system.serverReceive index delivers = some (next, event)) :
    ∃ client datagram requests,
      Channel.take system.requests index = some ((client, datagram), requests) ∧
      system.serving = true ∧ event = .handled datagram delivers ∧
      ((∃ response, serverStep datagram delivers = .ok response ∧
        next = { system with
          requests := requests
          replies := (client, response) :: system.replies }) ∨
      ∃ raised, serverStep datagram delivers = .error raised ∧
        next = { system with serving := false, requests := requests }) := by
  obtain ⟨⟨⟨client, datagram⟩, requests⟩, taken, stepped⟩ := Option.bind_eq_some_iff.mp stepped
  refine ⟨client, datagram, requests, taken, ?_⟩
  dsimp only at stepped
  split at stepped
  · rename_i serving
    split at stepped
    · rename_i returned
      cases stepped
      exact ⟨serving, rfl, .inl ⟨_, returned, rfl⟩⟩
    · rename_i failed
      cases stepped
      exact ⟨serving, rfl, .inr ⟨_, failed, rfl⟩⟩
  · cases stepped

omit [DecidableEq ι] in
theorem strangerSend_eq_some {datagram : List Byte} {delivers : Bool}
    (stepped : system.strangerSend datagram delivers = some (next, event)) :
    system.serving = true ∧ event = .handled datagram delivers ∧
      ((∃ response, serverStep datagram delivers = .ok response ∧
        next = system) ∨
      ∃ raised, serverStep datagram delivers = .error raised ∧
        next = { system with serving := false }) := by
  unfold strangerSend at stepped
  split at stepped
  · rename_i serving
    cases stepped
    refine ⟨serving, rfl, ?_⟩
    cases outcome : serverStep datagram delivers with
    | ok response =>
        refine .inl ⟨response, rfl, ?_⟩
        rw [← serving]
    | error raised => exact .inr ⟨raised, rfl, rfl⟩
  · cases stepped

end PythonUdpSystem

/-- If this client is asked whether to go on, the answer spares its `requestID`. -/
def PythonUdpAction.KeepsRequestID (client : ι) (system : PythonUdpSystem ι) :
    PythonUdpAction ι → Prop
  | .clientReceive index typed => ∀ taken ∈ Channel.take system.replies index,
      taken.1.1 = client → (system.clients client).KeepsRequestID typed
  | _ => True

end OpServer
