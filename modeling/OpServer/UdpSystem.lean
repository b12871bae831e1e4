import OpServer.LossyChannel
import OpServer.UdpClient
import Mathlib.Logic.Function.Basic

/-!
# Clients and a server on a UDP network

Any number of `ClientUDP.c` clients in their loops and one `ServerUDP.c` in
its.  A client waits for a datagram after every request.  The server handles a
datagram and answers its sender in one step.  Between them the network may
delay, reorder, duplicate and lose datagrams.  Every step emits an event.
-/

namespace OpServer

variable {ι : Type*}

/-- The processes, and the datagrams in flight, each with its client. -/
structure UdpSystem (ι : Type*) where
  server : ReceiveMemory 8
  clients : ι → UdpClient
  requests : List (ι × List Byte)
  replies : List (ι × Vector Byte 7)

inductive UdpAction (ι : Type*)
  | clientSend (client : ι) (operandOne operandTwo : BitVec 16) (OpCode : Byte)
  | serverReceive (index : Nat) (unassigned : BitVec 32)
  | clientReceive (index : Nat) (typed : Vector Byte 4)
  | requestFault (what : Channel.Fault)
  | replyFault (what : Channel.Fault)

inductive UdpEvent (ι : Type*)
  | sent (client : ι) (message : Vector Byte 8)
  | printed (client : ι) (requestID : Byte) (theInt : BitVec 32)
  | silent
  deriving DecidableEq

/-- No process has started its loop and nothing is in flight.  The buffers
hold anything. -/
def UdpSystem.start (server : ReceiveMemory 8) (frames : ι → Vector FrameByte 3)
    (memories : ι → ReceiveMemory 7) : UdpSystem ι where
  server := server
  clients := fun client => UdpClient.start (frames client) (memories client)
  requests := []
  replies := []

variable [DecidableEq ι]

namespace UdpSystem

/-- The first half of an iteration of `clientRun`, up to `sendto`. -/
def clientSend (system : UdpSystem ι) (client : ι) (operandOne operandTwo : BitVec 16)
    (OpCode : Byte) : Option (UdpSystem ι × UdpEvent ι) :=
  ((system.clients client).send operandOne operandTwo OpCode).map
    fun (sending, sendBytes, datagram) =>
      ({ system with
          clients := Function.update system.clients client sending
          requests := (client, datagram) :: system.requests },
        .sent client sendBytes)

/-- An iteration of `servRun`. -/
def serverReceive (system : UdpSystem ι) (index : Nat) (unassigned : BitVec 32) :
    Option (UdpSystem ι × UdpEvent ι) :=
  (Channel.take system.requests index).bind fun taken =>
    (servRunStep system.server ⟨taken.1.2, unassigned⟩).map fun served =>
      ({ system with
          server := served.1
          requests := taken.2
          replies := (taken.1.1, served.2) :: system.replies },
        .silent)

/-- The second half of an iteration of `clientRun`, from `recvfrom`. -/
def clientReceive (system : UdpSystem ι) (index : Nat) (typed : Vector Byte 4) :
    Option (UdpSystem ι × UdpEvent ι) :=
  (Channel.take system.replies index).bind fun taken =>
    let client := taken.1.1
    ((system.clients client).receive taken.1.2.toList typed).map fun (printing, response) =>
      ({ system with
          clients := Function.update system.clients client printing
          replies := taken.2 },
        .printed client response.requestID response.result.theInt)

/-- One step of the system.  It is impossible where the action is disabled, and
where a process would behave undefinedly. -/
def step (system : UdpSystem ι) : UdpAction ι → Option (UdpSystem ι × UdpEvent ι)
  | .clientSend client operandOne operandTwo OpCode =>
      system.clientSend client operandOne operandTwo OpCode
  | .serverReceive index unassigned => system.serverReceive index unassigned
  | .clientReceive index typed => system.clientReceive index typed
  | .requestFault what =>
      (Channel.fault system.requests what).map fun requests =>
        ({ system with requests := requests }, .silent)
  | .replyFault what =>
      (Channel.fault system.replies what).map fun replies =>
        ({ system with replies := replies }, .silent)

end UdpSystem

/-- An action that the processes and the channels allow: a client sends when
its loop goes on and it does not wait, and receives when it does, and a datagram
that is received, or that a fault befalls, is in flight. -/
def UdpAction.Enabled (system : UdpSystem ι) : UdpAction ι → Prop
  | .clientSend client _ _ _ =>
      (system.clients client).keepGoing = 1 ∧ (system.clients client).waiting = false
  | .serverReceive index _ => index < system.requests.length
  | .clientReceive index _ => ∃ inside : index < system.replies.length,
      (system.clients system.replies[index].1).waiting = true
  | .requestFault what => (Channel.fault system.requests what).isSome
  | .replyFault what => (Channel.fault system.replies what).isSome

/-! ## What the answers at the prompt spare -/

/-- If this client sends, it sends the whole request. -/
def UdpAction.SendsWhole (client : ι) (system : UdpSystem ι) : UdpAction ι → Prop
  | .clientSend sender _ _ _ =>
      sender = client → (system.clients client).totMessLength = 8
  | _ => True

instance (client : ι) (system : UdpSystem ι) :
    DecidablePred (UdpAction.SendsWhole client system)
  | .clientSend sender _ _ _ => inferInstanceAs (Decidable (sender = client → _))
  | .serverReceive _ _ => inferInstanceAs (Decidable True)
  | .clientReceive _ _ => inferInstanceAs (Decidable True)
  | .requestFault _ => inferInstanceAs (Decidable True)
  | .replyFault _ => inferInstanceAs (Decidable True)

/-- If this client is asked whether to go on, the answer spares its `requestID`. -/
def UdpAction.KeepsRequestID (client : ι) (system : UdpSystem ι) : UdpAction ι → Prop
  | .clientReceive index typed => ∀ taken ∈ Channel.take system.replies index,
      taken.1.1 = client → (system.clients client).KeepsRequestID typed
  | _ => True

instance (client : ι) (system : UdpSystem ι) :
    DecidablePred (UdpAction.KeepsRequestID client system)
  | .clientReceive index _ =>
      inferInstanceAs (Decidable (∀ taken ∈ Channel.take system.replies index, _ → _))
  | .clientSend _ _ _ _ => inferInstanceAs (Decidable True)
  | .serverReceive _ _ => inferInstanceAs (Decidable True)
  | .requestFault _ => inferInstanceAs (Decidable True)
  | .replyFault _ => inferInstanceAs (Decidable True)

/-! ## What a client sent and printed -/

/-- The requests a client sent, in order. -/
def sentBy (client : ι) (trace : List (UdpEvent ι)) : List (Vector Byte 8) :=
  trace.filterMap fun
    | .sent sender message => if sender = client then some message else none
    | _ => none

/-- The request IDs and values a client printed, in order. -/
def printedBy (client : ι) (trace : List (UdpEvent ι)) : List (Byte × BitVec 32) :=
  trace.filterMap fun
    | .printed printer requestID theInt =>
        if printer = client then some (requestID, theInt) else none
    | _ => none

variable (client : ι) (trace : List (UdpEvent ι))

theorem sentBy_append (later : List (UdpEvent ι)) :
    sentBy client (trace ++ later) = sentBy client trace ++ sentBy client later :=
  List.filterMap_append

theorem printedBy_append (later : List (UdpEvent ι)) :
    printedBy client (trace ++ later) = printedBy client trace ++ printedBy client later :=
  List.filterMap_append

@[simp]
theorem sentBy_sent (sender : ι) (message : Vector Byte 8) :
    sentBy client (trace ++ [.sent sender message]) =
      sentBy client trace ++ if sender = client then [message] else [] := by
  by_cases same : sender = client <;> simp [sentBy, same]

@[simp]
theorem sentBy_printed (printer : ι) (requestID : Byte) (theInt : BitVec 32) :
    sentBy client (trace ++ [.printed printer requestID theInt]) = sentBy client trace := by
  simp [sentBy]

@[simp]
theorem sentBy_silent : sentBy client (trace ++ [.silent]) = sentBy client trace := by
  simp [sentBy]

@[simp]
theorem printedBy_sent (sender : ι) (message : Vector Byte 8) :
    printedBy client (trace ++ [.sent sender message]) = printedBy client trace := by
  simp [printedBy]

@[simp]
theorem printedBy_printed (printer : ι) (requestID : Byte) (theInt : BitVec 32) :
    printedBy client (trace ++ [.printed printer requestID theInt]) =
      printedBy client trace ++ if printer = client then [(requestID, theInt)] else [] := by
  by_cases same : printer = client <;> simp [printedBy, same]

@[simp]
theorem printedBy_silent : printedBy client (trace ++ [.silent]) = printedBy client trace := by
  simp [printedBy]

end OpServer
