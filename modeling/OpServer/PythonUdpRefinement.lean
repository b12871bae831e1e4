import OpServer.CalcInteroperability
import OpServer.PythonUdpSystem
import OpServer.SteppedSimulations
import OpServer.UdpMatching

/-!
# The Python server refines the one in C

What the clients see of `udpserv.py`, they could see of `ServerUDP.c`.  A server
that has ended looks like a network that loses every request, and where C leaves
a value undefined it may be the one that Python computes.
-/

namespace OpServer

open Python SignedBits

variable {ι : Type*}

/-! ## Replies -/

/-- What `format_response` returns for a request: its ID, and the exact result of its
operation. -/
theorem formatResponse_reply {message : Vector Byte 8} {response : List Byte}
    (returned : formatResponse message.toList = .ok response) :
    ∃ (operation : Operation) (theInt : BitVec 32),
      (remakeRequest message).opCode = operation.code ∧
      theInt.toInt = operation.exact (remakeRequest message).operandOne.theInt.toInt
        (remakeRequest message).operandTwo.theInt.toInt ∧
      response = 7#8 :: (remakeRequest message).requestID :: 0#8 ::
        (getBytesFrom32 theInt).toList := by
  rw [← List.append_nil message.toList] at returned
  have known : (remakeRequest message).opCode.toNat ≤ 5 := by
    by_contra unknown
    rw [formatResponse_append, resultInt_unknown (by omega)] at returned
    cases returned
  obtain ⟨operation, code⟩ := Operation.exists_code_of_le known
  obtain ⟨-, bytes, packed, rfl⟩ := (formatResponse_eq_ok_iff code [] response).mp returned
  have fits := (i_fits_iff _).mp (pack_eq_ok_iff.mp packed).1
  have exact := toInt_ofInt_of_range fits.1 fits.2
  refine ⟨operation, _, code, exact, ?_⟩
  rw [← exact, pack_i_toInt, Except.ok.injEq] at packed
  rw [packed]

theorem exists_replyBytes {message : Vector Byte 8} {response : List Byte}
    (returned : formatResponse message.toList = .ok response) :
    ∃ unassigned, response = (replyBytes unassigned message).toList := by
  obtain ⟨operation, theInt, code, exact, rfl⟩ := formatResponse_reply returned
  refine ⟨theInt, ?_⟩
  have packed : pack .i (operation.exact (remakeRequest message).operandOne.theInt.toInt
      (remakeRequest message).operandTwo.theInt.toInt) = .ok (getBytesFrom32 theInt).toList := by
    rw [← exact, pack_i_toInt]
  by_cases inRange : operation.CountInRange (remakeRequest message).operandTwo.theInt.toInt
  · exact (replyBytes_toList code inRange packed theInt).symm
  · -- The value is undefined in C.
    have undefined : calcTheInt (remakeRequest message) = none := by
      rw [← Option.not_isSome_iff_eq_none]
      exact fun defined => inRange ((calcTheInt_isSome_iff_of_code code).mp defined)
    rw [replyBytes, unloadResponse_toList]
    simp only [processRequest, calcResult, undefined, Option.getD_none]
    rfl

theorem clientReceive_of_formatResponse {message : Vector Byte 8} {reply : List Byte}
    (returned : formatResponse message.toList = .ok reply) (memory : ReceiveMemory 7) :
    ∃ (operation : Operation) (next : ReceiveMemory 7) (response : Response),
      clientReceive memory reply = some (next, response) ∧
      (remakeRequest message).opCode = operation.code ∧
      response.requestID = (remakeRequest message).requestID ∧
      response.result.theInt.toInt =
        operation.exact (remakeRequest message).operandOne.theInt.toInt
          (remakeRequest message).operandTwo.theInt.toInt := by
  obtain ⟨operation, theInt, code, exact, rfl⟩ := formatResponse_reply returned
  have decoded := decode_eq .remakeResponse memory (remakeRequest message).requestID theInt
  simp only [ClientDecoder.decode, Option.map_eq_some_iff, Prod.mk.injEq, Nat.cast_inj] at decoded
  obtain ⟨⟨next, response⟩, received, sameID, sameInt⟩ := decoded
  refine ⟨operation, next, response, received, code, BitVec.eq_of_toNat_eq sameID, ?_⟩
  rw [sameInt, exact]

/-! ## The simulation -/

/-- The network duplicates a datagram. -/
def PythonUdpAction.Duplicates : PythonUdpAction ι → Prop
  | .requestFault (.duplicate _) => True
  | .replyFault (.duplicate _) => True
  | _ => False

/-- What a client sends or prints. -/
def UdpEvent.visible : UdpEvent ι → Option (UdpEvent ι)
  | .silent => none
  | event => some event

def PythonUdpEvent.visible : PythonUdpEvent ι → Option (UdpEvent ι)
  | .client event => event.visible
  | .handled _ _ => none

/-- A datagram of the server in C as a byte string. -/
def carried (reply : ι × Vector Byte 7) : ι × List Byte :=
  (reply.1, reply.2.toList)

namespace PythonUdpSystem

/-- The same datagrams are in flight, and the clients are in the same states. -/
structure Refines (system : PythonUdpSystem ι) (image : UdpSystem ι) : Prop where
  clients : system.clients = image.clients
  requests : system.requests = image.requests
  replies : system.replies = image.replies.map carried
  declared : ∀ client datagram, (client, datagram) ∈ system.requests →
    ∃ message : Vector Byte 8,
      (remakeRequest message).TML.toNat ≤ 8 ∧ datagram = declaredPart message

namespace Refines

variable {system next : PythonUdpSystem ι} {image : UdpSystem ι} {event : PythonUdpEvent ι}
  {mayDuplicate : Prop}

/-- A step of the other system that clients cannot tell from the one here. -/
abbrev Matched [DecidableEq ι] (mayDuplicate : Prop) (image : UdpSystem ι)
    (next : PythonUdpSystem ι) (event : PythonUdpEvent ι) : Prop :=
  Stepped.Matches UdpSystem.step UdpEvent.visible (fun action => action.Duplicates → mayDuplicate)
    image (Refines next) event.visible

variable [DecidableEq ι]

theorem clientSend (refines : Refines system image) {client : ι}
    {operandOne operandTwo : BitVec 16} {OpCode : Byte}
    (stepped : system.clientSend client operandOne operandTwo OpCode = some (next, event)) :
    Matched mayDuplicate image next event := by
  obtain ⟨sending, sendBytes, datagram, sends, rfl, rfl⟩ := clientSend_eq_some stepped
  have imageSends := sends
  rw [refines.clients] at imageSends
  let after : UdpSystem ι := { image with
    clients := Function.update image.clients client sending
    requests := (client, datagram) :: image.requests }
  have imageStep : image.step (.clientSend client operandOne operandTwo OpCode) =
      some (after, .sent client sendBytes) := by
    rw [UdpSystem.step, UdpSystem.clientSend, imageSends]
    rfl
  refine Stepped.Matches.step imageStep ?_ (fun impossible => impossible.elim) rfl
  constructor
  case clients => simp [after, refines.clients]
  case requests => simp [after, refines.requests]
  case replies => exact refines.replies
  case declared =>
    intro other found member
    rcases List.mem_cons.mp member with new | old
    · cases new
      obtain ⟨-, -, decoded, bounded, declared, -⟩ := UdpClient.send_eq_some sends
      refine ⟨sendBytes, ?_, declared⟩
      rw [decoded]
      exact bounded
    · exact refines.declared other found old

theorem clientReceive (refines : Refines system image) {index : Nat} {typed : Vector Byte 4}
    (stepped : system.clientReceive index typed = some (next, event)) :
    Matched mayDuplicate image next event := by
  obtain ⟨_, _, _, printing, response, taken, received, rfl, rfl⟩ := clientReceive_eq_some stepped
  rw [refines.clients] at received
  rw [refines.replies, Channel.take_map, Option.map_eq_some_iff] at taken
  obtain ⟨⟨⟨client, imageReply⟩, imageReplies⟩, imageTaken, same⟩ := taken
  cases same
  let after : UdpSystem ι := { image with
    clients := Function.update image.clients client printing
    replies := imageReplies }
  have imageStep : image.step (.clientReceive index typed) =
      some (after, .printed client response.requestID response.result.theInt) := by
    rw [UdpSystem.step, UdpSystem.clientReceive, imageTaken, Option.bind_some]
    dsimp only
    rw [received]
    rfl
  refine Stepped.Matches.step imageStep ?_ (fun impossible => impossible.elim) rfl
  constructor
  case clients => simp [after, refines.clients]
  case requests => exact refines.requests
  case replies => rfl
  case declared => exact refines.declared

/-- A request that ends the server gets lost on the other side. -/
theorem serverReceive (refines : Refines system image) {index : Nat} {delivers : Bool}
    (stepped : system.serverReceive index delivers = some (next, event)) :
    Matched mayDuplicate image next event := by
  obtain ⟨client, datagram, requests, taken, -, rfl, outcome⟩ := serverReceive_eq_some stepped
  have inFlight := Channel.mem_of_take taken
  have fewer := Channel.subset_of_take taken
  have imageTaken := taken
  rw [refines.requests] at imageTaken
  rcases outcome with ⟨response, returned, rfl⟩ | ⟨raised, -, rfl⟩
  · obtain ⟨message, bounded, rfl⟩ := refines.declared client datagram inFlight
    obtain ⟨complete, formatted⟩ := formatResponse_of_serverStep returned
    obtain ⟨unassigned, same⟩ := exists_replyBytes formatted
    obtain ⟨server, served⟩ := servRunStep_message image.server message unassigned
      (whole_of_declaredPart bounded complete)
    rw [← complete] at served
    let after : UdpSystem ι := { image with
      server := server
      requests := requests
      replies := (client, replyBytes unassigned message) :: image.replies }
    have imageStep : image.step (.serverReceive index unassigned) = some (after, .silent) := by
      rw [UdpSystem.step, UdpSystem.serverReceive, imageTaken, Option.bind_some]
      dsimp only
      rw [served]
      rfl
    refine Stepped.Matches.step imageStep ?_ (fun impossible => impossible.elim) rfl
    constructor
    case clients => exact refines.clients
    case requests => rfl
    case replies => simp [after, carried, same, refines.replies]
    case declared => exact fun other found member => refines.declared other found (fewer member)
  · let after : UdpSystem ι := { image with requests := requests }
    have imageStep : image.step (.requestFault (.lose index)) = some (after, .silent) := by
      simp only [UdpSystem.step, Channel.fault, imageTaken, Option.map_some]
      rfl
    refine Stepped.Matches.step imageStep ?_ (fun impossible => impossible.elim) rfl
    constructor
    case clients => exact refines.clients
    case requests => rfl
    case replies => exact refines.replies
    case declared => exact fun other found member => refines.declared other found (fewer member)

theorem strangerSend (refines : Refines system image) {datagram : List Byte} {delivers : Bool}
    (stepped : system.strangerSend datagram delivers = some (next, event)) :
    Matched mayDuplicate image next event := by
  obtain ⟨-, rfl, ⟨response, -, rfl⟩ | ⟨raised, -, rfl⟩⟩ := strangerSend_eq_some stepped
  · exact Stepped.Matches.stay refines rfl
  · refine Stepped.Matches.stay ?_ rfl
    exact ⟨refines.clients, refines.requests, refines.replies, refines.declared⟩

theorem step (refines : Refines system image) {action : PythonUdpAction ι}
    (allowed : action.Duplicates → mayDuplicate)
    (stepped : system.step action = some (next, event)) :
    Matched mayDuplicate image next event := by
  cases action with
  | clientSend client operandOne operandTwo OpCode => exact refines.clientSend stepped
  | serverReceive index delivers => exact refines.serverReceive stepped
  | strangerSend datagram delivers => exact refines.strangerSend stepped
  | clientReceive index typed => exact refines.clientReceive stepped
  | requestFault what =>
      obtain ⟨requests, faulted, same⟩ := Option.map_eq_some_iff.mp stepped
      cases same
      have imageFaulted := faulted
      rw [refines.requests] at imageFaulted
      let after : UdpSystem ι := { image with requests := requests }
      have imageStep : image.step (.requestFault what) = some (after, .silent) := by
        rw [UdpSystem.step, imageFaulted, Option.map_some]
      refine Stepped.Matches.step imageStep ?_ ?_ rfl
      · refine ⟨refines.clients, rfl, refines.replies, ?_⟩
        exact fun other found member =>
          refines.declared other found (Channel.subset_of_fault faulted member)
      · cases what <;> exact allowed
  | replyFault what =>
      obtain ⟨replies, faulted, same⟩ := Option.map_eq_some_iff.mp stepped
      cases same
      rw [refines.replies, Channel.fault_map, Option.map_eq_some_iff] at faulted
      obtain ⟨imageReplies, imageFaulted, rfl⟩ := faulted
      let after : UdpSystem ι := { image with replies := imageReplies }
      have imageStep : image.step (.replyFault what) = some (after, .silent) := by
        rw [UdpSystem.step, imageFaulted, Option.map_some]
      refine Stepped.Matches.step imageStep ?_ ?_ rfl
      · exact ⟨refines.clients, refines.requests, rfl, refines.declared⟩
      · cases what <;> exact allowed

end Refines

variable [DecidableEq ι]

def simulation (mayDuplicate : Prop) :
    Stepped.Simulation (@PythonUdpSystem.step ι _) UdpSystem.step PythonUdpEvent.visible
      UdpEvent.visible (fun action => action.Duplicates → mayDuplicate)
      (fun action => action.Duplicates → mayDuplicate) where
  relates := Refines
  steps := fun refines allowed stepped => refines.step allowed stepped

omit [DecidableEq ι] in
theorem Refines.start (server : ReceiveMemory 8) (frames : ι → Vector FrameByte 3)
    (memories : ι → ReceiveMemory 7) :
    Refines (PythonUdpSystem.start frames memories) (UdpSystem.start server frames memories) where
  clients := rfl
  requests := rfl
  replies := rfl
  declared := fun _ _ impossible => by cases impossible

/-- What the clients did in a run, in order. -/
def clientEvents (trace : List (PythonUdpEvent ι)) : List (UdpEvent ι) :=
  trace.filterMap PythonUdpEvent.visible

/-- Every run with the Python server is for its clients a run with the server in C,
and the network duplicates nothing there if it duplicates nothing here. -/
theorem refines_of_run (server : ReceiveMemory 8) {frames : ι → Vector FrameByte 3}
    {memories : ι → ReceiveMemory 7} {actions : List (PythonUdpAction ι)}
    {final : PythonUdpSystem ι} {trace : List (PythonUdpEvent ι)}
    (ran : Stepped.run step (start frames memories) actions = some (final, trace)) :
    ∃ udpActions udpFinal udpTrace,
      Stepped.run UdpSystem.step (UdpSystem.start server frames memories) udpActions =
        some (udpFinal, udpTrace) ∧
      udpTrace.filterMap UdpEvent.visible = clientEvents trace ∧
      udpFinal.clients = final.clients ∧
      ((∀ action ∈ actions, ¬action.Duplicates) → ∀ action ∈ udpActions, ¬action.Duplicates) := by
  obtain ⟨udpActions, udpFinal, udpTrace, udpRan, refines, permitted, same⟩ :=
    (simulation (∃ action ∈ actions, action.Duplicates)).exists_run
      (Refines.start server frames memories)
      (fun action member duplicates => ⟨action, member, duplicates⟩) ran
  refine ⟨udpActions, udpFinal, udpTrace, udpRan, same, refines.clients.symm, ?_⟩
  intro once action member duplicates
  obtain ⟨other, otherMember, otherDuplicates⟩ := permitted action member duplicates
  exact once other otherMember otherDuplicates

/-- A client shifts by 40 bits, which C leaves undefined. -/
def largeCountActions : List (PythonUdpAction Unit) :=
  [.clientSend () 1 40 4, .serverReceive 0 true, .clientReceive 0 (storedInt 0)]

def largeCountTrace : List (PythonUdpEvent Unit) :=
  [.client (.sent () (clientMessage 1 4 1 40)), .handled (clientMessage 1 4 1 40).toList true,
    .client (.printed () 1 0)]

def largeCountStart : PythonUdpSystem Unit :=
  start (fun _ => ordinaryFrame)
    fun _ => ⟨Vector.replicate 100 1, Vector.replicate 7 2⟩

theorem run_largeCount :
    ∃ final, Stepped.run step largeCountStart largeCountActions =
      some (final, largeCountTrace) := by
  have emits : (Stepped.run step largeCountStart largeCountActions).map Prod.snd =
      some largeCountTrace := by
    decide +kernel
  obtain ⟨⟨final, trace⟩, completed, same⟩ := Option.map_eq_some_iff.mp emits
  cases same
  exact ⟨final, completed⟩

theorem refines_of_run_largeCount :
    ∃ (final : PythonUdpSystem Unit) (udpActions : List (UdpAction Unit))
      (udpFinal : UdpSystem Unit) (udpTrace : List (UdpEvent Unit)),
      Stepped.run step largeCountStart largeCountActions = some (final, largeCountTrace) ∧
      Stepped.run UdpSystem.step
        (UdpSystem.start ⟨Vector.replicate 100 1, Vector.replicate 8 2⟩
          (fun _ => ordinaryFrame)
          fun _ => ⟨Vector.replicate 100 1, Vector.replicate 7 2⟩) udpActions =
        some (udpFinal, udpTrace) ∧
      udpTrace.filterMap UdpEvent.visible = clientEvents largeCountTrace ∧
      udpFinal.clients = final.clients ∧
      ((∀ action ∈ largeCountActions, ¬action.Duplicates) →
        ∀ action ∈ udpActions, ¬action.Duplicates) := by
  obtain ⟨final, ran⟩ := run_largeCount
  obtain ⟨udpActions, udpFinal, udpTrace, udpRan, same, clients, once⟩ := refines_of_run _ ran
  exact ⟨final, udpActions, udpFinal, udpTrace, ran, udpRan, same, clients, once⟩

end PythonUdpSystem

end OpServer
