import OpServer.UdpSystem

/-!
# Where a UDP client sends its requests

`clientRun` of `ClientUDP.c` sends every request to `p->ai_addr`, and passes
the same pointer to `recvfrom`, which stores the address of a datagram's sender
there.  A session below is one client with datagrams arriving from anywhere.
It determines in which sessions all requests go to the address that
`getaddrinfo` returned.
-/

namespace OpServer

/-- An entry of the list that `getaddrinfo` returns, and whether `socket`
succeeds for it. -/
structure AddrInfo (α : Type*) where
  aiAddr : α
  opens : Bool

/-- The loop over `servinfo`, which stops at the first entry that has a
socket. -/
def selectAddress {α : Type*} : List (AddrInfo α) → Option α
  | [] => none
  | p :: servinfo => if p.opens then some p.aiAddr else selectAddress servinfo

/-- A running `clientRun` with the address behind `p->ai_addr`. -/
structure ClientSession (α : Type*) extends UdpClient where
  aiAddr : α

inductive ClientAction (α : Type*)
  | send (operandOne operandTwo : BitVec 16) (OpCode : Byte)
  | receive (source : α) (data : List Byte) (typed : Vector Byte 4)

inductive ClientEvent (α : Type*)
  | sentTo (destination : α) (message : Vector Byte 8)
  | printed (requestID : Byte) (theInt : BitVec 32)
  deriving DecidableEq

namespace ClientSession

variable {α : Type*}

def start (aiAddr : α) (frame : Vector FrameByte 3) (memory : ReceiveMemory 7) :
    ClientSession α where
  toUdpClient := UdpClient.start frame memory
  aiAddr := aiAddr

/-- An iteration of `clientRun` up to `sendto`. -/
def send (session : ClientSession α) (operandOne operandTwo : BitVec 16) (OpCode : Byte) :
    Option (ClientSession α × ClientEvent α) :=
  (session.toUdpClient.send operandOne operandTwo OpCode).map fun (sending, sendBytes, _) =>
    ({ session with toUdpClient := sending }, .sentTo session.aiAddr sendBytes)

/-- The rest of the iteration, from `recvfrom`, which writes to `p->ai_addr`. -/
def receive (session : ClientSession α) (source : α) (data : List Byte) (typed : Vector Byte 4) :
    Option (ClientSession α × ClientEvent α) :=
  (session.toUdpClient.receive data typed).map fun (printing, response) =>
    ({ toUdpClient := printing, aiAddr := source },
      .printed response.requestID response.result.theInt)

def step (session : ClientSession α) : ClientAction α → Option (ClientSession α × ClientEvent α)
  | .send operandOne operandTwo OpCode => session.send operandOne operandTwo OpCode
  | .receive source data typed => session.receive source data typed

/-- `clientRun` with the list that `getaddrinfo` returned, up to some point. -/
def clientRun (servinfo : List (AddrInfo α)) (frame : Vector FrameByte 3)
    (memory : ReceiveMemory 7) (actions : List (ClientAction α)) :
    Option (ClientSession α × List (ClientEvent α)) :=
  (selectAddress servinfo).bind fun aiAddr =>
    Stepped.run step (start aiAddr frame memory) actions

/-! ## What a step does to the address -/

theorem send_eq_some {session next : ClientSession α} {operandOne operandTwo : BitVec 16}
    {OpCode : Byte} {event : ClientEvent α}
    (sent : session.send operandOne operandTwo OpCode = some (next, event)) :
    ∃ sending sendBytes datagram,
      session.toUdpClient.send operandOne operandTwo OpCode =
        some (sending, sendBytes, datagram) ∧
      next = { session with toUdpClient := sending } ∧
      event = .sentTo session.aiAddr sendBytes := by
  obtain ⟨⟨sending, sendBytes, datagram⟩, sends, same⟩ := Option.map_eq_some_iff.mp sent
  obtain ⟨rfl, rfl⟩ := Prod.mk.inj same
  exact ⟨sending, sendBytes, datagram, sends, rfl, rfl⟩

/-- A received datagram replaces the address by its own source. -/
theorem receive_eq_some {session next : ClientSession α} {source : α} {data : List Byte}
    {typed : Vector Byte 4} {event : ClientEvent α}
    (received : session.receive source data typed = some (next, event)) :
    ∃ printing response,
      session.toUdpClient.receive data typed = some (printing, response) ∧
      next = { toUdpClient := printing, aiAddr := source } ∧
      event = .printed response.requestID response.result.theInt := by
  obtain ⟨⟨printing, response⟩, receives, same⟩ := Option.map_eq_some_iff.mp received
  obtain ⟨rfl, rfl⟩ := Prod.mk.inj same
  exact ⟨printing, response, receives, rfl, rfl⟩

theorem exists_send_of_step {session next : ClientSession α} {action : ClientAction α}
    {event : ClientEvent α} (idle : session.waiting = false)
    (stepped : session.step action = some (next, event)) :
    ∃ message, event = .sentTo session.aiAddr message := by
  cases action with
  | send operandOne operandTwo OpCode =>
      obtain ⟨sending, sendBytes, datagram, -, -, rfl⟩ := send_eq_some stepped
      exact ⟨sendBytes, rfl⟩
  | receive source data typed =>
      obtain ⟨printing, response, receives, -, -⟩ := receive_eq_some stepped
      obtain ⟨memory, waiting, -⟩ := UdpClient.receive_eq_some receives
      rw [idle] at waiting
      cases waiting

/-! ## A session among other clients -/

variable {ι : Type*} [DecidableEq ι] {system : UdpSystem ι} {client : ι}
  {session next : ClientSession α}

theorem clientSend_of_send (models : system.clients client = session.toUdpClient)
    {operandOne operandTwo : BitVec 16} {OpCode : Byte} {destination : α}
    {message : Vector Byte 8}
    (sent : session.send operandOne operandTwo OpCode =
      some (next, .sentTo destination message)) :
    ∃ after, system.clientSend client operandOne operandTwo OpCode =
        some (after, .sent client message) ∧ after.clients client = next.toUdpClient := by
  obtain ⟨sending, sendBytes, datagram, sends, rfl, same⟩ := send_eq_some sent
  cases same
  rw [UdpSystem.clientSend, models, sends]
  exact ⟨_, rfl, Function.update_self _ _ _⟩

theorem clientReceive_of_receive (models : system.clients client = session.toUdpClient)
    {index : Nat} {packet : Vector Byte 7} {rest : List (ι × Vector Byte 7)}
    (taken : Channel.take system.replies index = some ((client, packet), rest)) {source : α}
    {typed : Vector Byte 4} {requestID : Byte} {theInt : BitVec 32}
    (received : session.receive source packet.toList typed =
      some (next, .printed requestID theInt)) :
    ∃ after, system.clientReceive index typed = some (after, .printed client requestID theInt) ∧
      after.clients client = next.toUdpClient := by
  obtain ⟨printing, response, receives, rfl, same⟩ := receive_eq_some received
  cases same
  rw [UdpSystem.clientReceive, taken, Option.bind_some]
  dsimp only
  rw [models, receives]
  exact ⟨_, rfl, Function.update_self _ _ _⟩

end ClientSession

variable {α : Type*}

/-- All requests go to one address. -/
def SendsOnlyTo (address : α) (trace : List (ClientEvent α)) : Prop :=
  ∀ destination message, ClientEvent.sentTo destination message ∈ trace → destination = address

/-- Every datagram that something follows came from one address. -/
def HearsOnlyFrom (address : α) (actions : List (ClientAction α)) : Prop :=
  ∀ before source data typed after, actions = before ++ .receive source data typed :: after →
    after ≠ [] → source = address

theorem sendsOnlyTo_cons_sentTo (address destination : α) (message : Vector Byte 8)
    (trace : List (ClientEvent α)) :
    SendsOnlyTo address (.sentTo destination message :: trace) ↔
      destination = address ∧ SendsOnlyTo address trace := by
  constructor
  · intro only
    exact ⟨only destination message (by simp),
      fun other later member => only other later (by simp [member])⟩
  · rintro ⟨here, only⟩ other later member
    rcases List.mem_cons.mp member with same | member
    · cases same
      exact here
    · exact only other later member

theorem sendsOnlyTo_cons_printed (address : α) (requestID : Byte) (theInt : BitVec 32)
    (trace : List (ClientEvent α)) :
    SendsOnlyTo address (.printed requestID theInt :: trace) ↔ SendsOnlyTo address trace := by
  simp [SendsOnlyTo]

theorem hearsOnlyFrom_cons_send (address : α) (operandOne operandTwo : BitVec 16)
    (OpCode : Byte) (actions : List (ClientAction α)) :
    HearsOnlyFrom address (.send operandOne operandTwo OpCode :: actions) ↔
      HearsOnlyFrom address actions := by
  constructor
  · intro only before source data typed after split followed
    exact only (_ :: before) source data typed after (by rw [split]; rfl) followed
  · intro only before source data typed after split followed
    cases before with
    | nil => cases split
    | cons first before =>
        exact only before source data typed after (List.cons.inj split).2 followed

theorem hearsOnlyFrom_cons_receive (address source : α) (data : List Byte)
    (typed : Vector Byte 4) (actions : List (ClientAction α)) :
    HearsOnlyFrom address (.receive source data typed :: actions) ↔
      (actions ≠ [] → source = address) ∧ HearsOnlyFrom address actions := by
  constructor
  · intro only
    refine ⟨only [] source data typed actions rfl, ?_⟩
    intro before other later answer after split followed
    exact only (_ :: before) other later answer after (by rw [split]; rfl) followed
  · rintro ⟨here, only⟩ before other later answer after split followed
    cases before with
    | nil =>
        cases split
        exact here followed
    | cons first before =>
        exact only before other later answer after (List.cons.inj split).2 followed

/-- From a session that holds the right address, the requests keep to it as
long as only its datagrams are followed by another request. -/
theorem sendsOnlyTo_iff_of_session {address : α} {session final : ClientSession α}
    (holds : session.aiAddr = address) {actions : List (ClientAction α)}
    {trace : List (ClientEvent α)}
    (ran : Stepped.run ClientSession.step session actions = some (final, trace)) :
    SendsOnlyTo address trace ↔ HearsOnlyFrom address actions := by
  induction actions generalizing session trace with
  | nil =>
      rw [Stepped.run_nil] at ran
      cases ran
      simp [SendsOnlyTo, HearsOnlyFrom]
  | cons action actions ih =>
      obtain ⟨next, event, rest, stepped, continued, rfl⟩ := Stepped.run_cons_eq_some ran
      cases action with
      | send operandOne operandTwo OpCode =>
          obtain ⟨sending, sendBytes, datagram, -, rfl, rfl⟩ :=
            ClientSession.send_eq_some stepped
          have kept : ({ session with toUdpClient := sending } : ClientSession α).aiAddr =
              address := holds
          rw [sendsOnlyTo_cons_sentTo, hearsOnlyFrom_cons_send, ih kept continued]
          exact and_iff_right holds
      | receive source data typed =>
          obtain ⟨printing, response, receives, rfl, rfl⟩ :=
            ClientSession.receive_eq_some stepped
          rw [sendsOnlyTo_cons_printed, hearsOnlyFrom_cons_receive]
          cases actions with
          | nil =>
              -- The session ends with this datagram, so its source is never used.
              rw [Stepped.run_nil] at continued
              cases continued
              simp [SendsOnlyTo, HearsOnlyFrom]
          | cons following actions =>
              by_cases same : source = address
              · rw [ih same continued]
                exact (and_iff_right fun _ => same).symm
              · obtain ⟨_, last, later, steppedAgain, -, rfl⟩ :=
                  Stepped.run_cons_eq_some continued
                have idle : printing.waiting = false := by
                  obtain ⟨memory, -, -, rfl⟩ := UdpClient.receive_eq_some receives
                  simp
                obtain ⟨message, rfl⟩ := ClientSession.exists_send_of_step idle steppedAgain
                rw [sendsOnlyTo_cons_sentTo]
                exact iff_of_false (fun only => same only.1)
                  (fun only => same (only.1 (by simp)))

/-- In every run, the requests all go to the selected address exactly if no
datagram from elsewhere is followed by another request. -/
theorem requests_keep_destination_iff {servinfo : List (AddrInfo α)} {address : α}
    (selected : selectAddress servinfo = some address) {frame : Vector FrameByte 3}
    {memory : ReceiveMemory 7}
    {actions : List (ClientAction α)} {final : ClientSession α} {trace : List (ClientEvent α)}
    (ran : ClientSession.clientRun servinfo frame memory actions = some (final, trace)) :
    SendsOnlyTo address trace ↔ HearsOnlyFrom address actions := by
  rw [ClientSession.clientRun, selected, Option.bind_some] at ran
  exact sendsOnlyTo_iff_of_session rfl ran

theorem requests_keep_destination_iff_second_entry :
    ∃ final trace, ClientSession.clientRun [⟨3, false⟩, ⟨1, true⟩] #v[.free, .free, .free]
        ⟨Vector.replicate 100 0, Vector.replicate 7 0⟩
        [.send 1 1 0, .receive 1 [7, 1, 0, 0, 0, 0, 2] (storedInt 1), .send 5 3 1] =
          some (final, trace) ∧
      (SendsOnlyTo 1 trace ↔ HearsOnlyFrom 1
        [.send 1 1 0, .receive 1 [7, 1, 0, 0, 0, 0, 2] (storedInt 1), .send 5 3 1]) := by
  have completes : (ClientSession.clientRun [⟨3, false⟩, ⟨1, true⟩] #v[.free, .free, .free]
      ⟨Vector.replicate 100 0, Vector.replicate 7 0⟩
      [.send 1 1 0, .receive 1 [7, 1, 0, 0, 0, 0, 2] (storedInt 1), .send 5 3 1]).isSome := by
    decide
  obtain ⟨⟨final, trace⟩, ran⟩ := Option.isSome_iff_exists.mp completes
  exact ⟨final, trace, ran, requests_keep_destination_iff rfl ran⟩

/-- A datagram from address 2 turns the next request of a client of the server
at address 1 to address 2. -/
theorem foreign_datagram_redirects :
    ∃ final trace, ClientSession.clientRun [⟨1, true⟩] #v[.free, .free, .free]
        ⟨Vector.replicate 100 0, Vector.replicate 7 0⟩
        [.send 1 1 0, .receive 2 [7, 1, 0, 0, 0, 0, 2] (storedInt 1), .send 5 3 1] =
          some (final, trace) ∧
      .sentTo 2 (clientMessage 2 1 5 3) ∈ trace ∧ ¬SendsOnlyTo 1 trace := by
  have redirected : (ClientSession.clientRun [⟨1, true⟩] #v[.free, .free, .free]
      ⟨Vector.replicate 100 0, Vector.replicate 7 0⟩
      [.send 1 1 0, .receive 2 [7, 1, 0, 0, 0, 0, 2] (storedInt 1), .send 5 3 1]).map Prod.snd =
      some [.sentTo 1 (clientMessage 1 0 1 1), .printed 1 2,
        .sentTo 2 (clientMessage 2 1 5 3)] := by
    decide
  obtain ⟨⟨final, trace⟩, ran, rfl⟩ := Option.map_eq_some_iff.mp redirected
  refine ⟨final, _, ran, by simp, fun only => ?_⟩
  exact absurd (only 2 (clientMessage 2 1 5 3) (by simp)) (by decide)

end OpServer
