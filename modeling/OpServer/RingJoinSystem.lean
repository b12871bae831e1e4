import OpServer.LossyChannel
import OpServer.RingJoins
import Mathlib.Logic.Function.Basic

/-!
# Slaves that join a master

Any number of slaves, each running `slave.py` or `slave.c`, and the accept thread
of one master.  A slave connects and sends a request, and `slave.py` does so
again as long as its user wants.  The master handles one connection after the
other, in any order, among them those of other programs.  What one `recv`
returns is any first part of what was sent.
-/

namespace OpServer

open Python

/-- `pack_request` of `slave.py` -/
def packRequest : Except PythonError (List Byte) := do
  let retBytes ← pack .B 15
  return retBytes ++ (← pack .H 0x1234)

/-- `makeRequest` of `slave.c` -/
def RingInfo.makeRequest : Vector Byte 3 :=
  let groupID : Byte := 15
  #v[groupID, 0x12, 0x34]

inductive SlaveProgram
  | python
  | c
  deriving DecidableEq

inductive SlaveTask
  | ready
  | waiting
  | ended
  deriving DecidableEq

/-- A process that joins from an address. -/
structure Slave where
  program : SlaveProgram
  address : IPv4
  task : SlaveTask

/-- The request that a slave sends. -/
def Slave.request (slave : Slave) : Except PythonError (List Byte) :=
  match slave.program with
  | .python => packRequest
  | .c => .ok RingInfo.makeRequest.toList

/-- What a slave does after `recv` has returned its response: `slave.py` asks its
user, unless it raised an exception, and `slave.c` has finished. -/
def Slave.afterResponse (slave : Slave) (response : List Byte) (userContinue : Int) : SlaveTask :=
  match slave.program with
  | .python =>
      match unpackReply response with
      | .ok _ => if userContinue = 1 then .ready else .ended
      | .error _ => .ended
  | .c => .ended

/-- The master and the slaves, with the requests of connections that wait for
`accept` and the responses on connections that the master has closed. -/
structure JoinSystem (σ : Type*) where
  master : Master
  accepting : Bool
  slaves : σ → Slave
  requests : List (σ × List Byte)
  responses : List (σ × List Byte)

inductive JoinAction (σ : Type*)
  | connect (slave : σ)
  | accept (index arrived : Nat) (delivers : Bool)
  | acceptOther (connection : Connection)
  | receive (index arrived : Nat) (userContinue : Int)

/-- The outcome of an iteration of the accept thread, or what a slave received. -/
inductive JoinEvent (σ : Type*)
  | handled (peer : IPv4) (outcome : Except PythonError (Option (List Byte)))
  | received (slave : σ) (response : List Byte)
  deriving DecidableEq

namespace JoinSystem

variable {σ : Type*}

/-- The accept thread of a master on the given host has started. -/
def start (lanIP : IPv4) (program : σ → SlaveProgram) (address : σ → IPv4) : JoinSystem σ where
  master := Master.start lanIP
  accepting := true
  slaves := fun slave => { program := program slave, address := address slave, task := .ready }
  requests := []
  responses := []

/-- An iteration of `accept_joins`.  It ends the thread if it raises. -/
def acceptJoin (system : JoinSystem σ) (connection : Connection) :
    JoinSystem σ × Except PythonError (Option (List Byte)) :=
  let handled := system.master.acceptJoin connection
  ({ system with
      master := handled.1
      accepting := match handled.2 with
        | .ok _ => true
        | .error _ => false },
    handled.2)

/-- The bytes that a connection carries back. -/
def responseBytes : Except PythonError (Option (List Byte)) → List Byte
  | .ok (some response) => response
  | _ => []

variable [DecidableEq σ]

def turn (system : JoinSystem σ) (slave : σ) (task : SlaveTask) : JoinSystem σ :=
  { system with
    slaves := Function.update system.slaves slave { system.slaves slave with task := task } }

def step (system : JoinSystem σ) :
    JoinAction σ → Option (JoinSystem σ × Option (JoinEvent σ))
  | .connect slave =>
      match (system.slaves slave).task, (system.slaves slave).request with
      | .ready, .ok request =>
          some ({ system.turn slave .waiting with
            requests := (slave, request) :: system.requests }, none)
      | _, _ => none
  | .accept index arrived delivers =>
      (Channel.take system.requests index).bind fun ((slave, request), rest) =>
        if system.accepting then
          let peer := (system.slaves slave).address
          let (next, outcome) := system.acceptJoin ⟨request.take arrived, peer, delivers⟩
          some ({ next with
            requests := rest
            responses := (slave, responseBytes outcome) :: system.responses },
            some (.handled peer outcome))
        else none
  | .acceptOther connection =>
      if system.accepting then
        let (next, outcome) := system.acceptJoin connection
        some (next, some (.handled connection.peer outcome))
      else none
  | .receive index arrived userContinue =>
      (Channel.take system.responses index).bind fun ((slave, response), rest) =>
        if (system.slaves slave).task = .waiting then
          let response := (response.take arrived).take 8
          let task := (system.slaves slave).afterResponse response userContinue
          some ({ system.turn slave task with responses := rest },
            some (.received slave response))
        else none

end JoinSystem

/-! ## Requests -/

theorem Slave.request_eq (slave : Slave) : slave.request = .ok [15, 0x12, 0x34] := by
  have group : pack .B 15 = .ok [15] := pack_B_toNat 15
  have magic : pack .H 0x1234 = .ok [0x12, 0x34] := by decide
  cases program : slave.program with
  | python =>
      simp only [request, program, packRequest, group, magic, bind, Except.bind]
      rfl
  | c =>
      simp only [request, program]
      rfl

theorem isValid_request_iff (arrived : Nat) (peer : IPv4) (delivers : Bool) :
    Connection.IsValid ⟨([15, 0x12, 0x34] : List Byte).take arrived, peer, delivers⟩ ↔
      3 ≤ arrived := by
  constructor
  · intro valid
    have enough := valid.enough
    rw [List.length_take] at enough
    omega
  · intro enough
    rw [List.take_of_length_le (show ([15, 0x12, 0x34] : List Byte).length ≤ arrived from enough)]
    rfl

/-! ## Responses -/

theorem length_of_unpackReply {rawResponse : List Byte} {decoded : Int × Int × Int × IPv4}
    (unpacked : unpackReply rawResponse = .ok decoded) : 8 ≤ rawResponse.length := by
  obtain ⟨_, -, unpacked⟩ := bind_eq_ok_iff.mp unpacked
  obtain ⟨_, -, unpacked⟩ := bind_eq_ok_iff.mp unpacked
  obtain ⟨_, -, unpacked⟩ := bind_eq_ok_iff.mp unpacked
  obtain ⟨_, -, unpacked⟩ := bind_eq_ok_iff.mp unpacked
  obtain ⟨_, -, unpacked⟩ := bind_eq_ok_iff.mp unpacked
  obtain ⟨_, address, -⟩ := bind_eq_ok_iff.mp unpacked
  unfold inetNtoa at address
  split at address
  · rename_i complete
    rw [slice_length] at complete
    omega
  · cases address

/-! ## What the steps can do -/

namespace JoinSystem

variable {σ : Type*} [DecidableEq σ] {system next : JoinSystem σ} {event : Option (JoinEvent σ)}

theorem step_connect {slave : σ} (stepped : system.step (.connect slave) = some (next, event)) :
    (system.slaves slave).task = .ready ∧ event = none ∧
      next = { system.turn slave .waiting with
        requests := (slave, [15, 0x12, 0x34]) :: system.requests } := by
  dsimp only [step] at stepped
  rw [Slave.request_eq] at stepped
  cases task : (system.slaves slave).task with
  | ready =>
      simp only [task] at stepped
      cases stepped
      exact ⟨rfl, rfl, rfl⟩
  | waiting =>
      simp only [task] at stepped
      cases stepped
  | ended =>
      simp only [task] at stepped
      cases stepped

theorem step_accept {index arrived : Nat} {delivers : Bool}
    (stepped : system.step (.accept index arrived delivers) = some (next, event)) :
    ∃ slave request rest, Channel.take system.requests index = some ((slave, request), rest) ∧
      system.accepting = true ∧
      let handled := system.acceptJoin
        ⟨request.take arrived, (system.slaves slave).address, delivers⟩
      event = some (.handled (system.slaves slave).address handled.2) ∧
        next = { handled.1 with
          requests := rest
          responses := (slave, responseBytes handled.2) :: system.responses } := by
  obtain ⟨⟨⟨slave, request⟩, rest⟩, taken, stepped⟩ := Option.bind_eq_some_iff.mp stepped
  refine ⟨slave, request, rest, taken, ?_⟩
  dsimp only at stepped
  split at stepped
  · rename_i accepting
    cases stepped
    exact ⟨accepting, rfl, rfl⟩
  · cases stepped

theorem step_acceptOther {connection : Connection}
    (stepped : system.step (.acceptOther connection) = some (next, event)) :
    system.accepting = true ∧ next = (system.acceptJoin connection).1 ∧
      event = some (.handled connection.peer (system.acceptJoin connection).2) := by
  dsimp only [step] at stepped
  split at stepped
  · rename_i accepting
    cases stepped
    exact ⟨accepting, rfl, rfl⟩
  · cases stepped

theorem step_receive {index arrived : Nat} {userContinue : Int}
    (stepped : system.step (.receive index arrived userContinue) = some (next, event)) :
    ∃ slave response rest,
      Channel.take system.responses index = some ((slave, response), rest) ∧
      (system.slaves slave).task = .waiting ∧
      let received := (response.take arrived).take 8
      event = some (.received slave received) ∧
      next = { system.turn slave ((system.slaves slave).afterResponse received userContinue) with
        responses := rest } := by
  obtain ⟨⟨⟨slave, response⟩, rest⟩, taken, stepped⟩ := Option.bind_eq_some_iff.mp stepped
  dsimp only at stepped
  split at stepped
  · rename_i waiting
    cases stepped
    exact ⟨slave, response, rest, taken, waiting, rfl, rfl⟩
  · cases stepped

end JoinSystem

end OpServer
