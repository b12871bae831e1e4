import OpServer.CalcCodec
import OpServer.CalcOperations

/-!
# Evaluating a request

`calcResult` and `processRequest` of `ServerUDP.c` and `TCP-server.c`.  C does
not say what `theInt` holds when no case of the switch assigns it, nor when a
shift count lies outside `0..31`.  The evaluation of the switch is therefore
partial, and the functions around it take the value that `theInt` holds in
those two situations as an argument.
-/

namespace OpServer

open BigEndian SignedBits

@[match_pattern] abbrev ADDOP : Nat := 0
@[match_pattern] abbrev SUBOP : Nat := 1
@[match_pattern] abbrev OROP : Nat := 2
@[match_pattern] abbrev ANDOP : Nat := 3
@[match_pattern] abbrev RSOP : Nat := 4
@[match_pattern] abbrev LSOP : Nat := 5

/-- The count of an `int` shift, where C defines the shift. -/
def shiftCount (count : BitVec 32) : Option Nat :=
  if 0 ≤ count.toInt ∧ count.toInt ≤ 31 then some count.toInt.toNat else none

/-- The switch of `calcResult`: the value assigned to `theInt`, if C defines
one. -/
def calcTheInt (toProcess : Request) : Option (BitVec 32) :=
  let operandOne := toProcess.operandOne.theInt.signExtend 32
  let operandTwo := toProcess.operandTwo.theInt.signExtend 32
  match toProcess.opCode.toNat with
  | ADDOP => some (operandOne + operandTwo)
  | SUBOP => some (operandOne - operandTwo)
  | OROP => some (operandOne ||| operandTwo)
  | ANDOP => some (operandOne &&& operandTwo)
  | RSOP => (shiftCount operandTwo).map fun count => operandOne.sshiftRight count
  | LSOP => (shiftCount operandTwo).map fun count => operandOne <<< count
  | _ => none

def calcResult (unassigned : BitVec 32) (toProcess : Request) : Int32Store :=
  let theInt := (calcTheInt toProcess).getD unassigned
  { theInt := theInt, theBytes := getBytesFrom32 theInt }

def processRequest (unassigned : BitVec 32) (targetRequest : Vector Byte 8) : Response :=
  let currentRequest := remakeRequest targetRequest
  { TML := 7
    requestID := currentRequest.requestID
    errorCode := 0
    result := calcResult unassigned currentRequest }

/-- The seven bytes a server sends for eight request bytes. -/
def replyBytes (unassigned : BitVec 32) (targetRequest : Vector Byte 8) : Vector Byte 7 :=
  unloadResponse (processRequest unassigned targetRequest)

theorem processRequest_coherent (unassigned : BitVec 32) (targetRequest : Vector Byte 8) :
    (processRequest unassigned targetRequest).Coherent :=
  (int32Store_coherent_iff _).mpr rfl

theorem remakeResponse_replyBytes (unassigned : BitVec 32) (targetRequest : Vector Byte 8) :
    remakeResponse (replyBytes unassigned targetRequest) =
      processRequest unassigned targetRequest :=
  remakeResponse_unloadResponse (processRequest_coherent unassigned targetRequest)

theorem replyBytes_TML (unassigned : BitVec 32) (targetRequest : Vector Byte 8) :
    (remakeResponse (replyBytes unassigned targetRequest)).TML = 7 :=
  rfl

/-- A reply carries the request ID and the value of `theInt`, and nothing else
of the request. -/
theorem replyBytes_eq_iff (firstUnassigned secondUnassigned : BitVec 32)
    (first second : Vector Byte 8) :
    replyBytes firstUnassigned first = replyBytes secondUnassigned second ↔
      (remakeRequest first).requestID = (remakeRequest second).requestID ∧
        (calcTheInt (remakeRequest first)).getD firstUnassigned =
          (calcTheInt (remakeRequest second)).getD secondUnassigned := by
  constructor
  · intro equal
    have responses := congrArg remakeResponse equal
    rw [remakeResponse_replyBytes, remakeResponse_replyBytes] at responses
    exact ⟨congrArg Response.requestID responses,
      congrArg (fun response => response.result.theInt) responses⟩
  · rintro ⟨requestID, theInt⟩
    simp only [replyBytes, processRequest, calcResult, theInt, requestID]

/-! ## The switch against the operations -/

theorem shiftCount_signExtend (count : BitVec 16) :
    shiftCount (count.signExtend 32) =
      if 0 ≤ count.toInt ∧ count.toInt ≤ 31 then some count.toInt.toNat else none := by
  rw [shiftCount, BitVec.toInt_signExtend_of_le (by decide)]

theorem calcTheInt_isSome_iff_of_code {request : Request} {operation : Operation}
    (code : request.opCode = operation.code) :
    (calcTheInt request).isSome ↔
      operation.CountInRange request.operandTwo.theInt.toInt := by
  rw [calcTheInt, code, shiftCount_signExtend]
  cases operation <;> simp [Operation.code, Operation.CountInRange, Operation.IsShift]

theorem calcTheInt_eq_none {request : Request} (unknown : 5 < request.opCode.toNat) :
    calcTheInt request = none := by
  simp only [calcTheInt]
  split <;> first | rfl | omega

/-- The switch assigns a value exactly for the six opcodes, with a count in
range where the operation is a shift. -/
theorem calcTheInt_isSome_iff (request : Request) :
    (calcTheInt request).isSome ↔
      ∃ operation : Operation, request.opCode = operation.code ∧
        operation.CountInRange request.operandTwo.theInt.toInt := by
  constructor
  · intro assigned
    by_cases known : request.opCode.toNat ≤ 5
    · obtain ⟨operation, code⟩ := Operation.exists_code_of_le known
      exact ⟨operation, code, (calcTheInt_isSome_iff_of_code code).mp assigned⟩
    · rw [calcTheInt_eq_none (by omega)] at assigned
      cases assigned
  · rintro ⟨operation, code, inRange⟩
    exact (calcTheInt_isSome_iff_of_code code).mpr inRange

/-- Where the switch assigns a value, it is the exact result wrapped around at
32 bits. -/
theorem calcTheInt_toInt {request : Request} {operation : Operation}
    (code : request.opCode = operation.code)
    (inRange : operation.CountInRange request.operandTwo.theInt.toInt) :
    ∃ theInt, calcTheInt request = some theInt ∧
      theInt.toInt = (operation.exact request.operandOne.theInt.toInt
        request.operandTwo.theInt.toInt).bmod (2 ^ 32) := by
  have promoted (operand : BitVec 16) : (operand.signExtend 32).toInt = operand.toInt :=
    BitVec.toInt_signExtend_of_le (by decide)
  have wrapped (word : BitVec 32) : word.toInt = word.toInt.bmod (2 ^ 32) :=
    (BitVec.toInt_bmod_cancel word).symm
  simp only [calcTheInt, code, shiftCount_signExtend]
  cases operation with
  | add =>
      refine ⟨_, rfl, ?_⟩
      rw [BitVec.toInt_add, promoted, promoted, Operation.exact]
  | sub =>
      refine ⟨_, rfl, ?_⟩
      rw [BitVec.toInt_sub, promoted, promoted, Operation.exact]
  | or =>
      refine ⟨_, rfl, ?_⟩
      rw [wrapped, toInt_or_eq_lor, promoted, promoted, Operation.exact]
  | and =>
      refine ⟨_, rfl, ?_⟩
      rw [wrapped, toInt_and_eq_land, promoted, promoted, Operation.exact]
  | shiftRight =>
      rw [if_pos (inRange (Or.inl rfl))]
      refine ⟨_, rfl, ?_⟩
      rw [wrapped, toInt_sshiftRight_eq_div, promoted, Operation.exact]
  | shiftLeft =>
      rw [if_pos (inRange (Or.inr rfl))]
      refine ⟨_, rfl, ?_⟩
      rw [toInt_shiftLeft_eq_bmod, promoted, Operation.exact]

end OpServer
