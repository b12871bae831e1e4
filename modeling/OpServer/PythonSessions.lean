import OpServer.CalcInteroperability
import OpServer.UdpInvariants

/-!
# Sessions of the Python client

The loop of `client` in `tcpclient.py` counts its requests with an integer that
grows without bound, and packs it into one byte.  `ClientUDP.c` counts in a byte
that wraps around.
-/

namespace OpServer

open Python SignedBits

/-- The variables of `client` that survive an iteration. -/
structure PythonClient where
  userContinue : Int
  requestID : Int
  deriving DecidableEq

/-- What the user types in an iteration, and what the server sends. -/
structure PythonExchange where
  operandOne : Int
  operandTwo : Int
  opCode : Int
  response : List Byte
  userContinue : Int

namespace PythonExchange

/-- Operands of 16 bits and an opcode of eight. -/
structure InRange (exchange : PythonExchange) : Prop where
  operandOne : -2 ^ 15 ≤ exchange.operandOne ∧ exchange.operandOne < 2 ^ 15
  operandTwo : -2 ^ 15 ≤ exchange.operandTwo ∧ exchange.operandTwo < 2 ^ 15
  opCode : 0 ≤ exchange.opCode ∧ exchange.opCode < 256

/-- The server sends a whole response, and the user wants to go on. -/
structure Continues (exchange : PythonExchange) : Prop extends InRange exchange where
  whole : 7 ≤ exchange.response.length
  again : exchange.userContinue = 1

end PythonExchange

namespace PythonClient

/-- The variables before the loop. -/
def start : PythonClient :=
  { userContinue := 1, requestID := 1 }

/-- The call of `format_request`. -/
def request (client : PythonClient) (exchange : PythonExchange) :
    Except PythonError (List Byte) :=
  formatRequest exchange.operandOne exchange.operandTwo exchange.opCode client.requestID

/-- The body of the loop, with the request it sends and the numbers it prints. -/
def iteration (client : PythonClient) (exchange : PythonExchange) :
    Except PythonError (PythonClient × List Byte × Int × Int) := do
  let request ← client.request exchange
  let printed ← clientResponse (exchange.response.take 7)
  return ({ userContinue := exchange.userContinue, requestID := client.requestID + 1 },
    request, printed)

/-- The loop goes on while the user wants it, up to the first exception. -/
def step (client : PythonClient) (exchange : PythonExchange) :
    Option (PythonClient × List Byte × Int × Int) :=
  if client.userContinue = 1 then
    match client.iteration exchange with
    | .ok finished => some finished
    | .error _ => none
  else none

/-! ## Requests -/

section Requests

variable {client : PythonClient} {exchange : PythonExchange}

theorem fits_of_formatRequest {operandOne operandTwo opCode requestID : Int} {bytes : List Byte}
    (formatted : formatRequest operandOne operandTwo opCode requestID = .ok bytes) :
    0 ≤ requestID ∧ requestID < 256 := by
  obtain ⟨_, -, rest⟩ := bind_eq_ok_iff.mp formatted
  obtain ⟨_, packed, -⟩ := bind_eq_ok_iff.mp rest
  exact (pack_eq_ok_iff.mp packed).1

/-- The counter is packed before the user's numbers. -/
theorem formatRequest_of_outgrown (operandOne operandTwo opCode : Int) {requestID : Int}
    (outgrown : 256 ≤ requestID) :
    formatRequest operandOne operandTwo opCode requestID = .error .structError := by
  have eight : pack .B 8 = .ok [8] := pack_B_toNat 8
  have outside : ¬Format.B.Fits requestID := fun fits => Int.not_lt_of_ge outgrown fits.2
  have unpacked : pack .B requestID = .error .structError := if_neg outside
  simp only [formatRequest, eight, unpacked, bind, Except.bind]

/-- The n-th request is that of `ClientUDP.c`, as long as n fits its byte. -/
theorem request_of_inRange (inRange : exchange.InRange) {n : Nat}
    (counter : client.requestID = n) :
    client.request exchange =
      if n ≤ 255 then
        .ok (clientMessage (BitVec.ofNat 8 n) (BitVec.ofInt 8 exchange.opCode)
          (BitVec.ofInt 16 exchange.operandOne) (BitVec.ofInt 16 exchange.operandTwo)).toList
      else .error .structError := by
  rw [request, counter]
  split
  · rename_i fits
    have operandOne : (BitVec.ofInt 16 exchange.operandOne).toInt = exchange.operandOne :=
      toInt_ofInt_of_range inRange.operandOne.1 inRange.operandOne.2
    have operandTwo : (BitVec.ofInt 16 exchange.operandTwo).toInt = exchange.operandTwo :=
      toInt_ofInt_of_range inRange.operandTwo.1 inRange.operandTwo.2
    have opCode : ((BitVec.ofInt 8 exchange.opCode).toNat : Int) = exchange.opCode := by
      have range := inRange.opCode
      rw [BitVec.toNat_ofInt]
      omega
    have requestID : (BitVec.ofNat 8 n).toNat = n := by
      rw [BitVec.toNat_ofNat]
      omega
    have words := formatRequest_words (BitVec.ofNat 8 n) (BitVec.ofInt 8 exchange.opCode)
      (BitVec.ofInt 16 exchange.operandOne) (BitVec.ofInt 16 exchange.operandTwo)
    rwa [operandOne, operandTwo, opCode, requestID] at words
  · exact formatRequest_of_outgrown _ _ _ (by omega)

end Requests

/-! ## Sessions -/

/-- The counter is one more than the number of requests before, and all of these
fitted its byte. -/
structure Counted (client : PythonClient) (outputs : List (List Byte × Int × Int)) : Prop where
  counter : client.requestID = outputs.length + 1
  fits : outputs.length ≤ 255

section Sessions

variable {client next : PythonClient} {exchange : PythonExchange} {sent : List Byte × Int × Int}
  {outputs : List (List Byte × Int × Int)}

theorem step_eq_some (stepped : client.step exchange = some (next, sent)) :
    client.request exchange = .ok sent.1 ∧ next.requestID = client.requestID + 1 := by
  unfold PythonClient.step at stepped
  split at stepped
  · cases finished : client.iteration exchange with
    | error raised =>
        rw [finished] at stepped
        cases stepped
    | ok result =>
        rw [finished] at stepped
        cases stepped
        unfold iteration at finished
        obtain ⟨request, formatted, rest⟩ := bind_eq_ok_iff.mp finished
        obtain ⟨printed, -, same⟩ := bind_eq_ok_iff.mp rest
        cases same
        exact ⟨formatted, rfl⟩
  · cases stepped

theorem clientResponse_of_whole {ourResponse : List Byte} (whole : ourResponse.length = 7) :
    ∃ printed, clientResponse ourResponse = .ok printed := by
  have length : (slice ourResponse 3 7).length = Format.i.size := by
    rw [slice_length, whole]
    rfl
  obtain ⟨responseValue, unpacked⟩ := exists_unpack_of_length length
  have second : ourResponse[1]? = some ourResponse[1] := List.getElem?_eq_getElem _
  refine ⟨(ourResponse[1].toNat, responseValue), ?_⟩
  simp only [clientResponse, item, second, unpack_B, unpacked, bind, Except.bind]
  rfl

/-- As long as its byte holds the counter, an ordinary iteration runs to its end. -/
theorem step_of_continues (continues : exchange.Continues) (running : client.userContinue = 1)
    {count : Nat} (counter : client.requestID = count) (fits : count ≤ 255) :
    ∃ sent, client.step exchange =
      some ({ userContinue := 1, requestID := client.requestID + 1 }, sent) := by
  obtain ⟨request, formatted⟩ : ∃ request, client.request exchange = .ok request := by
    rw [request_of_inRange continues.toInRange counter, if_pos fits]
    exact ⟨_, rfl⟩
  have whole : (exchange.response.take 7).length = 7 := by
    rw [List.length_take]
    exact Nat.min_eq_left continues.whole
  obtain ⟨printed, answered⟩ := clientResponse_of_whole whole
  refine ⟨(request, printed), ?_⟩
  unfold PythonClient.step iteration
  simp only [running, if_true, formatted, answered, continues.again, bind, Except.bind]
  rfl

theorem Counted.step (counted : client.Counted outputs)
    (stepped : client.step exchange = some (next, sent)) : next.Counted (outputs ++ [sent]) := by
  obtain ⟨formatted, counter⟩ := step_eq_some stepped
  have fits := fits_of_formatRequest formatted
  have before := counted.counter
  rw [before] at fits
  constructor
  case counter =>
    rw [counter, before, List.length_append]
    rfl
  case fits =>
    rw [List.length_append, List.length_singleton]
    omega

theorem counted_of_run {before : List PythonExchange}
    (completed : Stepped.run step start before = some (client, outputs)) :
    client.Counted outputs := by
  apply Stepped.run_trace_invariant _ _ (fun _ _ => trivial) completed
  · intro client outputs exchange next sent counted _ stepped
    exact counted.step stepped
  · exact ⟨rfl, Nat.zero_le 255⟩

theorem run_of_continues {before : List PythonExchange}
    (continues : ∀ earlier ∈ before, earlier.Continues) (running : client.userContinue = 1)
    {count : Nat} (counter : client.requestID = count) (fits : count + before.length ≤ 256) :
    ∃ final outputs, Stepped.run step client before = some (final, outputs) ∧
      final.userContinue = 1 := by
  induction before generalizing client count with
  | nil => exact ⟨client, [], rfl, running⟩
  | cons exchange before ih =>
      rw [List.length_cons] at fits
      obtain ⟨first, later⟩ := List.forall_mem_cons.mp continues
      obtain ⟨sent, stepped⟩ := step_of_continues first running counter (by omega)
      have counterNext : client.requestID + 1 = ((count + 1 : Nat) : Int) := by
        rw [counter]
        rfl
      have goesOn : PythonClient.userContinue ⟨1, client.requestID + 1⟩ = 1 := rfl
      obtain ⟨final, outputs, continued, ends⟩ := ih later goesOn counterNext (by omega)
      refine ⟨final, sent :: outputs, ?_, ends⟩
      rw [Stepped.run_cons_of_step stepped, continued]
      rfl

end Sessions

/-! ## Which iterations format their request -/

/-- After any iterations in which the server answers and the user goes on,
iteration `n` formats a request with its number modulo 256. -/
def FormatsIteration (n : Nat) : Prop :=
  ∀ (before : List PythonExchange) (exchange : PythonExchange), before.length + 1 = n →
    (∀ earlier ∈ before, earlier.Continues) → exchange.InRange →
      ∃ client outputs request, Stepped.run step start before = some (client, outputs) ∧
        client.userContinue = 1 ∧ client.request exchange = .ok request ∧
        request.length = 8 ∧ request[1]? = some (BitVec.ofNat 8 n)

theorem requestID_of_run {n : Nat} {client : PythonClient} {before : List PythonExchange}
    {outputs : List (List Byte × Int × Int)} (length : before.length + 1 = n)
    (completed : Stepped.run step start before = some (client, outputs)) :
    client.requestID = n ∧ n ≤ 256 := by
  have counted := counted_of_run completed
  have counter := counted.counter
  have fits := counted.fits
  rw [Stepped.run_length completed] at counter fits
  omega

theorem formatsIteration_of_fits {n : Nat} (fits : n ≤ 255) : FormatsIteration n := by
  intro before exchange length continues inRange
  have first : start.requestID = (1 : Nat) := rfl
  have room : 1 + before.length ≤ 256 := by omega
  obtain ⟨client, outputs, completed, running⟩ := run_of_continues continues rfl first room
  have counter := (requestID_of_run length completed).1
  have formatted := request_of_inRange inRange counter
  rw [if_pos fits] at formatted
  exact ⟨client, outputs, _, completed, running, formatted, rfl, rfl⟩

/-- `1 + 1`, answered by 2, again and again. -/
def onePlusOne : PythonExchange :=
  { operandOne := 1, operandTwo := 1, opCode := 0, response := [7, 1, 0, 0, 0, 0, 2],
    userContinue := 1 }

theorem onePlusOne_continues : onePlusOne.Continues where
  operandOne := by decide
  operandTwo := by decide
  opCode := by decide
  whole := by decide
  again := rfl

theorem replicate_continues (count : Nat) :
    ∀ earlier ∈ List.replicate count onePlusOne, earlier.Continues := by
  intro earlier member
  rw [List.eq_of_mem_replicate member]
  exact onePlusOne_continues

theorem fits_of_formatsIteration {n : Nat} (positive : 1 ≤ n) (formats : FormatsIteration n) :
    n ≤ 255 := by
  -- If a session comes to iteration `n` at all, its counter is `n` there.
  have length : (List.replicate (n - 1) onePlusOne).length + 1 = n := by
    rw [List.length_replicate]
    omega
  obtain ⟨client, _, _, completed, -, formatted, -⟩ :=
    formats _ onePlusOne length (replicate_continues _) onePlusOne_continues.toInRange
  have counter := (requestID_of_run length completed).1
  have range := fits_of_formatRequest formatted
  omega

end PythonClient

/-- The requests of `tcpclient.py` are numbered like those of `ClientUDP.c`, but
only 255 of them: no session has an iteration after the 256th, and that one raises
an exception instead of formatting its request. -/
theorem formatsIteration_iff {ι : Type*} [DecidableEq ι] (server : ReceiveMemory 8)
    (frames : ι → Vector FrameByte 3) (memories : ι → ReceiveMemory 7) {n : Nat}
    (positive : 1 ≤ n) :
    (PythonClient.FormatsIteration n ↔ n ≤ 255) ∧
    (∀ before client outputs, before.length + 1 = n →
      Stepped.run PythonClient.step PythonClient.start before = some (client, outputs) →
        n ≤ 256 ∧ ∀ exchange : PythonExchange, exchange.InRange →
          client.request exchange =
            if n ≤ 255 then
              .ok (clientMessage (BitVec.ofNat 8 n) (BitVec.ofInt 8 exchange.opCode)
                (BitVec.ofInt 16 exchange.operandOne)
                (BitVec.ofInt 16 exchange.operandTwo)).toList
            else .error .structError) ∧
    ∀ actions final trace client,
      Stepped.Guarded UdpSystem.step (UdpAction.KeepsRequestID client)
        (UdpSystem.start server frames memories) actions →
      Stepped.run UdpSystem.step (UdpSystem.start server frames memories) actions =
        some (final, trace) →
      ∀ message, (sentBy client trace)[n - 1]? = some message →
        (remakeRequest message).requestID = BitVec.ofNat 8 n := by
  refine ⟨⟨PythonClient.fits_of_formatsIteration positive,
    PythonClient.formatsIteration_of_fits⟩, ?_, ?_⟩
  · intro before client outputs length completed
    obtain ⟨counter, fits⟩ := PythonClient.requestID_of_run length completed
    exact ⟨fits, fun exchange inRange => PythonClient.request_of_inRange inRange counter⟩
  · intro actions final trace client keeps ran message nth
    have numbered := (UdpSystem.numbered_of_run keeps ran).numbered (n - 1) message nth
    rwa [Nat.sub_add_cancel positive] at numbered

theorem formatsIteration_iff_last :
    (PythonClient.FormatsIteration 255 ↔ 255 ≤ 255) ∧
    (∀ before client outputs, before.length + 1 = 255 →
      Stepped.run PythonClient.step PythonClient.start before = some (client, outputs) →
        255 ≤ 256 ∧ ∀ exchange : PythonExchange, exchange.InRange →
          client.request exchange =
            if 255 ≤ 255 then
              .ok (clientMessage (BitVec.ofNat 8 255) (BitVec.ofInt 8 exchange.opCode)
                (BitVec.ofInt 16 exchange.operandOne)
                (BitVec.ofInt 16 exchange.operandTwo)).toList
            else .error .structError) ∧
    ∀ actions final trace client,
      Stepped.Guarded UdpSystem.step (UdpAction.KeepsRequestID client)
        (UdpSystem.start ⟨Vector.replicate 100 0, Vector.replicate 8 0⟩
          (fun _ : Unit => #v[.free, .free, .free])
          fun _ => ⟨Vector.replicate 100 0, Vector.replicate 7 0⟩) actions →
      Stepped.run UdpSystem.step
        (UdpSystem.start ⟨Vector.replicate 100 0, Vector.replicate 8 0⟩
          (fun _ : Unit => #v[.free, .free, .free])
          fun _ => ⟨Vector.replicate 100 0, Vector.replicate 7 0⟩) actions =
        some (final, trace) →
      ∀ message, (sentBy client trace)[255 - 1]? = some message →
        (remakeRequest message).requestID = BitVec.ofNat 8 255 :=
  formatsIteration_iff _ _ _ (by decide)

/-- After 255 ordinary iterations, the user is asked for one more request, and
packing its number raises `struct.error`. -/
theorem session_ends_at_256 :
    (∃ client outputs, Stepped.run PythonClient.step PythonClient.start
        (List.replicate 255 PythonClient.onePlusOne) = some (client, outputs) ∧
      client.userContinue = 1 ∧
      client.request PythonClient.onePlusOne = .error .structError) ∧
    ¬PythonClient.FormatsIteration 256 := by
  constructor
  · have continues := PythonClient.replicate_continues 255
    have first : PythonClient.start.requestID = (1 : Nat) := rfl
    have length : (List.replicate 255 PythonClient.onePlusOne).length = 255 :=
      List.length_replicate
    obtain ⟨client, outputs, completed, running⟩ :=
      PythonClient.run_of_continues continues rfl first (by rw [length])
    have counter := (PythonClient.requestID_of_run (congrArg (· + 1) length) completed).1
    have formatted :=
      PythonClient.request_of_inRange PythonClient.onePlusOne_continues.toInRange counter
    exact ⟨client, outputs, completed, running, formatted⟩
  · intro formats
    have fits := PythonClient.fits_of_formatsIteration (by decide) formats
    exact absurd fits (by decide)

end OpServer
