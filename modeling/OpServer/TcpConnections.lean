import OpServer.ReceiveLoops

/-!
# The ends of a TCP connection

`TCP-server.c` tests what `recv` returns for -1 only.  When the client has
closed the connection, it evaluates the contents of its buffer again and again.
`TCP-client.c` takes what one `recv` returns for a whole response, although the
rest may still be on its way.
-/

namespace OpServer

open Buffer

/-! ## The server after the end of the stream -/

/-- What `recv` returns: -1, or the bytes received, none of them after the client has
closed the connection.  An unassigned `theInt` holds some value in this iteration. -/
inductive RecvResult
  | failed
  | returned (data : List Byte) (unassigned : BitVec 32)
  deriving DecidableEq

/-- The server's process on a connection. -/
structure TcpConnection where
  memory : ReceiveMemory 8
  running : Bool

namespace TcpConnection

/-- An iteration of the per-connection loop, with the response that it passes to `send`.
The process exits where `recv` fails. -/
def step (connection : TcpConnection) (result : RecvResult) :
    Option (TcpConnection × Option (Vector Byte 7)) :=
  if connection.running then
    match result with
    | .failed => some ({ connection with running := false }, none)
    | .returned data unassigned =>
        (connectionStep connection.memory ⟨data, unassigned⟩).map fun (memory, response) =>
          ({ connection with memory := memory }, some response)
  else none

variable {connection next final : TcpConnection} {results : List RecvResult}
  {responses : List (Option (Vector Byte 7))} {response : Option (Vector Byte 7)}

theorem step_failed (stepped : connection.step .failed = some (next, response)) :
    response = none := by
  unfold step at stepped
  split at stepped
  · cases stepped
    rfl
  · cases stepped

theorem step_returned {data : List Byte} {unassigned : BitVec 32}
    (stepped : connection.step (.returned data unassigned) = some (next, response)) :
    next.running = true ∧ receive connection.memory data = some next.memory ∧
      response = some (replyBytes unassigned next.memory.recBytes) := by
  unfold step at stepped
  split at stepped
  · rename_i running
    obtain ⟨⟨memory, sent⟩, handled, same⟩ := Option.map_eq_some_iff.mp stepped
    obtain ⟨received, receives, handled⟩ := Option.map_eq_some_iff.mp handled
    cases same
    cases handled
    exact ⟨running, receives, rfl⟩
  · cases stepped

/-- On a closed connection the server evaluates `recBytes` over and over. -/
theorem run_closed (running : connection.running = true)
    (settled : receive connection.memory [] = some connection.memory)
    (unassigned : List (BitVec 32)) :
    Stepped.run step connection (unassigned.map (.returned [])) =
      some (connection, unassigned.map fun value =>
        some (replyBytes value connection.memory.recBytes)) := by
  induction unassigned with
  | nil => rfl
  | cons value unassigned ih =>
      have again : connection.step (.returned [] value) =
          some (connection, some (replyBytes value connection.memory.recBytes)) := by
        rw [step, if_pos running, connectionStep, settled]
        rfl
      rw [List.map_cons, Stepped.run_cons_of_step again, ih]
      rfl

/-- Whatever was received before, the server goes on with the evaluation of the same
bytes when the client has closed the connection. -/
theorem closed_connection_repeats {before after : List RecvResult} {data : List Byte}
    {first : BitVec 32} {unassigned : List (BitVec 32)}
    (completed : Stepped.run step connection
      (before ++ .returned data first :: (unassigned.map (.returned []) ++ after)) =
        some (final, responses)) :
    ∃ recBytes earlier later, earlier.length = before.length ∧
      responses = earlier ++ ((first :: unassigned).map fun value =>
        some (replyBytes value recBytes)) ++ later := by
  obtain ⟨middle, earlier, _, reached, continued, rfl⟩ :=
    Stepped.run_append_eq_some_iff.mp completed
  obtain ⟨reading, response, _, stepped, following, rfl⟩ := Stepped.run_cons_eq_some continued
  obtain ⟨running, received, rfl⟩ := step_returned stepped
  obtain ⟨_, repeated, later, closed, -, rfl⟩ := Stepped.run_append_eq_some_iff.mp following
  rw [run_closed running (receive_nil_of_receive received), Option.some.injEq,
    Prod.mk.injEq] at closed
  obtain ⟨rfl, rfl⟩ := closed
  exact ⟨reading.memory.recBytes, earlier, later, Stepped.run_length reached, by simp⟩

/-- Once a `recv` has returned 0, no response is sent. -/
def NoReplyAfterClose (results : List RecvResult) (responses : List (Option (Vector Byte 7))) :
    Prop :=
  ∀ (closed index : Nat) (unassigned : BitVec 32),
    results[closed]? = some (.returned [] unassigned) → closed ≤ index →
    ∀ response, responses[index]? ≠ some (some response)

/-- A response is sent only in an iteration that receives bytes. -/
def RepliesToBytes (results : List RecvResult) (responses : List (Option (Vector Byte 7))) :
    Prop :=
  ∀ (index : Nat) (response : Vector Byte 7), responses[index]? = some (some response) →
    ∃ data unassigned, results[index]? = some (.returned data unassigned) ∧ data ≠ []

theorem exists_response_of_closed
    (completed : Stepped.run step connection results = some (final, responses)) {index : Nat}
    {unassigned : BitVec 32} (closed : results[index]? = some (.returned [] unassigned)) :
    ∃ response, responses[index]? = some (some response) := by
  obtain ⟨reached, next, response, stepped, sent⟩ :=
    Stepped.exists_step_of_getElem? completed closed
  obtain ⟨-, -, rfl⟩ := step_returned stepped
  exact ⟨_, sent⟩

theorem noReplyAfterClose_iff
    (completed : Stepped.run step connection results = some (final, responses)) :
    NoReplyAfterClose results responses ↔ ∀ unassigned, .returned [] unassigned ∉ results := by
  constructor
  · intro silent unassigned member
    obtain ⟨index, closed⟩ := List.mem_iff_getElem?.mp member
    obtain ⟨response, sent⟩ := exists_response_of_closed completed closed
    exact silent index index unassigned closed (Nat.le_refl _) response sent
  · intro unclosed closed index unassigned found
    exact absurd (List.mem_of_getElem? found) (unclosed unassigned)

theorem repliesToBytes_iff
    (completed : Stepped.run step connection results = some (final, responses)) :
    RepliesToBytes results responses ↔ ∀ unassigned, .returned [] unassigned ∉ results := by
  constructor
  · intro caused unassigned member
    obtain ⟨index, closed⟩ := List.mem_iff_getElem?.mp member
    obtain ⟨response, sent⟩ := exists_response_of_closed completed closed
    obtain ⟨data, value, found, nonempty⟩ := caused index response sent
    rw [closed, Option.some.injEq, RecvResult.returned.injEq] at found
    exact nonempty found.1.symm
  · intro unclosed index response sent
    obtain ⟨inside, -⟩ := List.getElem?_eq_some_iff.mp sent
    rw [Stepped.run_length completed] at inside
    have found := List.getElem?_eq_getElem inside
    obtain ⟨reached, next, output, stepped, same⟩ :=
      Stepped.exists_step_of_getElem? completed found
    rw [sent, Option.some.injEq] at same
    subst same
    cases result : results[index] with
    | failed =>
        rw [result] at stepped
        cases step_failed stepped
    | returned data unassigned =>
        rw [result] at found
        refine ⟨data, unassigned, found, ?_⟩
        rintro rfl
        exact unclosed unassigned (List.mem_of_getElem? found)

/-- The server is silent after the end of a connection, and answers nothing but received
bytes, exactly if the connection does not end.  Where it does, every further `recv` has
the last response sent again. -/
theorem no_reply_after_close_iff
    (completed : Stepped.run step connection results = some (final, responses)) :
    (NoReplyAfterClose results responses ↔ ∀ unassigned, .returned [] unassigned ∉ results) ∧
    (RepliesToBytes results responses ↔ ∀ unassigned, .returned [] unassigned ∉ results) ∧
    ∀ before data first unassigned after,
      results = before ++ .returned data first :: (unassigned.map (.returned []) ++ after) →
        ∃ recBytes earlier later, earlier.length = before.length ∧
          responses = earlier ++ ((first :: unassigned).map fun value =>
            some (replyBytes value recBytes)) ++ later := by
  refine ⟨noReplyAfterClose_iff completed, repliesToBytes_iff completed, ?_⟩
  rintro before data first unassigned after rfl
  exact closed_connection_repeats completed

end TcpConnection

/-- A client sends a request and closes the connection, and the third `recv` after that
fails. -/
def closingResults : List RecvResult :=
  [.returned [8, 1, 0, 2, 0, 1, 0, 1] 0, .returned [] 0, .returned [] 0, .failed]

theorem no_reply_after_close_iff_closing :
    ∃ final responses, Stepped.run TcpConnection.step
        ⟨⟨Vector.replicate 100 0, Vector.replicate 8 0⟩, true⟩ closingResults =
          some (final, responses) ∧
      (TcpConnection.NoReplyAfterClose closingResults responses ↔
        ∀ unassigned, .returned [] unassigned ∉ closingResults) ∧
      (TcpConnection.RepliesToBytes closingResults responses ↔
        ∀ unassigned, .returned [] unassigned ∉ closingResults) ∧
      ∃ recBytes earlier later, earlier.length = 0 ∧
        responses = earlier ++ (([0, 0, 0] : List (BitVec 32)).map fun value =>
          some (replyBytes value recBytes)) ++ later := by
  have completes : (Stepped.run TcpConnection.step
      ⟨⟨Vector.replicate 100 0, Vector.replicate 8 0⟩, true⟩ closingResults).isSome := by
    decide
  obtain ⟨⟨final, responses⟩, completed⟩ := Option.isSome_iff_exists.mp completes
  obtain ⟨silent, caused, repeated⟩ := TcpConnection.no_reply_after_close_iff completed
  exact ⟨final, responses, completed, silent, caused,
    repeated [] [8, 1, 0, 2, 0, 1, 0, 1] 0 [0, 0] [.failed] rfl⟩

/-- The server sends the response 2 three times. -/
theorem closed_connection_is_answered :
    ∃ final responses, Stepped.run TcpConnection.step
        ⟨⟨Vector.replicate 100 0, Vector.replicate 8 0⟩, true⟩ closingResults =
          some (final, responses) ∧
      responses = [some #v[7, 1, 0, 0, 0, 0, 2], some #v[7, 1, 0, 0, 0, 0, 2],
        some #v[7, 1, 0, 0, 0, 0, 2], none] ∧
      ¬TcpConnection.NoReplyAfterClose closingResults responses ∧
      ¬TcpConnection.RepliesToBytes closingResults responses := by
  have sends : (Stepped.run TcpConnection.step
      ⟨⟨Vector.replicate 100 0, Vector.replicate 8 0⟩, true⟩ closingResults).map Prod.snd =
      some [some #v[7, 1, 0, 0, 0, 0, 2], some #v[7, 1, 0, 0, 0, 0, 2],
        some #v[7, 1, 0, 0, 0, 0, 2], none] := by
    decide
  obtain ⟨⟨final, responses⟩, completed, rfl⟩ := Option.map_eq_some_iff.mp sends
  refine ⟨final, _, completed, rfl, fun silent => ?_, fun caused => ?_⟩
  · exact silent 1 1 0 rfl (Nat.le_refl 1) _ rfl
  · obtain ⟨data, unassigned, found, nonempty⟩ := caused 1 _ rfl
    cases found
    exact nonempty rfl

/-! ## The client and the pieces of a response -/

/-- The arrays of the client, and the bytes that the server has sent and the
client has not received yet. -/
structure TcpClient where
  memory : ReceiveMemory 7
  pending : List Byte

/-- One iteration of the request loop: the server answers the request with a
response, and `recv` returns the first `cut` of the bytes that are on their way. -/
def TcpClient.requestStep (client : TcpClient) (exchange : Vector Byte 7 × Nat) :
    Option (TcpClient × Response) :=
  let (response, cut) := exchange
  let pending := client.pending ++ response.toList
  if 0 < cut ∧ cut ≤ 99 ∧ cut ≤ pending.length then
    (clientReceive client.memory (pending.take cut)).map fun (memory, currentResponse) =>
      (⟨memory, pending.drop cut⟩, currentResponse)
  else none

/-- Whatever the server answers, the client decodes it response by response when
`recv` returns these lengths. -/
def Reassembles (memory : ReceiveMemory 7) (cuts : List Nat) : Prop :=
  ∀ responses : List (Vector Byte 7), responses.length = cuts.length →
    (∀ response ∈ responses, (remakeResponse response).TML = 7) →
      ∃ final, Stepped.run TcpClient.requestStep ⟨memory, []⟩ (responses.zip cuts) =
        some (final, responses.map remakeResponse)

namespace TcpClient

theorem requestStep_whole (memory : ReceiveMemory 7) {response : Vector Byte 7}
    (declared : (remakeResponse response).TML = 7) :
    ∃ next, requestStep ⟨memory, []⟩ (response, 7) = some (⟨next, []⟩, remakeResponse response) := by
  obtain ⟨next, decoded⟩ := clientReceive_message memory response declared
  refine ⟨next, ?_⟩
  have whole : response.toList.take 7 = response.toList := List.take_of_length_le (by simp)
  have rest : response.toList.drop 7 = [] := List.drop_of_length_le (by simp)
  simp only [requestStep, List.nil_append, whole, rest, decoded, Option.map_some]
  rw [if_pos (by simp)]

/-- A response whose last byte is not the one that the buffer holds there. -/
def probe (memory : ReceiveMemory 7) : Vector Byte 7 :=
  #v[7, 0, 0, 0, 0, 0, ~~~memory.buf[6]!]

theorem recBytes_probe_piece (memory : ReceiveMemory 7) {cut : Nat} (positive : 0 < cut)
    (short : cut ≤ 6) :
    ∃ next, receive memory ((probe memory).toList.take cut) = some next ∧
      next.recBytes[6] = memory.buf[6] := by
  obtain ⟨fewer, rfl⟩ := Nat.exists_eq_add_one_of_ne_zero positive.ne'
  have piece : (probe memory).toList.take (fewer + 1) =
      (7 : Byte) :: ([0, 0, 0, 0, 0, ~~~memory.buf[6]!] : List Byte).take fewer := rfl
  have declares : DeclaresAtMost 7 ((probe memory).toList.take (fewer + 1)) := by
    rw [piece]
    exact Nat.le_refl 7
  have length : (((probe memory).toList.take (fewer + 1)).headD 0).toNat = 7 := by
    rw [piece]
    rfl
  refine ⟨_, receive_of_declares (by decide) memory declares, ?_⟩
  rw [getElem_recBytes_of_le memory _ 6 (by decide) (by decide), length, if_pos (by decide)]
  rw [freshCount, List.length_take]
  omega

/-- The client decodes the probe only if all of it is received. -/
theorem cut_of_requestStep_probe {memory : ReceiveMemory 7} {cut : Nat} {next : TcpClient}
    (decoded : requestStep ⟨memory, []⟩ (probe memory, cut) =
      some (next, remakeResponse (probe memory))) : cut = 7 := by
  simp only [requestStep, List.nil_append] at decoded
  split at decoded
  · rename_i possible
    rw [Vector.length_toList] at possible
    by_contra other
    obtain ⟨received, receives, stale⟩ :=
      recBytes_probe_piece memory possible.1 (by omega : cut ≤ 6)
    rw [clientReceive, receives] at decoded
    simp only [Option.map_some, Option.some.injEq, Prod.mk.injEq] at decoded
    have same := congrArg unloadResponse decoded.2
    rw [unloadResponse_remakeResponse, unloadResponse_remakeResponse] at same
    have flipped : (probe memory)[6] = ~~~memory.buf[6] := rfl
    rw [same, flipped, ← BitVec.toNat_inj, BitVec.toNat_not] at stale
    have bounded := memory.buf[6].isLt
    omega
  · cases decoded

theorem declared_of_probe (memory : ReceiveMemory 7) : (remakeResponse (probe memory)).TML = 7 :=
  rfl

/-- The first `recv` has to return a whole response. -/
theorem head_of_reassembles {memory : ReceiveMemory 7} {cut : Nat} {cuts : List Nat}
    (reassembles : Reassembles memory (cut :: cuts)) : cut = 7 := by
  obtain ⟨final, completed⟩ :=
    reassembles (List.replicate (cuts.length + 1) (probe memory)) (by simp) fun response member => by
      rw [(List.mem_replicate.mp member).2]
      exact declared_of_probe memory
  rw [List.replicate_succ, List.zip_cons_cons] at completed
  obtain ⟨next, decoded, rest, stepped, -, outputs⟩ := Stepped.run_cons_eq_some completed
  rw [List.map_cons, List.cons.injEq] at outputs
  rw [← outputs.1] at stepped
  exact cut_of_requestStep_probe stepped

theorem tail_of_reassembles {memory : ReceiveMemory 7} {cuts : List Nat}
    (reassembles : Reassembles memory (7 :: cuts)) : ∃ next, Reassembles next cuts := by
  obtain ⟨next, stepped⟩ := requestStep_whole memory (declared_of_probe memory)
  refine ⟨next, fun responses length declared => ?_⟩
  obtain ⟨final, completed⟩ := reassembles (probe memory :: responses) (by simp [length])
    (List.forall_mem_cons.mpr ⟨declared_of_probe memory, declared⟩)
  rw [List.zip_cons_cons] at completed
  obtain ⟨following, _, rest, stepped', continued, outputs⟩ := Stepped.run_cons_eq_some completed
  rw [stepped, Option.some.injEq, Prod.mk.injEq] at stepped'
  obtain ⟨rfl, rfl⟩ := stepped'
  rw [List.map_cons, List.cons.injEq] at outputs
  exact ⟨final, by rw [continued, outputs.2]⟩

theorem reassembles_of_whole (memory : ReceiveMemory 7) {cuts : List Nat}
    (whole : ∀ cut ∈ cuts, cut = 7) : Reassembles memory cuts := by
  induction cuts generalizing memory with
  | nil =>
      intro responses length _
      rw [List.length_nil, List.length_eq_zero_iff] at length
      subst length
      exact ⟨_, rfl⟩
  | cons cut cuts ih =>
      obtain ⟨rfl, later⟩ := List.forall_mem_cons.mp whole
      intro responses length declared
      cases responses with
      | nil => simp at length
      | cons response responses =>
          obtain ⟨first, declared⟩ := List.forall_mem_cons.mp declared
          obtain ⟨next, stepped⟩ := requestStep_whole memory first
          obtain ⟨final, continued⟩ := ih next later responses (by simpa using length) declared
          refine ⟨final, ?_⟩
          rw [List.zip_cons_cons, Stepped.run_cons_of_step stepped, continued]
          rfl

end TcpClient

/-- The client decodes every response as the server sent it if and only if each
`recv` returns seven bytes. -/
theorem reassembles_iff (memory : ReceiveMemory 7) (cuts : List Nat) :
    Reassembles memory cuts ↔ ∀ cut ∈ cuts, cut = 7 := by
  refine ⟨fun reassembles => ?_, TcpClient.reassembles_of_whole memory⟩
  induction cuts generalizing memory with
  | nil => simp
  | cons cut cuts ih =>
      obtain rfl := TcpClient.head_of_reassembles reassembles
      obtain ⟨next, later⟩ := TcpClient.tail_of_reassembles reassembles
      exact List.forall_mem_cons.mpr ⟨rfl, ih next later⟩

/-- The first of two responses comes without its last byte: the client decodes
the result 0 instead of 5, and the second response from a byte too early. -/
theorem short_recv_shifts_responses :
    (Stepped.run TcpClient.requestStep
        ⟨⟨Vector.replicate 100 0, Vector.replicate 7 0⟩, []⟩
        [(#v[7, 1, 0, 0, 0, 0, 5], 6), (#v[7, 2, 0, 0, 0, 0, 9], 7)]).map Prod.snd =
      some [remakeResponse #v[7, 1, 0, 0, 0, 0, 0], remakeResponse #v[5, 7, 2, 0, 0, 0, 0]] ∧
      ¬Reassembles ⟨Vector.replicate 100 0, Vector.replicate 7 0⟩ [6, 7] := by
  have decodes : (Stepped.run TcpClient.requestStep
      ⟨⟨Vector.replicate 100 0, Vector.replicate 7 0⟩, []⟩
      [(#v[7, 1, 0, 0, 0, 0, 5], 6), (#v[7, 2, 0, 0, 0, 0, 9], 7)]).map Prod.snd =
      some [remakeResponse #v[7, 1, 0, 0, 0, 0, 0], remakeResponse #v[5, 7, 2, 0, 0, 0, 0]] := by
    decide
  refine ⟨decodes, fun reassembles => ?_⟩
  obtain ⟨final, completed⟩ :=
    reassembles [#v[7, 1, 0, 0, 0, 0, 5], #v[7, 2, 0, 0, 0, 0, 9]] rfl
      (List.forall_mem_cons.mpr ⟨rfl, List.forall_mem_singleton.mpr rfl⟩)
  rw [List.zip_cons_cons, List.zip_cons_cons, List.zip_nil_left] at completed
  rw [completed, Option.map_some, Option.some.injEq] at decodes
  have different : [#v[7, 1, 0, 0, 0, 0, 5], #v[7, 2, 0, 0, 0, 0, 9]].map remakeResponse ≠
      [remakeResponse #v[7, 1, 0, 0, 0, 0, 0], remakeResponse #v[5, 7, 2, 0, 0, 0, 0]] := by
    decide
  exact different decodes

end OpServer
