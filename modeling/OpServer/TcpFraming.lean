import OpServer.ReceiveLoops
import Mathlib.Data.List.SplitLengths
import Mathlib.Tactic.IntervalCases

/-!
# Framing of requests on a TCP connection

`TCP-server.c` takes what one `recv` returns for one request.  The stream of a
connection can be cut anywhere, so this file asks for which cuts every stream
of well-formed requests is answered request by request.
-/

namespace OpServer

open Buffer

/-- Eight bytes that declare their length and ask for a defined evaluation. -/
structure WellFormedRequest (message : Vector Byte 8) : Prop where
  declared : (remakeRequest message).TML = 8
  evaluates : ∃ operation : Operation, (remakeRequest message).opCode = operation.code ∧
    operation.CountInRange (remakeRequest message).operandTwo.theInt.toInt

/-- The bytes sent back on a connection, in order. -/
def connectionOutput (memory : ReceiveMemory 8) (arrivals : List Arrival) :
    Option (List Byte) :=
  (Stepped.run connectionStep memory arrivals).map fun finished =>
    (finished.2.map Vector.toList).flatten

/-- Cut at these lengths, every stream of well-formed requests is answered by
the responses to its requests, in order. -/
def FramesEveryStream (cuts : List Nat) : Prop :=
  ∀ (memory : ReceiveMemory 8) (requests : List (Vector Byte 8)) (arrivals : List Arrival),
    (∀ request ∈ requests, WellFormedRequest request) →
    arrivals.flatMap Arrival.bytes = (requests.map Vector.toList).flatten →
    arrivals.map (fun arrival => arrival.bytes.length) = cuts →
    connectionOutput memory arrivals =
      some ((requests.map fun request => (replyBytes 0 request).toList).flatten)

theorem replyBytes_of_wellFormed {message : Vector Byte 8}
    (wellFormed : WellFormedRequest message) (unassigned : BitVec 32) :
    replyBytes unassigned message = replyBytes 0 message := by
  have evaluates : (calcTheInt (remakeRequest message)).isSome :=
    (calcTheInt_isSome_iff _).mpr wellFormed.evaluates
  obtain ⟨theInt, assigned⟩ := Option.isSome_iff_exists.mp evaluates
  rw [replyBytes_eq_iff, assigned]
  exact ⟨rfl, rfl⟩

/-! ## Cuts at the request boundaries -/

theorem connectionStep_request (memory : ReceiveMemory 8) {message : Vector Byte 8}
    (wellFormed : WellFormedRequest message) (unassigned : BitVec 32) :
    ∃ next, connectionStep memory ⟨message.toList, unassigned⟩ =
      some (next, replyBytes 0 message) := by
  rw [← replyBytes_of_wellFormed wellFormed unassigned]
  exact connectionStep_message memory message unassigned wellFormed.declared

theorem run_requests (memory : ReceiveMemory 8) (requests : List (Vector Byte 8))
    (arrivals : List Arrival) (wellFormed : ∀ request ∈ requests, WellFormedRequest request)
    (aligned : arrivals.map Arrival.bytes = requests.map Vector.toList) :
    ∃ final, Stepped.run connectionStep memory arrivals =
      some (final, requests.map (replyBytes 0)) := by
  induction requests generalizing memory arrivals with
  | nil =>
      rw [List.map_nil, List.map_eq_nil_iff] at aligned
      subst aligned
      exact ⟨memory, rfl⟩
  | cons request requests ih =>
      cases arrivals with
      | nil => simp at aligned
      | cons arrival arrivals =>
          rw [List.map_cons, List.map_cons, List.cons.injEq] at aligned
          obtain ⟨next, stepped⟩ := connectionStep_request memory
            (wellFormed request (by simp)) arrival.unassigned
          rw [← aligned.1] at stepped
          obtain ⟨final, continued⟩ := ih next arrivals
            (fun later member => wellFormed later (by simp [member])) aligned.2
          refine ⟨final, ?_⟩
          rw [Stepped.run_cons_of_step stepped, continued]
          rfl

theorem arrivals_eq_requests {arrivals : List Arrival} {requests : List (Vector Byte 8)}
    (eights : ∀ arrival ∈ arrivals, arrival.bytes.length = 8)
    (stream : arrivals.flatMap Arrival.bytes = (requests.map Vector.toList).flatten) :
    arrivals.map Arrival.bytes = requests.map Vector.toList := by
  let blocks : List (Vector Byte 8) := arrivals.attach.map fun arrival =>
    ⟨arrival.1.bytes.toArray, eights arrival.1 arrival.2⟩
  have blocksEq : blocks.map Vector.toList = arrivals.map Arrival.bytes := by
    simp [blocks, Function.comp_def]
  rw [List.flatMap_def, ← blocksEq] at stream
  rw [← blocksEq, flatten_toList_injective (by decide) stream]

theorem framesEveryStream_of_eights {cuts : List Nat} (eights : ∀ cut ∈ cuts, cut = 8) :
    FramesEveryStream cuts := by
  intro memory requests arrivals wellFormed stream lengths
  have aligned := arrivals_eq_requests (fun arrival member => eights _ (by
    rw [← lengths]
    exact List.mem_map_of_mem member)) stream
  obtain ⟨final, ran⟩ := run_requests memory requests arrivals wellFormed aligned
  rw [connectionOutput, ran]
  simp [Function.comp_def]

/-! ## Cuts anywhere else -/

/-- A request for `0 + 0` under request ID 0. -/
def blank : Vector Byte 8 := #v[8, 0, 0, 0, 0, 0, 0, 0]

/-- A request for `0 + 1` under request ID 0. -/
def marked : Vector Byte 8 := #v[8, 0, 0, 0, 0, 0, 0, 1]

theorem blank_wellFormed : WellFormedRequest blank :=
  ⟨rfl, .add, rfl, by decide⟩

theorem marked_wellFormed : WellFormedRequest marked :=
  ⟨rfl, .add, rfl, by decide⟩

theorem replyBytes_blank_ne_marked : replyBytes 0 blank ≠ replyBytes 0 marked := by
  decide +kernel

/-- The buffers hold no operand, opcode or request ID other than zero. -/
structure Quiet (memory : ReceiveMemory 8) : Prop where
  buf : ∀ (index : Nat) (_ : 1 ≤ index) (_ : index < 8), memory.buf[index] = 0
  recBytes : ∀ (index : Nat) (_ : 1 ≤ index) (_ : index < 8), memory.recBytes[index] = 0

theorem replyBytes_of_zeros {message : Vector Byte 8} (unassigned : BitVec 32)
    (zeros : ∀ (index : Nat) (_ : 1 ≤ index) (_ : index < 8), message[index] = 0) :
    replyBytes unassigned message = replyBytes 0 blank := by
  rw [replyBytes_eq_iff]
  refine ⟨zeros 1 (by decide) (by decide), ?_⟩
  simp only [remakeRequest, zeros 1 (by decide) (by decide), zeros 2 (by decide) (by decide),
    zeros 3 (by decide) (by decide), zeros 4 (by decide) (by decide),
    zeros 5 (by decide) (by decide), zeros 6 (by decide) (by decide),
    zeros 7 (by decide) (by decide)]
  rfl

theorem connectionStep_zeros {memory : ReceiveMemory 8} (quiet : Quiet memory)
    {data : List Byte} (declares : DeclaresAtMost 8 data)
    (zeros : ∀ index, 1 ≤ index → index < freshCount data → data.getD index 0 = 0)
    (unassigned : BitVec 32) :
    ∃ next, connectionStep memory ⟨data, unassigned⟩ =
      some (next, replyBytes 0 blank) := by
  rw [connectionStep, receive_of_declares (by decide) memory declares]
  refine ⟨_, congrArg some (Prod.ext rfl (replyBytes_of_zeros unassigned ?_))⟩
  intro index positive inside
  by_cases fresh : index < freshCount data
  · rw [getElem_recBytes_of_lt memory data index inside fresh]
    exact zeros index positive fresh
  · rw [getElem_recBytes_of_le memory data index inside (by decide) (by omega)]
    split
    · exact quiet.buf index positive inside
    · exact quiet.recBytes index positive inside

/-- A chunk that starts with a blank request is answered like one and leaves
the buffers quiet. -/
theorem connectionStep_blank (memory : ReceiveMemory 8) (trailing : List Byte) :
    ∃ next, connectionStep memory ⟨blank.toList ++ trailing, 0⟩ =
      some (next, replyBytes 0 blank) ∧ Quiet next := by
  rw [connectionStep,
    receive_message (by decide) memory blank trailing (by decide) (by decide)]
  refine ⟨_, rfl, ⟨fun index positive inside => ?_, fun index positive inside => ?_⟩⟩
  · rw [getElem_overwrite_of_lt _ _ _ _ (by simp; omega)]
    rw [List.getElem_take, List.getElem_append_left (by simpa using inside)]
    interval_cases index <;> rfl
  · interval_cases index <;> rfl

/-- Buffers full of zeros, as the adversary of the framing finds them. -/
def zeroMemory : ReceiveMemory 8 :=
  ⟨Vector.replicate 100 0, Vector.replicate 8 0⟩

theorem zeroMemory_quiet : Quiet zeroMemory where
  buf := fun index _ _ => by simp [zeroMemory]
  recBytes := fun index _ _ => by simp [zeroMemory]

theorem run_blanks (count : Nat) :
    ∃ final, Stepped.run connectionStep zeroMemory
        (List.replicate count ⟨blank.toList, 0⟩) =
      some (final, List.replicate count (replyBytes 0 blank)) ∧ Quiet final := by
  have answers (memory : ReceiveMemory 8) (arrival : Arrival) (_ : Quiet memory)
      (same : arrival = ⟨blank.toList, 0⟩) :
      ∃ next, connectionStep memory arrival = some (next, replyBytes 0 blank) ∧
        Quiet next := by
    subst same
    simpa using connectionStep_blank memory []
  have blanks : ∀ arrival ∈ List.replicate count (⟨blank.toList, 0⟩ : Arrival),
      arrival = ⟨blank.toList, 0⟩ := fun arrival member => List.eq_of_mem_replicate member
  obtain ⟨final, ran, quiet⟩ := Stepped.run_eq_map answers zeroMemory_quiet blanks
  refine ⟨final, ?_, quiet⟩
  rw [ran, List.map_replicate]

/-- The bytes of the given requests, one after the other. -/
def streamOf (requests : List (Vector Byte 8)) : List Byte :=
  (requests.map Vector.toList).flatten

@[simp]
theorem streamOf_nil : streamOf [] = [] :=
  rfl

@[simp]
theorem streamOf_cons (request : Vector Byte 8) (requests : List (Vector Byte 8)) :
    streamOf (request :: requests) = request.toList ++ streamOf requests :=
  rfl

theorem streamOf_length (requests : List (Vector Byte 8)) :
    (streamOf requests).length = 8 * requests.length := by
  induction requests with
  | nil => rfl
  | cons request requests ih =>
      rw [streamOf_cons, List.length_append, ih, Vector.length_toList, List.length_cons]
      omega

/-- A stream cut at the given lengths. -/
def cutStream (cuts : List Nat) (stream : List Byte) : List Arrival :=
  (cuts.splitLengths stream).map fun bytes => ⟨bytes, 0⟩

@[simp]
theorem cutStream_cons (cut : Nat) (cuts : List Nat) (stream : List Byte) :
    cutStream (cut :: cuts) stream =
      ⟨stream.take cut, 0⟩ :: cutStream cuts (stream.drop cut) := by
  simp [cutStream]

theorem cutStream_blanks (count : Nat) (cuts : List Nat) (stream : List Byte) :
    cutStream (List.replicate count 8 ++ cuts)
        (streamOf (List.replicate count blank) ++ stream) =
      List.replicate count ⟨blank.toList, 0⟩ ++ cutStream cuts stream := by
  induction count with
  | zero => rfl
  | succ count ih =>
      simp only [List.replicate_succ, List.cons_append, streamOf_cons, List.append_assoc,
        cutStream_cons]
      rw [List.take_left' (by simp), List.drop_left' (by simp), ih]

/-- A stream of blank requests with a marked one in between. -/
def probe (before after : Nat) : List (Vector Byte 8) :=
  List.replicate before blank ++ marked :: List.replicate after blank

theorem probe_wellFormed (before after : Nat) :
    ∀ request ∈ probe before after, WellFormedRequest request := by
  intro request member
  simp only [probe, List.mem_append, List.mem_cons, List.mem_replicate] at member
  rcases member with ⟨-, rfl⟩ | rfl | ⟨-, rfl⟩
  · exact blank_wellFormed
  · exact marked_wellFormed
  · exact blank_wellFormed

theorem probe_length (before after : Nat) :
    (probe before after).length = before + (after + 1) := by
  simp [probe]

theorem probe_marked (before after : Nat) :
    (probe before after)[before]? = some marked := by
  simp [probe]

theorem probe_succ (before after : Nat) :
    probe (before + 1) after = List.replicate before blank ++ blank :: probe 0 after := by
  simp [probe, List.replicate_succ']

theorem streamOf_append (first second : List (Vector Byte 8)) :
    streamOf (first ++ second) = streamOf first ++ streamOf second := by
  simp [streamOf]

theorem streamOf_blanks_getD (count position : Nat) :
    (streamOf (List.replicate count blank)).getD position 0 =
      if position % 8 = 0 ∧ position < 8 * count then 8 else 0 := by
  induction count generalizing position with
  | zero => simp
  | succ count ih =>
      rw [List.replicate_succ, streamOf_cons]
      by_cases inside : position < 8
      · rw [List.getD_append _ _ _ _ (by simpa using inside)]
        interval_cases position <;> simp [blank]
      · rw [List.getD_append_right _ _ _ _ (by simpa using inside), Vector.length_toList, ih]
        congr 1
        simp only [eq_iff_iff]
        omega

/-- Behind the first byte of the marked request no byte but the last one of
it and the length bytes of later requests differs from zero. -/
theorem probe_getD (after position : Nat) (behind : 1 ≤ position) :
    (streamOf (probe 0 after)).getD position 0 =
      if position = 7 then 1
      else if position % 8 = 0 ∧ position < 8 * (after + 1) then 8 else 0 := by
  rw [probe, List.replicate_zero, List.nil_append, streamOf_cons]
  by_cases inside : position < 8
  · rw [List.getD_append _ _ _ _ (by simpa using inside)]
    interval_cases position <;> simp [marked]
  · rw [List.getD_append_right _ _ _ _ (by simpa using inside), Vector.length_toList,
      streamOf_blanks_getD, if_neg (show position ≠ 7 by omega)]
    congr 1
    simp only [eq_iff_iff]
    omega

/-- What a quiet server answers like a blank request. -/
def Harmless (data : List Byte) : Prop :=
  DeclaresAtMost 8 data ∧
    ∀ index, 1 ≤ index → index < freshCount data → data.getD index 0 = 0

theorem harmless_marked_take {cut : Nat} (positive : 1 ≤ cut) (short : cut < 8) :
    Harmless (marked.toList.take cut) := by
  refine ⟨?_, fun index behind fresh => ?_⟩
  · interval_cases cut <;> decide
  · have inside : index < cut := by
      simp only [freshCount, List.length_take] at fresh
      omega
    have upper : index < 7 := by omega
    rw [List.getD_eq_getElem?_getD, List.getElem?_take_of_lt inside]
    interval_cases index <;> rfl

/-- Any later piece of the stream starts with zero, with the last byte of the
marked request, or with a blank one. -/
theorem harmless_probe_piece {after offset cut : Nat} (behind : 1 ≤ offset)
    (positive : 1 ≤ cut) (fits : offset + cut ≤ 8 * (after + 1)) :
    Harmless (((streamOf (probe 0 after)).drop offset).take cut) := by
  have bytes (index : Nat) (inside : index < cut) :
      (((streamOf (probe 0 after)).drop offset).take cut).getD index 0 =
        if offset + index = 7 then 1
        else if (offset + index) % 8 = 0 ∧ offset + index < 8 * (after + 1) then 8 else 0 := by
    rw [← probe_getD after _ (by omega)]
    simp [List.getD_eq_getElem?_getD, inside]
  have pieceLength : (((streamOf (probe 0 after)).drop offset).take cut).length = cut := by
    rw [List.length_take, List.length_drop, streamOf_length, probe_length]
    omega
  generalize ((streamOf (probe 0 after)).drop offset).take cut = piece at bytes pieceLength
  cases piece with
  | nil =>
      simp at pieceLength
      omega
  | cons first later =>
      have firstEq := bytes 0 (by omega)
      simp only [List.getD_cons_zero, Nat.add_zero] at firstEq
      constructor
      · change first.toNat ≤ 8
        rw [firstEq]
        split_ifs <;> decide
      · intro index behindFirst fresh
        have inside : index < cut ∧ index < first.toNat := by
          simp only [freshCount, List.headD_cons, pieceLength] at fresh
          omega
        rw [bytes index inside.1]
        by_cases last : offset = 7
        · rw [firstEq, if_pos last] at inside
          simp at inside
          omega
        · rw [firstEq, if_neg last] at inside
          split_ifs at inside with boundary
          · simp at inside
            rw [if_neg (by omega), if_neg (by omega)]
          · simp at inside

namespace FramesEveryStream

variable {cuts : List Nat} (frames : FramesEveryStream cuts)
include frames

theorem run_eq {requests : List (Vector Byte 8)}
    (wellFormed : ∀ request ∈ requests, WellFormedRequest request)
    (whole : cuts.sum = 8 * requests.length) :
    ∃ final, Stepped.run connectionStep zeroMemory (cutStream cuts (streamOf requests)) =
      some (final, requests.map (replyBytes 0)) := by
  have streamLength : (streamOf requests).length = cuts.sum := by
    rw [streamOf_length, whole]
  have output := frames zeroMemory requests (cutStream cuts (streamOf requests)) wellFormed
    (by
      rw [cutStream, List.flatMap_map, List.flatMap_id']
      exact List.flatten_splitLengths _ _ streamLength.le)
    (by
      rw [cutStream, List.map_map]
      exact List.map_splitLengths_length _ _ streamLength.ge)
  rw [connectionOutput, Option.map_eq_some_iff] at output
  obtain ⟨⟨final, replies⟩, ran, joined⟩ := output
  have blocks : (requests.map fun request => (replyBytes 0 request).toList) =
      (requests.map (replyBytes 0)).map Vector.toList := by
    simp [Function.comp_def]
  rw [blocks] at joined
  have repliesEq : replies = requests.map (replyBytes 0) :=
    flatten_toList_injective (by decide) joined
  exact ⟨final, by rw [ran, repliesEq]⟩

theorem length_eq {count : Nat} (whole : cuts.sum = 8 * count) : cuts.length = count := by
  have allBlank : ∀ request ∈ List.replicate count blank, WellFormedRequest request :=
    fun request member => List.eq_of_mem_replicate member ▸ blank_wellFormed
  obtain ⟨final, ran⟩ := frames.run_eq allBlank (by simpa using whole)
  have lengths := Stepped.run_length ran
  simpa [cutStream] using lengths.symm

/-- A chunk that is answered like a blank request cannot stand where a marked
one was sent. -/
theorem no_blank_reply {requests : List (Vector Byte 8)} {before after : List Arrival}
    {chunk : Arrival} (wellFormed : ∀ request ∈ requests, WellFormedRequest request)
    (whole : cuts.sum = 8 * requests.length)
    (arrivals : cutStream cuts (streamOf requests) = before ++ chunk :: after)
    (markedHere : requests[before.length]? = some marked)
    {middle next : ReceiveMemory 8} {replies : List (Vector Byte 7)}
    (ran : Stepped.run connectionStep zeroMemory before = some (middle, replies))
    (stepped : connectionStep middle chunk = some (next, replyBytes 0 blank)) :
    False := by
  obtain ⟨final, total⟩ := frames.run_eq wellFormed whole
  rw [arrivals, Stepped.run_append_of_run ran, Option.map_eq_some_iff] at total
  obtain ⟨⟨last, rest⟩, continued, joined⟩ := total
  obtain ⟨_, _, _, first, -, rfl⟩ := Stepped.run_cons_eq_some continued
  rw [stepped] at first
  cases first
  have outputs := congrArg (fun finished => finished.2[before.length]?) joined
  have repliesLength : replies.length = before.length := Stepped.run_length ran
  simp only [List.getElem?_map, markedHere] at outputs
  rw [List.getElem?_append_right (by omega), repliesLength] at outputs
  exact replyBytes_blank_ne_marked (by simpa using outputs)

/-- The first cut that does not hold one whole request is not shorter. -/
theorem first_cut_not_short {count cut : Nat} {rest : List Nat}
    (split : cuts = List.replicate count 8 ++ cut :: rest) (positive : 1 ≤ cut)
    (whole : cuts.sum = 8 * cuts.length) : 8 ≤ cut := by
  by_contra short
  obtain ⟨middle, ran, quiet⟩ := run_blanks count
  obtain ⟨declares, zeros⟩ := harmless_marked_take positive (by omega)
  obtain ⟨next, stepped⟩ := connectionStep_zeros quiet declares zeros 0
  have cutsLength : 8 * cuts.length = 8 * (probe count rest.length).length := by
    rw [split, probe_length]
    simp
  have arrivals : cutStream cuts (streamOf (probe count rest.length)) =
      List.replicate count ⟨blank.toList, 0⟩ ++ ⟨marked.toList.take cut, 0⟩ ::
        cutStream rest ((streamOf (probe 0 rest.length)).drop cut) := by
    rw [split, probe, streamOf_append, cutStream_blanks, cutStream_cons, streamOf_cons,
      List.take_append_of_le_length (by simp; omega)]
    rfl
  have markedHere : (probe count rest.length)[
      (List.replicate count (⟨blank.toList, 0⟩ : Arrival)).length]? = some marked := by
    rw [List.length_replicate, probe_marked]
  exact frames.no_blank_reply (probe_wellFormed count rest.length) (whole.trans cutsLength)
    arrivals markedHere ran stepped

/-- The first cut that does not hold one whole request is not longer: the
chunk behind it would start within the stream of the later requests. -/
theorem first_cut_not_long {count cut : Nat} {rest : List Nat}
    (split : cuts = List.replicate count 8 ++ cut :: rest)
    (bounds : ∀ cut ∈ cuts, 1 ≤ cut) (whole : cuts.sum = 8 * cuts.length) : cut ≤ 8 := by
  by_contra long
  have remaining : cut + rest.sum = 8 * (rest.length + 1) := by
    rw [split] at whole
    simp only [List.sum_append, List.sum_replicate_nat, List.sum_cons, List.length_append,
      List.length_replicate, List.length_cons] at whole
    omega
  cases rest with
  | nil =>
      simp at remaining
      omega
  | cons second rest =>
      simp only [List.sum_cons, List.length_cons] at remaining
      obtain ⟨early, ranBlanks, -⟩ := run_blanks count
      obtain ⟨middle, steppedLong, quiet⟩ :=
        connectionStep_blank early ((streamOf (probe 0 rest.length)).take (cut - 8))
      let before : List Arrival := List.replicate count ⟨blank.toList, 0⟩ ++
        [⟨blank.toList ++ (streamOf (probe 0 rest.length)).take (cut - 8), 0⟩]
      have ran : Stepped.run connectionStep zeroMemory before =
          some (middle, List.replicate count (replyBytes 0 blank) ++ [replyBytes 0 blank]) := by
        rw [Stepped.run_append_of_run ranBlanks, Stepped.run_cons_of_step steppedLong]
        rfl
      have harmless : Harmless
          (((streamOf (probe 0 rest.length)).drop (cut - 8)).take second) :=
        harmless_probe_piece (by omega) (bounds second (by rw [split]; simp)) (by omega)
      obtain ⟨declares, zeros⟩ := harmless
      obtain ⟨next, stepped⟩ := connectionStep_zeros quiet declares zeros 0
      have cutsLength : 8 * cuts.length = 8 * (probe (count + 1) rest.length).length := by
        rw [split, probe_length]
        simp only [List.length_append, List.length_replicate, List.length_cons]
        omega
      have arrivals : cutStream cuts (streamOf (probe (count + 1) rest.length)) =
          before ++ ⟨((streamOf (probe 0 rest.length)).drop (cut - 8)).take second, 0⟩ ::
            cutStream rest (((streamOf (probe 0 rest.length)).drop (cut - 8)).drop second) := by
        rw [split, probe_succ, streamOf_append, cutStream_blanks, cutStream_cons,
          cutStream_cons, streamOf_cons, List.take_append, List.drop_append,
          List.take_of_length_le (by simp; omega), List.drop_of_length_le (by simp; omega),
          Vector.length_toList, List.append_assoc]
        rfl
      have markedHere : (probe (count + 1) rest.length)[before.length]? = some marked := by
        rw [List.length_append, List.length_replicate]
        exact probe_marked (count + 1) rest.length
      exact frames.no_blank_reply (probe_wellFormed (count + 1) rest.length)
        (whole.trans cutsLength) arrivals markedHere ran stepped

end FramesEveryStream

theorem exists_first_other_cut {cuts : List Nat} (other : ¬∀ cut ∈ cuts, cut = 8) :
    ∃ count cut rest, cuts = List.replicate count 8 ++ cut :: rest ∧ cut ≠ 8 := by
  induction cuts with
  | nil => simp at other
  | cons cut cuts ih =>
      by_cases eight : cut = 8
      · obtain ⟨count, later, rest, split, different⟩ := ih fun all => other (by
          simpa [eight] using all)
        exact ⟨count + 1, later, rest, by rw [split, eight, List.replicate_succ]; rfl, different⟩
      · exact ⟨0, cut, cuts, rfl, eight⟩

/-- One whole request in every chunk is the only framing that keeps the
responses. -/
theorem framesEveryStream_iff (cuts : List Nat) (count : Nat)
    (bounds : ∀ cut ∈ cuts, 1 ≤ cut ∧ cut ≤ 99) (whole : cuts.sum = 8 * count) :
    FramesEveryStream cuts ↔ ∀ cut ∈ cuts, cut = 8 := by
  refine ⟨fun frames => ?_, framesEveryStream_of_eights⟩
  by_contra other
  obtain ⟨first, cut, rest, split, different⟩ := exists_first_other_cut other
  rw [← frames.length_eq whole] at whole
  have notShort := frames.first_cut_not_short split (bounds cut (by simp [split])).1 whole
  have notLong := frames.first_cut_not_long split (fun cut member => (bounds cut member).1) whole
  omega

/-- Two requests in two chunks of eight bytes. -/
theorem framesEveryStream_iff_two_eights :
    FramesEveryStream [8, 8] ↔ ∀ cut ∈ [8, 8], cut = 8 :=
  framesEveryStream_iff [8, 8] 2 (by decide) (by decide)

/-- `1 + 2` and `5 - 5` in one chunk get one response. -/
theorem coalesced_requests_lose_a_response :
    ¬∀ (cuts : List Nat) (count : Nat), (∀ cut ∈ cuts, 1 ≤ cut ∧ cut ≤ 99) →
      cuts.sum = 8 * count → FramesEveryStream cuts := by
  intro claim
  have frames := claim [16] 2 (by decide) (by decide)
  have output := frames zeroMemory [#v[8, 1, 0, 2, 0, 1, 0, 2], #v[8, 2, 1, 2, 0, 5, 0, 5]]
    [⟨[8, 1, 0, 2, 0, 1, 0, 2, 8, 2, 1, 2, 0, 5, 0, 5], 0⟩]
    (by
      intro request member
      simp only [List.mem_cons, List.not_mem_nil, or_false] at member
      rcases member with rfl | rfl
      · exact ⟨rfl, .add, rfl, by decide⟩
      · exact ⟨rfl, .sub, rfl, by decide⟩)
    rfl rfl
  revert output
  decide +kernel

end OpServer
