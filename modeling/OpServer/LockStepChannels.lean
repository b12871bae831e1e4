import OpServer.LossyChannel

/-!
# Clients in lock step with a server

Clients send requests over one channel and get replies over another.  None sends
while it waits for a reply.  As long as the network duplicates nothing, at most
one packet is in flight for a client, and it belongs to what the client sent last.
-/

namespace OpServer

namespace Channel

variable {ι α β μ : Type*} [DecidableEq ι]

/-- How many packets are in flight for a client. -/
def inFlight (requests : List (ι × α)) (replies : List (ι × β)) (client : ι) : Nat :=
  requests.countP (fun packet => decide (packet.1 = client)) +
    replies.countP (fun packet => decide (packet.1 = client))

section InFlight

variable {requests : List (ι × α)} {replies : List (ι × β)} {client : ι}

theorem inFlight_pos_iff : 0 < inFlight requests replies client ↔
    (∃ request, (client, request) ∈ requests) ∨ ∃ reply, (client, reply) ∈ replies := by
  rw [inFlight, Nat.add_pos_iff_pos_or_pos, List.countP_pos_iff, List.countP_pos_iff]
  constructor
  · rintro (⟨⟨other, request⟩, member, same⟩ | ⟨⟨other, reply⟩, member, same⟩)
    · cases of_decide_eq_true same
      exact .inl ⟨request, member⟩
    · cases of_decide_eq_true same
      exact .inr ⟨reply, member⟩
  · rintro (⟨request, member⟩ | ⟨reply, member⟩)
    · exact .inl ⟨_, member, decide_eq_true rfl⟩
    · exact .inr ⟨_, member, decide_eq_true rfl⟩

theorem inFlight_cons (sender : ι) (request : α) :
    inFlight ((sender, request) :: requests) replies client =
      inFlight requests replies client + if sender = client then 1 else 0 := by
  simp only [inFlight, List.countP_cons, decide_eq_true_eq]
  omega

/-- A reply takes the place of its request. -/
theorem inFlight_of_serve {rest : List (ι × α)} {sender : ι} {request : α} {index : Nat}
    (taken : take requests index = some ((sender, request), rest)) (reply : β) :
    inFlight rest ((sender, reply) :: replies) client = inFlight requests replies client := by
  simp only [inFlight, List.countP_cons, decide_eq_true_eq, countP_of_take _ taken]
  by_cases same : sender = client
  · simp only [same, decide_true, if_true, Bool.toNat_true]
    omega
  · simp only [same, decide_false, if_false, Bool.toNat_false]
    omega

theorem inFlight_of_take {rest : List (ι × β)} {receiver : ι} {reply : β} {index : Nat}
    (taken : take replies index = some ((receiver, reply), rest)) :
    inFlight requests replies client =
      inFlight requests rest client + if receiver = client then 1 else 0 := by
  simp only [inFlight, countP_of_take _ taken]
  by_cases same : receiver = client
  · simp only [same, decide_true, if_true, Bool.toNat_true]
    omega
  · simp only [same, decide_false, if_false, Bool.toNat_false]
    omega

end InFlight

/-- A packet is in flight for a client only while it waits, and no second one.  A
request carries what the client sent last, and a reply answers it. -/
structure LockStep (carries : μ → α → Prop) (answers : μ → β → Prop) (waiting : ι → Bool)
    (last : ι → Option μ) (requests : List (ι × α)) (replies : List (ι × β)) : Prop where
  single : ∀ client, inFlight requests replies client ≤ (waiting client).toNat
  latestRequest : ∀ client request, (client, request) ∈ requests →
    ∃ message, last client = some message ∧ carries message request
  latestReply : ∀ client reply, (client, reply) ∈ replies →
    ∃ message, last client = some message ∧ answers message reply

namespace LockStep

variable {carries : μ → α → Prop} {answers : μ → β → Prop} {waiting nextWaiting : ι → Bool}
  {last nextLast : ι → Option μ} {requests : List (ι × α)} {replies : List (ι × β)}

theorem empty (waiting : ι → Bool) (last : ι → Option μ) :
    LockStep carries answers waiting last [] [] where
  single := fun client => Nat.zero_le _
  latestRequest := fun _ _ impossible => by cases impossible
  latestReply := fun _ _ impossible => by cases impossible

theorem send (lockStep : LockStep carries answers waiting last requests replies) {client : ι}
    (idle : waiting client = false) {message : μ} {request : α} (carried : carries message request)
    (waits : nextWaiting client = true) (sent : nextLast client = some message)
    (others : ∀ other ≠ client, nextWaiting other = waiting other ∧ nextLast other = last other) :
    LockStep carries answers nextWaiting nextLast ((client, request) :: requests) replies := by
  have nothing : ¬0 < inFlight requests replies client := by
    have none := lockStep.single client
    rw [idle, Bool.toNat_false] at none
    omega
  rw [inFlight_pos_iff, not_or, not_exists, not_exists] at nothing
  constructor
  case single =>
    intro other
    have before := lockStep.single other
    rw [inFlight_cons]
    by_cases same : client = other
    · subst same
      rw [idle, Bool.toNat_false] at before
      rw [waits, Bool.toNat_true, if_pos rfl]
      omega
    · rw [(others other (Ne.symm same)).1, if_neg same]
      exact before
  case latestRequest =>
    intro other found member
    rcases List.mem_cons.mp member with new | old
    · cases new
      exact ⟨message, sent, carried⟩
    · have different : other ≠ client := fun same => nothing.1 found (same ▸ old)
      rw [(others other different).2]
      exact lockStep.latestRequest other found old
  case latestReply =>
    intro other reply member
    have different : other ≠ client := fun same => nothing.2 reply (same ▸ member)
    rw [(others other different).2]
    exact lockStep.latestReply other reply member

theorem serve (lockStep : LockStep carries answers waiting last requests replies) {client : ι}
    {request : α} {rest : List (ι × α)} {index : Nat}
    (taken : take requests index = some ((client, request), rest)) {reply : β}
    (answered : ∀ message, carries message request → answers message reply) :
    LockStep carries answers waiting last rest ((client, reply) :: replies) := by
  constructor
  case single =>
    intro other
    rw [inFlight_of_serve taken]
    exact lockStep.single other
  case latestRequest =>
    exact fun other found member =>
      lockStep.latestRequest other found (subset_of_take taken member)
  case latestReply =>
    intro other found member
    rcases List.mem_cons.mp member with new | old
    · cases new
      obtain ⟨message, latest, carried⟩ :=
        lockStep.latestRequest client request (mem_of_take taken)
      exact ⟨message, latest, answered message carried⟩
    · exact lockStep.latestReply other found old

theorem receive (lockStep : LockStep carries answers waiting last requests replies) {client : ι}
    {reply : β} {rest : List (ι × β)} {index : Nat}
    (taken : take replies index = some ((client, reply), rest)) (waits : waiting client = true)
    (others : ∀ other ≠ client, nextWaiting other = waiting other) :
    LockStep carries answers nextWaiting last requests rest := by
  constructor
  case single =>
    intro other
    have before := lockStep.single other
    rw [inFlight_of_take taken] at before
    by_cases same : client = other
    · subst same
      rw [waits, Bool.toNat_true, if_pos rfl] at before
      omega
    · rw [if_neg same] at before
      rw [others other (Ne.symm same)]
      exact before
  case latestRequest => exact lockStep.latestRequest
  case latestReply =>
    exact fun other found member => lockStep.latestReply other found (subset_of_take taken member)

theorem fewer (lockStep : LockStep carries answers waiting last requests replies)
    {fewerRequests : List (ι × α)} {fewerReplies : List (ι × β)}
    (noRequest : fewerRequests.Subperm requests) (noReply : fewerReplies.Subperm replies) :
    LockStep carries answers waiting last fewerRequests fewerReplies where
  single := fun client => Nat.le_trans
    (Nat.add_le_add (noRequest.countP_le _) (noReply.countP_le _)) (lockStep.single client)
  latestRequest := fun client request member =>
    lockStep.latestRequest client request (noRequest.subset member)
  latestReply := fun client reply member =>
    lockStep.latestReply client reply (noReply.subset member)

end LockStep

/-- When a reply arrives, the client has sent one message more than it has had replies.
The message that the reply belongs to is one of them, and the last where it is known to
belong to the last. -/
theorem exists_message_of_reply {sent : List μ} {received : Nat} {belongs : μ → Prop}
    {once : Prop} (lockStep : sent.length = received + 1)
    (some_message : ∃ message ∈ sent, belongs message)
    (latest : once → ∃ message, sent.getLast? = some message ∧ belongs message)
    (later : List μ) :
    ∃ index message, index ≤ received ∧ (sent ++ later)[index]? = some message ∧
      belongs message ∧ (once → index = received) := by
  have candidate : ∃ index message, sent[index]? = some message ∧ belongs message ∧
      (once → index = received) := by
    by_cases single : once
    · obtain ⟨message, last, belong⟩ := latest single
      rw [List.getLast?_eq_getElem?, lockStep, Nat.add_sub_cancel] at last
      exact ⟨received, message, last, belong, fun _ => rfl⟩
    · obtain ⟨message, member, belong⟩ := some_message
      obtain ⟨index, found⟩ := List.mem_iff_getElem?.mp member
      exact ⟨index, message, found, belong, fun impossible => (single impossible).elim⟩
  obtain ⟨index, message, found, belong, matched⟩ := candidate
  obtain ⟨inside, -⟩ := List.getElem?_eq_some_iff.mp found
  refine ⟨index, message, by omega, ?_, belong, matched⟩
  rw [List.getElem?_append_left inside]
  exact found

end Channel

end OpServer
