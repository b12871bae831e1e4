import OpServer.SteppedSimulations

/-!
# Requests and replies over byte streams

A client sends a request and waits.  A server answers whatever one receive
returns.  Between them are two byte streams that know nothing of messages, so a
receive may return any first part of what is there.  Where it always returns all
of a message, the two programs behave as if a request and its reply were
exchanged in one step.
-/

namespace OpServer

/-- The programs at the two ends, with the most that one receive of each returns.
What a user typed stays known until its reply comes; a server may depend on
chance. -/
structure StreamPrograms (γ σ υ δ π β : Type*) where
  request : γ → υ → Option (List β)
  reply : σ → δ → List β → Option (σ × List β)
  receive : γ → υ → List β → Option (γ × π)
  serverCapacity : Nat
  clientCapacity : Nat

/-- The states of both programs, what the client waits for, and the two streams. -/
structure StreamSession (γ σ υ β : Type*) where
  client : γ
  typed : Option υ
  server : σ
  upstream : List β
  downstream : List β

inductive StreamAction (υ δ : Type*)
  | prompt (typed : υ)
  | serve (arrived : Nat) (chance : δ)
  | receive (arrived : Nat)

variable {γ σ υ δ π β : Type*}

/-- A receive returns no less than a whole message, and users type what is
permitted. -/
def StreamAction.Whole (requestSize replySize : Nat) (permitted : υ → Prop) :
    StreamAction υ δ → Prop
  | .prompt typed => permitted typed
  | .serve arrived _ => requestSize ≤ arrived
  | .receive arrived => replySize ≤ arrived

/-- No program has started. -/
def StreamSession.start (client : γ) (server : σ) : StreamSession γ σ υ β where
  client := client
  typed := none
  server := server
  upstream := []
  downstream := []

namespace StreamPrograms

variable (programs : StreamPrograms γ σ υ δ π β)

/-- One step of a session, with what the user typed and is shown for it. -/
def step (session : StreamSession γ σ υ β) :
    StreamAction υ δ → Option (StreamSession γ σ υ β × Option (υ × π))
  | .prompt typed =>
      match session.typed with
      | some _ => none
      | none =>
          (programs.request session.client typed).map fun bytes =>
            ({ session with typed := some typed, upstream := session.upstream ++ bytes }, none)
  | .serve arrived chance =>
      let size := min arrived programs.serverCapacity
      if (session.upstream.take size).isEmpty then none
      else
        (programs.reply session.server chance (session.upstream.take size)).map fun served =>
          ({ session with
              server := served.1
              upstream := session.upstream.drop size
              downstream := session.downstream ++ served.2 },
            none)
  | .receive arrived =>
      let size := min arrived programs.clientCapacity
      match session.typed with
      | none => none
      | some typed =>
          if (session.downstream.take size).isEmpty then none
          else
            (programs.receive session.client typed (session.downstream.take size)).map fun shown =>
              ({ session with
                  client := shown.1
                  typed := none
                  downstream := session.downstream.drop size },
                some (typed, shown.2))

/-- A request, its reply and what the user is shown, in one step. -/
def exchange (both : γ × σ) (input : υ × δ) : Option ((γ × σ) × (υ × π)) :=
  (programs.request both.1 input.1).bind fun bytes =>
    (programs.reply both.2 input.2 bytes).bind fun served =>
      (programs.receive both.1 input.1 served.2).map fun shown =>
        ((shown.1, served.1), (input.1, shown.2))

/-- No message is empty or longer than this, and each fits one receive. -/
structure Fits (requestSize replySize : Nat) : Prop where
  request : ∀ {client typed bytes}, programs.request client typed = some bytes →
    bytes ≠ [] ∧ bytes.length ≤ requestSize
  reply : ∀ {server chance bytes next answer},
    programs.reply server chance bytes = some (next, answer) →
      answer ≠ [] ∧ answer.length ≤ replySize
  serverRoom : requestSize ≤ programs.serverCapacity
  clientRoom : replySize ≤ programs.clientCapacity

/-- Where a session is in an exchange, and the states before that exchange. -/
inductive InStep (permitted : υ → Prop) : StreamSession γ σ υ β → γ × σ → Prop
  | idle {client : γ} {server : σ} :
      InStep permitted ⟨client, none, server, [], []⟩ (client, server)
  | requested {client : γ} {server : σ} {typed : υ} {bytes : List β} (types : permitted typed)
      (sends : programs.request client typed = some bytes) :
      InStep permitted ⟨client, some typed, server, bytes, []⟩ (client, server)
  | replied {client : γ} {earlier server : σ} {typed : υ} {chance : δ} {bytes answer : List β}
      (types : permitted typed) (sends : programs.request client typed = some bytes)
      (answers : programs.reply earlier chance bytes = some (server, answer)) :
      InStep permitted ⟨client, some typed, server, [], answer⟩ (client, earlier)

variable {programs} {requestSize replySize : Nat} {permitted : υ → Prop}

theorem take_drop_of_whole {message : List β} {size arrived capacity : Nat}
    (short : message.length ≤ size) (whole : size ≤ arrived) (room : size ≤ capacity) :
    message.take (min arrived capacity) = message ∧
      message.drop (min arrived capacity) = [] := by
  have enough : message.length ≤ min arrived capacity := by omega
  exact ⟨List.take_of_length_le enough, List.drop_of_length_le enough⟩

/-- A step within an exchange is not seen, and the last one is the exchange. -/
theorem InStep.step (fits : programs.Fits requestSize replySize)
    {session next : StreamSession γ σ υ β} {both : γ × σ} {action : StreamAction υ δ}
    {event : Option (υ × π)} (inStep : programs.InStep permitted session both)
    (whole : action.Whole requestSize replySize permitted)
    (stepped : programs.step session action = some (next, event)) :
    Stepped.Matches programs.exchange some (fun input => permitted input.1) both
      (programs.InStep permitted next) event := by
  cases inStep with
  | @idle client server =>
      cases action with
      | prompt typed =>
          obtain ⟨bytes, sends, same⟩ := Option.map_eq_some_iff.mp stepped
          cases same
          exact Stepped.Matches.stay (.requested whole sends) rfl
      | serve arrived chance =>
          simp only [StreamPrograms.step, List.take_nil, List.isEmpty_nil, if_true] at stepped
          cases stepped
      | receive arrived => cases stepped
  | @requested client server typed bytes types sends =>
      cases action with
      | prompt again => cases stepped
      | serve arrived chance =>
          obtain ⟨all, nothing⟩ := take_drop_of_whole (fits.request sends).2 whole fits.serverRoom
          simp only [StreamPrograms.step, all, nothing, List.nil_append] at stepped
          split at stepped
          · cases stepped
          · obtain ⟨⟨server, answer⟩, answers, same⟩ := Option.map_eq_some_iff.mp stepped
            cases same
            exact Stepped.Matches.stay (.replied types sends answers) rfl
      | receive arrived =>
          simp only [StreamPrograms.step, List.take_nil, List.isEmpty_nil, if_true] at stepped
          cases stepped
  | @replied client earlier server typed chance bytes answer types sends answers =>
      cases action with
      | prompt again => cases stepped
      | serve arrived other =>
          simp only [StreamPrograms.step, List.take_nil, List.isEmpty_nil, if_true] at stepped
          cases stepped
      | receive arrived =>
          obtain ⟨all, nothing⟩ := take_drop_of_whole (fits.reply answers).2 whole fits.clientRoom
          simp only [StreamPrograms.step, all, nothing] at stepped
          split at stepped
          · cases stepped
          · obtain ⟨⟨after, printed⟩, shows, same⟩ := Option.map_eq_some_iff.mp stepped
            cases same
            have exchanged : programs.exchange (client, earlier) (typed, chance) =
                some ((after, server), (typed, printed)) := by
              simp only [exchange, sends, answers, shows, Option.bind_some, Option.map_some]
            exact Stepped.Matches.step exchanged .idle types rfl

theorem InStep.exists_step (fits : programs.Fits requestSize replySize)
    {session : StreamSession γ σ υ β} {both : γ × σ}
    (inStep : programs.InStep permitted session both)
    (possible : ∀ typed chance, permitted typed →
      (programs.exchange both (typed, chance)).isSome)
    {typed : υ} (types : permitted typed) (chance : δ) :
    ∃ action, StreamAction.Whole requestSize replySize permitted action ∧
      (programs.step session action).isSome := by
  cases inStep with
  | @idle client server =>
      obtain ⟨_, exchanged⟩ := Option.isSome_iff_exists.mp (possible typed chance types)
      obtain ⟨bytes, sends, -⟩ := Option.bind_eq_some_iff.mp exchanged
      refine ⟨.prompt typed, types, ?_⟩
      simp only [StreamPrograms.step, Option.isSome_map]
      exact Option.isSome_of_eq_some sends
  | @requested client server typed bytes types sends =>
      obtain ⟨_, exchanged⟩ := Option.isSome_iff_exists.mp (possible typed chance types)
      obtain ⟨_, again, exchanged⟩ := Option.bind_eq_some_iff.mp exchanged
      obtain ⟨⟨next, answer⟩, answers, -⟩ := Option.bind_eq_some_iff.mp exchanged
      cases sends.symm.trans again
      obtain ⟨all, -⟩ :=
        take_drop_of_whole (fits.request sends).2 (Nat.le_refl requestSize) fits.serverRoom
      have filled : bytes.isEmpty = false := by
        rw [List.isEmpty_eq_false_iff]
        exact (fits.request sends).1
      refine ⟨.serve requestSize chance, Nat.le_refl requestSize, ?_⟩
      simp [StreamPrograms.step, all, filled, answers]
  | @replied client earlier server typed chance bytes answer types sends answers =>
      obtain ⟨_, exchanged⟩ := Option.isSome_iff_exists.mp (possible typed chance types)
      obtain ⟨_, again, exchanged⟩ := Option.bind_eq_some_iff.mp exchanged
      cases sends.symm.trans again
      obtain ⟨_, same, exchanged⟩ := Option.bind_eq_some_iff.mp exchanged
      cases answers.symm.trans same
      obtain ⟨⟨next, printed⟩, shows, -⟩ := Option.map_eq_some_iff.mp exchanged
      obtain ⟨all, -⟩ :=
        take_drop_of_whole (fits.reply answers).2 (Nat.le_refl replySize) fits.clientRoom
      have filled : answer.isEmpty = false := by
        rw [List.isEmpty_eq_false_iff]
        exact (fits.reply answers).1
      refine ⟨.receive replySize, Nat.le_refl replySize, ?_⟩
      simp [StreamPrograms.step, all, filled, shows]

/-- Sessions with whole receives simulate exchanges. -/
def simulation (fits : programs.Fits requestSize replySize) :
    Stepped.Simulation programs.step programs.exchange id some
      (StreamAction.Whole requestSize replySize permitted)
      (fun input => permitted input.1) where
  relates := programs.InStep permitted
  steps := fun inStep whole stepped => inStep.step fits whole stepped

/-- What users are shown in a session with whole receives, they are shown by
exchanges. -/
theorem exchanges_of_run (fits : programs.Fits requestSize replySize) {client : γ} {server : σ}
    {actions : List (StreamAction υ δ)} {final : StreamSession γ σ υ β}
    {trace : List (Option (υ × π))}
    (whole : ∀ action ∈ actions, action.Whole requestSize replySize permitted)
    (ran : Stepped.run programs.step (.start client server) actions = some (final, trace)) :
    ∃ inputs both, (∀ input ∈ inputs, permitted input.1) ∧
      Stepped.run programs.exchange (client, server) inputs =
        some (both, trace.filterMap id) ∧
      programs.InStep permitted final both := by
  obtain ⟨inputs, both, outputs, exchanged, inStep, types, same⟩ :=
    (simulation fits).exists_run .idle whole ran
  rw [List.filterMap_some] at same
  exact ⟨inputs, both, types, same ▸ exchanged, inStep⟩

end StreamPrograms

end OpServer
