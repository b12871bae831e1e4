import Mathlib.Data.List.Basic

/-!
# Runs of a machine that consumes inputs and emits outputs

A machine consumes one input at a time, emits one output and moves on, or gets
stuck.  A run is stuck as soon as one of its steps is.  The rules below carry
a property of single steps to runs of any length: an invariant of the states,
the outputs under such an invariant, and a property of the state together with
everything emitted so far.
-/

namespace OpServer

namespace Stepped

variable {σ ι ο : Type*}

/-- Feed a list of inputs to a machine and collect what it emits. -/
def run (step : σ → ι → Option (σ × ο)) : σ → List ι → Option (σ × List ο)
  | state, [] => some (state, [])
  | state, input :: inputs =>
      (step state input).bind fun stepped =>
        (run step stepped.1 inputs).map fun rest =>
          (rest.1, stepped.2 :: rest.2)

variable {step : σ → ι → Option (σ × ο)}

@[simp]
theorem run_nil (state : σ) : run step state [] = some (state, []) :=
  rfl

theorem run_cons_of_step {state next : σ} {input : ι} {output : ο}
    (stepped : step state input = some (next, output)) (inputs : List ι) :
    run step state (input :: inputs) =
      (run step next inputs).map fun rest => (rest.1, output :: rest.2) := by
  rw [run, stepped]
  rfl

theorem run_cons_eq_some {state final : σ} {input : ι} {inputs : List ι}
    {outputs : List ο}
    (completed : run step state (input :: inputs) = some (final, outputs)) :
    ∃ next output rest, step state input = some (next, output) ∧
      run step next inputs = some (final, rest) ∧ outputs = output :: rest := by
  rw [run, Option.bind_eq_some_iff] at completed
  obtain ⟨⟨next, output⟩, stepped, completed⟩ := completed
  rw [Option.map_eq_some_iff] at completed
  obtain ⟨⟨last, rest⟩, continued, joined⟩ := completed
  simp only [Prod.mk.injEq] at joined
  obtain ⟨rfl, rfl⟩ := joined
  exact ⟨next, output, rest, stepped, continued, rfl⟩

theorem run_append (state : σ) (first second : List ι) :
    run step state (first ++ second) =
      (run step state first).bind fun middle =>
        (run step middle.1 second).map fun rest =>
          (rest.1, middle.2 ++ rest.2) := by
  induction first generalizing state with
  | nil => simp
  | cons input first ih =>
      rw [List.cons_append, run, run]
      cases step state input with
      | none => rfl
      | some stepped =>
          simp only [Option.bind_some, ih]
          cases run step stepped.1 first with
          | none => rfl
          | some middle =>
              simp only [Option.bind_some, Option.map_some]
              cases run step middle.1 second <;> rfl

theorem run_append_of_run {state middle : σ} {first : List ι} {outputs : List ο}
    (completed : run step state first = some (middle, outputs))
    (second : List ι) :
    run step state (first ++ second) =
      (run step middle second).map fun rest => (rest.1, outputs ++ rest.2) := by
  rw [run_append, completed]
  rfl

theorem run_append_eq_some_iff {state final : σ} {first second : List ι} {outputs : List ο} :
    run step state (first ++ second) = some (final, outputs) ↔
      ∃ middle earlier later, run step state first = some (middle, earlier) ∧
        run step middle second = some (final, later) ∧ outputs = earlier ++ later := by
  constructor
  · intro completed
    rw [run_append, Option.bind_eq_some_iff] at completed
    obtain ⟨⟨middle, earlier⟩, reached, completed⟩ := completed
    rw [Option.map_eq_some_iff] at completed
    obtain ⟨⟨last, later⟩, continued, joined⟩ := completed
    simp only [Prod.mk.injEq] at joined
    obtain ⟨rfl, rfl⟩ := joined
    exact ⟨middle, earlier, later, reached, continued, rfl⟩
  · rintro ⟨middle, earlier, later, reached, continued, rfl⟩
    rw [run_append_of_run reached, continued]
    rfl

theorem step_of_run {state middle final : σ} {before after : List ι} {input : ι}
    {earlier outputs : List ο}
    (completed : run step state (before ++ input :: after) = some (final, outputs))
    (reached : run step state before = some (middle, earlier)) :
    ∃ next output later, step middle input = some (next, output) ∧
      run step next after = some (final, later) ∧ outputs = earlier ++ output :: later := by
  obtain ⟨_, _, rest, same, continued, rfl⟩ := run_append_eq_some_iff.mp completed
  rw [reached, Option.some.injEq, Prod.mk.injEq] at same
  obtain ⟨rfl, rfl⟩ := same
  obtain ⟨next, output, later, stepped, continues, rfl⟩ := run_cons_eq_some continued
  exact ⟨next, output, later, stepped, continues, rfl⟩

theorem run_through_step {state middle next final : σ} {before after : List ι} {input : ι}
    {output : ο} {earlier later : List ο} (reached : run step state before = some (middle, earlier))
    (stepped : step middle input = some (next, output))
    (continued : run step next after = some (final, later)) :
    run step state (before ++ input :: after) = some (final, earlier ++ output :: later) := by
  rw [run_append_of_run reached, run_cons_of_step stepped, continued]
  rfl

theorem exists_step_of_mem {state final : σ} {inputs : List ι} {outputs : List ο} {output : ο}
    (completed : run step state inputs = some (final, outputs)) (emitted : output ∈ outputs) :
    ∃ before input after middle earlier next, inputs = before ++ input :: after ∧
      run step state before = some (middle, earlier) ∧ step middle input = some (next, output) := by
  induction inputs generalizing state outputs with
  | nil =>
      rw [run_nil] at completed
      cases completed
      cases emitted
  | cons input inputs ih =>
      obtain ⟨next, first, rest, stepped, continued, rfl⟩ := run_cons_eq_some completed
      rcases List.mem_cons.mp emitted with rfl | later
      · exact ⟨[], input, inputs, state, [], next, rfl, rfl, stepped⟩
      · obtain ⟨before, found, after, middle, earlier, reached, rfl, continues, emits⟩ :=
          ih continued later
        refine ⟨input :: before, found, after, middle, first :: earlier, reached, rfl, ?_, emits⟩
        rw [run_cons_of_step stepped, continues]
        rfl

theorem run_length {state final : σ} {inputs : List ι} {outputs : List ο}
    (completed : run step state inputs = some (final, outputs)) :
    outputs.length = inputs.length := by
  induction inputs generalizing state outputs with
  | nil =>
      rw [run_nil] at completed
      cases completed
      rfl
  | cons input inputs ih =>
      obtain ⟨next, output, rest, -, continued, rfl⟩ := run_cons_eq_some completed
      simp [ih continued]

theorem exists_step_of_getElem? {state final : σ} {inputs : List ι} {outputs : List ο}
    (completed : run step state inputs = some (final, outputs)) {index : Nat} {input : ι}
    (found : inputs[index]? = some input) :
    ∃ reached next output, step reached input = some (next, output) ∧
      outputs[index]? = some output := by
  induction inputs generalizing state outputs index with
  | nil => simp at found
  | cons first inputs ih =>
      obtain ⟨next, output, rest, stepped, continued, rfl⟩ := run_cons_eq_some completed
      cases index with
      | zero =>
          cases found
          exact ⟨state, next, output, stepped, rfl⟩
      | succ index => exact ih continued found

theorem run_isSome {allowed : ι → Prop}
    (possible : ∀ state input, allowed input → (step state input).isSome)
    (state : σ) {inputs : List ι} (inputsAllowed : ∀ input ∈ inputs, allowed input) :
    ∃ final outputs, run step state inputs = some (final, outputs) := by
  induction inputs generalizing state with
  | nil => exact ⟨state, [], rfl⟩
  | cons input inputs ih =>
      obtain ⟨⟨next, output⟩, stepped⟩ :=
        Option.isSome_iff_exists.mp (possible state input (inputsAllowed input (by simp)))
      obtain ⟨final, outputs, continued⟩ :=
        ih next fun later member => inputsAllowed later (by simp [member])
      refine ⟨final, output :: outputs, ?_⟩
      rw [run_cons_of_step stepped, continued]
      rfl

/-- Under an invariant that fixes the output of every step, a run completes
and emits those outputs. -/
theorem run_eq_map {invariant : σ → Prop} {allowed : ι → Prop} {answer : ι → ο}
    (answers : ∀ state input, invariant state → allowed input →
      ∃ next, step state input = some (next, answer input) ∧ invariant next)
    {state : σ} (holds : invariant state) {inputs : List ι}
    (inputsAllowed : ∀ input ∈ inputs, allowed input) :
    ∃ final, run step state inputs = some (final, inputs.map answer) ∧
      invariant final := by
  induction inputs generalizing state with
  | nil => exact ⟨state, rfl, holds⟩
  | cons input inputs ih =>
      obtain ⟨next, stepped, nextHolds⟩ :=
        answers state input holds (inputsAllowed input (by simp))
      obtain ⟨final, continued, finalHolds⟩ :=
        ih nextHolds fun later member => inputsAllowed later (by simp [member])
      refine ⟨final, ?_, finalHolds⟩
      rw [run_cons_of_step stepped, continued]
      rfl

/-! ## Runs whose steps meet a guard -/

/-- Every step of a run, as far as it gets, meets a guard. -/
def Guarded (step : σ → ι → Option (σ × ο)) (guard : σ → ι → Prop) : σ → List ι → Prop
  | _, [] => True
  | state, input :: inputs =>
      guard state input ∧ ∀ stepped ∈ step state input, Guarded step guard stepped.1 inputs

instance decidableGuarded (guard : σ → ι → Prop) [∀ state, DecidablePred (guard state)] :
    ∀ (state : σ) (inputs : List ι), Decidable (Guarded step guard state inputs)
  | _, [] => inferInstanceAs (Decidable True)
  | state, input :: inputs =>
      have _ : DecidablePred fun stepped : σ × ο => Guarded step guard stepped.1 inputs :=
        fun stepped => decidableGuarded guard stepped.1 inputs
      inferInstanceAs (Decidable (guard state input ∧ ∀ stepped ∈ step state input, _))

theorem guarded_cons_of_step {guard : σ → ι → Prop} {state next : σ} {input : ι} {output : ο}
    (stepped : step state input = some (next, output)) (inputs : List ι) :
    Guarded step guard state (input :: inputs) ↔
      guard state input ∧ Guarded step guard next inputs := by
  rw [Guarded, stepped]
  simp

theorem guarded_of_allowed {allowed : ι → Prop} (state : σ) {inputs : List ι}
    (inputsAllowed : ∀ input ∈ inputs, allowed input) :
    Guarded step (fun _ => allowed) state inputs := by
  induction inputs generalizing state with
  | nil => trivial
  | cons input inputs ih =>
      exact ⟨inputsAllowed input (by simp),
        fun stepped _ => ih stepped.1 fun later member => inputsAllowed later (by simp [member])⟩

/-- A guard that follows from an invariant of all steps. -/
theorem guarded_of_invariant {invariant : σ → Prop} {guard : σ → ι → Prop}
    (keeps : ∀ state input next output, invariant state →
      step state input = some (next, output) → invariant next)
    (meets : ∀ state input, invariant state → guard state input)
    {state : σ} (starts : invariant state) (inputs : List ι) :
    Guarded step guard state inputs := by
  induction inputs generalizing state with
  | nil => trivial
  | cons input inputs ih =>
      refine ⟨meets state input starts, fun stepped found => ih ?_⟩
      exact keeps state input stepped.1 stepped.2 starts found

theorem guarded_of_reached {guard : σ → ι → Prop} {state : σ} {inputs : List ι}
    (reached : ∀ before input after middle earlier, inputs = before ++ input :: after →
      run step state before = some (middle, earlier) → guard middle input) :
    Guarded step guard state inputs := by
  induction inputs generalizing state with
  | nil => trivial
  | cons input inputs ih =>
      refine ⟨reached [] input inputs state [] rfl rfl, ?_⟩
      rintro ⟨next, output⟩ stepped
      apply ih
      intro before later after middle earlier split completed
      apply reached (input :: before) later after middle (output :: earlier)
      · rw [split, List.cons_append]
      · rw [run_cons_of_step stepped, completed]
        rfl

/-- A relation between the state and everything emitted so far, kept by every
step that meets a guard, holds at the end of a run whose steps all meet it. -/
theorem run_guarded_trace_invariant {invariant : σ → List ο → Prop} {guard : σ → ι → Prop}
    (keeps : ∀ state trace input next output, invariant state trace →
      guard state input → step state input = some (next, output) →
        invariant next (trace ++ [output]))
    {state final : σ} {inputs : List ι} {outputs : List ο}
    (starts : invariant state []) (guarded : Guarded step guard state inputs)
    (completed : run step state inputs = some (final, outputs)) :
    invariant final outputs := by
  suffices general : ∀ trace, invariant state trace →
      invariant final (trace ++ outputs) from general [] starts
  clear starts
  induction inputs generalizing state outputs with
  | nil =>
      rw [run_nil] at completed
      cases completed
      intro trace holds
      simpa using holds
  | cons input inputs ih =>
      obtain ⟨next, output, rest, stepped, continued, rfl⟩ :=
        run_cons_eq_some completed
      obtain ⟨meets, later⟩ := (guarded_cons_of_step stepped inputs).mp guarded
      intro trace holds
      have nextHolds := keeps state trace input next output holds meets stepped
      simpa using ih later continued (trace ++ [output]) nextHolds

theorem run_trace_invariant {invariant : σ → List ο → Prop} {allowed : ι → Prop}
    (keeps : ∀ state trace input next output, invariant state trace →
      allowed input → step state input = some (next, output) →
        invariant next (trace ++ [output]))
    {state final : σ} {inputs : List ι} {outputs : List ο}
    (starts : invariant state []) (inputsAllowed : ∀ input ∈ inputs, allowed input)
    (completed : run step state inputs = some (final, outputs)) :
    invariant final outputs :=
  run_guarded_trace_invariant keeps starts (guarded_of_allowed state inputsAllowed) completed

/-- The rule for an invariant of the states only. -/
theorem run_guarded_invariant {invariant : σ → Prop} {guard : σ → ι → Prop}
    (keeps : ∀ state input next output, invariant state → guard state input →
      step state input = some (next, output) → invariant next)
    {state final : σ} {inputs : List ι} {outputs : List ο} (starts : invariant state)
    (guarded : Guarded step guard state inputs)
    (completed : run step state inputs = some (final, outputs)) :
    invariant final :=
  @run_guarded_trace_invariant _ _ _ _ (fun state _ => invariant state) _
    (fun state _ input next output => keeps state input next output) _ _ _ _ starts guarded completed

theorem getElem?_concat_cases {trace : List ο} {output found : ο} {index : Nat}
    (entry : (trace ++ [output])[index]? = some found) :
    (trace : List ο)[index]? = some found ∨ index = trace.length ∧ found = output := by
  by_cases inside : index < trace.length
  · left
    rwa [List.getElem?_append_left inside] at entry
  · obtain ⟨bound, -⟩ := List.getElem?_eq_some_iff.mp entry
    rw [List.length_append, List.length_singleton] at bound
    have last : index = trace.length := by omega
    subst last
    rw [List.getElem?_concat_length] at entry
    cases entry
    exact .inr ⟨rfl, rfl⟩

/-- An output that is emitted only behind traces of some kind stands behind
such a trace wherever a run emits it. -/
theorem run_guarded_emits {invariant : σ → List ο → Prop} {guard : σ → ι → Prop}
    {output : ο}
    {justified : List ο → Prop}
    (keeps : ∀ state trace input next output, invariant state trace →
      guard state input → step state input = some (next, output) →
        invariant next (trace ++ [output]))
    (emits : ∀ state trace input next, invariant state trace →
      guard state input → step state input = some (next, output) → justified trace)
    {state final : σ} {inputs : List ι} {outputs : List ο}
    (starts : invariant state []) (guarded : Guarded step guard state inputs)
    (completed : run step state inputs = some (final, outputs))
    {before after : List ο} (emitted : outputs = before ++ output :: after) :
    justified before := by
  let extended : σ → List ο → Prop := fun state trace =>
    invariant state trace ∧ ∀ before after, trace = before ++ output :: after → justified before
  have keepsExtended (state : σ) (trace : List ο) (input : ι) (next : σ) (last : ο)
      (holds : extended state trace) (meets : guard state input)
      (stepped : step state input = some (next, last)) :
      extended next (trace ++ [last]) := by
    refine ⟨keeps state trace input next last holds.1 meets stepped, ?_⟩
    intro earlier later split
    rcases List.eq_nil_or_concat later with rfl | ⟨front, newest, rfl⟩
    · -- The output is the one that this step emits.
      obtain ⟨rfl, same⟩ := List.append_inj' split rfl
      cases same
      exact emits state trace input next holds.1 meets stepped
    · apply holds.2 earlier front
      rw [List.concat_eq_append, ← List.cons_append, ← List.append_assoc] at split
      exact (List.append_inj' split rfl).1
  have both : extended final outputs := run_guarded_trace_invariant keepsExtended
    ⟨starts, fun _ _ split => by simp at split⟩ guarded completed
  exact both.2 before after emitted

theorem run_emits {invariant : σ → List ο → Prop} {allowed : ι → Prop} {output : ο}
    {justified : List ο → Prop}
    (keeps : ∀ state trace input next output, invariant state trace →
      allowed input → step state input = some (next, output) →
        invariant next (trace ++ [output]))
    (emits : ∀ state trace input next, invariant state trace →
      allowed input → step state input = some (next, output) → justified trace)
    {state final : σ} {inputs : List ι} {outputs : List ο}
    (starts : invariant state []) (inputsAllowed : ∀ input ∈ inputs, allowed input)
    (completed : run step state inputs = some (final, outputs))
    {before after : List ο} (emitted : outputs = before ++ output :: after) :
    justified before :=
  run_guarded_emits keeps emits starts (guarded_of_allowed state inputsAllowed) completed emitted

/-- Where every allowed step uses up a variant, a run cannot go on for longer than
the variant lasts. -/
theorem run_length_le {variant : σ → Nat} {allowed : ι → Prop}
    (uses : ∀ state input next output, allowed input →
      step state input = some (next, output) → variant next < variant state)
    {state final : σ} {inputs : List ι} {outputs : List ο}
    (inputsAllowed : ∀ input ∈ inputs, allowed input)
    (completed : run step state inputs = some (final, outputs)) :
    inputs.length + variant final ≤ variant state := by
  induction inputs generalizing state outputs with
  | nil =>
      rw [run_nil] at completed
      cases completed
      exact Nat.le_of_eq (Nat.zero_add _)
  | cons input inputs ih =>
      obtain ⟨next, output, rest, stepped, continued, rfl⟩ := run_cons_eq_some completed
      have used := uses state input next output (inputsAllowed input (by simp)) stepped
      have later := ih (fun later member => inputsAllowed later (by simp [member])) continued
      rw [List.length_cons]
      omega

/-- Behind every observation that a trace contains stands the event that was
observed, with all earlier observations before it. -/
theorem exists_event_of_observed {β : Type*} {observe : ο → Option β} {trace : List ο}
    {index : Nat} {observed : β} (found : (trace.filterMap observe)[index]? = some observed) :
    ∃ before event after, trace = before ++ event :: after ∧ observe event = some observed ∧
      (before.filterMap observe).length = index := by
  induction trace generalizing index with
  | nil => simp at found
  | cons event trace ih =>
      cases seen : observe event with
      | none =>
          rw [List.filterMap_cons_none seen] at found
          obtain ⟨before, later, after, rfl, observedLater, count⟩ := ih found
          exact ⟨event :: before, later, after, rfl, observedLater, by
            rw [List.filterMap_cons_none seen, count]⟩
      | some first =>
          rw [List.filterMap_cons_some seen] at found
          cases index with
          | zero =>
              rw [List.getElem?_cons_zero, Option.some.injEq] at found
              exact ⟨[], event, trace, rfl, found ▸ seen, rfl⟩
          | succ index =>
              obtain ⟨before, later, after, rfl, observedLater, count⟩ := ih found
              exact ⟨event :: before, later, after, rfl, observedLater, by
                rw [List.filterMap_cons_some seen, List.length_cons, count]⟩

end Stepped

end OpServer
