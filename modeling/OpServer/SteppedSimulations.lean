import OpServer.SteppedRuns

/-!
# Simulation between two machines

One machine simulates another if each step of the other, between related
states, is matched by a run that an observer cannot tell from it.  Then every
run of the other is matched, and whatever the observer knows of all runs of the
first machine holds of the other one, too.
-/

namespace OpServer

namespace Stepped

variable {σ τ ι κ ο π ε : Type*}

/-- A run on permitted inputs leads to a related state, and all that is seen of it
is this observation. -/
def Matches (upper : τ → κ → Option (τ × π)) (observe : π → Option ε) (permitted : κ → Prop)
    (image : τ) (related : τ → Prop) (seen : Option ε) : Prop :=
  ∃ inputs nextImage outputs, run upper image inputs = some (nextImage, outputs) ∧
    related nextImage ∧ (∀ input ∈ inputs, permitted input) ∧
      outputs.filterMap observe = seen.toList

section Matches

variable {upper : τ → κ → Option (τ × π)} {observe : π → Option ε} {permitted : κ → Prop}
  {image : τ} {related : τ → Prop} {seen : Option ε}

/-- An unseen step may be matched by none. -/
theorem Matches.stay (same : related image) (unseen : seen = none) :
    Matches upper observe permitted image related seen := by
  subst unseen
  exact ⟨[], image, [], rfl, same, fun _ impossible => (by cases impossible), rfl⟩

theorem Matches.step {nextImage : τ} {input : κ} {output : π}
    (stepped : upper image input = some (nextImage, output)) (leads : related nextImage)
    (allowed : permitted input) (sees : observe output = seen) :
    Matches upper observe permitted image related seen := by
  refine ⟨[input], nextImage, [output], ?_, leads, ?_, ?_⟩
  · rw [run_cons_of_step stepped, run_nil]
    rfl
  · intro other member
    rwa [List.mem_singleton.mp member]
  · rw [List.filterMap_cons, sees]
    cases seen <;> rfl

end Matches

/-- The steps of the lower machine on allowed inputs are runs of the upper one
on permitted inputs, with the same observations. -/
structure Simulation (lower : σ → ι → Option (σ × ο)) (upper : τ → κ → Option (τ × π))
    (observeLower : ο → Option ε) (observeUpper : π → Option ε)
    (allowed : ι → Prop) (permitted : κ → Prop) where
  relates : σ → τ → Prop
  steps : ∀ {state image input next output}, relates state image → allowed input →
    lower state input = some (next, output) →
      Matches upper observeUpper permitted image (relates next) (observeLower output)

namespace Simulation

variable {lower : σ → ι → Option (σ × ο)} {upper : τ → κ → Option (τ × π)}
  {observeLower : ο → Option ε} {observeUpper : π → Option ε} {allowed : ι → Prop}
  {permitted : κ → Prop}

/-- Runs of the lower machine are runs of the upper one. -/
theorem exists_run (simulation :
      Simulation lower upper observeLower observeUpper allowed permitted)
    {state final : σ} {image : τ} {inputs : List ι} {outputs : List ο}
    (related : simulation.relates state image) (inputsAllowed : ∀ input ∈ inputs, allowed input)
    (completed : run lower state inputs = some (final, outputs)) :
    ∃ upperInputs finalImage upperOutputs,
      run upper image upperInputs = some (finalImage, upperOutputs) ∧
        simulation.relates final finalImage ∧ (∀ input ∈ upperInputs, permitted input) ∧
          upperOutputs.filterMap observeUpper = outputs.filterMap observeLower := by
  induction inputs generalizing state image outputs with
  | nil =>
      rw [run_nil] at completed
      cases completed
      exact ⟨[], image, [], rfl, related, fun _ impossible => (by cases impossible), rfl⟩
  | cons input inputs ih =>
      obtain ⟨next, output, rest, stepped, continued, rfl⟩ := run_cons_eq_some completed
      obtain ⟨first, nextImage, firstOutputs, ran, nextRelated, firstPermitted, firstObserved⟩ :=
        simulation.steps related (inputsAllowed input (by simp)) stepped
      obtain ⟨later, finalImage, laterOutputs, continues, finalRelated, laterPermitted,
          laterObserved⟩ :=
        ih nextRelated (fun later member => inputsAllowed later (by simp [member])) continued
      refine ⟨first ++ later, finalImage, firstOutputs ++ laterOutputs, ?_, finalRelated, ?_, ?_⟩
      · rw [run_append_of_run ran, continues]
        rfl
      · intro input member
        rcases List.mem_append.mp member with earlier | following
        · exact firstPermitted input earlier
        · exact laterPermitted input following
      · rw [List.filterMap_append, firstObserved, laterObserved, List.filterMap_cons]
        cases observeLower output <;> rfl

end Simulation

end Stepped

end OpServer
