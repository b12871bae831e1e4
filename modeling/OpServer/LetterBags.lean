import OpServer.SteppedRuns
import Mathlib.Algebra.Order.Group.Multiset
import Mathlib.Tactic.Abel

/-!
# Bags of letters

What a message service amounts to for those who use it: letters are posted,
each is in the bag for a while, and is delivered.  A bag that is not reliable
may also lose letters or copy them.  Only posting and delivering is seen.
-/

namespace OpServer

namespace LetterBag

variable {α : Type*}

inductive Action (α : Type*)
  | post (letter : α)
  | deliver (letter : α)
  | lose (letter : α)
  | copy (letter : α)
  deriving DecidableEq

inductive Event (α : Type*)
  | posted (letter : α)
  | delivered (letter : α)
  deriving DecidableEq

/-- A letter is delivered, lost or copied only when it is in the bag. -/
def step [DecidableEq α] (bag : Multiset α) : Action α → Option (Multiset α × Option (Event α))
  | .post letter => some (letter ::ₘ bag, some (.posted letter))
  | .deliver letter =>
      if letter ∈ bag then some (bag.erase letter, some (.delivered letter)) else none
  | .lose letter => if letter ∈ bag then some (bag.erase letter, none) else none
  | .copy letter => if letter ∈ bag then some (letter ::ₘ bag, none) else none

/-- The letters that were posted, in order. -/
def posted (events : List (Event α)) : List α :=
  events.filterMap fun
    | .posted letter => some letter
    | .delivered _ => none

/-- The letters that were delivered, in order. -/
def delivered (events : List (Event α)) : List α :=
  events.filterMap fun
    | .posted _ => none
    | .delivered letter => some letter

def lost (actions : List (Action α)) : List α :=
  actions.filterMap fun
    | .lose letter => some letter
    | _ => none

def copies (actions : List (Action α)) : List α :=
  actions.filterMap fun
    | .copy letter => some letter
    | _ => none

/-- The actions of a bag that may do so much. -/
def Permitted (mayLose mayCopy : Prop) : Action α → Prop
  | .lose _ => mayLose
  | .copy _ => mayCopy
  | _ => True

theorem lost_eq_nil {mayCopy : Prop} {actions : List (Action α)}
    (permitted : ∀ action ∈ actions, Permitted False mayCopy action) : lost actions = [] := by
  apply List.filterMap_eq_nil_iff.mpr
  intro action member
  have allowed := permitted action member
  cases action with
  | lose letter => exact allowed.elim
  | post letter => rfl
  | deliver letter => rfl
  | copy letter => rfl

theorem copies_eq_nil {mayLose : Prop} {actions : List (Action α)}
    (permitted : ∀ action ∈ actions, Permitted mayLose False action) : copies actions = [] := by
  apply List.filterMap_eq_nil_iff.mpr
  intro action member
  have allowed := permitted action member
  cases action with
  | copy letter => exact allowed.elim
  | post letter => rfl
  | deliver letter => rfl
  | lose letter => rfl

variable [DecidableEq α]

@[simp]
theorem step_deliver (letter : α) (others : Multiset α) :
    step (letter ::ₘ others) (.deliver letter) = some (others, some (.delivered letter)) := by
  rw [step, if_pos (Multiset.mem_cons_self _ _), Multiset.erase_cons_head]

@[simp]
theorem step_lose (letter : α) (others : Multiset α) :
    step (letter ::ₘ others) (.lose letter) = some (others, none) := by
  rw [step, if_pos (Multiset.mem_cons_self _ _), Multiset.erase_cons_head]

theorem add_singleton_erase {bag : Multiset α} {letter : α} (member : letter ∈ bag) :
    bag.erase letter + {letter} = bag := by
  rw [Multiset.add_comm, Multiset.singleton_add, Multiset.cons_erase member]

/-- A step accounts for the letters that come into the bag and leave it. -/
theorem accounts_of_step {bag next : Multiset α} {action : Action α} {event : Option (Event α)}
    (stepped : step bag action = some (next, event)) :
    next + delivered event.toList + lost [action] =
      bag + posted event.toList + copies [action] := by
  cases action with
  | post letter =>
      cases stepped
      change letter ::ₘ bag + 0 + 0 = bag + {letter} + 0
      rw [← Multiset.singleton_add]
      abel
  | deliver letter =>
      rw [step] at stepped
      split at stepped
      · rename_i member
        cases stepped
        change bag.erase letter + {letter} + 0 = bag + 0 + 0
        rw [add_singleton_erase member, add_zero, add_zero]
      · cases stepped
  | lose letter =>
      rw [step] at stepped
      split at stepped
      · rename_i member
        cases stepped
        change bag.erase letter + 0 + {letter} = bag + 0 + 0
        rw [add_zero, add_singleton_erase member, add_zero, add_zero]
      · cases stepped
  | copy letter =>
      rw [step] at stepped
      split at stepped
      · cases stepped
        change letter ::ₘ bag + 0 + 0 = bag + 0 + {letter}
        rw [← Multiset.singleton_add]
        abel
      · cases stepped

theorem accounts_of_run {bag final : Multiset α} {actions : List (Action α)}
    {events : List (Option (Event α))}
    (completed : Stepped.run step bag actions = some (final, events)) :
    final + delivered (events.filterMap id) + lost actions =
      bag + posted (events.filterMap id) + copies actions := by
  induction actions generalizing bag events with
  | nil =>
      rw [Stepped.run_nil] at completed
      cases completed
      rfl
  | cons action actions ih =>
      obtain ⟨next, event, rest, stepped, continued, rfl⟩ := Stepped.run_cons_eq_some completed
      have first := accounts_of_step stepped
      have later := ih continued
      have observed : (event :: rest).filterMap id = event.toList ++ rest.filterMap id := by
        cases event <;> rfl
      rw [observed, delivered, posted, lost, copies, List.filterMap_append, List.filterMap_append,
        ← List.singleton_append, List.filterMap_append, List.filterMap_append, ← delivered,
        ← delivered, ← posted, ← posted, ← lost, ← lost, ← copies, ← copies]
      simp only [← Multiset.coe_add]
      calc
        (final : Multiset α) + (delivered event.toList + delivered (rest.filterMap id)) +
              (lost [action] + lost actions)
          = final + delivered (rest.filterMap id) + lost actions +
              (delivered event.toList + lost [action]) := by abel
        _ = next + posted (rest.filterMap id) + copies actions +
              (delivered event.toList + lost [action]) := by rw [later]
        _ = next + delivered event.toList + lost [action] +
              (posted (rest.filterMap id) + copies actions) := by abel
        _ = bag + posted event.toList + copies [action] +
              (posted (rest.filterMap id) + copies actions) := by rw [first]
        _ = bag + (posted event.toList + posted (rest.filterMap id)) +
              (copies [action] + copies actions) := by abel

section Reliability

variable {bag final : Multiset α} {actions : List (Action α)} {events : List (Option (Event α))}

/-- Without copies, no letter is delivered more often than it was posted. -/
theorem delivered_le_of_run (uncopied : copies actions = [])
    (completed : Stepped.run step 0 actions = some (final, events)) :
    (delivered (events.filterMap id) : Multiset α) ≤ posted (events.filterMap id) := by
  have accounts := accounts_of_run completed
  rw [uncopied, Multiset.coe_nil, add_zero, zero_add] at accounts
  rw [← accounts]
  exact (Multiset.le_add_left _ _).trans (Multiset.le_add_right _ _)

/-- Without losses, either, every letter is delivered or still in the bag. -/
theorem posted_eq_of_run (uncopied : copies actions = []) (kept : lost actions = [])
    (completed : Stepped.run step 0 actions = some (final, events)) :
    (posted (events.filterMap id) : Multiset α) = delivered (events.filterMap id) + final := by
  have accounts := accounts_of_run completed
  rw [uncopied, kept, Multiset.coe_nil, add_zero, add_zero, zero_add] at accounts
  rw [← accounts, add_comm]

end Reliability

end LetterBag

end OpServer
