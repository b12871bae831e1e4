import Mathlib.Data.List.GetD
import Mathlib.Tactic.ByContra

/-!
# Buffers that keep stale contents

A receive buffer of fixed size is overwritten from its start by whatever
arrived, and keeps its earlier contents behind that.  A copy loop then moves a
prefix of it into a second array, item by item.  The loop is undefined as soon
as its index leaves one of the two arrays.
-/

namespace OpServer

namespace Buffer

variable {α : Type*} {size sourceSize targetSize : Nat}

/-- Overwrite the start of a buffer; later cells keep their contents. -/
def overwrite (buffer : Vector α size) (items : List α) : Vector α size :=
  Vector.ofFn fun index => items.getD index.val buffer[index]

@[simp]
theorem getElem_overwrite (buffer : Vector α size) (items : List α)
    (index : Nat) (inside : index < size) :
    (overwrite buffer items)[index] = items.getD index buffer[index] := by
  simp [overwrite]

theorem getElem_overwrite_of_lt (buffer : Vector α size) (items : List α)
    (index : Nat) (inside : index < size) (fresh : index < items.length) :
    (overwrite buffer items)[index] = items[index] := by
  rw [getElem_overwrite, List.getD_eq_getElem _ _ fresh]

theorem getElem_overwrite_of_le (buffer : Vector α size) (items : List α)
    (index : Nat) (inside : index < size) (stale : items.length ≤ index) :
    (overwrite buffer items)[index] = buffer[index] := by
  rw [getElem_overwrite, List.getD_eq_default _ _ stale]

@[simp]
theorem overwrite_nil (buffer : Vector α size) : overwrite buffer [] = buffer := by
  apply Vector.ext
  intro index inside
  rw [getElem_overwrite, List.getD_nil]

/-- `for (i = index; i < index + remaining; i++) target[i] = source[i]`,
undefined where the index leaves one of the arrays. -/
def copyLoop (source : Vector α sourceSize) :
    (remaining index : Nat) → Vector α targetSize → Option (Vector α targetSize)
  | 0, _, target => some target
  | remaining + 1, index, target =>
      if inside : index < sourceSize ∧ index < targetSize then
        copyLoop source remaining (index + 1)
          (target.set index source[index] inside.2)
      else
        none

/-- `for (i = index; i < index + remaining; i++) target[i] = source[i + offset]`,
undefined where an index leaves its array. -/
def copyOffsetLoop (source : Vector α sourceSize) (offset : Nat) :
    (remaining index : Nat) → Vector α targetSize → Option (Vector α targetSize)
  | 0, _, target => some target
  | remaining + 1, index, target =>
      if inside : index + offset < sourceSize ∧ index < targetSize then
        copyOffsetLoop source offset remaining (index + 1)
          (target.set index source[index + offset] inside.2)
      else
        none

theorem copyLoop_eq_copyOffsetLoop (source : Vector α sourceSize) (remaining index : Nat)
    (target : Vector α targetSize) :
    copyLoop source remaining index target = copyOffsetLoop source 0 remaining index target := by
  induction remaining generalizing index target with
  | zero => rfl
  | succ remaining ih =>
      rw [copyLoop, copyOffsetLoop]
      simp only [Nat.add_zero, ih]

/-- The array with the first `count` items taken from a source. -/
def copied (source : Vector α sourceSize) (count : Nat)
    (target : Vector α targetSize) : Vector α targetSize :=
  Vector.ofFn fun index =>
    if fresh : index.val < count ∧ index.val < sourceSize then
      source[index.val]
    else
      target[index]

theorem getElem_copied (source : Vector α sourceSize) (count : Nat)
    (target : Vector α targetSize) (index : Nat) (inside : index < targetSize) :
    (copied source count target)[index] =
      if fresh : index < count ∧ index < sourceSize then source[index]
      else target[index] := by
  simp [copied]

theorem getElem_copied_of_lt (source : Vector α sourceSize) (count : Nat)
    (target : Vector α targetSize) (index : Nat) (inside : index < targetSize)
    (fresh : index < count) (present : index < sourceSize) :
    (copied source count target)[index] = source[index] := by
  rw [getElem_copied, dif_pos ⟨fresh, present⟩]

@[simp]
theorem copied_copied (source : Vector α sourceSize) (count : Nat)
    (target : Vector α targetSize) :
    copied source count (copied source count target) = copied source count target := by
  apply Vector.ext
  intro index inside
  rw [getElem_copied, getElem_copied]
  split <;> rfl

/-- The loop copies its range and no more, as long as the range lies inside
both arrays. -/
theorem copyOffsetLoop_eq_some (source : Vector α sourceSize) (offset remaining index : Nat)
    (target : Vector α targetSize) (inSource : index + remaining + offset ≤ sourceSize)
    (inTarget : index + remaining ≤ targetSize) :
    ∃ result, copyOffsetLoop source offset remaining index target = some result ∧
      ∀ (position : Nat) (inside : position < targetSize),
        result[position] =
          if fresh : index ≤ position ∧ position < index + remaining then
            source[position + offset]
          else
            target[position] := by
  induction remaining generalizing index target with
  | zero =>
      refine ⟨target, rfl, fun position inside => ?_⟩
      rw [dif_neg (by omega)]
  | succ remaining ih =>
      have inside : index + offset < sourceSize ∧ index < targetSize := by omega
      obtain ⟨result, runs, cells⟩ :=
        ih (index + 1) (target.set index source[index + offset] inside.2)
          (by omega) (by omega)
      refine ⟨result, ?_, fun position positionInside => ?_⟩
      · rw [copyOffsetLoop, dif_pos inside]
        exact runs
      · rw [cells position positionInside]
        by_cases here : index = position
        · subst here
          rw [dif_neg (by omega), dif_pos (by omega)]
          exact Vector.getElem_set_self _
        · rw [Vector.getElem_set_ne _ _ here]
          by_cases fresh : index + 1 ≤ position ∧ position < index + 1 + remaining
          · rw [dif_pos fresh, dif_pos (by omega)]
          · rw [dif_neg fresh, dif_neg (by omega)]

/-- The loop is defined exactly when each of its accesses lies inside its array. -/
theorem copyOffsetLoop_isSome_iff (source : Vector α sourceSize) (offset remaining index : Nat)
    (target : Vector α targetSize) :
    (copyOffsetLoop source offset remaining index target).isSome ↔
      ∀ position, index ≤ position → position < index + remaining →
        position + offset < sourceSize ∧ position < targetSize := by
  induction remaining generalizing index target with
  | zero => exact iff_of_true rfl fun position lower upper => by omega
  | succ remaining ih =>
      rw [copyOffsetLoop]
      by_cases inside : index + offset < sourceSize ∧ index < targetSize
      · rw [dif_pos inside, ih]
        constructor
        · intro later position lower upper
          by_cases here : position = index
          · subst here
            exact inside
          · exact later position (by omega) (by omega)
        · intro all position lower upper
          exact all position (by omega) (by omega)
      · rw [dif_neg inside]
        exact iff_of_false Bool.false_ne_true fun all =>
          inside (all index (Nat.le_refl _) (by omega))

theorem copyLoop_zero_eq_copied (source : Vector α sourceSize) (count : Nat)
    (target : Vector α targetSize) (inSource : count ≤ sourceSize)
    (inTarget : count ≤ targetSize) :
    copyLoop source count 0 target = some (copied source count target) := by
  obtain ⟨result, runs, cells⟩ :=
    copyOffsetLoop_eq_some source 0 count 0 target (by omega) (by omega)
  rw [copyLoop_eq_copyOffsetLoop, runs]
  congr 1
  ext index inside
  rw [cells index inside, getElem_copied]
  by_cases fresh : index < count
  · rw [dif_pos ⟨Nat.zero_le _, by omega⟩, dif_pos ⟨fresh, by omega⟩]
    rfl
  · rw [dif_neg (by omega), dif_neg (by omega)]

theorem copyLoop_zero_isSome_iff (source : Vector α sourceSize) (count : Nat)
    (target : Vector α targetSize) :
    (copyLoop source count 0 target).isSome ↔
      count ≤ sourceSize ∧ count ≤ targetSize := by
  rw [copyLoop_eq_copyOffsetLoop, copyOffsetLoop_isSome_iff]
  constructor
  · intro all
    by_contra outside
    have last := all (count - 1) (Nat.zero_le _) (by omega)
    omega
  · rintro ⟨inSource, inTarget⟩ position - upper
    omega

theorem flatten_toList_injective (positive : 0 < size) :
    Function.Injective fun blocks : List (Vector α size) =>
      (blocks.map Vector.toList).flatten := by
  intro first second
  induction first generalizing second with
  | nil =>
      cases second with
      | nil => exact fun _ => rfl
      | cons block second =>
          intro equal
          have lengths := congrArg List.length equal
          simp at lengths
          omega
  | cons block first ih =>
      cases second with
      | nil =>
          intro equal
          have lengths := congrArg List.length equal
          simp at lengths
          omega
      | cons other second =>
          intro equal
          simp only [List.map_cons, List.flatten_cons] at equal
          obtain ⟨blockEq, restEq⟩ := List.append_inj equal (by simp)
          rw [Vector.toList_inj.mp blockEq, ih restEq]

end Buffer

end OpServer
