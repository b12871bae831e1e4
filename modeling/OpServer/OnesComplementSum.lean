import Mathlib.Algebra.BigOperators.Group.List.Basic
import Mathlib.Data.Nat.Bitwise
import Mathlib.Tactic.ByContra
import Mathlib.Tactic.SplitIfs

/-!
# Ones-complement sums

A sum of words in which the carry out of the highest bit is added back in at
the lowest.  `limit` is the word with all bits set.
-/

namespace OpServer

namespace OnesComplement

variable {limit : Nat}

/-- Add with an end-around carry. -/
def add (limit first second : Nat) : Nat :=
  if first + second ≤ limit then first + second else first + second - limit

/-- The sum of words, from a running total on. -/
def sum (limit : Nat) (total : Nat) (words : List Nat) : Nat :=
  words.foldl (add limit) total

theorem add_le {first second : Nat} (firstLe : first ≤ limit) (secondLe : second ≤ limit) :
    add limit first second ≤ limit := by
  unfold add
  split <;> omega

theorem sum_le {total : Nat} (totalLe : total ≤ limit) {words : List Nat}
    (wordsLe : ∀ word ∈ words, word ≤ limit) : sum limit total words ≤ limit := by
  induction words generalizing total with
  | nil => exact totalLe
  | cons word words ih =>
      exact ih (add_le totalLe (wordsLe word (by simp)))
        fun later member => wordsLe later (by simp [member])

/-! ## The closed form -/

/-- What the end-around carries leave of a total: the class modulo `limit`, in
which only a total of zero is represented by zero. -/
def reduce (limit total : Nat) : Nat :=
  if total = 0 then 0 else 1 + (total - 1) % limit

@[simp]
theorem reduce_zero (limit : Nat) : reduce limit 0 = 0 :=
  rfl

theorem reduce_le (positive : 0 < limit) (total : Nat) : reduce limit total ≤ limit := by
  have below := Nat.mod_lt (total - 1) positive
  unfold reduce
  split <;> omega

theorem reduce_of_le {word : Nat} (wordLe : word ≤ limit) : reduce limit word = word := by
  unfold reduce
  split
  · omega
  · rw [Nat.mod_eq_of_lt (by omega)]
    omega

theorem add_reduce (positive : 0 < limit) (first second : Nat) :
    add limit (reduce limit first) (reduce limit second) = reduce limit (first + second) := by
  by_cases firstZero : first = 0
  · rw [firstZero, reduce_zero, Nat.zero_add, add, Nat.zero_add,
      if_pos (reduce_le positive second)]
  by_cases secondZero : second = 0
  · rw [secondZero, reduce_zero, Nat.add_zero, add, Nat.add_zero,
      if_pos (reduce_le positive first)]
  have split : (first + second - 1) % limit =
      ((first - 1) % limit + (second - 1) % limit + 1) % limit := by
    rw [show first + second - 1 = (first - 1) + (second - 1) + 1 by omega, Nat.add_mod,
      Nat.add_mod (first - 1), ← Nat.add_mod]
  have firstLt := Nat.mod_lt (first - 1) positive
  have secondLt := Nat.mod_lt (second - 1) positive
  rw [reduce, reduce, reduce, if_neg firstZero, if_neg secondZero, if_neg (by omega), split, add]
  generalize (first - 1) % limit = firstDigit at firstLt ⊢
  generalize (second - 1) % limit = secondDigit at secondLt ⊢
  split_ifs with small
  · rw [Nat.mod_eq_of_lt (by omega)]
    omega
  · rw [Nat.mod_eq_sub_mod (by omega), Nat.mod_eq_of_lt (by omega)]
    omega

/-- The sum of words is the class of their total. -/
theorem sum_eq_reduce (positive : 0 < limit) (total : Nat) {words : List Nat}
    (wordsLe : ∀ word ∈ words, word ≤ limit) :
    sum limit (reduce limit total) words = reduce limit (total + words.sum) := by
  induction words generalizing total with
  | nil => rfl
  | cons word words ih =>
      have first : add limit (reduce limit total) word = reduce limit (total + word) := by
        rw [← reduce_of_le (wordsLe word (by simp)), add_reduce positive,
          reduce_of_le (wordsLe word (by simp))]
      change sum limit (add limit (reduce limit total) word) words = _
      rw [first, ih _ fun later member => wordsLe later (by simp [member]), List.sum_cons,
        Nat.add_assoc]

/-- The class of all bits set holds the positive multiples of `limit`. -/
theorem reduce_eq_limit_iff (positive : 0 < limit) (total : Nat) :
    reduce limit total = limit ↔ 0 < total ∧ total % limit = 0 := by
  have below := Nat.mod_lt (total - 1) positive
  unfold reduce
  split
  · omega
  · have successor : total % limit = ((total - 1) % limit + 1) % limit := by
      rw [Nat.mod_add_mod, Nat.sub_add_cancel (by omega)]
    rw [successor]
    constructor
    · intro full
      rw [show (total - 1) % limit + 1 = limit by omega, Nat.mod_self]
      exact ⟨by omega, rfl⟩
    · rintro ⟨-, multiple⟩
      by_contra other
      rw [Nat.mod_eq_of_lt (by omega)] at multiple
      omega

end OnesComplement

end OpServer
