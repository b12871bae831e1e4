import Mathlib.Logic.Function.Iterate
import Mathlib.Data.List.Basic

/-!
# Rings of nodes that know their successor only

Every node of a ring stores one pointer.  A new node is linked in behind a
fixed head: it takes over the head's pointer, and the head points to it.  The
pointers stay one cycle through all nodes, the newest first.
-/

namespace OpServer

variable {α : Type*}

/-- Following the pointers from a node visits these nodes in this order. -/
def Visits (next : α → α) : α → List α → Prop
  | _, [] => True
  | node, successor :: later => next node = successor ∧ Visits next successor later

theorem Visits.iterate {next : α → α} {node : α} {path : List α}
    (visits : Visits next node path) (steps : Nat) (inside : steps < path.length) :
    next^[steps + 1] node = path[steps] := by
  induction path generalizing node steps with
  | nil => simp at inside
  | cons successor later ih =>
      obtain ⟨first, rest⟩ := visits
      rw [Function.iterate_succ_apply, first]
      cases steps with
      | zero => rfl
      | succ steps => exact ih rest steps (by simpa using inside)

/-- A path does not change with the pointers of nodes that it does not leave. -/
theorem Visits.of_agree {next updated : α → α} {node start : α} {path : List α} {last : α}
    (visits : Visits next node (path ++ [last])) (first : updated start = next node)
    (agree : ∀ passed ∈ path, updated passed = next passed) :
    Visits updated start (path ++ [last]) := by
  induction path generalizing node start with
  | nil => exact ⟨first.trans visits.1, trivial⟩
  | cons successor later ih =>
      obtain ⟨here, rest⟩ := visits
      exact ⟨first.trans here, ih rest (agree successor (by simp))
        fun passed member => agree passed (by simp [member])⟩

/-- Pointers that form one cycle through a head and the other members, listed
in the order in which they are visited. -/
structure PointerRing (α : Type*) where
  next : α → α
  head : α
  members : List α
  distinct : (head :: members).Nodup
  closed : Visits next head (members ++ [head])

namespace PointerRing

/-- A head that points to itself. -/
def single (head : α) : PointerRing α where
  next := fun _ => head
  head := head
  members := []
  distinct := by simp
  closed := ⟨rfl, trivial⟩

/-- The nodes reached from the head by one pointer, by two pointers, and so on
around the ring. -/
def tour (ring : PointerRing α) : List α :=
  (List.range (ring.members.length + 1)).map fun steps => ring.next^[steps + 1] ring.head

/-- The tour visits every other member once and ends at the head. -/
theorem tour_eq (ring : PointerRing α) : ring.tour = ring.members ++ [ring.head] := by
  refine List.ext_getElem (by simp [tour]) fun steps inside _ => ?_
  simp only [tour, List.getElem_map, List.getElem_range]
  exact ring.closed.iterate steps (by simpa [tour] using inside)

/-- Link a new node in behind the head. -/
def insert [DecidableEq α] (ring : PointerRing α) (new : α)
    (fresh : new ∉ ring.head :: ring.members) : PointerRing α where
  next := Function.update (Function.update ring.next new (ring.next ring.head)) ring.head new
  head := ring.head
  members := new :: ring.members
  distinct := by
    have distinct := ring.distinct
    simp only [List.mem_cons, not_or, List.nodup_cons] at fresh distinct ⊢
    exact ⟨⟨Ne.symm fresh.1, distinct.1⟩, fresh.2, distinct.2⟩
  closed := by
    have distinct := ring.distinct
    simp only [List.mem_cons, not_or, List.nodup_cons] at fresh distinct
    refine ⟨Function.update_self _ _ _, ring.closed.of_agree ?_ fun passed member => ?_⟩
    · rw [Function.update_of_ne fresh.1, Function.update_self]
    · have notHead : passed ≠ ring.head := fun same => distinct.1 (same ▸ member)
      have notNew : passed ≠ new := fun same => fresh.2 (same ▸ member)
      rw [Function.update_of_ne notHead, Function.update_of_ne notNew]

section Insert

variable [DecidableEq α] (ring : PointerRing α) {new : α} (fresh : new ∉ ring.head :: ring.members)

@[simp]
theorem insert_members : (ring.insert new fresh).members = new :: ring.members :=
  rfl

@[simp]
theorem insert_next_head : (ring.insert new fresh).next ring.head = new :=
  Function.update_self _ _ _

@[simp]
theorem insert_next_new : (ring.insert new fresh).next new = ring.next ring.head := by
  have notHead : new ≠ ring.head := fun same => fresh (by simp [same])
  exact (Function.update_of_ne notHead _ _).trans (Function.update_self _ _ _)

theorem insert_next_of_ne {node : α} (notHead : node ≠ ring.head) (notNew : node ≠ new) :
    (ring.insert new fresh).next node = ring.next node :=
  (Function.update_of_ne notHead _ _).trans (Function.update_of_ne notNew _ _)

end Insert

end PointerRing

end OpServer
