import Mathlib.Data.List.Basic
import Mathlib.Data.List.Perm.Basic

/-!
# Channels that neither create nor alter packets

A channel holds the packets in flight, in no meaningful order.  A receiver may
take any of them, and the network may duplicate or lose any of them.
-/

namespace OpServer

namespace Channel

variable {π : Type*}

/-- What the network does to a packet in flight. -/
inductive Fault
  | duplicate (index : Nat)
  | lose (index : Nat)
  deriving DecidableEq

/-- Take a packet out of the channel. -/
def take (channel : List π) (index : Nat) : Option (π × List π) :=
  if inside : index < channel.length then some (channel[index], channel.eraseIdx index)
  else none

/-- The channel after a fault. -/
def fault (channel : List π) : Fault → Option (List π)
  | .duplicate index => channel[index]?.map fun packet => packet :: channel
  | .lose index => (take channel index).map Prod.snd

theorem perm_of_take {channel rest : List π} {packet : π} {index : Nat}
    (taken : take channel index = some (packet, rest)) : (packet :: rest).Perm channel := by
  unfold take at taken
  split at taken
  · cases taken
    exact List.getElem_cons_eraseIdx_perm ‹_›
  · cases taken

theorem mem_of_take {channel rest : List π} {packet : π} {index : Nat}
    (taken : take channel index = some (packet, rest)) : packet ∈ channel :=
  (perm_of_take taken).subset (List.mem_cons_self ..)

theorem subset_of_take {channel rest : List π} {packet : π} {index : Nat}
    (taken : take channel index = some (packet, rest)) : rest ⊆ channel :=
  fun _ member => (perm_of_take taken).subset (List.mem_cons_of_mem _ member)

/-- No packet is in flight after a fault that was not before. -/
theorem subset_of_fault {channel rest : List π} {what : Fault}
    (faulted : fault channel what = some rest) : rest ⊆ channel := by
  cases what with
  | duplicate index =>
      obtain ⟨packet, found, rfl⟩ := Option.map_eq_some_iff.mp faulted
      exact List.cons_subset.mpr ⟨List.mem_of_getElem? found, List.Subset.refl _⟩
  | lose index =>
      obtain ⟨⟨packet, remaining⟩, taken, rfl⟩ := Option.map_eq_some_iff.mp faulted
      exact subset_of_take taken

theorem take_map {ρ : Type*} (carried : π → ρ) (channel : List π) (index : Nat) :
    take (channel.map carried) index =
      (take channel index).map fun taken => (carried taken.1, taken.2.map carried) := by
  unfold take
  by_cases inside : index < channel.length
  · rw [dif_pos inside, dif_pos (by rwa [List.length_map]), Option.map_some, List.getElem_map,
      List.eraseIdx_map]
  · rw [dif_neg inside, dif_neg (by rwa [List.length_map]), Option.map_none]

theorem fault_map {ρ : Type*} (carried : π → ρ) (channel : List π) (what : Fault) :
    fault (channel.map carried) what = (fault channel what).map (List.map carried) := by
  cases what with
  | duplicate index =>
      rw [fault, fault, List.getElem?_map]
      cases channel[index]? <;> rfl
  | lose index =>
      rw [fault, fault, take_map]
      cases take channel index <;> rfl

theorem subset_of_duplicate {channel rest : List π} {index : Nat}
    (faulted : fault channel (.duplicate index) = some rest) : channel ⊆ rest := by
  obtain ⟨packet, -, rfl⟩ := Option.map_eq_some_iff.mp faulted
  exact List.subset_cons_self packet channel

theorem countP_of_take (counted : π → Bool) {channel rest : List π} {packet : π} {index : Nat}
    (taken : take channel index = some (packet, rest)) :
    channel.countP counted = rest.countP counted + (counted packet).toNat := by
  rw [← (perm_of_take taken).countP_eq, List.countP_cons]
  cases counted packet <;> rfl

theorem subperm_of_take {channel rest : List π} {packet : π} {index : Nat}
    (taken : take channel index = some (packet, rest)) : rest.Subperm channel :=
  (List.sublist_cons_self packet rest).subperm.trans (perm_of_take taken).subperm

theorem subperm_of_lose {channel rest : List π} {index : Nat}
    (faulted : fault channel (.lose index) = some rest) : rest.Subperm channel := by
  obtain ⟨⟨packet, remaining⟩, taken, rfl⟩ := Option.map_eq_some_iff.mp faulted
  exact subperm_of_take taken

end Channel

end OpServer
