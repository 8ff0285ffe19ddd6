import Mathlib.Data.List.AList
import Mathlib.Logic.Function.Basic

/-!
# Finite maps

Hash maps as association lists with unique keys.  Besides Mathlib's
`lookup`, `insert` and `erase`, a map is searched by value (`hasValue`) and an
entry is removed under a condition on its value (`removeIf`).
-/

namespace Lib

/-- A finite map with keys `K` and values `V`. -/
abbrev Map (K V : Type*) := AList fun _ : K => V

namespace Map

variable {K V : Type*} [DecidableEq K]

/-- Some key holds the value `v`. -/
def hasValue [DecidableEq V] (m : Map K V) (v : V) : Bool := m.entries.any fun e => e.2 = v

theorem hasValue_iff [DecidableEq V] (m : Map K V) (v : V) :
    m.hasValue v = true ↔ ∃ k, m.lookup k = some v := by
  unfold hasValue
  rw [List.any_eq_true]
  constructor
  · rintro ⟨⟨k, v'⟩, hm, hv⟩
    have hv' : v' = v := by simpa using hv
    subst hv'
    exact ⟨k, AList.mem_lookup_iff.2 hm⟩
  · rintro ⟨k, hk⟩
    exact ⟨⟨k, v⟩, AList.mem_lookup_iff.1 hk, by simp⟩

/-- Remove the entry of `k` if its value satisfies `p`; returns the value removed. -/
def removeIf (m : Map K V) (k : K) (p : V → Bool) : Option V × Map K V :=
  match m.lookup k with
  | some v => if p v then (some v, m.erase k) else (none, m)
  | none => (none, m)

theorem lookup_insert_eq (m : Map K V) (k k' : K) (v : V) :
    (m.insert k v).lookup k' = if k' = k then some v else m.lookup k' := by
  split
  · next h => subst h; exact AList.lookup_insert m
  · next h => exact AList.lookup_insert_ne h

theorem lookup_erase_eq (m : Map K V) (k k' : K) :
    (m.erase k).lookup k' = if k' = k then none else m.lookup k' := by
  split
  · next h => subst h; exact AList.lookup_erase _ m
  · next h => exact AList.lookup_erase_ne h

theorem lookup_removeIf (m : Map K V) (k k' : K) (p : V → Bool) :
    (m.removeIf k p).2.lookup k' =
      if k' = k ∧ ((m.lookup k).filter p).isSome = true then none else m.lookup k' := by
  unfold removeIf
  cases hk : m.lookup k with
  | none => simp
  | some v =>
    cases hp : p v with
    | false => simp [Option.filter, hp]
    | true => simp [Option.filter, hp, lookup_erase_eq]

end Map

/-! ## Tables as functions -/

theorem update_eq_some {K V : Type*} [DecidableEq K] {f : K → Option V} {k k' : K} {v : Option V} {w : V} :
    Function.update f k v k' = some w ↔ (k' = k ∧ v = some w) ∨ (k' ≠ k ∧ f k' = some w) := by
  by_cases h : k' = k
  · subst h; simp
  · simp [h]

end Lib
