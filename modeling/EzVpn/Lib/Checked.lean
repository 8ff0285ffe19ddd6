import EzVpn.Lib.Bytes

/-!
# Operations that panic

Indexing, slicing and subtraction with the checks that the language makes: an `Option` whose
`none` is a panic.  Each lemma says that an operation is the unchecked one when its check
passes; together they evaluate a checked program as long as the bounds can be shown where an
operation is reached.
-/

namespace Lib.Checked

open Bytes

/-- `unreachable!()`. -/
def unreachable {α : Type} : Option α := none

/-- `l[i]`. -/
def index {α : Type} (l : List α) (i : Nat) : Option α := l[i]?

/-- `&b[i..j]`. -/
def range (b : Bytes) (i j : Nat) : Option Bytes :=
  if i ≤ j ∧ j ≤ b.length then some (slice b i j) else none

/-- `&b[i..]`. -/
def rangeFrom (b : Bytes) (i : Nat) : Option Bytes := if i ≤ b.length then some (b.drop i) else none

/-- `&b[..j]`. -/
def rangeTo (b : Bytes) (j : Nat) : Option Bytes := if j ≤ b.length then some (b.take j) else none

/-- `b[i] = v`. -/
def store (b : Bytes) (i : Nat) (v : UInt8) : Option Bytes :=
  if i < b.length then some (b.set i v) else none

/-- `b[i..j].copy_from_slice(v)`. -/
def copyFromSlice (b : Bytes) (i j : Nat) (v : Bytes) : Option Bytes :=
  if i ≤ j ∧ j ≤ b.length ∧ v.length = j - i then some (setBytes b i v) else none

/-- `m - n`. -/
def sub (m n : Nat) : Option Nat := if n ≤ m then some (m - n) else none

/-- `a || b`, where `b` is evaluated only if `a` is false. -/
def orElse (a : Bool) (b : Option Bool) : Option Bool := if a then some true else b

section
variable {b v : Bytes} {i j : Nat}

theorem index_eq (h : i < b.length) : index b i = some (byteAt b i) := by
  rw [index, List.getElem?_eq_getElem h, byteAt, List.getD_eq_getElem _ _ h]

theorem index_getElem {α : Type} {l : List α} (h : i < l.length) : index l i = some l[i] :=
  List.getElem?_eq_getElem h

theorem range_eq (h : i ≤ j) (hj : j ≤ b.length) : range b i j = some (slice b i j) := if_pos ⟨h, hj⟩

theorem rangeFrom_eq (h : i ≤ b.length) : rangeFrom b i = some (b.drop i) := if_pos h

theorem rangeTo_eq (h : j ≤ b.length) : rangeTo b j = some (b.take j) := if_pos h

theorem store_eq {x : UInt8} (h : i < b.length) : store b i x = some (b.set i x) := if_pos h

theorem copyFromSlice_eq (h : i + v.length = j) (hj : j ≤ b.length) :
    copyFromSlice b i j v = some (setBytes b i v) := if_pos ⟨by omega, hj, by omega⟩

theorem sub_eq (h : j ≤ i) : sub i j = some (i - j) := if_pos h

/-- The right side is reached only if the left is false. -/
theorem orElse_eq {a c : Bool} {m : Option Bool} (h : a = false → m = some c) : orElse a m = some (a || c) := by
  cases a
  · exact h rfl
  · rfl

end

/-! ## Sequences and branches -/

section
variable {α β : Type}

theorem bind_eq {m : Option α} {k : α → Option β} {x : α} {y : β} (hm : m = some x) (hk : k x = some y) :
    (m >>= k) = some y := by
  rw [hm]
  exact hk

/-- Each branch may use its condition. -/
theorem ite_eq {c : Prop} [Decidable c] {m n : Option α} {x y : α} (hm : c → m = some x)
    (hn : ¬ c → n = some y) : (if c then m else n) = some (if c then x else y) := by
  split
  · next h => exact hm h
  · next h => exact hn h

end

end Lib.Checked
