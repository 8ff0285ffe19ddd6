import Mathlib.Algebra.Group.Nat.Defs
import Mathlib.Data.List.GetD

/-!
# Byte strings

A byte string is a list of bytes.  Reading past the end gives zero and writing past
the end does nothing, so every operation is total; where a program would fail on such
an index, the bound is part of what is proved about it.
-/

namespace Lib

abbrev Bytes := List UInt8

namespace Bytes

/-- `b[i]`. -/
def byteAt (b : Bytes) (i : Nat) : UInt8 := b.getD i 0

/-- `b[i..j]`. -/
def slice (b : Bytes) (i j : Nat) : Bytes := (b.drop i).take (j - i)

/-- Overwrite the bytes from `i` on. -/
def setBytes (b : Bytes) (i : Nat) : Bytes → Bytes
  | [] => b
  | v :: vs => setBytes (b.set i v) (i + 1) vs

/-- The number written in big-endian. -/
def beNat (b : Bytes) : Nat := b.foldl (fun n x => n * 256 + x.toNat) 0

/-- `u16::from_be_bytes`. -/
def be16 (hi lo : UInt8) : UInt16 := UInt16.ofNat (hi.toNat * 256 + lo.toNat)

/-- `u16::to_be_bytes`. -/
def toBe16 (n : UInt16) : Bytes := [UInt8.ofNat (n.toNat / 256), UInt8.ofNat n.toNat]

/-- `u16::from_le_bytes`. -/
def le16 (lo hi : UInt8) : UInt16 := be16 hi lo

/-- `u16::to_le_bytes`. -/
def toLe16 (n : UInt16) : Bytes := [UInt8.ofNat n.toNat, UInt8.ofNat (n.toNat / 256)]

/-- `u32::from_be_bytes`. -/
def be32 (a b c d : UInt8) : UInt32 := UInt32.ofNat (beNat [a, b, c, d])

/-- `u32::to_be_bytes`. -/
def toBe32 (n : UInt32) : Bytes :=
  [UInt8.ofNat (n.toNat / 2 ^ 24), UInt8.ofNat (n.toNat / 2 ^ 16), UInt8.ofNat (n.toNat / 2 ^ 8),
    UInt8.ofNat n.toNat]

/-! ## Lemmas -/

theorem byteAt_set (b : Bytes) (i j : Nat) (v : UInt8) :
    byteAt (b.set i v) j = if i = j ∧ j < b.length then v else byteAt b j := by
  unfold byteAt
  simp only [List.getD_eq_getElem?_getD, List.getElem?_set]
  by_cases hij : i = j
  · by_cases hj : j < b.length
    · simp [hij, hj]
    · simp [hij, hj]
  · simp [hij]

@[simp] theorem length_setBytes (b : Bytes) (i : Nat) (v : Bytes) :
    (setBytes b i v).length = b.length := by
  induction v generalizing b i with
  | nil => rfl
  | cons x xs ih => rw [setBytes, ih, List.length_set]

/-- Reading after a write. -/
theorem byteAt_setBytes (b : Bytes) (i : Nat) (v : Bytes) (j : Nat) :
    byteAt (setBytes b i v) j =
      if i ≤ j ∧ j < i + v.length ∧ j < b.length then byteAt v (j - i) else byteAt b j := by
  induction v generalizing b i with
  | nil =>
    rw [setBytes, if_neg]
    rintro ⟨h1, h2, -⟩
    simp only [List.length_nil] at h2
    omega
  | cons x xs ih =>
    rw [setBytes, ih, List.length_set, byteAt_set, List.length_cons]
    by_cases hij : i = j
    · subst hij
      rw [if_neg (by omega)]
      by_cases hlen : i < b.length
      · rw [if_pos ⟨rfl, hlen⟩, if_pos ⟨Nat.le_refl _, by omega, hlen⟩, Nat.sub_self]
        rfl
      · rw [if_neg (fun h => hlen h.2), if_neg (fun h => hlen h.2.2)]
    · rw [if_neg (show ¬ (i = j ∧ j < b.length) from fun h => hij h.1)]
      by_cases h : i + 1 ≤ j ∧ j < i + 1 + xs.length ∧ j < b.length
      · rw [if_pos h, if_pos ⟨by omega, by omega, h.2.2⟩]
        rw [show j - i = (j - (i + 1)) + 1 by omega]
        rfl
      · rw [if_neg h, if_neg]
        rintro ⟨h1, h2, h3⟩
        exact h ⟨by omega, by omega, h3⟩

theorem byteAt_setBytes_of_lt {b : Bytes} {i j : Nat} {v : Bytes} (h : j < i) :
    byteAt (setBytes b i v) j = byteAt b j := by
  rw [byteAt_setBytes, if_neg (by omega)]

theorem setBytes_of_le {b : Bytes} {i : Nat} (v : Bytes) (h : b.length ≤ i) : setBytes b i v = b := by
  induction v generalizing i with
  | nil => rfl
  | cons x xs ih => rw [setBytes, List.set_eq_of_length_le h, ih (Nat.le_succ_of_le h)]

theorem byteAt_append_left {a b : Bytes} {i : Nat} (h : i < a.length) :
    byteAt (a ++ b) i = byteAt a i := by
  unfold byteAt
  rw [List.getD_append _ _ _ _ h]

theorem byteAt_append_right {a b : Bytes} {i : Nat} (h : a.length ≤ i) :
    byteAt (a ++ b) i = byteAt b (i - a.length) := by
  unfold byteAt
  rw [List.getD_append_right _ _ _ _ h]

theorem byteAt_drop (b : Bytes) (n i : Nat) : byteAt (b.drop n) i = byteAt b (n + i) := by
  unfold byteAt
  simp only [List.getD_eq_getElem?_getD, List.getElem?_drop]

theorem byteAt_take {b : Bytes} {n i : Nat} (h : i < n) : byteAt (b.take n) i = byteAt b i := by
  unfold byteAt
  simp only [List.getD_eq_getElem?_getD, List.getElem?_take, if_pos h]

theorem length_slice {b : Bytes} {i j : Nat} (h : j ≤ b.length) : (slice b i j).length = j - i := by
  unfold slice
  rw [List.length_take, List.length_drop]
  omega

theorem byteAt_slice {b : Bytes} {i j k : Nat} (h : k < j - i) :
    byteAt (slice b i j) k = byteAt b (i + k) := by
  unfold slice
  rw [byteAt_take h, byteAt_drop]

theorem slice_append_slice {i j k : Nat} (b : Bytes) (h1 : i ≤ j) (h2 : j ≤ k) :
    slice b i j ++ slice b j k = slice b i k := by
  unfold slice
  rw [show b.drop j = (b.drop i).drop (j - i) by rw [List.drop_drop, Nat.add_sub_cancel' h1],
    show k - i = (j - i) + (k - j) by omega, List.take_add]

/-- Byte strings are equal when they agree at every index. -/
theorem ext_byteAt {a b : Bytes} (hl : a.length = b.length)
    (h : ∀ i < a.length, byteAt a i = byteAt b i) : a = b := by
  apply List.ext_getElem hl
  intro i h1 h2
  have := h i h1
  unfold byteAt at this
  rwa [List.getD_eq_getElem _ _ h1, List.getD_eq_getElem _ _ h2] at this

/-- A write over a write. -/
theorem setBytes_setBytes (b : Bytes) (i : Nat) {v w : Bytes} (h : v.length ≤ w.length) :
    setBytes (setBytes b i v) i w = setBytes b i w := by
  apply ext_byteAt
  · simp
  · intro j _
    simp only [byteAt_setBytes, length_setBytes]
    by_cases hj : i ≤ j ∧ j < i + w.length ∧ j < b.length
    · rw [if_pos hj, if_pos hj]
    · rw [if_neg hj, if_neg hj, if_neg (by omega)]

theorem take_setBytes (b : Bytes) (n i : Nat) (v : Bytes) :
    (setBytes b i v).take n = setBytes (b.take n) i v := by
  induction v generalizing b i with
  | nil => rfl
  | cons x xs ih => rw [setBytes, setBytes, ih, List.take_set]

theorem drop_setBytes {n i : Nat} (b v : Bytes) (h : n ≤ i) :
    (setBytes b i v).drop n = setBytes (b.drop n) (i - n) v := by
  induction v generalizing b i with
  | nil => rfl
  | cons x xs ih =>
    rw [setBytes, setBytes, ih _ (Nat.le_succ_of_le h), List.drop_set, if_neg (by omega),
      Nat.succ_sub h]

/-- A slice in front of a write. -/
theorem slice_setBytes {n i j : Nat} (b v : Bytes) (h : j ≤ n) :
    slice (setBytes b n v) i j = slice b i j := by
  apply ext_byteAt
  · simp [slice]
  · intro k hk
    have hk' : k < j - i := by
      simp only [slice, List.length_take] at hk
      omega
    rw [byteAt_slice hk', byteAt_slice hk', byteAt_setBytes_of_lt (by omega)]

/-- What equality of slices says about the bytes. -/
theorem byteAt_of_slice_eq {a b : Bytes} {i j k : Nat} (h : slice a i j = slice b i j) (h1 : i ≤ k)
    (h2 : k < j) : byteAt a k = byteAt b k := by
  have := congrArg (fun s => byteAt s (k - i)) h
  simp only [byteAt_slice (show k - i < j - i by omega)] at this
  rwa [Nat.add_sub_cancel' h1] at this

/-- Slices are equal when the bytes are. -/
theorem slice_congr {a b : Bytes} {i j : Nat} (ha : j ≤ a.length) (hb : j ≤ b.length)
    (h : ∀ k, i ≤ k → k < j → byteAt a k = byteAt b k) : slice a i j = slice b i j := by
  apply ext_byteAt
  · rw [length_slice ha, length_slice hb]
  · intro k hk
    rw [length_slice ha] at hk
    rw [byteAt_slice hk, byteAt_slice hk, h _ (by omega) (by omega)]

/-! ## Equality up to some bytes -/

/-- `a` and `b` have one length and agree outside the indices `p`. -/
def SameExcept (p : Nat → Prop) (a b : Bytes) : Prop :=
  a.length = b.length ∧ ∀ i, ¬ p i → byteAt a i = byteAt b i

theorem SameExcept.refl (p : Nat → Prop) (a : Bytes) : SameExcept p a a :=
  ⟨rfl, fun _ _ => rfl⟩

theorem SameExcept.trans {p : Nat → Prop} {a b c : Bytes} (h1 : SameExcept p a b)
    (h2 : SameExcept p b c) : SameExcept p a c :=
  ⟨h1.1.trans h2.1, fun i hi => (h1.2 i hi).trans (h2.2 i hi)⟩

theorem SameExcept.mono {p q : Nat → Prop} {a b : Bytes} (h : SameExcept p a b)
    (hpq : ∀ i, p i → q i) : SameExcept q a b :=
  ⟨h.1, fun i hi => h.2 i fun hp => hi (hpq i hp)⟩

/-- Behind the last index that may differ. -/
theorem SameExcept.drop_eq {p : Nat → Prop} {a b : Bytes} {n : Nat} (h : SameExcept p a b)
    (hp : ∀ i, p i → i < n) : a.drop n = b.drop n := by
  apply ext_byteAt
  · rw [List.length_drop, List.length_drop, h.1]
  · intro i _
    rw [byteAt_drop, byteAt_drop, h.2 _ fun hi => by have := hp _ hi; omega]

theorem sameExcept_setBytes {p : Nat → Prop} (b : Bytes) (i : Nat) (v : Bytes)
    (h : ∀ j, i ≤ j → j < i + v.length → p j) : SameExcept p (setBytes b i v) b := by
  refine ⟨length_setBytes b i v, fun j hj => ?_⟩
  rw [byteAt_setBytes, if_neg]
  rintro ⟨h1, h2, -⟩
  exact hj (h j h1 h2)

end Bytes

end Lib
