import Mathlib.Data.Set.Card.Arithmetic

/-!
# Sums over the parties of a protocol

A protocol has any number of parties `ι`, each in a state of its own, and moves one party
at a time.  `tally w h` sums a weight of the party states; it makes sense as long as only
finitely many parties have a weight (`Sparse`), which every move keeps.  A move changes the
sum by the change of the moving party's weight (`tally_update`).
-/

namespace Lib

open Function

variable {ι σ : Type*} {w v : σ → ℕ} {h : ι → σ}

/-- Only finitely many parties have a weight. -/
def Sparse (w : σ → ℕ) (h : ι → σ) : Prop := HasFiniteSupport fun i => w (h i)

/-- The sum of the weights of all parties. -/
noncomputable def tally (w : σ → ℕ) (h : ι → σ) : ℕ := ∑ᶠ i, w (h i)

theorem sparse_of_zero (hz : ∀ i, w (h i) = 0) : Sparse w h := by
  unfold Sparse
  simp only [hz]
  exact Set.finite_empty.subset (by simp)

theorem tally_of_zero (hz : ∀ i, w (h i) = 0) : tally w h = 0 := by
  unfold tally
  simp only [hz]
  exact finsum_zero

theorem Sparse.mono (hs : Sparse w h) (hle : ∀ a, v a ≤ w a) : Sparse v h := by
  refine Set.Finite.subset hs fun i hi => ?_
  have hpos : 0 < v (h i) := Nat.pos_of_ne_zero hi
  exact (hpos.trans_le (hle _)).ne'

theorem tally_mono (hs : Sparse w h) (hle : ∀ a, v a ≤ w a) : tally v h ≤ tally w h :=
  finsum_le_finsum' (hs.mono hle) hs fun i => hle (h i)

theorem tally_add (hw : Sparse w h) (hv : Sparse v h) :
    tally (fun a => w a + v a) h = tally w h + tally v h := finsum_add_distrib hw hv

section
variable [DecidableEq ι] (c : ι) (a : σ)

theorem Sparse.update (hs : Sparse w h) : Sparse w (update h c a) := by
  refine (Set.Finite.insert c hs).subset fun i hi => ?_
  by_cases hc : i = c
  · exact Or.inl hc
  · exact Or.inr (by simpa [mem_support, hc] using hi)

/-- **A move of one party.** -/
theorem tally_update (hs : Sparse w h) :
    tally w (update h c a) + w (h c) = tally w h + w a := by
  have hold := add_finsum_cond_ne c hs
  have hnew := add_finsum_cond_ne c (hs.update c a)
  have hrest : (∑ᶠ (i) (_ : i ≠ c), w (update h c a i)) = ∑ᶠ (i) (_ : i ≠ c), w (h i) :=
    finsum_congr fun i => finsum_congr fun hi => by rw [update_of_ne hi]
  rw [update_self, hrest] at hnew
  unfold tally
  omega

end

/-! ## Counting -/

/-- The weight that counts the states with a property. -/
def ind (p : σ → Bool) (a : σ) : ℕ := (p a).toNat

theorem finite_of_sparse {p : σ → Bool} (hs : Sparse (ind p) h) : {i | p (h i) = true}.Finite := by
  refine Set.Finite.subset hs fun i hi => ?_
  rw [mem_support, ind, show p (h i) = true from hi]
  decide

theorem tally_ind (p : σ → Bool) (h : ι → σ) : tally (ind p) h = {i | p (h i) = true}.ncard := by
  rw [← finsum_one, finsum_mem_def]
  refine finsum_congr fun i => ?_
  by_cases hp : p (h i) = true
  · rw [Set.indicator_of_mem (show i ∈ {i | p (h i) = true} from hp), ind, hp]; rfl
  · rw [Set.indicator_of_notMem (show i ∉ {i | p (h i) = true} from hp), ind, Bool.eq_false_iff.2 hp]; rfl

end Lib
