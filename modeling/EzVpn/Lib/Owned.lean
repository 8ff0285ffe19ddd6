import Mathlib.Data.Finset.Basic
import Mathlib.Data.Finset.Lattice.Lemmas

/-!
# Owned additions to a set

Someone adds keys to a set that others also use and takes back only what was absent when it
was added.  `Owns t₀ t ks`: starting from `t₀`, the keys `ks` were added in this way and the
set is now `t`.  Owned additions compose (`Owns.trans`), a part of them can be taken back
(`Owns.removeSome`), and taking all owned keys back, in any order, restores `t₀`
(`Owns.removeAll`).
-/

namespace Lib

variable {K : Type} [DecidableEq K]

/-- Remove keys one after the other. -/
def removeAll (t : Finset K) (ks : List K) : Finset K := ks.foldl Finset.erase t

theorem removeAll_eq (t : Finset K) (ks : List K) : removeAll t ks = t \ ks.toFinset := by
  unfold removeAll
  induction ks generalizing t with
  | nil => simp
  | cons k ks ih =>
    rw [List.foldl_cons, ih, List.toFinset_cons, Finset.sdiff_insert, Finset.erase_sdiff_comm]

theorem removeAll_append (t : Finset K) (ks ks' : List K) :
    removeAll t (ks ++ ks') = removeAll (removeAll t ks) ks' := List.foldl_append

structure Owns (t₀ t ks : Finset K) : Prop where
  fresh : ∀ k ∈ ks, k ∉ t₀
  eq : t = t₀ ∪ ks

namespace Owns

variable {t₀ t t' ks ks' : Finset K}

theorem refl (t : Finset K) : Owns t t ∅ :=
  ⟨fun k hk => absurd hk (Finset.notMem_empty k), (Finset.union_empty t).symm⟩

/-- A key that is absent can be added and owned. -/
theorem insert {k : K} (h : k ∉ t) : Owns t (insert k t) {k} := by
  refine ⟨fun k' hk' => ?_, ?_⟩
  · rwa [Finset.mem_singleton.1 hk']
  · rw [Finset.insert_eq, Finset.union_comm]

theorem trans (h : Owns t₀ t ks) (h' : Owns t t' ks') : Owns t₀ t' (ks ∪ ks') := by
  refine ⟨fun k hk => ?_, by rw [h'.eq, h.eq, Finset.union_assoc]⟩
  rcases Finset.mem_union.1 hk with hk | hk
  · exact h.fresh k hk
  · exact fun hk₀ => h'.fresh k hk (h.eq ▸ Finset.mem_union_left _ hk₀)

/-- Taking back a part of what is owned leaves the rest owned. -/
theorem removeSome (h : Owns t₀ t (ks ∪ ks')) (hdisj : Disjoint ks ks') {l : List K} (hl : l.toFinset = ks) :
    Owns t₀ (removeAll t l) ks' := by
  have hdisj₀ : Disjoint t₀ ks := Finset.disjoint_right.2 fun k hk => h.fresh k (Finset.mem_union_left _ hk)
  refine ⟨fun k hk => h.fresh k (Finset.mem_union_right _ hk), ?_⟩
  rw [removeAll_eq, hl, h.eq, Finset.union_sdiff_distrib, Finset.union_sdiff_cancel_left hdisj,
    Finset.sdiff_eq_self_of_disjoint hdisj₀]

/-- **Taking back** what is owned restores the set. -/
theorem removeAll (h : Owns t₀ t ks) {l : List K} (hl : l.toFinset = ks) : removeAll t l = t₀ := by
  have h' : Owns t₀ t (ks ∪ ∅) := by rwa [Finset.union_empty]
  have hrest := h'.removeSome (Finset.disjoint_empty_right ks) hl
  rw [hrest.eq, Finset.union_empty]

end Owns

end Lib
