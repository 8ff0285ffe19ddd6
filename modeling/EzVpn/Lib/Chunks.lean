import Mathlib.Data.List.Basic

/-!
# Chunks of equal size

A list of lists is uniform when all have length `g`, but the last may be shorter, though
not empty.  Such a list is what cutting its concatenation every `g` elements gives back:
`take_drop_flatten` gives the pieces, `count_flatten` their number.

The other way round, `chunk g l j` is the `j`-th piece of a list cut every `g` elements, and
the pieces make up the list (`flatMap_chunk`).
-/

namespace Lib

variable {α : Type*}

/-- All of length `g`, the last possibly shorter. -/
def Uniform (g : Nat) : List (List α) → Prop
  | [] => True
  | [x] => 0 < x.length ∧ x.length ≤ g
  | x :: y :: rest => x.length = g ∧ Uniform g (y :: rest)

namespace Uniform

variable {g : Nat}

/-- The length of the concatenation lies in the last chunk. -/
theorem length_flatten {x : List α} {rest : List (List α)} (h : Uniform g (x :: rest)) :
    rest.length * g < (x :: rest).flatten.length ∧
      (x :: rest).flatten.length ≤ (rest.length + 1) * g := by
  induction rest generalizing x with
  | nil =>
    obtain ⟨h1, h2⟩ := h
    simp only [List.flatten_cons, List.flatten_nil, List.append_nil, List.length_nil, Nat.zero_mul,
      Nat.zero_add, Nat.one_mul]
    exact ⟨h1, h2⟩
  | cons y rest ih =>
    obtain ⟨hx, hrest⟩ := h
    obtain ⟨h1, h2⟩ := ih hrest
    rw [List.flatten_cons, List.length_append, hx, List.length_cons, Nat.add_mul (rest.length + 1),
      Nat.add_mul, Nat.one_mul]
    rw [Nat.add_mul, Nat.one_mul] at h2
    omega

/-- The number of steps of size `g` over the concatenation. -/
theorem count_flatten {x : List α} {rest : List (List α)} (h : Uniform g (x :: rest)) :
    ((x :: rest).flatten.length + g - 1) / g = rest.length + 1 := by
  obtain ⟨h1, h2⟩ := h.length_flatten
  have hg : 0 < g := by
    rcases Nat.eq_zero_or_pos g with rfl | hg
    · simp only [Nat.mul_zero] at h1 h2; omega
    · exact hg
  rw [Nat.add_mul, Nat.one_mul] at h2
  apply Nat.div_eq_of_lt_le
  · rw [Nat.add_mul, Nat.one_mul]; omega
  · rw [Nat.add_mul, Nat.add_mul, Nat.one_mul]; omega

/-- **The pieces are the chunks.** -/
theorem take_drop_flatten {ls : List (List α)} (h : Uniform g ls) {j : Nat} (hj : j < ls.length) :
    (ls.flatten.drop (j * g)).take g = ls[j] := by
  induction ls generalizing j with
  | nil => cases hj
  | cons x rest ih =>
    cases j with
    | zero =>
      cases rest with
      | nil => simpa using List.take_of_length_le h.2
      | cons y rest =>
        rw [Nat.zero_mul, List.drop_zero, List.flatten_cons]
        exact List.take_left' h.1
    | succ j =>
      cases rest with
      | nil => simp at hj
      | cons y rest =>
        rw [List.flatten_cons, Nat.succ_mul, Nat.add_comm, ← List.drop_drop, List.drop_left' h.1,
          List.getElem_cons_succ]
        exact ih h.2 (by simpa using hj)

/-- A chunk that is not the last ends before the concatenation does. -/
theorem lt_length_flatten_iff {ls : List (List α)} (h : Uniform g ls) {j : Nat} (hj : j < ls.length) :
    j * g + g < ls.flatten.length ↔ j + 1 < ls.length := by
  cases ls with
  | nil => cases hj
  | cons x rest =>
    obtain ⟨h1, h2⟩ := h.length_flatten
    rw [List.length_cons] at hj ⊢
    constructor
    · intro hlt
      by_contra hle
      have hmul : (rest.length + 1) * g ≤ (j + 1) * g := Nat.mul_le_mul_right g (by omega)
      rw [Nat.add_mul j, Nat.one_mul] at hmul
      omega
    · intro hlt
      have hmul : (j + 1) * g ≤ rest.length * g := Nat.mul_le_mul_right g (by omega)
      rw [Nat.add_mul, Nat.one_mul] at hmul
      omega

theorem of_getElem {ls : List (List α)} (h : ∀ j (hj : j < ls.length), 0 < ls[j].length ∧
    ls[j].length ≤ g ∧ (j + 1 < ls.length → ls[j].length = g)) : Uniform g ls := by
  induction ls with
  | nil => exact trivial
  | cons x rest ih =>
    have hx := h 0 (Nat.succ_pos _)
    cases rest with
    | nil => exact ⟨hx.1, hx.2.1⟩
    | cons y rest =>
      refine ⟨hx.2.2 (by simp), ih fun j hj => ?_⟩
      have hj' := h (j + 1) (by simpa using hj)
      simpa using hj'

end Uniform

/-! ## Cutting a list -/

/-- The `j`-th piece of a list that is cut every `g` elements. -/
def chunk (g : Nat) (l : List α) (j : Nat) : List α := (l.drop (j * g)).take g

/-- The number of pieces. -/
def chunkCount (g len : Nat) : Nat := (len + g - 1) / g

theorem length_chunk (g : Nat) (l : List α) (j : Nat) :
    (chunk g l j).length = min g (l.length - j * g) := by
  rw [chunk, List.length_take, List.length_drop]

theorem lt_chunkCount_iff {g : Nat} (hg : 0 < g) (len j : Nat) : j < chunkCount g len ↔ j * g < len := by
  rw [chunkCount, ← Nat.succ_le_iff, Nat.le_div_iff_mul_le hg, Nat.succ_mul]
  omega

/-- The pieces before the `n`-th. -/
theorem flatMap_chunk_range (g : Nat) (l : List α) (n : Nat) :
    (List.range n).flatMap (chunk g l) = l.take (n * g) := by
  induction n with
  | zero => simp
  | succ n ih =>
    rw [List.range_succ, List.flatMap_append, ih, List.flatMap_singleton, chunk, Nat.succ_mul,
      List.take_add]

/-- **The pieces make up the list.** -/
theorem flatMap_chunk {g : Nat} (hg : 0 < g) (l : List α) :
    (List.range (chunkCount g l.length)).flatMap (chunk g l) = l := by
  rw [flatMap_chunk_range]
  apply List.take_of_length_le
  rw [← Nat.not_lt, ← lt_chunkCount_iff hg]
  exact Nat.lt_irrefl _

/-- A piece that is not the last has full length. -/
theorem length_chunk_of_lt {g : Nat} (hg : 0 < g) {l : List α} {j : Nat}
    (hj : j + 1 < chunkCount g l.length) : (chunk g l j).length = g := by
  rw [lt_chunkCount_iff hg, Nat.succ_mul] at hj
  rw [length_chunk]
  omega

theorem length_chunk_pos {g : Nat} (hg : 0 < g) {l : List α} {j : Nat} (hj : j < chunkCount g l.length) :
    0 < (chunk g l j).length := by
  rw [lt_chunkCount_iff hg] at hj
  rw [length_chunk]
  omega

theorem length_chunk_le (g : Nat) (l : List α) (j : Nat) : (chunk g l j).length ≤ g := by
  rw [length_chunk]
  exact Nat.min_le_left _ _

end Lib
