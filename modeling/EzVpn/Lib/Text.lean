import Mathlib.Data.List.DropRight

/-!
# Texts as lists of characters

The words and the lines of a text, and a text with strings in quotes.
-/

namespace Lib

section
variable {α : Type*} {p : α → Bool}

/-- The maximal runs between separators. -/
def words (p : α → Bool) (xs : List α) : List (List α) := (xs.splitOnP p).filter fun w => !w.isEmpty

/-- Without the separators at the two ends. -/
def trim (p : α → Bool) (xs : List α) : List α := (xs.dropWhile p).rdropWhile p

/-- What follows `front`, if the text starts with it. -/
def stripFront [DecidableEq α] (front xs : List α) : Option (List α) :=
  if front.isPrefixOf xs then some (xs.drop front.length) else none

theorem not_sep_of_mem_splitOnP {xs w : List α} (h : w ∈ xs.splitOnP p) : ∀ c ∈ w, p c = false := by
  induction xs generalizing w with
  | nil =>
    rw [List.splitOnP_nil, List.mem_singleton] at h
    simp [h]
  | cons x xs ih =>
    rw [List.splitOnP_cons_eq_if_modifyHead] at h
    split at h
    · rcases List.mem_cons.1 h with rfl | h
      · simp
      · exact ih h
    · next hx =>
      -- the first piece gets one element more
      cases hpieces : xs.splitOnP p with
      | nil => simp [hpieces] at h
      | cons first pieces =>
        rw [hpieces] at ih h
        rcases List.mem_cons.1 h with rfl | h
        · simpa [hx] using ih List.mem_cons_self
        · exact ih (List.mem_cons_of_mem _ h)

/-- A word is not empty and has no separator in it. -/
theorem mem_words {xs w : List α} (h : w ∈ words p xs) : w ≠ [] ∧ ∀ c ∈ w, p c = false := by
  obtain ⟨hmem, hne⟩ := List.mem_filter.1 h
  exact ⟨by simpa using hne, not_sep_of_mem_splitOnP hmem⟩

theorem trim_eq_self {xs : List α} (h : ∀ c ∈ xs, p c = false) : trim p xs = xs := by
  have hfront : xs.dropWhile p = xs := by
    cases xs with
    | nil => rfl
    | cons x xs => rw [List.dropWhile_cons, if_neg (by simp [h x])]
  rw [trim, hfront, List.rdropWhile_eq_self_iff]
  intro hne
  simp [h _ (List.getLast_mem hne)]

end

theorem forall_mem_intercalate {α : Type*} {P : α → Prop} {sep : List α} {pieces : List (List α)}
    (hsep : ∀ c ∈ sep, P c) (h : ∀ piece ∈ pieces, ∀ c ∈ piece, P c) : ∀ c ∈ sep.intercalate pieces, P c := by
  induction pieces with
  | nil => simp
  | cons piece pieces ih =>
    obtain ⟨hpiece, hpieces⟩ := List.forall_mem_cons.1 h
    cases pieces with
    | nil => simpa using hpiece
    | cons next pieces =>
      rw [List.intercalate_cons_cons]
      simp only [List.mem_append]
      rintro c ((hc | hc) | hc)
      · exact hpiece c hc
      · exact hsep c hc
      · exact ih hpieces c hc

/-- The strings between pairs of quotes, `none` if a quote is left open. -/
def quoted {α : Type*} [DecidableEq α] (quote : α) (xs : List α) : Option (List (List α)) :=
  go (xs.splitOn quote)
where
  go : List (List α) → Option (List (List α))
    | [] => none
    | [_] => some []
    | _ :: s :: rest => (go rest).map (s :: ·)

/-- Pieces that are joined by quotes and have none inside are read back. -/
theorem quoted_intercalate {α : Type*} [DecidableEq α] {quote : α} {pieces : List (List α)}
    (h : ∀ piece ∈ pieces, quote ∉ piece) (hne : pieces ≠ []) :
    quoted quote ([quote].intercalate pieces) = quoted.go pieces := by
  rw [quoted, List.splitOn_intercalate quote h hne]

end Lib
