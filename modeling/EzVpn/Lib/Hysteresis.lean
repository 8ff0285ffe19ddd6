import Mathlib.Data.List.MinMax
import Mathlib.Data.List.Nodup
import Mathlib.Order.Lattice

/-!
# Choosing the best, and switching with a margin

`List.argmin` is the first element of least key.  `select` takes it, unless some element is the
current one and the margin between the two is too small.  It does not depend on how the elements
are represented (`select_map`) nor on the keys as long as they compare alike (`select_congr`).

Something moves between places whose costs change with time, and moves only to a place that is
better by a margin at the time of the move.  If over all times the cost of each single place
stays within the margin, it never comes back to a place it has left (`Walk.nodup`): each arrival
is better by the margin than the first departure (`Walk.arrival`), which the same place cannot be.

Costs are values of any preorder; the margin is a function on them.
-/

namespace Lib

/-! ## Choosing the best -/

section
variable {α β K : Type*} [LinearOrder K] {p : α → Prop} {key : α → K} {l : List α} {m : Option α} {a : α}

/-- `m` is an element of least key among those of `seen` with `p`, if there is one. -/
def Least (p : α → Prop) (key : α → K) (seen : List α) : Option α → Prop
  | none => ∀ b ∈ seen, ¬ p b
  | some a => a ∈ seen ∧ p a ∧ ∀ b ∈ seen, p b → key a ≤ key b

theorem least_argmin (p : α → Prop) [DecidablePred p] (key : α → K) (l : List α) :
    Least p key l ((l.filter (fun a => decide (p a))).argmin key) := by
  cases h : (l.filter fun a => decide (p a)).argmin key with
  | none =>
    intro b hb hpb
    have hmem : b ∈ l.filter fun a => decide (p a) := List.mem_filter.2 ⟨hb, decide_eq_true hpb⟩
    rw [List.argmin_eq_none.1 h] at hmem
    cases hmem
  | some a =>
    obtain ⟨hmem, hp⟩ := List.mem_filter.1 (List.argmin_mem h)
    refine ⟨hmem, of_decide_eq_true hp, ?_⟩
    intro b hb hpb
    exact List.le_of_mem_argmin (List.mem_filter.2 ⟨hb, decide_eq_true hpb⟩) h

/-- The step of a loop that keeps the least element so far. -/
theorem argmin_look (key : α → K) (l : List α) (a : α) :
    (l ++ [a]).argmin key =
      if (l.argmin key).all (fun x => decide (key a < key x)) then some a else l.argmin key := by
  rw [List.argmin_concat]
  cases l.argmin key with
  | none => rfl
  | some c =>
    by_cases hlt : key a < key c
    · simp [hlt]
    · simp [hlt]

/-- Everything before it has a larger key. -/
theorem argmin_split {key : α → K} (h : l.argmin key = some a) :
    ∃ before after, l = before ++ a :: after ∧ ∀ b ∈ before, key a < key b := by
  induction l using List.reverseRecOn with
  | nil => cases h
  | append_singleton l x ih =>
    rw [argmin_look] at h
    cases hl : l.argmin key with
    | none =>
      obtain rfl := List.argmin_eq_none.1 hl
      obtain rfl := Option.some.inj h
      exact ⟨[], [], rfl, nofun⟩
    | some c =>
      rw [hl] at h
      by_cases hlt : key x < key c
      · rw [if_pos (by simpa using hlt)] at h
        obtain rfl := Option.some.inj h
        refine ⟨l, [], rfl, ?_⟩
        intro b hb
        exact hlt.trans_le (List.le_of_mem_argmin hb hl)
      · rw [if_neg (by simpa using hlt)] at h
        obtain rfl := Option.some.inj h
        obtain ⟨before, after, rfl, hbefore⟩ := ih hl
        exact ⟨before, after ++ [x], by simp, hbefore⟩

theorem argmin_map (f : β → α) (key : α → K) (l : List β) :
    (l.map f).argmin key = (l.argmin (key ∘ f)).map f := by
  induction l using List.reverseRecOn with
  | nil => rfl
  | append_singleton l x ih =>
    rw [List.map_append, List.map_singleton, argmin_look, ih, argmin_look, Option.all_map, apply_ite (Option.map f)]
    rfl

/-- Only the order of the keys matters. -/
theorem argmin_congr {K' : Type*} [LinearOrder K'] {key' : α → K'}
    (h : ∀ a ∈ l, ∀ b ∈ l, (key a < key b ↔ key' a < key' b)) : l.argmin key = l.argmin key' := by
  induction l using List.reverseRecOn with
  | nil => rfl
  | append_singleton l x ih =>
    have hl : l.argmin key = l.argmin key' := by
      apply ih
      intro a ha b hb
      exact h a (List.mem_append_left _ ha) b (List.mem_append_left _ hb)
    rw [argmin_look, argmin_look, hl]
    cases hm : l.argmin key' with
    | none => rfl
    | some c =>
      have hc : c ∈ l ++ [x] := List.mem_append_left _ (List.argmin_mem hm)
      simp only [Option.all_some, h x (List.mem_append_right _ (List.mem_singleton.2 rfl)) c hc]

/-! ## Selecting -/

/-- The first element of least key, unless a current element is within the margin of it. -/
def select (margin : K → K) (cur : α → Prop) [DecidablePred cur] (key : α → K) (l : List α) : Option α :=
  match l.argmin key, (l.filter fun a => decide (cur a)).argmin key with
  | none, _ => none
  | some b, none => some b
  | some b, some c => if margin (key b) ≤ key c then some b else none

section
variable {margin : K → K} {cur : α → Prop} [DecidablePred cur]

/-- What is selected is the best. -/
theorem argmin_of_select (h : select margin cur key l = some a) : l.argmin key = some a := by
  unfold select at h
  split at h
  · cases h
  · next hb _ => rw [hb, h]
  · next hb _ =>
    split at h
    · rw [hb, h]
    · cases h

theorem select_eq_none_iff :
    select margin cur key l = none ↔ l = [] ∨ ∃ b c, l.argmin key = some b ∧
      (l.filter fun a => decide (cur a)).argmin key = some c ∧ ¬ margin (key b) ≤ key c := by
  unfold select
  cases hb : l.argmin key with
  | none => exact iff_of_true rfl (.inl (List.argmin_eq_none.1 hb))
  | some b =>
    have hne : l ≠ [] := by
      rintro rfl
      cases hb
    cases hc : (l.filter fun a => decide (cur a)).argmin key with
    | none => simp [hne]
    | some c => simp [hne]

end

theorem select_map (margin : K → K) (f : β → α) (cur : α → Prop) [DecidablePred cur] (key : α → K) (l : List β) :
    select margin cur key (l.map f) = (select margin (fun b => cur (f b)) (key ∘ f) l).map f := by
  unfold select
  rw [argmin_map, List.filter_map, argmin_map]
  show _ = Option.map f (match l.argmin (key ∘ f),
    (l.filter ((fun a => decide (cur a)) ∘ f)).argmin (key ∘ f) with
    | none, _ => none
    | some b, none => some b
    | some b, some c => if margin ((key ∘ f) b) ≤ (key ∘ f) c then some b else none)
  cases l.argmin (key ∘ f) with
  | none => rfl
  | some b =>
    cases (l.filter ((fun a => decide (cur a)) ∘ f)).argmin (key ∘ f) with
    | none => rfl
    | some c =>
      dsimp only [Option.map_some, Function.comp]
      rw [apply_ite (Option.map f)]
      rfl

theorem select_congr {K' : Type*} [LinearOrder K'] {key' : α → K'} {margin : K → K} {margin' : K' → K'}
    {cur cur' : α → Prop} [DecidablePred cur] [DecidablePred cur'] (hcur : ∀ a ∈ l, (cur a ↔ cur' a))
    (hkey : ∀ a ∈ l, ∀ b ∈ l, (key a < key b ↔ key' a < key' b))
    (hmargin : ∀ a ∈ l, ∀ b ∈ l, (margin (key a) ≤ key b ↔ margin' (key' a) ≤ key' b)) :
    select margin cur key l = select margin' cur' key' l := by
  have hfilter : (l.filter fun a => decide (cur a)) = l.filter fun a => decide (cur' a) := by
    apply List.filter_congr
    intro a ha
    rw [decide_eq_decide]
    exact hcur a ha
  have hsub : ∀ a ∈ l.filter (fun a => decide (cur' a)), a ∈ l := fun a ha => List.mem_of_mem_filter ha
  unfold select
  rw [hfilter, argmin_congr hkey, argmin_congr fun a ha b hb => hkey a (hsub a ha) b (hsub b hb)]
  cases hb : l.argmin key' with
  | none => rfl
  | some b =>
    cases hc : (l.filter fun a => decide (cur' a)).argmin key' with
    | none => rfl
    | some c =>
      dsimp only
      simp only [hmargin b (List.argmin_mem hb) c (hsub c (List.argmin_mem hc))]

end

/-! ## Moving -/

variable {P T V : Type*} [Preorder V] (margin : V → V) (cost : T → P → V)

/-- The moves, each with its target and its time, from a place on. -/
def Walk : P → List (P × T) → Prop
  | _, [] => True
  | p, (q, t) :: moves => margin (cost t q) ≤ cost t p ∧ Walk q moves

/-- The cost of each place stays within the margin. -/
def Steady (times : List T) : Prop :=
  ∀ t ∈ times, ∀ t' ∈ times, ∀ p, cost t p < margin (cost t' p)

variable {margin cost}

theorem Steady.mono {times times' : List T} (h : Steady margin cost times) (hsub : times' ⊆ times) :
    Steady margin cost times' :=
  fun t ht t' ht' => h t (hsub ht) t' (hsub ht')

theorem Walk.arrival {p q : P} {t : T} {moves : List (P × T)} (hw : Walk margin cost p ((q, t) :: moves))
    (hs : Steady margin cost (((q, t) :: moves).map Prod.snd)) :
    ∀ m ∈ (q, t) :: moves, margin (cost m.2 m.1) ≤ cost t p := by
  induction moves generalizing p q t with
  | nil =>
    intro m hm
    rw [List.mem_singleton.1 hm]
    exact hw.1
  | cons next moves ih =>
    intro m hm
    rcases List.mem_cons.1 hm with rfl | hm
    · exact hw.1
    · have harrive := ih hw.2 (hs.mono (List.subset_cons_self _ _)) m hm
      calc margin (cost m.2 m.1)
          ≤ cost next.2 q := harrive
        _ ≤ margin (cost t q) := (hs next.2 (by simp) t (by simp) q).le
        _ ≤ cost t p := hw.1

/-- **No place is visited twice.** -/
theorem Walk.nodup {p : P} {moves : List (P × T)} (hw : Walk margin cost p moves)
    (hs : Steady margin cost (moves.map Prod.snd)) : (p :: moves.map Prod.fst).Nodup := by
  induction moves generalizing p with
  | nil => exact List.nodup_singleton p
  | cons move moves ih =>
    obtain ⟨q, t⟩ := move
    refine List.nodup_cons.2 ⟨?_, ih hw.2 (hs.mono (List.subset_cons_self _ _))⟩
    intro hp
    obtain ⟨m, hm, rfl⟩ := List.mem_map.1 hp
    have harrive := hw.arrival hs m hm
    exact absurd harrive (hs t (by simp) m.2 (List.mem_map_of_mem hm) m.1).not_ge

end Lib
