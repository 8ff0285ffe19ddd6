import EzVpn.Transport.PathSelector

/-!
# Exclusion and choice

`choose` (src/transport/path_selector.rs) filters, looks for the best candidate and keeps track of
the current path in one loop, with indices into the list that is not filtered.
`choose_excluding`: what comes out is what the selector without exclusions chooses among the
allowed candidates, the current path being one of them or none at all.
-/

namespace EzVpn

open Lib

/-- The key of a candidate. -/
def candidateKey (c : FourTuple × Nat) : SortKey := sortKey c.1 c.2

/-- The candidates that are not excluded. -/
def ExcludingPathSelector.allowed (sel : ExcludingPathSelector) (candidates : List (FourTuple × Nat)) :
    List (FourTuple × Nat) := candidates.filter fun c => !sel.isExcluded c.1

/-- The candidate that `choose` returns the index of. -/
def ExcludingPathSelector.chosen (sel : ExcludingPathSelector) (current : Option FourTuple)
    (candidates : List (FourTuple × Nat)) : Option (FourTuple × Nat) :=
  (sel.choose current candidates).bind fun i => candidates[i]?

section
variable (sel : ExcludingPathSelector) (current : Option FourTuple) (candidates : List (FourTuple × Nat))

theorem mem_allowed {c : FourTuple × Nat} :
    c ∈ sel.allowed candidates ↔ c ∈ candidates ∧ sel.isExcluded c.1 = false := by
  rw [ExcludingPathSelector.allowed, List.mem_filter, Bool.not_eq_true']

theorem map_fst_allowedOf : (allowedOf sel candidates.zipIdx).map Prod.fst = sel.allowed candidates := by
  have hfilter : allowedOf sel candidates.zipIdx =
      candidates.zipIdx.filter ((fun c => !sel.isExcluded c.1) ∘ Prod.fst) := by
    refine List.filter_congr fun c _ => ?_
    rw [Bool.eq_iff_iff, decide_eq_true_iff, Function.comp, Bool.not_eq_true']
    rfl
  rw [hfilter, ← List.filter_map, List.zipIdx_map_fst]
  rfl

/-- The index of a candidate that is selected leads back to it. -/
theorem chosen_eq_map :
    sel.chosen current candidates =
      (select margin (IsCurrent current) keyOf (allowedOf sel candidates.zipIdx)).map Prod.fst := by
  rw [ExcludingPathSelector.chosen, choose_eq_select]
  cases h : select margin (IsCurrent current) keyOf (allowedOf sel candidates.zipIdx) with
  | none => rfl
  | some b =>
    have hmem : b ∈ candidates.zipIdx := List.mem_of_mem_filter (List.argmin_mem (argmin_of_select h))
    exact List.mk_mem_zipIdx_iff_getElem?.1 hmem

/-- The choice on the candidates themselves, without their indices. -/
theorem chosen_eq_select :
    sel.chosen current candidates =
      select margin (fun c => some c.1 = current) candidateKey (sel.allowed candidates) := by
  rw [chosen_eq_map, ← map_fst_allowedOf, select_map]
  rfl

theorem choose_eq_none_iff_chosen :
    sel.choose current candidates = none ↔ sel.chosen current candidates = none := by
  rw [chosen_eq_map, choose_eq_select, Option.map_eq_none_iff, Option.map_eq_none_iff]

/-- Nothing is excluded by an empty list. -/
theorem allowed_nil : (⟨[]⟩ : ExcludingPathSelector).allowed candidates = candidates := by
  refine List.filter_eq_self.2 fun c _ => ?_
  have hnone : (⟨[]⟩ : ExcludingPathSelector).isExcluded c.1 = false := by
    unfold ExcludingPathSelector.isExcluded
    split
    · rfl
    · rfl
  rw [hnone]
  rfl

/-- Exclusion is selection among the allowed candidates. -/
theorem chosen_eq_default :
    sel.chosen current candidates =
      (⟨[]⟩ : ExcludingPathSelector).chosen (current.filter fun p => !sel.isExcluded p)
        (sel.allowed candidates) := by
  rw [chosen_eq_select, chosen_eq_select, allowed_nil]
  refine select_congr ?_ (fun _ _ _ _ => Iff.rfl) (fun _ _ _ _ => Iff.rfl)
  intro c hc
  -- an allowed candidate is the current path only if that is allowed too
  have hallowed := ((mem_allowed sel candidates).1 hc).2
  rw [eq_comm, @eq_comm _ (some c.1), Option.filter_eq_some_iff]
  simp [hallowed]

/-- The indices in `zipIdx` go up. -/
theorem pairwise_zipIdx : candidates.zipIdx.Pairwise fun a b => a.2 < b.2 := by
  rw [← List.pairwise_map (R := (· < ·)) (f := Prod.snd), List.zipIdx_map_snd]
  exact List.pairwise_lt_range'

variable {sel current candidates}

/-- What is chosen comes before every other allowed candidate that is as good. -/
theorem choose_first {i : Nat} (h : sel.choose current candidates = some i) :
    ∃ path rtt, candidates[i]? = some (path, rtt) ∧
      ∀ j c, j < i → candidates[j]? = some c → sel.isExcluded c.1 = false →
        sortKey path rtt < sortKey c.1 c.2 := by
  rw [choose_eq_select, Option.map_eq_some_iff] at h
  obtain ⟨⟨⟨path, rtt⟩, i'⟩, hselect, rfl⟩ := h
  have hargmin := argmin_of_select hselect
  obtain ⟨before, after, hsplit, hbefore⟩ := argmin_split hargmin
  have hmem := List.mem_of_mem_filter (List.argmin_mem hargmin)
  refine ⟨path, rtt, List.mk_mem_zipIdx_iff_getElem?.1 hmem, ?_⟩
  intro j c hj hc hallowed
  have hcmem : (c, j) ∈ allowedOf sel candidates.zipIdx :=
    List.mem_filter.2 ⟨List.mk_mem_zipIdx_iff_getElem?.2 hc, decide_eq_true hallowed⟩
  have hsorted : (allowedOf sel candidates.zipIdx).Pairwise fun a b => a.2 < b.2 :=
    (pairwise_zipIdx candidates).filter _
  rw [hsplit] at hcmem hsorted
  rcases List.mem_append.1 hcmem with hin | hin
  · exact hbefore _ hin
  · -- what comes after has a larger index
    rcases List.mem_cons.1 hin with heq | hin
    · obtain ⟨-, rfl⟩ := Prod.mk.inj heq
      exact absurd hj (Nat.lt_irrefl _)
    · have hlater := (List.pairwise_cons.1 (List.pairwise_append.1 hsorted).2.1).1 _ hin
      exact absurd hj (Nat.lt_asymm hlater)

/-- Nothing is chosen if nothing is allowed, or if the current path is allowed and the best is not
better enough. -/
theorem choose_eq_none_iff :
    sel.choose current candidates = none ↔
      (∀ c ∈ candidates, sel.isExcluded c.1 = true) ∨
      ∃ best ∈ candidates, sel.isExcluded best.1 = false ∧
        (∀ c ∈ candidates, sel.isExcluded c.1 = false → candidateKey best ≤ candidateKey c) ∧
        ∃ cur ∈ candidates, sel.isExcluded cur.1 = false ∧ some cur.1 = current ∧
          cur.1.isRelay = best.1.isRelay ∧
          (ofLex (candidateKey cur)).2 < (ofLex (candidateKey best)).2 + rttSwitchingMin := by
  rw [choose_eq_none_iff_chosen, chosen_eq_select, select_eq_none_iff]
  have hmargin : ∀ {best cur : FourTuple × Nat}, candidateKey best ≤ candidateKey cur →
      (¬ margin (candidateKey best) ≤ candidateKey cur ↔ cur.1.isRelay = best.1.isRelay ∧
        (ofLex (candidateKey cur)).2 < (ofLex (candidateKey best)).2 + rttSwitchingMin) := by
    intro best cur hle
    rw [margin_le_iff hle, not_or, not_not, Int.not_le]
    rfl
  refine or_congr ?_ ⟨?_, ?_⟩
  · rw [ExcludingPathSelector.allowed, List.filter_eq_nil_iff]
    simp
  · rintro ⟨b, c, hb, hc, hnot⟩
    obtain ⟨hcmem, hcur⟩ := List.mem_filter.1 (List.argmin_mem hc)
    obtain ⟨hbin, hballowed⟩ := (mem_allowed sel candidates).1 (List.argmin_mem hb)
    obtain ⟨hcin, hcallowed⟩ := (mem_allowed sel candidates).1 hcmem
    have hclose := (hmargin (List.le_of_mem_argmin hcmem hb)).1 hnot
    refine ⟨b, hbin, hballowed, ?_, c, hcin, hcallowed, of_decide_eq_true hcur, hclose⟩
    intro c' hc' hallowed'
    exact List.le_of_mem_argmin ((mem_allowed sel candidates).2 ⟨hc', hallowed'⟩) hb
  · rintro ⟨best, hbin, hballowed, hleast, cur, hcin, hcallowed, hsame, hclose⟩
    have hbmem : best ∈ sel.allowed candidates := (mem_allowed sel candidates).2 ⟨hbin, hballowed⟩
    have hcmem : cur ∈ (sel.allowed candidates).filter fun c => decide (some c.1 = current) :=
      List.mem_filter.2 ⟨(mem_allowed sel candidates).2 ⟨hcin, hcallowed⟩, decide_eq_true hsame⟩
    obtain ⟨b, hb⟩ : ∃ b, (sel.allowed candidates).argmin candidateKey = some b := by
      rw [← Option.ne_none_iff_exists', ne_eq, List.argmin_eq_none]
      exact List.ne_nil_of_mem hbmem
    obtain ⟨c, hc⟩ : ∃ c, ((sel.allowed candidates).filter fun c => decide (some c.1 = current)).argmin
        candidateKey = some c := by
      rw [← Option.ne_none_iff_exists', ne_eq, List.argmin_eq_none]
      exact List.ne_nil_of_mem hcmem
    refine ⟨b, c, hb, hc, fun hreach => ?_⟩
    -- the least keys are those of `best` and of a copy of `cur`
    have hbest : candidateKey best ≤ candidateKey b := by
      obtain ⟨hin, hallowed⟩ := (mem_allowed sel candidates).1 (List.argmin_mem hb)
      exact hleast b hin hallowed
    have hreach' : margin (candidateKey best) ≤ candidateKey cur :=
      calc margin (candidateKey best) ≤ margin (candidateKey b) := margin_mono hbest
        _ ≤ candidateKey c := hreach
        _ ≤ candidateKey cur := List.le_of_mem_argmin hcmem hc
    exact (hmargin (hleast cur hcin hcallowed)).2 hclose hreach'

end

/-- **Exclusion is the default selection on the allowed paths.** -/
theorem choose_excluding (sel : ExcludingPathSelector) (current : Option FourTuple)
    (candidates : List (FourTuple × Nat)) :
    (sel.choose current candidates).bind (fun i => candidates[i]?) =
      ((⟨[]⟩ : ExcludingPathSelector).choose (current.filter fun p => !sel.isExcluded p)
        (sel.allowed candidates)).bind (fun i => (sel.allowed candidates)[i]?) ∧
    (∀ i, sel.choose current candidates = some i →
      ∃ path rtt, candidates[i]? = some (path, rtt) ∧ sel.isExcluded path = false ∧
        (∀ c ∈ candidates, sel.isExcluded c.1 = false → sortKey path rtt ≤ sortKey c.1 c.2) ∧
        ∀ j c, j < i → candidates[j]? = some c → sel.isExcluded c.1 = false →
          sortKey path rtt < sortKey c.1 c.2) ∧
    (sel.choose current candidates = none ↔
      (∀ c ∈ candidates, sel.isExcluded c.1 = true) ∨
      ∃ best ∈ candidates, sel.isExcluded best.1 = false ∧
        (∀ c ∈ candidates, sel.isExcluded c.1 = false → candidateKey best ≤ candidateKey c) ∧
        ∃ cur ∈ candidates, sel.isExcluded cur.1 = false ∧ some cur.1 = current ∧
          cur.1.isRelay = best.1.isRelay ∧
          (ofLex (candidateKey cur)).2 < (ofLex (candidateKey best)).2 + rttSwitchingMin) := by
  refine ⟨chosen_eq_default sel current candidates, ?_, choose_eq_none_iff⟩
  intro i h
  obtain ⟨path, rtt, hget, hallowed, hleast, -⟩ := choose_some h
  obtain ⟨path', rtt', hget', hfirst⟩ := choose_first h
  obtain ⟨rfl, rfl⟩ := Prod.mk.inj (Option.some.inj (hget.symm.trans hget'))
  exact ⟨path, rtt, hget, hallowed, hleast, hfirst⟩

end EzVpn
