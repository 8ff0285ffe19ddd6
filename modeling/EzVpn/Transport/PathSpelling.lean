import EzVpn.Transport.PathChoice

/-!
# Two ways to write an IPv4 address

An IPv4 address can be written as an IPv4-mapped IPv6 address.  The exclusion test of
src/transport/path_selector.rs takes the two for the same, the ranking does not: a mapped address
has the advantage that is meant for IPv6.

`choose_canonical_iff` says for which paths the choice does not depend on the spelling, whatever
the RTTs are: a candidate that is the current path is spelled like it, and of the direct paths
that may be chosen none is mapped, or all are.
-/

namespace EzVpn

open Lib

/-- The path with the canonical form of its remote address. -/
def FourTuple.canonical (path : FourTuple) : FourTuple :=
  { path with
    remote := match path.remote with
      | .ip addr port => .ip (toCanonical addr) port
      | remote => remote }

/-- The remote address is an IPv4-mapped one. -/
def FourTuple.isMapped (path : FourTuple) : Bool :=
  match path.remote with
  | .ip (.v6 ip) _ => decide (ip.toNat / 2 ^ 32 = 0xffff)
  | _ => false

/-- The candidates with their RTTs. -/
def withRtts (paths : List FourTuple) (rtt : Nat → Nat) : List (FourTuple × Nat) :=
  paths.mapIdx fun i path => (path, rtt i)

section
variable (sel : ExcludingPathSelector) (current : Option FourTuple) (paths : List FourTuple)

/-- A candidate that is the current path, spelled one way or the other, is spelled like it. -/
def SpelledLikeCurrent : Prop :=
  ∀ p ∈ paths, sel.isExcluded p = false → ∀ cur, current = some cur → p.canonical = cur.canonical → p = cur

/-- Of the direct paths that may be chosen none is mapped, or all are. -/
def SpelledAlike : Prop :=
  (∀ p ∈ paths, sel.isExcluded p = false → p.isMapped = false) ∨
    ∀ p ∈ paths, sel.isExcluded p = false → p.isRelay = false → p.isMapped = true

end

/-! ## What the canonical form changes -/

section
variable (path : FourTuple)

theorem isRelay_canonical : path.canonical.isRelay = path.isRelay := by
  obtain ⟨remote, localIp⟩ := path
  cases remote with
  | ip addr port => rfl
  | relay url id => rfl
  | custom id => rfl

theorem toCanonical_toCanonical (ip : IpAddr) : toCanonical (toCanonical ip) = toCanonical ip := by
  cases ip with
  | v4 ip => rfl
  | v6 ip =>
    by_cases h : ip.toNat / 2 ^ 32 = 0xffff
    · rw [toCanonical, if_pos h, toCanonical]
    · rw [toCanonical, if_neg h, toCanonical, if_neg h]

theorem isExcluded_canonical (sel : ExcludingPathSelector) :
    sel.isExcluded path.canonical = sel.isExcluded path := by
  obtain ⟨remote, localIp⟩ := path
  cases remote with
  | ip addr port =>
    show (sel.excluded.any fun net => net.contains (toCanonical (toCanonical addr))) = _
    rw [toCanonical_toCanonical]
    rfl
  | relay url id => rfl
  | custom id => rfl

variable {path}

theorem canonical_of_not_mapped (h : path.isMapped = false) : path.canonical = path := by
  obtain ⟨remote, localIp⟩ := path
  cases remote with
  | ip addr port =>
    cases addr with
    | v4 ip => rfl
    | v6 ip =>
      have hne : ¬ ip.toNat / 2 ^ 32 = 0xffff := of_decide_eq_false h
      show FourTuple.mk (.ip (toCanonical (.v6 ip)) port) localIp = _
      rw [toCanonical, if_neg hne]
  | relay url id => rfl
  | custom id => rfl

theorem isRelay_of_mapped (h : path.isMapped = true) : path.isRelay = false := by
  obtain ⟨remote, localIp⟩ := path
  cases remote with
  | ip addr port => rfl
  | relay url id => cases h
  | custom id => rfl

/-- The key of a path changes by the advantage, if the path is mapped. -/
def shift (key : SortKey) (d : Int) : SortKey := toLex ((ofLex key).1, (ofLex key).2 + d)

/-- What a path gains by its spelling. -/
def gain (path : FourTuple) : Int := if path.isMapped then ipv6RttAdvantage else 0

theorem sortKey_canonical (path : FourTuple) (rtt : Nat) :
    sortKey path.canonical rtt = shift (sortKey path rtt) (gain path) := by
  by_cases h : path.isMapped = true
  · rw [gain, if_pos h]
    obtain ⟨remote, localIp⟩ := path
    cases remote with
    | ip addr port =>
      cases addr with
      | v4 ip => cases h
      | v6 ip =>
        have heq : ip.toNat / 2 ^ 32 = 0xffff := of_decide_eq_true h
        show sortKey ⟨.ip (toCanonical (.v6 ip)) port, localIp⟩ rtt =
          toLex (false, (rtt : Int) - ipv6RttAdvantage + ipv6RttAdvantage)
        rw [toCanonical, if_pos heq, Int.sub_add_cancel]
        rfl
    | relay url id => cases h
    | custom id => cases h
  · rw [gain, if_neg h, canonical_of_not_mapped (by simpa using h)]
    show _ = toLex ((ofLex (sortKey path rtt)).1, (ofLex (sortKey path rtt)).2 + 0)
    rw [Int.add_zero]
    rfl

theorem margin_shift (key : SortKey) (d : Int) : margin (shift key d) = shift (margin key) d := by
  show toLex ((ofLex key).1, (ofLex key).2 + d + rttSwitchingMin) =
    toLex ((ofLex key).1, (ofLex key).2 + rttSwitchingMin + d)
  rw [Int.add_right_comm]

/-- Keys that are shifted alike in each tier compare as before. -/
theorem shift_lt_iff {a b : SortKey} {d e : Int} (h : (ofLex a).1 = (ofLex b).1 → d = e) :
    shift a d < shift b e ↔ a < b := by
  rw [Prod.Lex.lt_iff, Prod.Lex.lt_iff]
  refine or_congr Iff.rfl (and_congr_right fun htier => ?_)
  rw [h htier]
  exact Int.add_lt_add_iff_right e

theorem shift_le_iff {a b : SortKey} {d e : Int} (h : (ofLex a).1 = (ofLex b).1 → d = e) :
    shift a d ≤ shift b e ↔ a ≤ b := by
  rw [← not_lt, ← not_lt, shift_lt_iff fun htier => (h htier.symm).symm]

end

/-! ## The spelling does not matter -/

section
variable {sel : ExcludingPathSelector} {current : Option FourTuple} {candidates : List (FourTuple × Nat)}

/-- A candidate with the canonical form of its path. -/
def canonicalCandidate (c : FourTuple × Nat) : FourTuple × Nat := (c.1.canonical, c.2)

theorem SpelledAlike.gain_eq {paths : List FourTuple} (h : SpelledAlike sel paths) {p q : FourTuple}
    (hp : p ∈ paths) (hq : q ∈ paths) (hpa : sel.isExcluded p = false) (hqa : sel.isExcluded q = false)
    (htier : p.isRelay = q.isRelay) : gain p = gain q := by
  unfold gain
  rcases h with hnone | hall
  · rw [hnone p hp hpa, hnone q hq hqa]
  · by_cases hrelay : p.isRelay = false
    · rw [hall p hp hpa hrelay, hall q hq hqa (htier ▸ hrelay)]
    · -- a relay is never mapped
      have hpm : ¬ p.isMapped = true := fun hm => hrelay (isRelay_of_mapped hm)
      have hqm : ¬ q.isMapped = true := fun hm => hrelay (htier.trans (isRelay_of_mapped hm))
      rw [if_neg hpm, if_neg hqm]

theorem allowedOf_map_canonical (l : List ((FourTuple × Nat) × Nat)) :
    allowedOf sel (l.map (Prod.map canonicalCandidate id)) =
      (allowedOf sel l).map (Prod.map canonicalCandidate id) := by
  rw [allowedOf, List.filter_map]
  refine congrArg _ (List.filter_congr fun c _ => ?_)
  rw [Function.comp, decide_eq_decide]
  show sel.isExcluded c.1.1.canonical = false ↔ sel.isExcluded c.1.1 = false
  rw [isExcluded_canonical]

theorem choose_map_canonical (hcur : SpelledLikeCurrent sel current (candidates.map Prod.fst))
    (halike : SpelledAlike sel (candidates.map Prod.fst)) :
    sel.choose (current.map FourTuple.canonical) (candidates.map canonicalCandidate) =
      sel.choose current candidates := by
  have hmem : ∀ c ∈ allowedOf sel candidates.zipIdx,
      c.1.1 ∈ candidates.map Prod.fst ∧ sel.isExcluded c.1.1 = false := by
    intro c hc
    obtain ⟨hzip, hallowed⟩ := List.mem_filter.1 hc
    have hin : c.1 ∈ candidates := List.mem_of_getElem? (List.mk_mem_zipIdx_iff_getElem?.1 hzip)
    exact ⟨List.mem_map_of_mem hin, of_decide_eq_true hallowed⟩
  have hgain : ∀ a ∈ allowedOf sel candidates.zipIdx, ∀ b ∈ allowedOf sel candidates.zipIdx,
      (ofLex (keyOf a)).1 = (ofLex (keyOf b)).1 → gain a.1.1 = gain b.1.1 := by
    intro a ha b hb htier
    exact halike.gain_eq (hmem a ha).1 (hmem b hb).1 (hmem a ha).2 (hmem b hb).2 htier
  rw [choose_eq_select, choose_eq_select, List.zipIdx_map, allowedOf_map_canonical, select_map, Option.map_map]
  refine congrArg (Option.map Prod.snd) (select_congr ?_ ?_ ?_)
  · intro c hc
    obtain ⟨hin, hallowed⟩ := hmem c hc
    show some c.1.1.canonical = current.map FourTuple.canonical ↔ some c.1.1 = current
    cases hcurrent : current with
    | none => exact iff_of_false nofun nofun
    | some cur =>
      rw [Option.map_some, Option.some_inj, Option.some_inj]
      exact ⟨hcur c.1.1 hin hallowed cur hcurrent, congrArg _⟩
  · intro a ha b hb
    show sortKey a.1.1.canonical a.1.2 < sortKey b.1.1.canonical b.1.2 ↔ _
    rw [sortKey_canonical, sortKey_canonical]
    exact shift_lt_iff (hgain a ha b hb)
  · intro a ha b hb
    show margin (sortKey a.1.1.canonical a.1.2) ≤ sortKey b.1.1.canonical b.1.2 ↔ _
    rw [sortKey_canonical, sortKey_canonical, margin_shift]
    exact shift_le_iff (hgain a ha b hb)

end

/-! ## It matters otherwise

The RTTs are chosen so that one or two candidates are near, with keys that are given, and all
others far away. -/

/-- A key of the first tier. -/
def direct (biased : Int) : SortKey := toLex (false, biased)

theorem direct_lt_iff {a b : Int} : direct a < direct b ↔ a < b := by
  unfold direct
  rw [Prod.Lex.lt_iff]
  simp

theorem direct_le_iff {a b : Int} : direct a ≤ direct b ↔ a ≤ b := by
  rw [← not_lt, ← not_lt, direct_lt_iff]

/-- A direct path can have any key of its tier. -/
theorem exists_sortKey {path : FourTuple} (h : path.isRelay = false) (t : Nat) :
    ∃ rtt, sortKey path rtt = direct t := by
  obtain ⟨remote, localIp⟩ := path
  cases remote with
  | ip addr port =>
    cases addr with
    | v4 ip => exact ⟨t, rfl⟩
    | v6 ip =>
      refine ⟨t + ipv6RttAdvantage, ?_⟩
      show toLex (false, ((t + ipv6RttAdvantage : Nat) : Int) - ipv6RttAdvantage) = _
      rw [Int.natCast_add, Int.add_sub_cancel]
      rfl
  | relay url id => cases h
  | custom id => exact ⟨t, rfl⟩

def farRtt : Nat := 1000000000

/-- No path with `farRtt` has a smaller key. -/
def farKey : SortKey := direct (farRtt - ipv6RttAdvantage)

theorem farKey_le (path : FourTuple) : farKey ≤ sortKey path farRtt := by
  obtain ⟨remote, localIp⟩ := path
  have hfar : farKey ≤ direct farRtt := direct_le_iff.2 (by decide)
  cases remote with
  | ip addr port =>
    cases addr with
    | v4 ip => exact hfar
    | v6 ip => exact le_refl _
  | relay url id =>
    refine Prod.Lex.le_iff.2 (.inl ?_)
    show false < true
    decide
  | custom id => exact hfar

theorem getElem?_withRtts (paths : List FourTuple) (rtt : Nat → Nat) (k : Nat) :
    (withRtts paths rtt)[k]? = paths[k]?.map fun p => (p, rtt k) := List.getElem?_mapIdx

theorem withRtts_map_canonical (paths : List FourTuple) (rtt : Nat → Nat) :
    withRtts (paths.map FourTuple.canonical) rtt = (withRtts paths rtt).map canonicalCandidate := by
  apply List.ext_getElem?
  intro k
  rw [getElem?_withRtts, List.getElem?_map, List.getElem?_map, getElem?_withRtts, Option.map_map, Option.map_map]
  rfl

theorem map_fst_withRtts (paths : List FourTuple) (rtt : Nat → Nat) :
    (withRtts paths rtt).map Prod.fst = paths := by
  apply List.ext_getElem?
  intro k
  rw [List.getElem?_map, getElem?_withRtts, Option.map_map]
  exact Option.map_id_apply

section
variable {sel : ExcludingPathSelector} {current : Option FourTuple} {candidates : List (FourTuple × Nat)} {i : Nat}
  {b : FourTuple × Nat}

/-- A candidate that is better than all others is chosen, unless it is within the margin of the
current path. -/
theorem choose_of_best (hb : candidates[i]? = some b) (hallowed : sel.isExcluded b.1 = false)
    (hbest : ∀ k c, k ≠ i → candidates[k]? = some c → candidateKey b < candidateKey c)
    (hreach : ∀ c ∈ candidates, some c.1 = current → margin (candidateKey b) ≤ candidateKey c) :
    sel.choose current candidates = some i := by
  cases h : sel.choose current candidates with
  | none =>
    rcases choose_none h with hall | ⟨c, hc, _, hsame, hnot⟩
    · rw [hall b (List.mem_of_getElem? hb)] at hallowed
      cases hallowed
    · exact absurd (hreach c hc hsame) (hnot b (List.mem_of_getElem? hb) hallowed)
  | some k =>
    obtain ⟨p, rtt, hk, _, hleast, _⟩ := choose_some h
    by_cases hki : k = i
    · rw [hki]
    · exact absurd (hleast b (List.mem_of_getElem? hb) hallowed) (hbest k (p, rtt) hki hk).not_ge

/-- If the current path is a candidate and no other reaches its key, nothing is chosen. -/
theorem choose_of_current (hb : b ∈ candidates) (hallowed : sel.isExcluded b.1 = false)
    (hsame : some b.1 = current)
    (hnot : ∀ c ∈ candidates, ¬ margin (candidateKey c) ≤ candidateKey b) :
    sel.choose current candidates = none := by
  cases h : sel.choose current candidates with
  | none => rfl
  | some k =>
    obtain ⟨p, rtt, hk, _, _, hreach⟩ := choose_some h
    exact absurd (hreach b hb hallowed hsame) (hnot (p, rtt) (List.mem_of_getElem? hk))

end

/-- Two candidates are near, or one if `i` and `j` are the same; the others are far. -/
def rtts (i x j y k : Nat) : Nat := if k = i then x else if k = j then y else farRtt

/-- `p` is the candidate at `i` and has the key `kp`, `q` is the one at `j` and has the key `kq`,
and the others are far. -/
structure Near (sel : ExcludingPathSelector) (candidates : List (FourTuple × Nat)) (i j : Nat)
    (p q : FourTuple) (kp kq : SortKey) : Prop where
  first : ∃ rtt, candidates[i]? = some (p, rtt) ∧ sortKey p rtt = kp
  second : ∃ rtt, candidates[j]? = some (q, rtt) ∧ sortKey q rtt = kq
  firstAllowed : sel.isExcluded p = false
  secondAllowed : sel.isExcluded q = false
  far : ∀ k c, k ≠ i → k ≠ j → candidates[k]? = some c → farKey ≤ candidateKey c

section
variable {sel : ExcludingPathSelector} {paths : List FourTuple} {current : Option FourTuple}
  {candidates : List (FourTuple × Nat)} {i j x y : Nat} {p q : FourTuple} {kp kq : SortKey}

theorem near_withRtts (hi : paths[i]? = some p) (hj : paths[j]? = some q) (hp : sel.isExcluded p = false)
    (hq : sel.isExcluded q = false) (hij : j = i → y = x) :
    Near sel (withRtts paths (rtts i x j y)) i j p q (sortKey p x) (sortKey q y) := by
  have hx : rtts i x j y i = x := if_pos rfl
  have hy : rtts i x j y j = y := by
    unfold rtts
    by_cases h : j = i
    · rw [if_pos h, hij h]
    · rw [if_neg h, if_pos rfl]
  refine ⟨⟨x, ?_, rfl⟩, ⟨y, ?_, rfl⟩, hp, hq, ?_⟩
  · rw [getElem?_withRtts, hi, hx]
    rfl
  · rw [getElem?_withRtts, hj, hy]
    rfl
  · intro k c hki hkj hc
    rw [getElem?_withRtts, Option.map_eq_some_iff] at hc
    obtain ⟨path, _, rfl⟩ := hc
    show farKey ≤ sortKey path (rtts i x j y k)
    rw [rtts, if_neg hki, if_neg hkj]
    exact farKey_le path

theorem Near.symm (h : Near sel candidates i j p q kp kq) : Near sel candidates j i q p kq kp :=
  ⟨h.second, h.first, h.secondAllowed, h.firstAllowed, fun k c hkj hki => h.far k c hki hkj⟩

theorem Near.choose_first (h : Near sel candidates i j p q kp kq) (hlt : j ≠ i → kp < kq)
    (hfar : margin kp ≤ farKey) (hp : some p ≠ current) (hq : some q = current → margin kp ≤ kq) :
    sel.choose current candidates = some i := by
  obtain ⟨x, hi, rfl⟩ := h.first
  obtain ⟨y, hj, rfl⟩ := h.second
  refine choose_of_best hi h.firstAllowed ?_ ?_
  · intro k c hki hc
    by_cases hkj : k = j
    · subst hkj
      obtain rfl := Option.some.inj (hj.symm.trans hc)
      exact hlt hki
    · exact (lt_margin _).trans_le (hfar.trans (h.far k c hki hkj hc))
  · intro c hc hsame
    obtain ⟨k, hk⟩ := List.mem_iff_getElem?.1 hc
    by_cases hki : k = i
    · subst hki
      obtain rfl := Option.some.inj (hi.symm.trans hk)
      exact absurd hsame hp
    · by_cases hkj : k = j
      · subst hkj
        obtain rfl := Option.some.inj (hj.symm.trans hk)
        exact hq hsame
      · exact hfar.trans (h.far k c hki hkj hk)

theorem Near.keep_first (h : Near sel candidates i j p q kp kq) (hsame : some p = current)
    (hq : ¬ margin kq ≤ kp) (hfar : kp < farKey) : sel.choose current candidates = none := by
  obtain ⟨x, hi, rfl⟩ := h.first
  obtain ⟨y, hj, rfl⟩ := h.second
  refine choose_of_current (List.mem_of_getElem? hi) h.firstAllowed hsame ?_
  intro c hc
  obtain ⟨k, hk⟩ := List.mem_iff_getElem?.1 hc
  by_cases hki : k = i
  · subst hki
    obtain rfl := Option.some.inj (hi.symm.trans hk)
    exact (lt_margin _).not_ge
  · by_cases hkj : k = j
    · subst hkj
      obtain rfl := Option.some.inj (hj.symm.trans hk)
      exact hq
    · have hless : candidateKey (p, x) < margin (candidateKey c) :=
        (hfar.trans_le (h.far k c hki hkj hk)).trans (lt_margin _)
      exact hless.not_ge

theorem sortKey_canonical_direct {t : Int} (h : sortKey p x = direct t) :
    sortKey p.canonical x = direct (t + gain p) := by
  rw [sortKey_canonical, h]
  rfl

theorem gain_cases (p : FourTuple) : gain p = 0 ∨ gain p = 3000000 := by
  unfold gain
  split
  · exact .inr rfl
  · exact .inl rfl

/-- Any two direct paths can be made near, with the keys `t` and `u`. -/
theorem exists_near (hi : paths[i]? = some p) (hj : paths[j]? = some q) (hp : sel.isExcluded p = false)
    (hq : sel.isExcluded q = false) (hpr : p.isRelay = false) (hqr : q.isRelay = false) (t u : Nat)
    (hij : j = i → t = u) :
    ∃ rtt, Near sel (withRtts paths rtt) i j p q (direct t) (direct u) ∧
      Near sel (withRtts (paths.map FourTuple.canonical) rtt) i j p.canonical q.canonical
        (direct (t + gain p)) (direct (u + gain q)) := by
  have hi' : (paths.map FourTuple.canonical)[i]? = some p.canonical := by rw [List.getElem?_map, hi]; rfl
  have hj' : (paths.map FourTuple.canonical)[j]? = some q.canonical := by rw [List.getElem?_map, hj]; rfl
  have hp' : sel.isExcluded p.canonical = false := by rw [isExcluded_canonical, hp]
  have hq' : sel.isExcluded q.canonical = false := by rw [isExcluded_canonical, hq]
  obtain ⟨x, y, hx, hy, hxy⟩ : ∃ x y, sortKey p x = direct t ∧ sortKey q y = direct u ∧ (j = i → y = x) := by
    obtain ⟨x, hx⟩ := exists_sortKey hpr t
    obtain ⟨y, hy⟩ := exists_sortKey hqr u
    by_cases h : j = i
    · subst h
      obtain rfl := Option.some.inj (hi.symm.trans hj)
      exact ⟨x, x, hx, hij rfl ▸ hx, fun _ => rfl⟩
    · exact ⟨x, y, hx, hy, fun heq => absurd heq h⟩
  refine ⟨rtts i x j y, ?_, ?_⟩
  · rw [← hx, ← hy]
    exact near_withRtts hi hj hp hq hxy
  · rw [← sortKey_canonical_direct hx, ← sortKey_canonical_direct hy]
    exact near_withRtts hi' hj' hp' hq' hxy

end

/-- The choice is the same for the canonical paths. -/
def SameChoice (sel : ExcludingPathSelector) (current : Option FourTuple) (paths : List FourTuple)
    (rtt : Nat → Nat) : Prop :=
  sel.choose (current.map FourTuple.canonical) (withRtts (paths.map FourTuple.canonical) rtt) =
    sel.choose current (withRtts paths rtt)

section
variable {sel : ExcludingPathSelector} {paths : List FourTuple} {current : Option FourTuple} {p : FourTuple}

/-- The relay has one spelling only. -/
theorem isRelay_of_spellings {cur : FourTuple} (hcanon : p.canonical = cur.canonical) (hne : p ≠ cur) :
    p.isRelay = false := by
  by_contra hr
  have hcur : cur.isRelay = p.isRelay := by rw [← isRelay_canonical cur, ← hcanon, isRelay_canonical]
  have hpm : p.isMapped = false := by
    by_contra hm
    exact hr (isRelay_of_mapped (by simpa using hm))
  have hcm : cur.isMapped = false := by
    by_contra hm
    exact hr (hcur.symm.trans (isRelay_of_mapped (by simpa using hm)))
  rw [canonical_of_not_mapped hpm, canonical_of_not_mapped hcm] at hcanon
  exact hne hcanon

/-- A candidate that is the current path in another spelling is chosen, or kept. -/
theorem spelledLikeCurrent_of_same (h : ∀ rtt, SameChoice sel current paths rtt) :
    SpelledLikeCurrent sel current paths := by
  intro p hp hallowed cur hcur hcanon
  subst hcur
  by_contra hne
  have hrelay := isRelay_of_spellings hcanon hne
  obtain ⟨i, hi⟩ := List.mem_iff_getElem?.1 hp
  obtain ⟨rtt, hnear, hnear'⟩ := exists_near hi hi hallowed hallowed hrelay hrelay 100000000 100000000 (fun _ => rfl)
  have hgain := gain_cases p
  have hchosen : sel.choose (some cur) (withRtts paths rtt) = some i := by
    apply hnear.choose_first
    · exact fun hii => absurd rfl hii
    · exact direct_le_iff.2 (by decide)
    · exact fun heq => hne (Option.some.inj heq)
    · exact fun heq => absurd (Option.some.inj heq) hne
  have hkept : sel.choose ((some cur).map FourTuple.canonical) (withRtts (paths.map FourTuple.canonical) rtt) =
      none := by
    apply hnear'.keep_first
    · exact congrArg some hcanon
    · exact (lt_margin _).not_ge
    · refine direct_lt_iff.2 ?_
      unfold farRtt ipv6RttAdvantage
      omega
  have hsame := h rtt
  rw [SameChoice, hchosen, hkept] at hsame
  cases hsame

end

/-- Two candidates that may be chosen: `p` at `i` is mapped, and `q` at `j` is another direct path. -/
structure Contrast (sel : ExcludingPathSelector) (current : Option FourTuple) (paths : List FourTuple) (i j : Nat)
    (p q : FourTuple) : Prop where
  first : paths[i]? = some p
  second : paths[j]? = some q
  firstAllowed : sel.isExcluded p = false
  secondAllowed : sel.isExcluded q = false
  mapped : p.isMapped = true
  notMapped : q.isMapped = false
  direct : q.isRelay = false
  like : SpelledLikeCurrent sel current paths

namespace Contrast

variable {sel : ExcludingPathSelector} {current : Option FourTuple} {paths : List FourTuple} {i j : Nat}
  {p q : FourTuple} (h : Contrast sel current paths i j p q)
include h

theorem ne : p ≠ q := by
  rintro rfl
  exact absurd (h.mapped.symm.trans h.notMapped) (by decide)

theorem index_ne : j ≠ i := by
  rintro rfl
  exact h.ne (Option.some.inj (h.first.symm.trans h.second))

/-- The canonical form of a candidate is that of the current path only if the candidate is it. -/
theorem canonical_ne {r : FourTuple} (hr : r ∈ paths) (hallowed : sel.isExcluded r = false)
    (hne : some r ≠ current) : some r.canonical ≠ current.map FourTuple.canonical := by
  intro heq
  obtain ⟨cur, hcurrent, hcanon⟩ := Option.map_eq_some_iff.1 heq.symm
  apply hne
  rw [h.like r hr hallowed cur hcurrent hcanon.symm, hcurrent]

theorem first_ne (hne : some p ≠ current) : some p.canonical ≠ current.map FourTuple.canonical :=
  h.canonical_ne (List.mem_of_getElem? h.first) h.firstAllowed hne

theorem second_ne (hne : some q ≠ current) : some q.canonical ≠ current.map FourTuple.canonical :=
  h.canonical_ne (List.mem_of_getElem? h.second) h.secondAllowed hne

theorem near (t u : Nat) :
    ∃ rtt, Near sel (withRtts paths rtt) i j p q (EzVpn.direct t) (EzVpn.direct u) ∧
      Near sel (withRtts (paths.map FourTuple.canonical) rtt) i j p.canonical q.canonical
        (EzVpn.direct (t + 3000000)) (EzVpn.direct u) := by
  obtain ⟨rtt, hn, hn'⟩ := exists_near h.first h.second h.firstAllowed h.secondAllowed
    (isRelay_of_mapped h.mapped) h.direct t u (fun heq => absurd heq h.index_ne)
  have hp : gain p = 3000000 := by rw [gain, if_pos h.mapped]; rfl
  have hq : gain q = 0 := by rw [gain, h.notMapped]; rfl
  rw [hp, hq, Int.add_zero] at hn'
  exact ⟨rtt, hn, hn'⟩

/-- The mapped path is the current one.  It looks better than it is, and is kept. -/
theorem differs_of_first (hcp : some p = current) : ∃ rtt, ¬ SameChoice sel current paths rtt := by
  obtain ⟨rtt, hn, hn'⟩ := h.near 100000000 96000000
  have hcq : some q ≠ current := by
    rw [← hcp]
    exact fun heq => h.ne (Option.some.inj heq).symm
  have hkept := hn.keep_first hcp (fun hle => absurd (direct_le_iff.1 hle) (by decide))
    (direct_lt_iff.2 (by decide))
  have hchosen := hn'.symm.choose_first (fun _ => direct_lt_iff.2 (by decide)) (direct_le_iff.2 (by decide))
    (h.second_ne hcq) (fun _ => direct_le_iff.2 (by decide))
  refine ⟨rtt, fun hsame => ?_⟩
  rw [SameChoice, hchosen, hkept] at hsame
  cases hsame

/-- The other one is the current path.  The mapped one looks better than it is, and is chosen. -/
theorem differs_of_second (hcq : some q = current) : ∃ rtt, ¬ SameChoice sel current paths rtt := by
  obtain ⟨rtt, hn, hn'⟩ := h.near 100000000 107000000
  have hcp : some p ≠ current := by
    rw [← hcq]
    exact fun heq => h.ne (Option.some.inj heq)
  have hchosen := hn.choose_first (fun _ => direct_lt_iff.2 (by decide)) (direct_le_iff.2 (by decide))
    hcp (fun _ => direct_le_iff.2 (by decide))
  have hkept := hn'.symm.keep_first (congrArg (Option.map FourTuple.canonical) hcq)
    (fun hle => absurd (direct_le_iff.1 hle) (by decide)) (direct_lt_iff.2 (by decide))
  refine ⟨rtt, fun hsame => ?_⟩
  rw [SameChoice, hchosen, hkept] at hsame
  cases hsame

/-- Neither is.  The mapped one is the best in one spelling, the other one in the other. -/
theorem differs_of_neither (hcp : some p ≠ current) (hcq : some q ≠ current) :
    ∃ rtt, ¬ SameChoice sel current paths rtt := by
  obtain ⟨rtt, hn, hn'⟩ := h.near 100000000 101000000
  have hfirst := hn.choose_first (fun _ => direct_lt_iff.2 (by decide)) (direct_le_iff.2 (by decide))
    hcp (fun heq => absurd heq hcq)
  have hsecond := hn'.symm.choose_first (fun _ => direct_lt_iff.2 (by decide)) (direct_le_iff.2 (by decide))
    (h.second_ne hcq) (fun heq => absurd heq (h.first_ne hcp))
  refine ⟨rtt, fun hsame => ?_⟩
  rw [SameChoice, hfirst, hsecond] at hsame
  exact h.index_ne (Option.some.inj hsame)

/-- **There are RTTs between which the advantage decides.** -/
theorem differs : ∃ rtt, ¬ SameChoice sel current paths rtt := by
  by_cases hcp : some p = current
  · exact h.differs_of_first hcp
  · by_cases hcq : some q = current
    · exact h.differs_of_second hcq
    · exact h.differs_of_neither hcp hcq

end Contrast

theorem spelledAlike_of_same {sel : ExcludingPathSelector} {current : Option FourTuple} {paths : List FourTuple}
    (h : ∀ rtt, SameChoice sel current paths rtt) : SpelledAlike sel paths := by
  by_contra halike
  unfold SpelledAlike at halike
  push Not at halike
  obtain ⟨⟨p, hpmem, hp, hpm⟩, q, hqmem, hq, hqr, hqm⟩ := halike
  obtain ⟨i, hi⟩ := List.mem_iff_getElem?.1 hpmem
  obtain ⟨j, hj⟩ := List.mem_iff_getElem?.1 hqmem
  have hcontrast : Contrast sel current paths i j p q :=
    ⟨hi, hj, hp, hq, by simpa using hpm, by simpa using hqm, hqr, spelledLikeCurrent_of_same h⟩
  obtain ⟨rtt, hdiffer⟩ := hcontrast.differs
  exact hdiffer (h rtt)

/-- **Paths that are chosen alike in either spelling**, whatever their RTTs are. -/
theorem choose_canonical_iff (sel : ExcludingPathSelector) (current : Option FourTuple) (paths : List FourTuple) :
    (∀ rtt, SameChoice sel current paths rtt) ↔
      SpelledLikeCurrent sel current paths ∧ SpelledAlike sel paths := by
  constructor
  · intro h
    exact ⟨spelledLikeCurrent_of_same h, spelledAlike_of_same h⟩
  · rintro ⟨hlike, halike⟩ rtt
    rw [← map_fst_withRtts paths rtt] at hlike halike
    rw [SameChoice, withRtts_map_canonical]
    exact choose_map_canonical hlike halike

/-- `[::ffff:10.0.0.1]:1` and `10.0.0.2:1`. -/
def twoSpellings : List FourTuple :=
  [⟨.ip (.v6 0xffff0a000001#128) 1, none⟩, ⟨.ip (.v4 0x0a000002#32) 1, none⟩]

/-- The first has 20 ms and the second 18 ms.  The first is chosen, and the second if both are
written as IPv4 addresses. -/
theorem choose_depends_on_spelling :
    (twoSpellings.map FourTuple.canonical).Nodup ∧
    (⟨[]⟩ : ExcludingPathSelector).choose none (withRtts twoSpellings fun i => 20000000 - 2000000 * i) = some 0 ∧
    (⟨[]⟩ : ExcludingPathSelector).choose none
      (withRtts (twoSpellings.map FourTuple.canonical) fun i => 20000000 - 2000000 * i) = some 1 := by
  decide +kernel

end EzVpn
