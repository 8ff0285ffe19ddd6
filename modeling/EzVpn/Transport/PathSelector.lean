import Mathlib.Data.List.Perm.Subperm
import Mathlib.Data.Int.ConditionallyCompleteOrder
import Mathlib.Order.ConditionallyCompleteLattice.Basic
import Mathlib.Data.Prod.Lex
import EzVpn.Lib.Hysteresis
import EzVpn.Lib.Run
import EzVpn.Net.Addr

/-!
# The path selector

`ExcludingPathSelector` (src/transport/path_selector.rs) chooses the network path of the tunnel
among the candidates that iroh shows it: the best one that is not excluded, if it is better than
the current path by a margin.  `selector_never_flaps` is about whole runs of selections over the
same paths, each of which starts from what the one before it chose.
-/

namespace EzVpn

open Lib

/-- `iroh::endpoint::transports::Addr`. -/
inductive Addr
  | ip (addr : IpAddr) (port : UInt16)
  | relay (url endpointId : String)
  | custom (id : String)
deriving DecidableEq

/-- A network path; two are the same if both ends are. -/
structure FourTuple where
  remote : Addr
  localIp : Option IpAddr
deriving DecidableEq

def FourTuple.isRelay (path : FourTuple) : Bool :=
  match path.remote with
  | .relay _ _ => true
  | _ => false

/-- `IpAddr::to_canonical`: an IPv4-mapped address as the IPv4 address. -/
def toCanonical : IpAddr → IpAddr
  | .v4 ip => .v4 ip
  | .v6 ip => if ip.toNat / 2 ^ 32 = 0xffff then .v4 (ip.setWidth 32) else .v6 ip

/-- Nanoseconds. -/
def ipv6RttAdvantage : Nat := 3000000
def rttSwitchingMin : Nat := 5000000

structure ExcludingPathSelector where
  excluded : List AnyNet

/-- `(bool, i128)`, which Rust compares lexicographically. -/
abbrev SortKey := Bool ×ₗ Int

/-- The relay after every direct path, then the biased RTT. -/
def sortKey (path : FourTuple) (rtt : Nat) : SortKey :=
  let biased : Int := rtt
  let biased := match path.remote with
    | .ip (.v6 _) _ => biased - ipv6RttAdvantage
    | _ => biased
  toLex (path.isRelay, biased)

/-- The two variables of the loop of `choose`. -/
structure Scan where
  best : Option (Nat × SortKey) := none
  currentKey : Option SortKey := none

namespace ExcludingPathSelector

variable (sel : ExcludingPathSelector)

def isExcluded (path : FourTuple) : Bool :=
  match path.remote with
  | .ip addr _ => sel.excluded.any fun net => net.contains (toCanonical addr)
  | _ => false

/-- The body of the loop. -/
def look (current : Option FourTuple) (s : Scan) (i : Nat) (candidate : FourTuple × Nat) : Scan :=
  let (path, rtt) := candidate
  if sel.isExcluded path then s
  else
    let key := sortKey path rtt
    { currentKey :=
        if some path = current ∧ s.currentKey.all (fun c => decide (key < c)) then some key else s.currentKey
      best := if s.best.all (fun b => decide (key < b.2)) then some (i, key) else s.best }

def scan (current : Option FourTuple) (candidates : List (FourTuple × Nat)) : Scan :=
  run (fun s c => sel.look current s c.2 c.1) {} candidates.zipIdx

/-- The index of the candidate to switch to. -/
def choose (current : Option FourTuple) (candidates : List (FourTuple × Nat)) : Option Nat :=
  let s := sel.scan current candidates
  match s.best with
  | none => none
  | some (bestIdx, best) =>
    match s.currentKey with
    -- no current path, or it is excluded
    | none => some bestIdx
    | some currentKey =>
      if (ofLex currentKey).1 ≠ (ofLex best).1 then some bestIdx
      else if (ofLex best).2 + rttSwitchingMin ≤ (ofLex currentKey).2 then some bestIdx
      else none

end ExcludingPathSelector

/-- What iroh shows at a selection: the paths, and for each the RTT if its stats can be read. -/
abbrev Paths := List (FourTuple × Option Nat)

def Paths.candidates (paths : Paths) : List (FourTuple × Nat) :=
  paths.filterMap fun (path, stats) => stats.map (path, ·)

/-- The path to switch to; none keeps the current one. -/
def ExcludingPathSelector.select (sel : ExcludingPathSelector) (current : Option FourTuple) (paths : Paths) :
    Option FourTuple :=
  match sel.choose current paths.candidates with
  | none => none
  | some i => (paths.candidates[i]?).map Prod.fst

/-! ## Keys -/

/-- The key that a competitor has to reach. -/
def margin (key : SortKey) : SortKey := toLex ((ofLex key).1, (ofLex key).2 + rttSwitchingMin)

theorem lt_margin (key : SortKey) : key < margin key := by
  refine Prod.Lex.lt_iff.2 (Or.inr ⟨rfl, ?_⟩)
  show (ofLex key).2 < (ofLex key).2 + rttSwitchingMin
  unfold rttSwitchingMin
  omega

theorem margin_mono {a b : SortKey} (h : a ≤ b) : margin a ≤ margin b := by
  rcases Prod.Lex.le_iff.1 h with htier | ⟨htier, hbiased⟩
  · exact Prod.Lex.le_iff.2 (Or.inl htier)
  · exact Prod.Lex.le_iff.2 (Or.inr ⟨htier, Int.add_le_add_right hbiased _⟩)

/-- The two tests at the end of `choose`. -/
theorem margin_le_iff {best current : SortKey} (h : best ≤ current) :
    margin best ≤ current ↔ (ofLex current).1 ≠ (ofLex best).1 ∨
      (ofLex best).2 + rttSwitchingMin ≤ (ofLex current).2 := by
  have hle := Prod.Lex.le_iff.1 h
  have hmargin : margin best ≤ current ↔ (ofLex best).1 < (ofLex current).1 ∨
      (ofLex best).1 = (ofLex current).1 ∧ (ofLex best).2 + rttSwitchingMin ≤ (ofLex current).2 :=
    Prod.Lex.le_iff
  rw [hmargin]
  constructor
  · rintro (htier | ⟨-, hbiased⟩)
    · exact Or.inl htier.ne'
    · exact Or.inr hbiased
  · intro hor
    rcases hle with htier | ⟨htier, -⟩
    · exact Or.inl htier
    · exact Or.inr ⟨htier, hor.resolve_left fun hne => hne htier.symm⟩

theorem ite_margin {best current : SortKey} (h : best ≤ current) (i : Nat) :
    (if (ofLex current).1 ≠ (ofLex best).1 then some i
      else if (ofLex best).2 + rttSwitchingMin ≤ (ofLex current).2 then some i
      else none) = if margin best ≤ current then some i else none := by
  have hmargin := margin_le_iff h
  by_cases htier : (ofLex current).1 ≠ (ofLex best).1
  · rw [if_pos htier, if_pos (hmargin.2 (Or.inl htier))]
  · rw [if_neg htier]
    by_cases hbiased : (ofLex best).2 + rttSwitchingMin ≤ (ofLex current).2
    · rw [if_pos hbiased, if_pos (hmargin.2 (Or.inr hbiased))]
    · rw [if_neg hbiased, if_neg fun h => (hmargin.1 h).elim htier hbiased]

/-! ## One selection -/

section
variable (sel : ExcludingPathSelector) (current : Option FourTuple)

/-- The candidate may be chosen. -/
def Allowed (c : (FourTuple × Nat) × Nat) : Prop := sel.isExcluded c.1.1 = false

def keyOf (c : (FourTuple × Nat) × Nat) : SortKey := sortKey c.1.1 c.1.2

/-- What the loop of `choose` knows after the candidates `seen`. -/
structure Scanned (seen : List ((FourTuple × Nat) × Nat)) (s : Scan) : Prop where
  best : ∃ m, Least (Allowed sel) keyOf seen m ∧ s.best = m.map fun c => (c.2, keyOf c)
  current : ∃ m, Least (fun c => Allowed sel c ∧ some c.1.1 = current) keyOf seen m ∧
    s.currentKey = m.map keyOf

instance : DecidablePred (Allowed sel) := fun _ => inferInstanceAs (Decidable (_ = _))

/-- The candidate is the current path. -/
def IsCurrent (c : (FourTuple × Nat) × Nat) : Prop := some c.1.1 = current

instance : DecidablePred (IsCurrent current) := fun _ => inferInstanceAs (Decidable (_ = _))

/-- The candidates that the loop does not skip. -/
def allowedOf (seen : List ((FourTuple × Nat) × Nat)) : List ((FourTuple × Nat) × Nat) :=
  seen.filter fun c => decide (Allowed sel c)

/-- The loop of `choose` looks for two least elements. -/
noncomputable def scanOf (seen : List ((FourTuple × Nat) × Nat)) : Scan where
  best := ((allowedOf sel seen).argmin keyOf).map fun c => (c.2, keyOf c)
  currentKey := (((allowedOf sel seen).filter fun c => decide (IsCurrent current c)).argmin keyOf).map keyOf

theorem look_scanOf (seen : List ((FourTuple × Nat) × Nat)) (c : (FourTuple × Nat) × Nat) :
    sel.look current (scanOf sel current seen) c.2 c.1 = scanOf sel current (seen ++ [c]) := by
  obtain ⟨⟨path, rtt⟩, i⟩ := c
  unfold ExcludingPathSelector.look
  dsimp only
  by_cases hexcl : sel.isExcluded path = true
  · have hskip : allowedOf sel (seen ++ [((path, rtt), i)]) = allowedOf sel seen := by
      simp [allowedOf, Allowed, hexcl]
    rw [if_pos hexcl, scanOf, scanOf, hskip]
  · have hkeep : allowedOf sel (seen ++ [((path, rtt), i)]) = allowedOf sel seen ++ [((path, rtt), i)] := by
      simp [allowedOf, Allowed, hexcl]
    rw [if_neg hexcl, scanOf, scanOf, hkeep, argmin_look, Option.all_map, apply_ite (Option.map _)]
    congr 1
    rw [List.filter_append]
    by_cases hsame : some path = current
    · have hcur : [((path, rtt), i)].filter (fun c => decide (IsCurrent current c)) = [((path, rtt), i)] := by
        simp [IsCurrent, hsame]
      rw [hcur, argmin_look, Option.all_map, apply_ite (Option.map _)]
      simp only [hsame, true_and]
      rfl
    · have hcur : [((path, rtt), i)].filter (fun c => decide (IsCurrent current c)) = [] := by
        simp [IsCurrent, hsame]
      rw [hcur, List.append_nil]
      simp only [hsame, false_and, if_false]

theorem scan_eq (candidates : List (FourTuple × Nat)) :
    sel.scan current candidates = scanOf sel current candidates.zipIdx := by
  refine inv_history (I := fun seen s => s = scanOf sel current seen) rfl ?_ candidates.zipIdx
  intro seen c h
  rw [h]
  exact look_scanOf sel current seen c

theorem filter_current (seen : List ((FourTuple × Nat) × Nat)) :
    (allowedOf sel seen).filter (fun c => decide (IsCurrent current c)) =
      seen.filter fun c => decide (Allowed sel c ∧ some c.1.1 = current) := by
  rw [allowedOf, List.filter_filter]
  refine List.filter_congr fun c _ => ?_
  rw [Bool.decide_and, Bool.and_comm]
  rfl

theorem scan_scanned (candidates : List (FourTuple × Nat)) :
    Scanned sel current candidates.zipIdx (sel.scan current candidates) := by
  rw [scan_eq, scanOf, filter_current]
  exact ⟨⟨_, least_argmin _ _ _, rfl⟩, ⟨_, least_argmin _ _ _, rfl⟩⟩

variable {sel current} {candidates : List (FourTuple × Nat)} {i : Nat}

theorem mem_zipIdx {c : FourTuple × Nat} (h : c ∈ candidates) : ∃ i, (c, i) ∈ candidates.zipIdx := by
  obtain ⟨i, hi⟩ := List.mem_iff_getElem?.1 h
  exact ⟨i, List.mk_mem_zipIdx_iff_getElem?.2 hi⟩

variable (sel current candidates)

theorem choose_eq : ∃ best cur, Least (Allowed sel) keyOf candidates.zipIdx best ∧
    Least (fun c => Allowed sel c ∧ some c.1.1 = current) keyOf candidates.zipIdx cur ∧
    sel.choose current candidates = match best, cur with
      | none, _ => none
      | some b, none => some b.2
      | some b, some c => if margin (keyOf b) ≤ keyOf c then some b.2 else none := by
  have hscan := scan_scanned sel current candidates
  obtain ⟨best, hbest, hs⟩ := hscan.best
  obtain ⟨cur, hcur, hc⟩ := hscan.current
  refine ⟨best, cur, hbest, hcur, ?_⟩
  unfold ExcludingPathSelector.choose
  dsimp only
  rw [hs, hc]
  cases best with
  | none => rfl
  | some b =>
    cases cur with
    | none => rfl
    | some c => exact ite_margin (hbest.2.2 c hcur.1 hcur.2.1.1) b.2

/-- `choose` is a selection with a margin. -/
theorem choose_eq_select :
    sel.choose current candidates =
      (select margin (IsCurrent current) keyOf (allowedOf sel candidates.zipIdx)).map Prod.snd := by
  unfold ExcludingPathSelector.choose select
  rw [scan_eq]
  dsimp only [scanOf]
  cases hb : (allowedOf sel candidates.zipIdx).argmin keyOf with
  | none => rfl
  | some b =>
    cases hc : ((allowedOf sel candidates.zipIdx).filter fun c => decide (IsCurrent current c)).argmin keyOf with
    | none => rfl
    | some c =>
      have hle : keyOf b ≤ keyOf c := List.le_of_mem_argmin (List.mem_of_mem_filter (List.argmin_mem hc)) hb
      dsimp only [Option.map_some]
      rw [ite_margin hle, apply_ite (Option.map Prod.snd)]
      rfl

variable {sel current candidates}

/-- What is chosen is the best of the allowed candidates, and reaches the key of the current path. -/
theorem choose_some (h : sel.choose current candidates = some i) : ∃ p rtt, candidates[i]? = some (p, rtt) ∧
    sel.isExcluded p = false ∧
    (∀ c ∈ candidates, sel.isExcluded c.1 = false → sortKey p rtt ≤ sortKey c.1 c.2) ∧
    ∀ c ∈ candidates, sel.isExcluded c.1 = false → some c.1 = current → margin (sortKey p rtt) ≤ sortKey c.1 c.2 := by
  obtain ⟨best, cur, hbest, hcur, heq⟩ := choose_eq sel current candidates
  rw [heq] at h
  cases best with
  | none => cases h
  | some b =>
    obtain ⟨⟨p, rtt⟩, j⟩ := b
    obtain ⟨hmem, hallowed, hmin⟩ := hbest
    have hleast : ∀ c ∈ candidates, sel.isExcluded c.1 = false → sortKey p rtt ≤ sortKey c.1 c.2 := by
      intro c hc hallowed'
      obtain ⟨k, hk⟩ := mem_zipIdx hc
      exact hmin _ hk hallowed'
    cases cur with
    | none =>
      obtain rfl := Option.some.inj h
      refine ⟨p, rtt, List.mk_mem_zipIdx_iff_getElem?.1 hmem, hallowed, hleast, fun c hc hallowed' hsame => ?_⟩
      obtain ⟨k, hk⟩ := mem_zipIdx hc
      exact absurd ⟨hallowed', hsame⟩ (hcur _ hk)
    | some c =>
      dsimp only at h
      split at h
      · next hmargin =>
        obtain rfl := Option.some.inj h
        refine ⟨p, rtt, List.mk_mem_zipIdx_iff_getElem?.1 hmem, hallowed, hleast, fun c' hc' hallowed' hsame => ?_⟩
        obtain ⟨k, hk⟩ := mem_zipIdx hc'
        exact hmargin.trans (hcur.2.2 _ hk ⟨hallowed', hsame⟩)
      · cases h

/-- Nothing is chosen if nothing is allowed, or if the current path is, and no other reaches its key. -/
theorem choose_none (h : sel.choose current candidates = none) :
    (∀ c ∈ candidates, sel.isExcluded c.1 = true) ∨
    ∃ c ∈ candidates, sel.isExcluded c.1 = false ∧ some c.1 = current ∧
      ∀ c' ∈ candidates, sel.isExcluded c'.1 = false → ¬ margin (sortKey c'.1 c'.2) ≤ sortKey c.1 c.2 := by
  obtain ⟨best, cur, hbest, hcur, heq⟩ := choose_eq sel current candidates
  rw [heq] at h
  cases best with
  | none =>
    left
    intro c hc
    obtain ⟨k, hk⟩ := mem_zipIdx hc
    exact eq_true_of_ne_false (hbest _ hk)
  | some b =>
    right
    cases cur with
    | none => cases h
    | some c =>
      dsimp only at h
      split at h
      · cases h
      · next hmargin =>
        obtain ⟨hmem, ⟨hallowed, hsame⟩, -⟩ := hcur
        refine ⟨c.1, List.mem_of_getElem? (List.mk_mem_zipIdx_iff_getElem?.1 hmem), hallowed, hsame, ?_⟩
        intro c' hc' hallowed' hreach
        obtain ⟨k, hk⟩ := mem_zipIdx hc'
        exact hmargin ((margin_mono (hbest.2.2 _ hk hallowed')).trans hreach)

end

/-! ## Runs -/

/-- The switches of a run of selections: where to, and what iroh showed.  Each selection starts
from what was chosen before. -/
def switches (sel : ExcludingPathSelector) : Option FourTuple → List Paths → List (FourTuple × Paths)
  | _, [] => []
  | current, paths :: rounds =>
    match sel.select current paths with
    | none => switches sel current rounds
    | some path => (path, paths) :: switches sel (some path) rounds

/-- The candidates are `set` at every selection, and the RTT of each varies by less than
`RTT_SWITCHING_MIN`. -/
structure SteadyRun (set : List FourTuple) (rounds : List Paths) : Prop where
  distinct : set.Nodup
  fixed : ∀ paths ∈ rounds, (paths.candidates.map Prod.fst).Perm set
  steady : ∀ paths ∈ rounds, ∀ paths' ∈ rounds, ∀ c ∈ paths.candidates, ∀ c' ∈ paths'.candidates,
    c.1 = c'.1 → c.2 < c'.2 + rttSwitchingMin

/-- No RTT varies. -/
def ConstantRtts (rounds : List Paths) : Prop :=
  ∀ paths ∈ rounds, ∀ paths' ∈ rounds, ∀ c ∈ paths.candidates, ∀ c' ∈ paths'.candidates,
    c.1 = c'.1 → c.2 = c'.2

/-- The RTT of a path. -/
def rttOf (paths : Paths) (path : FourTuple) : Nat := (paths.candidates.lookup path).getD 0

def cost (paths : Paths) (path : FourTuple) : SortKey := sortKey path (rttOf paths path)

section
variable {sel : ExcludingPathSelector} {current : Option FourTuple} {set : List FourTuple} {paths : Paths}
  {p q : FourTuple}

theorem lookup_of_mem {l : List (FourTuple × Nat)} (hl : (l.map Prod.fst).Nodup) {rtt : Nat}
    (h : (p, rtt) ∈ l) : l.lookup p = some rtt := by
  induction l with
  | nil => cases h
  | cons c l ih =>
    rw [List.map_cons, List.nodup_cons] at hl
    rcases List.mem_cons.1 h with rfl | h
    · exact List.lookup_cons_self
    · have hne : p ≠ c.1 := fun heq => hl.1 (heq ▸ List.mem_map_of_mem h)
      rw [List.lookup_cons, beq_false_of_ne hne]
      exact ih hl.2 h

/-- A candidate that is not excluded; which these are does not change. -/
def InPlay (sel : ExcludingPathSelector) (set : List FourTuple) (p : FourTuple) : Prop :=
  p ∈ set ∧ sel.isExcluded p = false

theorem mem_candidates (hset : set.Nodup) (hfixed : (paths.candidates.map Prod.fst).Perm set) {rtt : Nat} :
    (p, rtt) ∈ paths.candidates ↔ p ∈ set ∧ rtt = rttOf paths p := by
  have hnodup := hfixed.nodup_iff.2 hset
  constructor
  · intro h
    refine ⟨hfixed.mem_iff.1 (List.mem_map_of_mem h), ?_⟩
    rw [rttOf, lookup_of_mem hnodup h, Option.getD_some]
  · rintro ⟨hp, rfl⟩
    obtain ⟨⟨p', rtt⟩, hmem, rfl⟩ := List.mem_map.1 (hfixed.mem_iff.2 hp)
    rwa [rttOf, lookup_of_mem hnodup hmem, Option.getD_some]

theorem select_some (hset : set.Nodup) (hfixed : (paths.candidates.map Prod.fst).Perm set)
    (h : sel.select current paths = some q) : InPlay sel set q ∧
      (∀ p, InPlay sel set p → cost paths q ≤ cost paths p) ∧
      ∀ p, current = some p → InPlay sel set p → margin (cost paths q) ≤ cost paths p := by
  unfold ExcludingPathSelector.select at h
  cases hchoose : sel.choose current paths.candidates with
  | none => rw [hchoose] at h; cases h
  | some i =>
    obtain ⟨q', rtt, hi, hallowed, hmin, hreach⟩ := choose_some hchoose
    rw [hchoose] at h
    dsimp only at h
    rw [hi] at h
    obtain rfl := Option.some.inj h
    obtain ⟨hq, rfl⟩ := (mem_candidates hset hfixed).1 (List.mem_of_getElem? hi)
    refine ⟨⟨hq, hallowed⟩, fun p hp => ?_, fun p hcur hp => ?_⟩
    · exact hmin (p, rttOf paths p) ((mem_candidates hset hfixed).2 ⟨hp.1, rfl⟩) hp.2
    · exact hreach (p, rttOf paths p) ((mem_candidates hset hfixed).2 ⟨hp.1, rfl⟩) hp.2 hcur.symm

theorem select_none (hset : set.Nodup) (hfixed : (paths.candidates.map Prod.fst).Perm set)
    (h : sel.select current paths = none) : (∀ p, ¬ InPlay sel set p) ∨
      ∃ p, current = some p ∧ InPlay sel set p ∧
        ∀ q, InPlay sel set q → ¬ margin (cost paths q) ≤ cost paths p := by
  unfold ExcludingPathSelector.select at h
  cases hchoose : sel.choose current paths.candidates with
  | some i =>
    obtain ⟨q', rtt, hi, -⟩ := choose_some hchoose
    rw [hchoose] at h
    dsimp only at h
    rw [hi] at h
    cases h
  | none =>
    rcases choose_none hchoose with hnone | ⟨⟨p, rtt⟩, hmem, hallowed, hcur, hbelow⟩
    · left
      rintro p ⟨hp, hallowed⟩
      have := hnone (p, rttOf paths p) ((mem_candidates hset hfixed).2 ⟨hp, rfl⟩)
      rw [hallowed] at this
      cases this
    · right
      obtain ⟨hp, rfl⟩ := (mem_candidates hset hfixed).1 hmem
      refine ⟨p, hcur.symm, ⟨hp, hallowed⟩, fun q hq => ?_⟩
      exact hbelow (q, rttOf paths q) ((mem_candidates hset hfixed).2 ⟨hq.1, rfl⟩) hq.2

/-- A steady RTT keeps a path within its own margin. -/
theorem sortKey_lt_margin {a b : Nat} (h : a < b + rttSwitchingMin) : sortKey p a < margin (sortKey p b) := by
  refine Prod.Lex.lt_iff.2 (Or.inr ⟨rfl, ?_⟩)
  simp only [sortKey, margin, ofLex_toLex]
  split <;> omega

theorem rttOf_of_not_mem (hfixed : (paths.candidates.map Prod.fst).Perm set) (hp : p ∉ set) : rttOf paths p = 0 := by
  have hnone : paths.candidates.lookup p = none := by
    rw [List.lookup_eq_none_iff]
    intro c hc
    refine bne_iff_ne.2 fun heq => hp (hfixed.mem_iff.1 ?_)
    rw [heq]
    exact List.mem_map_of_mem hc
  rw [rttOf, hnone, Option.getD_none]

variable {rounds : List Paths}

theorem SteadyRun.cost (h : SteadyRun set rounds) : Steady margin cost rounds := by
  intro t ht t' ht' p
  apply sortKey_lt_margin
  by_cases hp : p ∈ set
  · exact h.steady t ht t' ht' (p, _) ((mem_candidates h.distinct (h.fixed t ht)).2 ⟨hp, rfl⟩)
      (p, _) ((mem_candidates h.distinct (h.fixed t' ht')).2 ⟨hp, rfl⟩) rfl
  · rw [rttOf_of_not_mem (h.fixed t ht) hp, rttOf_of_not_mem (h.fixed t' ht') hp]
    decide

theorem switches_cons_none (h : sel.select current paths = none) :
    switches sel current (paths :: rounds) = switches sel current rounds := by
  rw [switches, h]

theorem switches_cons_some (h : sel.select current paths = some q) :
    switches sel current (paths :: rounds) = (q, paths) :: switches sel (some q) rounds := by
  rw [switches, h]

section
variable (hset : set.Nodup) (hfixed : ∀ paths ∈ rounds, (paths.candidates.map Prod.fst).Perm set)
include hset hfixed

theorem switches_mem {m : FourTuple × Paths} (hm : m ∈ switches sel current rounds) :
    InPlay sel set m.1 ∧ m.2 ∈ rounds := by
  induction rounds generalizing current with
  | nil => cases hm
  | cons t rounds ih =>
    have hrest : ∀ c, m ∈ switches sel c rounds → InPlay sel set m.1 ∧ m.2 ∈ t :: rounds := by
      intro c hm
      obtain ⟨hplay, hmem⟩ := ih (fun t ht => hfixed t (List.mem_cons_of_mem _ ht)) hm
      exact ⟨hplay, List.mem_cons_of_mem _ hmem⟩
    cases hsel : sel.select current t with
    | none =>
      rw [switches_cons_none hsel] at hm
      exact hrest current hm
    | some q =>
      rw [switches_cons_some hsel] at hm
      rcases List.mem_cons.1 hm with rfl | hm
      · exact ⟨(select_some hset (hfixed t List.mem_cons_self) hsel).1, List.mem_cons_self⟩
      · exact hrest (some q) hm

/-- From a path in play, each switch improves by the margin. -/
theorem switches_walk (hp : InPlay sel set p) : Walk margin cost p (switches sel (some p) rounds) := by
  induction rounds generalizing p with
  | nil => exact trivial
  | cons t rounds ih =>
    have hfixed' := fun t ht => hfixed t (List.mem_cons_of_mem _ ht)
    cases hsel : sel.select (some p) t with
    | none =>
      rw [switches_cons_none hsel]
      exact ih hfixed' hp
    | some q =>
      obtain ⟨hq, -, hreach⟩ := select_some hset (hfixed t List.mem_cons_self) hsel
      rw [switches_cons_some hsel]
      exact ⟨hreach p rfl hp, ih hfixed' hq⟩

/-- The first switch, and the rest from there. -/
theorem switches_cases : switches sel current rounds = [] ∨ ∃ q t rest,
    switches sel current rounds = (q, t) :: switches sel (some q) rest ∧ InPlay sel set q ∧ rest ⊆ rounds := by
  induction rounds with
  | nil => exact Or.inl rfl
  | cons t rounds ih =>
    cases hsel : sel.select current t with
    | none =>
      rw [switches_cons_none hsel]
      rcases ih fun t ht => hfixed t (List.mem_cons_of_mem _ ht) with hnil | ⟨q, t', rest, heq, hq, hsub⟩
      · exact Or.inl hnil
      · exact Or.inr ⟨q, t', rest, heq, hq, List.Subset.trans hsub (List.subset_cons_self _ _)⟩
    | some q =>
      rw [switches_cons_some hsel]
      exact Or.inr ⟨q, t, rounds, rfl, (select_some hset (hfixed t List.mem_cons_self) hsel).1,
        List.subset_cons_self _ _⟩

end

/-- **No path is visited twice**, the one the run starts on included. -/
theorem SteadyRun.nodup (h : SteadyRun set rounds) (sel : ExcludingPathSelector) (current : Option FourTuple) :
    (current.toList ++ (switches sel current rounds).map Prod.fst).Nodup := by
  have hwalk : ∀ {p : FourTuple} {rest : List Paths}, InPlay sel set p → rest ⊆ rounds →
      (p :: (switches sel (some p) rest).map Prod.fst).Nodup := by
    intro p rest hp hsub
    have hfixed := fun t ht => h.fixed t (hsub ht)
    refine (switches_walk h.distinct hfixed hp).nodup (h.cost.mono fun t ht => ?_)
    obtain ⟨m, hm, rfl⟩ := List.mem_map.1 ht
    exact hsub (switches_mem h.distinct hfixed hm).2
  by_cases hplay : ∃ p, current = some p ∧ InPlay sel set p
  · obtain ⟨p, rfl, hp⟩ := hplay
    exact hwalk hp (List.Subset.refl _)
  · -- the first switch leaves a path that is out of play, and all targets are in play
    have htargets : ((switches sel current rounds).map Prod.fst).Nodup := by
      rcases switches_cases h.distinct h.fixed with hnil | ⟨q, t, rest, heq, hq, hsub⟩
      · rw [hnil]
        exact List.nodup_nil
      · rw [heq]
        exact hwalk hq hsub
    cases current with
    | none => exact htargets
    | some p =>
      refine List.nodup_cons.2 ⟨fun hp => ?_, htargets⟩
      obtain ⟨m, hm, rfl⟩ := List.mem_map.1 hp
      exact hplay ⟨m.1, rfl, (switches_mem h.distinct h.fixed hm).1⟩

/-! ## Constant RTTs -/

/-- The current path stays, at these costs. -/
def Settled (sel : ExcludingPathSelector) (set : List FourTuple) (paths : Paths) (current : Option FourTuple) : Prop :=
  (∀ p, ¬ InPlay sel set p) ∨ ∃ p, current = some p ∧ InPlay sel set p ∧
    ∀ q, InPlay sel set q → ¬ margin (cost paths q) ≤ cost paths p

section
variable (hset : set.Nodup)
include hset

theorem Settled.select (hfixed : (paths.candidates.map Prod.fst).Perm set) (h : Settled sel set paths current) :
    sel.select current paths = none := by
  cases hsel : sel.select current paths with
  | none => rfl
  | some q =>
    obtain ⟨hq, -, hreach⟩ := select_some hset hfixed hsel
    rcases h with hnone | ⟨p, hcur, hp, hbelow⟩
    · exact absurd hq (hnone q)
    · exact absurd (hreach p hcur hp) (hbelow q hq)

/-- A path just chosen stays. -/
theorem settled_of_select (hfixed : (paths.candidates.map Prod.fst).Perm set)
    (h : sel.select current paths = some q) : Settled sel set paths (some q) := by
  obtain ⟨hq, hmin, -⟩ := select_some hset hfixed h
  refine Or.inr ⟨q, rfl, hq, fun p hp hle => ?_⟩
  exact absurd (hle.trans (hmin p hp)) (lt_margin _).not_ge

theorem switches_settled (hfixed : ∀ paths ∈ rounds, (paths.candidates.map Prod.fst).Perm set)
    (h : ∀ paths ∈ rounds, Settled sel set paths current) : switches sel current rounds = [] := by
  induction rounds with
  | nil => rfl
  | cons t rounds ih =>
    rw [switches_cons_none ((h t List.mem_cons_self).select hset (hfixed t List.mem_cons_self))]
    exact ih (fun t ht => hfixed t (List.mem_cons_of_mem _ ht)) fun t ht => h t (List.mem_cons_of_mem _ ht)

end

theorem SteadyRun.settled (h : SteadyRun set rounds) (hconst : ConstantRtts rounds) {t t' : Paths}
    (ht : t ∈ rounds) (ht' : t' ∈ rounds) (hs : Settled sel set t current) : Settled sel set t' current := by
  have hcost : ∀ p ∈ set, EzVpn.cost t' p = EzVpn.cost t p := by
    intro p hp
    have hrtt : rttOf t' p = rttOf t p :=
      hconst t' ht' t ht (p, _) ((mem_candidates h.distinct (h.fixed t' ht')).2 ⟨hp, rfl⟩)
        (p, _) ((mem_candidates h.distinct (h.fixed t ht)).2 ⟨hp, rfl⟩) rfl
    unfold EzVpn.cost
    rw [hrtt]
  rcases hs with hnone | ⟨p, hcur, hp, hbelow⟩
  · exact Or.inl hnone
  · refine Or.inr ⟨p, hcur, hp, fun q hq => ?_⟩
    rw [hcost q hq.1, hcost p hp.1]
    exact hbelow q hq

/-- The first selection settles the path. -/
theorem SteadyRun.switches_le_one (h : SteadyRun set rounds) (hconst : ConstantRtts rounds)
    (sel : ExcludingPathSelector) (current : Option FourTuple) : (switches sel current rounds).length ≤ 1 := by
  cases rounds with
  | nil => exact Nat.zero_le _
  | cons t rounds =>
    have hfixed : ∀ t' ∈ rounds, (t'.candidates.map Prod.fst).Perm set :=
      fun t' ht' => h.fixed t' (List.mem_cons_of_mem _ ht')
    have hrest : ∀ c, Settled sel set t c → switches sel c rounds = [] := fun c hs =>
      switches_settled h.distinct hfixed fun t' ht' =>
        h.settled hconst List.mem_cons_self (List.mem_cons_of_mem _ ht') hs
    cases hsel : sel.select current t with
    | none =>
      rw [switches_cons_none hsel, hrest current (select_none h.distinct (h.fixed t List.mem_cons_self) hsel)]
      exact Nat.zero_le _
    | some q =>
      rw [switches_cons_some hsel, hrest (some q) (settled_of_select h.distinct (h.fixed t List.mem_cons_self) hsel)]
      exact Nat.le_refl _

end

/-- **The selector does not flap.**  Over a run with the same candidates and steady RTTs, no path
is visited twice, so there are at most as many switches as candidates; with constant RTTs there
is at most one. -/
theorem selector_never_flaps (sel : ExcludingPathSelector) (current : Option FourTuple) (set : List FourTuple)
    (rounds : List Paths) (h : SteadyRun set rounds) :
    (current.toList ++ (switches sel current rounds).map Prod.fst).Nodup ∧
    (∀ path ∈ (switches sel current rounds).map Prod.fst, path ∈ set) ∧
    (switches sel current rounds).length ≤ set.length ∧
    (ConstantRtts rounds → (switches sel current rounds).length ≤ 1) := by
  have hnodup := h.nodup sel current
  have hmem : ∀ path ∈ (switches sel current rounds).map Prod.fst, path ∈ set := by
    intro path hpath
    obtain ⟨m, hm, rfl⟩ := List.mem_map.1 hpath
    exact (switches_mem h.distinct h.fixed hm).1.1
  refine ⟨hnodup, hmem, ?_, fun hconst => h.switches_le_one hconst sel current⟩
  have hle := ((List.Nodup.of_append_right hnodup).subperm hmem).length_le
  rwa [List.length_map] at hle

/-- Two LAN paths. -/
def pathA : FourTuple := ⟨.ip (.v4 0x0a000001#32) 1, none⟩
def pathB : FourTuple := ⟨.ip (.v4 0x0a000002#32) 1, none⟩

/-- The first is slower by 6 ms, then by 4 ms, then faster by 1 ms. -/
def threeRounds : List Paths :=
  [[(pathA, some 10000000), (pathB, some 4000000)], [(pathB, some 5000000), (pathA, some 9000000)],
    [(pathB, some 8000000), (pathA, some 7000000)]]

/-- One switch, to the second path. -/
theorem selector_never_flaps_threeRounds : SteadyRun [pathA, pathB] threeRounds ∧
    (switches ⟨[]⟩ (some pathA) threeRounds).map Prod.fst = [pathB] ∧
    ([pathA] ++ (switches ⟨[]⟩ (some pathA) threeRounds).map Prod.fst).Nodup := by
  have h : SteadyRun [pathA, pathB] threeRounds := ⟨by decide, by decide, by decide⟩
  exact ⟨h, by decide +kernel, (selector_never_flaps ⟨[]⟩ (some pathA) [pathA, pathB] threeRounds h).1⟩

end EzVpn
