import EzVpn.Lib.Alloc

/-!
# Leases under concurrent registration and cleanup

Clients `C` with keys `key : C → K` share an exclusive allocator (`held`), a table
`owner` of the client that currently stands for a key, and a reverse table `rev` from
addresses to keys.  A client acquires an address, enters `owner`, maps its address in
`rev`, and later removes itself from `owner`, unmaps and releases, each as a step of its
own (`Step`).  Several clients may have one key; a later one takes the place of an
earlier one in `owner` and the earlier one then quits without touching anything.

The protocol is safe when a key never has one client registering while another one is
cleaning up; this is the side condition of the steps that open the two windows
(`acquire`, `remove`).  Then an owner keeps its address (`Inv.keeps`).  With
`tidy`, no client gives up holding an address and none replaces an owner without having
the address the owner has; then a key all of whose clients are out holds nothing
(`Tidy.nothing_left`).
-/

namespace Lib.Lease

/-- Where a client stands, with the result of its request. -/
inductive Stage (A : Type*)
  | out
  | leased (r : Option A)
  | entered (r : Option A)
  | mapped (r : Option A)
  | leaving (r : Option A)
  | unmapped (r : Option A)

namespace Stage

variable {A : Type*}

/-- What the client was given. -/
def lease : Stage A → Option A
  | out => none
  | leased r | entered r | mapped r | leaving r | unmapped r => r

/-- Between its request and the insertion into `rev`. -/
def Registering : Stage A → Prop
  | leased _ | entered _ => True
  | _ => False

/-- Between the insertion into `owner` and its cleanup. -/
def Standing : Stage A → Prop
  | entered _ | mapped _ => True
  | _ => False

/-- Between the removal from `owner` and the release. -/
def Cleaning : Stage A → Prop
  | leaving _ | unmapped _ => True
  | _ => False

end Stage

open Stage

structure State (C K A : Type*) where
  held : K → Option A
  rev : A → Option K
  owner : K → Option C
  stage : C → Stage A

variable {C K A : Type*} [DecidableEq C] [DecidableEq K] [DecidableEq A]

def mapRev (rev : A → Option K) (r : Option A) (k : K) : A → Option K :=
  match r with
  | some a => Function.update rev a (some k)
  | none => rev

def unmapRev (rev : A → Option K) (r : Option A) (k : K) : A → Option K :=
  match r with
  | some a => if rev a = some k then Function.update rev a none else rev
  | none => rev

def releaseHeld (held : K → Option A) (r : Option A) (k : K) : K → Option A :=
  match r with
  | some _ => Function.update held k none
  | none => held

omit [DecidableEq K] in
theorem mapRev_apply (rev : A → Option K) (r : Option A) (k : K) (a : A) :
    mapRev rev r k a = if r = some a then some k else rev a := by
  cases r with
  | none => rfl
  | some b => simp only [mapRev, Function.update_apply, Option.some.injEq, eq_comm]

theorem unmapRev_apply (rev : A → Option K) (r : Option A) (k : K) (a : A) :
    unmapRev rev r k a = if r = some a ∧ rev a = some k then none else rev a := by
  cases r with
  | none => rfl
  | some b =>
    simp only [unmapRev, Option.some.injEq]
    split <;> grind [Function.update_apply]

omit [DecidableEq A] in
theorem releaseHeld_apply (held : K → Option A) (r : Option A) (k k' : K) :
    releaseHeld held r k k' = if k' = k ∧ r ≠ none then none else held k' := by
  cases r with
  | none => simp [releaseHeld]
  | some b => simp [releaseHeld, Function.update_apply]

omit [DecidableEq K] in
/-- The two operations on a reverse table kept as a map. -/
theorem mapRev_insert (m : Map A K) (a : A) (k : K) :
    (fun b => (m.insert a k).lookup b) = mapRev (fun b => m.lookup b) (some a) k := by
  funext b
  rw [Map.lookup_insert_eq, mapRev_apply]
  simp only [Option.some.injEq, eq_comm]

theorem unmapRev_removeIf (m : Map A K) (a : A) (k : K) :
    (fun b => (m.removeIf a fun owner => owner = k).2.lookup b) =
      unmapRev (fun b => m.lookup b) (some a) k := by
  funext b
  rw [Map.lookup_removeIf, unmapRev_apply]
  by_cases hb : b = a
  · subst hb
    cases hm : m.lookup b with
    | none => simp
    | some k' => by_cases hk : k' = k <;> simp [Option.filter, hk]
  · simp [hb, Ne.symm hb]

/-- A step of client `c`. -/
inductive Step (key : C → K) (tidy : Prop) (c : C) (s : State C K A) : State C K A → Prop
  | stutter : Step key tidy c s s
  | acquire {r : Option A} {held' : K → Option A} (hc : s.stage c = out)
      (hr : Acquire s.held (key c) r held')
      (hguard : ∀ c', key c' = key c → ¬ (s.stage c').Cleaning) :
      Step key tidy c s { s with held := held', stage := Function.update s.stage c (leased r) }
  | abort {r : Option A} (hc : s.stage c = leased r) (ht : tidy → r = none) :
      Step key tidy c s { s with stage := Function.update s.stage c out }
  | enter {r : Option A} (hc : s.stage c = leased r)
      (ht : tidy → ∀ c', s.owner (key c) = some c' → (s.stage c').lease ≠ none → r ≠ none) :
      Step key tidy c s { s with
        owner := Function.update s.owner (key c) (some c)
        stage := Function.update s.stage c (entered r) }
  | map {r : Option A} (hc : s.stage c = entered r) :
      Step key tidy c s { s with
        rev := mapRev s.rev r (key c)
        stage := Function.update s.stage c (mapped r) }
  | quit {r : Option A} (hc : s.stage c = mapped r) (ho : s.owner (key c) ≠ some c) :
      Step key tidy c s { s with stage := Function.update s.stage c out }
  | remove {r : Option A} (hc : s.stage c = mapped r) (ho : s.owner (key c) = some c)
      (hguard : ∀ c', key c' = key c → ¬ (s.stage c').Registering) :
      Step key tidy c s { s with
        owner := Function.update s.owner (key c) none
        stage := Function.update s.stage c (leaving r) }
  | unmap {r : Option A} (hc : s.stage c = leaving r) :
      Step key tidy c s { s with
        rev := unmapRev s.rev r (key c)
        stage := Function.update s.stage c (unmapped r) }
  | release {r : Option A} (hc : s.stage c = unmapped r) :
      Step key tidy c s { s with
        held := releaseHeld s.held r (key c)
        stage := Function.update s.stage c out }

structure Inv (key : C → K) (s : State C K A) : Prop where
  excl : Exclusive s.held
  mutex : ∀ c c', key c = key c' → (s.stage c).Registering → ¬ (s.stage c').Cleaning
  lease : ∀ c a, s.stage c = leased (some a) ∨ s.stage c = entered (some a) →
    s.held (key c) = some a
  owner : ∀ k c, s.owner k = some c → key c = k ∧ (s.stage c).Standing
  keeps : ∀ k c a, s.owner k = some c → s.stage c = mapped (some a) →
    s.held k = some a ∧ s.rev a = some k
  clean : ∀ c, (s.stage c).Cleaning → s.owner (key c) = none
  unique : ∀ c c', key c = key c' → (s.stage c).Cleaning → (s.stage c').Cleaning → c = c'

section
variable {key : C → K} {tidy : Prop} {c : C} {s s' : State C K A}

omit [DecidableEq C] [DecidableEq K] [DecidableEq A] in
theorem inv_init (hheld : ∀ k, s.held k = none) (howner : ∀ k, s.owner k = none)
    (hstage : ∀ c, s.stage c = out) : Inv key s where
  excl := fun k _ a h => by rw [hheld] at h; cases h
  mutex := fun c _ _ h => by rw [hstage] at h; exact h.elim
  lease := fun c a h => by rw [hstage] at h; rcases h with h | h <;> cases h
  owner := fun k c h => by rw [howner] at h; cases h
  keeps := fun k c a h => by rw [howner] at h; cases h
  clean := fun c h => by rw [hstage] at h; exact h.elim
  unique := fun c _ _ h => by rw [hstage] at h; exact h.elim

/-! ## What a step does to the stages -/

theorem Step.stage_ne (hs : Step key tidy c s s') {c' : C} (hne : c' ≠ c) :
    s'.stage c' = s.stage c' := by
  cases hs with
  | stutter => rfl
  | acquire | abort | enter | map | quit | remove | unmap | release =>
    exact Function.update_of_ne hne _ _

/-- Who begins to register finds nobody of its key cleaning up. -/
theorem Step.registering (hs : Step key tidy c s s') (hreg : (s'.stage c).Registering) :
    (s.stage c).Registering ∨ ∀ c', key c' = key c → ¬ (s.stage c').Cleaning := by
  cases hs with
  | stutter => exact Or.inl hreg
  | acquire hc hr hguard => exact Or.inr hguard
  | enter hc ht => exact Or.inl (by rw [hc]; trivial)
  | abort | map | quit | remove | unmap | release =>
    simp only [Function.update_self] at hreg
    exact False.elim hreg

/-- Who begins to clean up was the owner, and finds nobody of its key registering. -/
theorem Step.cleaning (hs : Step key tidy c s s') (hcl : (s'.stage c).Cleaning) :
    (s.stage c).Cleaning ∨
      s.owner (key c) = some c ∧ ∀ c', key c' = key c → ¬ (s.stage c').Registering := by
  cases hs with
  | stutter => exact Or.inl hcl
  | remove hc ho hguard => exact Or.inr ⟨ho, hguard⟩
  | unmap hc => exact Or.inl (by rw [hc]; trivial)
  | acquire | abort | enter | map | quit | release =>
    simp only [Function.update_self] at hcl
    exact False.elim hcl

/-! ## One lemma for each part of the invariant -/

theorem excl_step (h : Inv key s) (hs : Step key tidy c s s') : Exclusive s'.held := by
  cases hs with
  | acquire hc hr hguard => exact hr.inj h.excl
  | @release r hc =>
    cases r with
    | none => exact h.excl
    | some a => exact h.excl.forget (key c)
  | stutter | abort | enter | map | quit | remove | unmap => exact h.excl

theorem mutex_step (h : Inv key s) (hs : Step key tidy c s s') (c₁ c₂ : C) (hk : key c₁ = key c₂)
    (hreg : (s'.stage c₁).Registering) : ¬ (s'.stage c₂).Cleaning := by
  intro hcl
  by_cases h1 : c₁ = c
  · subst h1
    by_cases h2 : c₂ = c₁
    · subst h2
      cases hst : s'.stage c₂ <;> rw [hst] at hreg hcl <;> first | exact hreg | exact hcl
    · rw [hs.stage_ne h2] at hcl
      rcases hs.registering hreg with hold | hno
      · exact h.mutex c₁ c₂ hk hold hcl
      · exact hno c₂ hk.symm hcl
  · rw [hs.stage_ne h1] at hreg
    by_cases h2 : c₂ = c
    · subst h2
      rcases hs.cleaning hcl with hold | ⟨-, hno⟩
      · exact h.mutex c₁ c₂ hk hreg hold
      · exact hno c₁ hk hreg
    · rw [hs.stage_ne h2] at hcl
      exact h.mutex c₁ c₂ hk hreg hcl

omit [DecidableEq C] [DecidableEq K] [DecidableEq A] in
/-- Who cleans up does not have the key of an owner. -/
theorem Inv.key_ne_of_cleaning (h : Inv key s) (hcl : (s.stage c).Cleaning) {k : K} {c' : C}
    (ho : s.owner k = some c') : k ≠ key c := by
  rintro rfl
  rw [h.clean c hcl] at ho
  cases ho

theorem unique_step (h : Inv key s) (hs : Step key tidy c s s') (c₁ c₂ : C) (hk : key c₁ = key c₂)
    (h₁ : (s'.stage c₁).Cleaning) (h₂ : (s'.stage c₂).Cleaning) : c₁ = c₂ := by
  -- beside one that cleans up already there is no owner who could begin to
  have hnew : ∀ c', c' ≠ c → key c' = key c → (s.stage c').Cleaning → (s'.stage c).Cleaning →
      c' = c := by
    intro c' hne hk' hcl hcl'
    rcases hs.cleaning hcl' with hold | ⟨ho, -⟩
    · exact h.unique c' c hk' hcl hold
    · exact absurd hk'.symm (h.key_ne_of_cleaning hcl ho)
  by_cases e₁ : c₁ = c
  · by_cases e₂ : c₂ = c
    · rw [e₁, e₂]
    · rw [hs.stage_ne e₂] at h₂
      rw [e₁] at h₁ hk
      rw [e₁, hnew c₂ e₂ hk.symm h₂ h₁]
  · rw [hs.stage_ne e₁] at h₁
    by_cases e₂ : c₂ = c
    · rw [e₂] at h₂ hk
      rw [e₂, hnew c₁ e₁ hk h₁ h₂]
    · rw [hs.stage_ne e₂] at h₂
      exact h.unique c₁ c₂ hk h₁ h₂

theorem owner_step (h : Inv key s) (hs : Step key tidy c s s') (k : K) (c' : C)
    (ho : s'.owner k = some c') : key c' = k ∧ (s'.stage c').Standing := by
  have hother : s.owner k = some c' → c' ≠ c → key c' = k ∧ (s'.stage c').Standing := by
    intro ho hne
    rw [hs.stage_ne hne]
    exact h.owner k c' ho
  cases hs with
  | stutter => exact h.owner k c' ho
  | acquire hc | abort hc | unmap hc | release hc =>
    -- `c` does not stand for its key, so the owner is another
    refine hother ho ?_
    rintro rfl
    have := (h.owner k c' ho).2
    rw [hc] at this
    exact this
  | enter hc ht =>
    simp only [Function.update_apply] at ho
    split at ho
    · next hk =>
      obtain rfl := Option.some.inj ho
      refine ⟨hk.symm, ?_⟩
      simp only [Function.update_self]
      trivial
    · next hk => exact hother ho (fun e => hk (by rw [← (h.owner k c' ho).1, e]))
  | map hc =>
    by_cases hne : c' = c
    · subst hne
      refine ⟨(h.owner k c' ho).1, ?_⟩
      simp only [Function.update_self]
      trivial
    · exact hother ho hne
  | quit hc hno =>
    refine hother ho ?_
    rintro rfl
    rw [(h.owner k c' ho).1] at hno
    exact hno ho
  | remove hc _ _ =>
    simp only [Function.update_apply] at ho
    split at ho
    · cases ho
    · next hk => exact hother ho (fun e => hk (by rw [← (h.owner k c' ho).1, e]))

theorem clean_step (h : Inv key s) (hs : Step key tidy c s s') (c' : C)
    (hcl : (s'.stage c').Cleaning) : s'.owner (key c') = none := by
  by_cases hne : c' = c
  · subst hne
    cases hs with
    | stutter => exact h.clean c' hcl
    | remove hc _ _ => exact Function.update_self _ _ _
    | unmap hc => exact h.clean c' (by rw [hc]; trivial)
    | acquire | abort | enter | map | quit | release =>
      simp only [Function.update_self] at hcl
      exact False.elim hcl
  · rw [hs.stage_ne hne] at hcl
    have hno := h.clean c' hcl
    cases hs with
    | enter hc ht =>
      -- `c` is registering, so it does not have the key of `c'`
      have hk : key c' ≠ key c := fun hk => h.mutex c c' hk.symm (by rw [hc]; trivial) hcl
      exact (Function.update_of_ne hk _ _).trans hno
    | remove hc _ _ =>
      simp only [Function.update_apply]
      split
      · rfl
      · exact hno
    | stutter | acquire | abort | map | quit | unmap | release => exact hno

theorem lease_step (h : Inv key s) (hs : Step key tidy c s s') (c' : C) (a : A)
    (hst : s'.stage c' = leased (some a) ∨ s'.stage c' = entered (some a)) :
    s'.held (key c') = some a := by
  by_cases hne : c' = c
  · subst hne
    cases hs with
    | stutter => exact h.lease c' a hst
    | acquire hc hr hguard =>
      simp only [Function.update_self, leased.injEq, reduceCtorEq, or_false] at hst
      rw [← hst, hr.held_eq]
      exact Function.update_self _ _ _
    | enter hc ht =>
      simp only [Function.update_self, entered.injEq, reduceCtorEq, false_or] at hst
      exact h.lease c' a (Or.inl (by rw [hc, hst]))
    | abort | map | quit | remove | unmap | release => simp at hst
  · rw [hs.stage_ne hne] at hst
    have hheld := h.lease c' a hst
    cases hs with
    | acquire hc hr hguard => exact hr.keeps hheld
    | release hc =>
      have hreg : (s.stage c').Registering := by rcases hst with e | e <;> (rw [e]; trivial)
      have hk : key c' ≠ key c := fun hk => h.mutex c' c hk hreg (by rw [hc]; trivial)
      simp only [releaseHeld_apply, hk, false_and, if_false]
      exact hheld
    | stutter | abort | enter | map | quit | remove | unmap => exact hheld

theorem keeps_step (h : Inv key s) (hs : Step key tidy c s s') (k : K) (c' : C) (a : A)
    (ho : s'.owner k = some c') (hst : s'.stage c' = mapped (some a)) :
    s'.held k = some a ∧ s'.rev a = some k := by
  by_cases hne : c' = c
  · subst hne
    cases hs with
    | stutter => exact h.keeps k c' a ho hst
    | @map r hc =>
      simp only [Function.update_self, mapped.injEq] at hst
      subst hst
      obtain rfl := (h.owner k c' ho).1
      refine ⟨h.lease c' a (Or.inr hc), ?_⟩
      simp only [mapRev_apply, if_true]
    | acquire | abort | enter | quit | remove | unmap | release => simp at hst
  · rw [hs.stage_ne hne] at hst
    cases hs with
    | stutter | abort | quit => exact h.keeps k c' a ho hst
    | acquire hc hr hguard =>
      obtain ⟨hheld, hrev⟩ := h.keeps k c' a ho hst
      exact ⟨hr.keeps hheld, hrev⟩
    | enter hc ht =>
      simp only [Function.update_apply] at ho
      split at ho
      · exact absurd (Option.some.inj ho).symm hne
      · exact h.keeps k c' a ho hst
    | remove hc _ _ =>
      simp only [Function.update_apply] at ho
      split at ho
      · cases ho
      · exact h.keeps k c' a ho hst
    | @map r hc =>
      obtain ⟨hheld, hrev⟩ := h.keeps k c' a ho hst
      refine ⟨hheld, ?_⟩
      simp only [mapRev_apply]
      split
      · -- whoever holds the address that `c` maps has the key of `c`
        next hr => rw [h.excl k (key c) a hheld (h.lease c a (Or.inr (by rw [hc, hr])))]
      · exact hrev
    | @unmap r hc =>
      obtain ⟨hheld, hrev⟩ := h.keeps k c' a ho hst
      have hk := h.key_ne_of_cleaning (c := c) (by rw [hc]; trivial) ho
      refine ⟨hheld, ?_⟩
      simp only [unmapRev_apply, hrev, Option.some.injEq, hk, and_false, if_false]
    | @release r hc =>
      obtain ⟨hheld, hrev⟩ := h.keeps k c' a ho hst
      have hk := h.key_ne_of_cleaning (c := c) (by rw [hc]; trivial) ho
      refine ⟨?_, hrev⟩
      simp only [releaseHeld_apply, hk, false_and, if_false]
      exact hheld

/-- **Every step keeps the invariant.** -/
theorem inv_step (h : Inv key s) (hs : Step key tidy c s s') : Inv key s' where
  excl := excl_step h hs
  mutex := mutex_step h hs
  lease := lease_step h hs
  owner := owner_step h hs
  keeps := keeps_step h hs
  clean := clean_step h hs
  unique := unique_step h hs

/-! ## Nothing is left behind -/

/-- Client `c` answers for the address `a` that `k` holds. -/
def Answers (key : C → K) (s : State C K A) (k : K) (a : A) (c : C) : Prop :=
  key c = k ∧ (s.stage c).lease = some a ∧ ((s.stage c).Standing → s.owner k = some c)

structure Tidy (key : C → K) (s : State C K A) : Prop where
  answers : ∀ k a, s.held k = some a → ∃ c, Answers key s k a c
  rev_held : ∀ k a, s.rev a = some k → s.held k = some a
  unmapped : ∀ c r, s.stage c = unmapped r → ∀ a, s.rev a ≠ some (key c)

omit [DecidableEq C] [DecidableEq K] [DecidableEq A] in
theorem tidy_init (hheld : ∀ k, s.held k = none) (hrev : ∀ a, s.rev a = none)
    (hstage : ∀ c, s.stage c = out) : Tidy key s where
  answers := fun k a h => by rw [hheld] at h; cases h
  rev_held := fun k a h => by rw [hrev] at h; cases h
  unmapped := fun c r h => by rw [hstage] at h; cases h

omit [DecidableEq K] [DecidableEq A] in
/-- A client that takes no step goes on answering while it keeps its place in `owner`. -/
theorem Answers.frame {k : K} {a : A} {c' : C} {st : Stage A} (h : Answers key s k a c')
    (hne : c' ≠ c) (hst : s'.stage = Function.update s.stage c st)
    (ho : s.owner k = some c' → s'.owner k = some c') : Answers key s' k a c' := by
  have hc : s'.stage c' = s.stage c' := by rw [hst, Function.update_apply, if_neg hne]
  obtain ⟨hk, hl, hs⟩ := h
  exact ⟨hk, by rw [hc, hl], fun hst => ho (hs (by rwa [hc] at hst))⟩

omit [DecidableEq K] [DecidableEq A] in
/-- So does a client that moves with its lease, and all others with it. -/
theorem Answers.move {k : K} {a : A} {c' : C} {st : Stage A} (h : Answers key s k a c')
    (hst : s'.stage = Function.update s.stage c st) (hl : st.lease = (s.stage c).lease)
    (hself : s.owner (key c) = some c ∨ ¬ (s.stage c).Standing → st.Standing →
      s'.owner (key c) = some c)
    (ho : c' ≠ c → s.owner k = some c' → s'.owner k = some c') : Answers key s' k a c' := by
  by_cases hne : c' = c
  · subst hne
    obtain ⟨rfl, hlease, hstand⟩ := h
    have hc : s'.stage c' = st := by rw [hst, Function.update_self]
    refine ⟨rfl, by rw [hc, hl, hlease], fun hs => hself ?_ (by rwa [hc] at hs)⟩
    by_cases hold : (s.stage c').Standing
    · exact Or.inl (hstand hold)
    · exact Or.inr hold
  · exact h.frame hne hst (ho hne)

omit [DecidableEq C] [DecidableEq K] [DecidableEq A] in
/-- Who has no lease does not answer. -/
theorem Answers.ne {k : K} {a : A} {c' : C} (h : Answers key s k a c')
    (hl : (s.stage c).lease = none) : c' ≠ c := by
  rintro rfl
  rw [h.2.1] at hl
  cases hl

omit [DecidableEq C] [DecidableEq K] [DecidableEq A] in
/-- An address mapped to the key of a client that is leaving is the client's: nobody of the
key is registering or in `owner`, and nobody else is cleaning up. -/
theorem Tidy.rev_leaving (h : Inv key s) (ht : Tidy key s) {r : Option A} (hc : s.stage c = leaving r)
    {a : A} (ha : s.rev a = some (key c)) : r = some a := by
  obtain ⟨c', hk, hl, hst⟩ := ht.answers (key c) a (ht.rev_held _ _ ha)
  have hclean : (s.stage c).Cleaning := by rw [hc]; trivial
  have hsame : (s.stage c').Cleaning → r = some a := fun hc' => by
    rwa [h.unique c' c hk hc' hclean, hc] at hl
  cases hc' : s.stage c' with
  | out => rw [hc'] at hl; cases hl
  | leased r' => exact absurd hclean (h.mutex c' c hk (by rw [hc']; trivial))
  | entered r' => exact absurd hclean (h.mutex c' c hk (by rw [hc']; trivial))
  | mapped r' =>
    exact absurd rfl (h.key_ne_of_cleaning hclean (hst (by rw [hc']; trivial)))
  | leaving r' => exact hsame (by rw [hc']; trivial)
  | unmapped r' => exact hsame (by rw [hc']; trivial)

theorem answers_step (h : Inv key s) (ht : Tidy key s) (htidy : tidy) (hs : Step key tidy c s s')
    (k : K) (a : A) (ha : s'.held k = some a) : ∃ c', Answers key s' k a c' := by
  cases hs with
  | stutter => exact ht.answers k a ha
  | @acquire r held' hc hr hguard =>
    by_cases hk : k = key c
    · -- `c` has been given what its key holds
      subst hk
      rw [hr.held_eq] at ha
      simp only [Function.update_self] at ha
      refine ⟨c, rfl, ?_, ?_⟩
      · simp only [Function.update_self, lease, ha]
      · simp only [Function.update_self]
        intro hstand
        exact False.elim hstand
    · rw [hr.held_eq] at ha
      simp only [Function.update_of_ne hk] at ha
      obtain ⟨c', hc'⟩ := ht.answers k a ha
      exact ⟨c', hc'.frame (hc'.ne (by rw [hc]; rfl)) rfl id⟩
  | abort hc hr =>
    obtain ⟨c', hc'⟩ := ht.answers k a ha
    exact ⟨c', hc'.frame (hc'.ne (by rw [hc, hr htidy]; rfl)) rfl id⟩
  | @enter r hc hr =>
    obtain ⟨c', hc'⟩ := ht.answers k a ha
    by_cases hstay : s.owner k = some c' ∧ c' ≠ c ∧ k = key c
    · -- `c` takes the place of `c'`, and answers for the same address
      obtain ⟨ho, hne, rfl⟩ := hstay
      obtain ⟨b, rfl⟩ := Option.ne_none_iff_exists'.1
        (hr htidy c' ho (by rw [hc'.2.1]; exact Option.some_ne_none a))
      obtain rfl : b = a := Option.some.inj ((h.lease c b (Or.inl hc)).symm.trans ha)
      refine ⟨c, rfl, ?_, fun _ => Function.update_self _ _ _⟩
      simp only [Function.update_self, lease]
    · refine ⟨c', hc'.move rfl (by rw [hc]; rfl) (fun _ _ => Function.update_self _ _ _) fun hne ho => ?_⟩
      have hk : k ≠ key c := fun hk => hstay ⟨ho, hne, hk⟩
      exact (Function.update_of_ne hk _ _).trans ho
  | map hc =>
    obtain ⟨c', hc'⟩ := ht.answers k a ha
    refine ⟨c', hc'.move rfl (by rw [hc]; rfl) (fun hown _ => ?_) fun _ => id⟩
    exact hown.resolve_right (not_not.2 (by rw [hc]; trivial))
  | quit hc ho =>
    obtain ⟨c', hc'⟩ := ht.answers k a ha
    refine ⟨c', hc'.frame ?_ rfl id⟩
    rintro rfl
    obtain ⟨rfl, -, hstand⟩ := hc'
    exact ho (hstand (by rw [hc]; trivial))
  | remove hc ho hguard =>
    obtain ⟨c', hc'⟩ := ht.answers k a ha
    refine ⟨c', hc'.move rfl (by rw [hc]; rfl) (fun _ hstand => False.elim hstand) fun hne ho' => ?_⟩
    have hk : k ≠ key c := by
      rintro rfl
      exact hne (Option.some.inj (ho'.symm.trans ho))
    exact (Function.update_of_ne hk _ _).trans ho'
  | unmap hc =>
    obtain ⟨c', hc'⟩ := ht.answers k a ha
    exact ⟨c', hc'.move rfl (by rw [hc]; rfl) (fun _ hstand => False.elim hstand) fun _ => id⟩
  | @release r hc =>
    simp only [releaseHeld_apply] at ha
    split at ha
    · cases ha
    · next hkeep =>
      obtain ⟨c', hc'⟩ := ht.answers k a ha
      refine ⟨c', hc'.frame ?_ rfl id⟩
      rintro rfl
      obtain ⟨rfl, hl, -⟩ := hc'
      rw [hc] at hl
      exact hkeep ⟨rfl, fun hr => by rw [hr] at hl; cases hl⟩

theorem rev_held_step (h : Inv key s) (ht : Tidy key s) (hs : Step key tidy c s s') (k : K) (a : A)
    (ha : s'.rev a = some k) : s'.held k = some a := by
  cases hs with
  | stutter | abort | enter | quit | remove => exact ht.rev_held k a ha
  | acquire hc hr hguard => exact hr.keeps (ht.rev_held k a ha)
  | @map r hc =>
    simp only [mapRev_apply] at ha
    split at ha
    · next hr =>
      obtain rfl := Option.some.inj ha
      exact h.lease c a (Or.inr (by rw [hc, hr]))
    · exact ht.rev_held k a ha
  | unmap hc =>
    simp only [unmapRev_apply] at ha
    split at ha
    · cases ha
    · exact ht.rev_held k a ha
  | release hc =>
    have hk : k ≠ key c := by
      rintro rfl
      exact ht.unmapped c _ hc a ha
    simp only [releaseHeld_apply, hk, false_and, if_false]
    exact ht.rev_held k a ha

theorem unmapped_step (h : Inv key s) (ht : Tidy key s) (hs : Step key tidy c s s') (c' : C)
    (r : Option A) (hst : s'.stage c' = unmapped r) (a : A) : s'.rev a ≠ some (key c') := by
  by_cases hne : c' = c
  · subst hne
    cases hs with
    | stutter => exact ht.unmapped c' r hst a
    | @unmap r' hc =>
      intro ha
      simp only [unmapRev_apply] at ha
      split at ha
      · cases ha
      · next hkeep => exact hkeep ⟨ht.rev_leaving h hc ha, ha⟩
    | acquire | abort | enter | map | quit | remove | release => simp at hst
  · rw [hs.stage_ne hne] at hst
    have hold := ht.unmapped c' r hst a
    cases hs with
    | @map r' hc =>
      simp only [mapRev_apply]
      split
      · -- `c` is registering, so it does not have the key of `c'`
        intro hk
        exact h.mutex c c' (Option.some.inj hk) (by rw [hc]; trivial) (by rw [hst]; trivial)
      · exact hold
    | unmap hc =>
      simp only [unmapRev_apply]
      split
      · exact (Option.some_ne_none _).symm
      · exact hold
    | stutter | acquire | abort | enter | quit | remove | release => exact hold

/-- **Every tidy step leaves every held address answered for.** -/
theorem tidy_step (h : Inv key s) (ht : Tidy key s) (htidy : tidy) (hs : Step key tidy c s s') :
    Tidy key s' where
  answers := answers_step h ht htidy hs
  rev_held := rev_held_step h ht hs
  unmapped := unmapped_step h ht hs

omit [DecidableEq C] [DecidableEq K] [DecidableEq A] in
/-- **Nothing is left** of a key all of whose clients are out. -/
theorem Tidy.nothing_left (h : Inv key s) (ht : Tidy key s) (k : K)
    (hout : ∀ c, key c = k → s.stage c = out) :
    s.held k = none ∧ (∀ a, s.rev a ≠ some k) ∧ s.owner k = none := by
  have hheld : s.held k = none := by
    rw [Option.eq_none_iff_forall_ne_some]
    intro a ha
    obtain ⟨c, hk, hl, -⟩ := ht.answers k a ha
    rw [hout c hk] at hl
    cases hl
  refine ⟨hheld, fun a ha => ?_, ?_⟩
  · rw [ht.rev_held k a ha] at hheld
    cases hheld
  · rw [Option.eq_none_iff_forall_ne_some]
    intro c hc
    obtain ⟨hk, hst⟩ := h.owner k c hc
    rw [hout c hk] at hst
    exact hst

end

end Lib.Lease
