import EzVpn.Lib.Map

/-!
# Exclusive allocation of addresses to keys

The abstract allocator is a partial map `held : K → Option A`.  A request of `k`
(`Acquire`) gives back what `k` holds, or an address nobody holds, or nothing; a
release forgets what `k` holds.  So `held` stays injective (`Acquire.inj`,
`Exclusive.forget`).

`FreeList` is the usual implementation: a counter over `[lo, max]`, a stack of
released addresses and the map of addresses in use.  `FreeList.Inv` says that held
and released addresses together are exactly the ones drawn from the counter, each
once.  It is kept by `allocate` and `release`, it makes `allocate` an `Acquire`, and
`allocate` fails only when the whole range is held (`FreeList.all_held_of_none`).
-/

namespace Lib

section
variable {K A : Type*} [DecidableEq K]

/-- No address is held by two keys. -/
def Exclusive (held : K → Option A) : Prop :=
  ∀ k k' a, held k = some a → held k' = some a → k = k'

/-- What a request of `k` may return, and what is held after it. -/
inductive Acquire (held : K → Option A) (k : K) : Option A → (K → Option A) → Prop
  | same {a : A} (h : held k = some a) : Acquire held k (some a) held
  | fresh {a : A} (h : held k = none) (hf : ∀ k', held k' ≠ some a) :
      Acquire held k (some a) (Function.update held k (some a))
  | none (h : held k = Option.none) : Acquire held k Option.none held

theorem Acquire.inj {held held' : K → Option A} {k : K} {r : Option A}
    (h : Acquire held k r held') (hx : Exclusive held) : Exclusive held' := by
  cases h with
  | same h => exact hx
  | none h => exact hx
  | @fresh a h hf =>
    intro k₁ k₂ b h₁ h₂
    rw [Function.update_apply] at h₁ h₂
    split at h₁ <;> split at h₂
    · next e₁ e₂ => rw [e₁, e₂]
    · obtain rfl := Option.some.inj h₁
      exact absurd h₂ (hf _)
    · obtain rfl := Option.some.inj h₂
      exact absurd h₁ (hf _)
    · exact hx _ _ _ h₁ h₂

/-- After a request `k` holds exactly what was returned, and no other key changed. -/
theorem Acquire.held_eq {held held' : K → Option A} {k : K} {r : Option A}
    (h : Acquire held k r held') : held' = Function.update held k r := by
  cases h with
  | same h => rw [← h, Function.update_eq_self]
  | none h => rw [← h, Function.update_eq_self]
  | fresh h hf => rfl

/-- A key that holds an address is given that address. -/
theorem Acquire.eq_of_held {held held' : K → Option A} {k : K} {r : Option A} {a : A}
    (h : Acquire held k r held') (ha : held k = some a) : r = some a := by
  cases h with
  | same h => exact h.symm.trans ha
  | fresh h _ => rw [h] at ha; cases ha
  | none h => rw [h] at ha; cases ha

/-- A request takes nothing away. -/
theorem Acquire.keeps {held held' : K → Option A} {k k' : K} {r : Option A} {a : A}
    (h : Acquire held k r held') (ha : held k' = some a) : held' k' = some a := by
  rw [h.held_eq, Function.update_apply]
  split
  · next hk => rw [hk] at ha; exact h.eq_of_held ha
  · exact ha

/-- A request that fails changes nothing. -/
theorem Acquire.held_of_none {held held' : K → Option A} {k : K}
    (h : Acquire held k Option.none held') : held' = held := by
  cases h with
  | none h => rfl

theorem Exclusive.forget {held : K → Option A} (hx : Exclusive held) (k : K) :
    Exclusive (Function.update held k none) := by
  intro k₁ k₂ b h₁ h₂
  rw [Function.update_apply] at h₁ h₂
  split at h₁
  · cases h₁
  · split at h₂
    · cases h₂
    · exact hx _ _ _ h₁ h₂

end

/-! ## Counter and free list -/

structure FreeList (K A : Type*) where
  /-- next number to draw -/
  next : Nat
  /-- last number that may be drawn -/
  max : Nat
  /-- released addresses, last released first -/
  released : List A
  inUse : Map K A

namespace FreeList

variable {K A : Type*} [DecidableEq K]

/-- What `k` holds, else the last released address, else the next number. -/
def allocate (mk : Nat → A) (s : FreeList K A) (k : K) : Option A × FreeList K A :=
  match s.inUse.lookup k with
  | some a => (some a, s)
  | none =>
    match s.released with
    | a :: rest => (some a, { s with released := rest, inUse := s.inUse.insert k a })
    | [] =>
      if s.next ≤ s.max then
        (some (mk s.next), { s with next := s.next + 1, inUse := s.inUse.insert k (mk s.next) })
      else (none, s)

def release (s : FreeList K A) (k : K) : FreeList K A :=
  match s.inUse.lookup k with
  | some a => { s with released := a :: s.released, inUse := s.inUse.erase k }
  | none => s

/-- `lo` is the first number drawn. -/
structure Inv (mk : Nat → A) (lo : Nat) (s : FreeList K A) : Prop where
  lo_le : lo ≤ s.next
  next_le : s.next = lo ∨ s.next ≤ s.max + 1
  drawn : ∀ a, (∃ k, s.inUse.lookup k = some a) ∨ a ∈ s.released ↔
    ∃ n, lo ≤ n ∧ n < s.next ∧ mk n = a
  inj : Exclusive fun k => s.inUse.lookup k
  nodup : s.released.Nodup
  disj : ∀ a ∈ s.released, ∀ k, s.inUse.lookup k ≠ some a

/-- The numbers of the range stand for different addresses. -/
def InjOn (mk : Nat → A) (lo max : Nat) : Prop :=
  ∀ m n, lo ≤ m → m ≤ max → lo ≤ n → n ≤ max → mk m = mk n → m = n

theorem inv_new (mk : Nat → A) (lo max : Nat) : Inv mk lo (⟨lo, max, [], ∅⟩ : FreeList K A) where
  lo_le := Nat.le_refl _
  next_le := Or.inl rfl
  drawn := by
    intro a
    constructor
    · rintro (⟨k, hk⟩ | hk)
      · simp at hk
      · cases hk
    · rintro ⟨n, h1, h2, -⟩
      exact absurd h2 (Nat.not_lt.2 h1)
  inj := by intro k k' a h; simp at h
  nodup := List.nodup_nil
  disj := by intro a ha; cases ha

/-- Held addresses after `k` was given `a`. -/
theorem exists_lookup_insert (m : Map K A) (k : K) (a b : A) (hk : m.lookup k = none) :
    (∃ k', (m.insert k a).lookup k' = some b) ↔ b = a ∨ ∃ k', m.lookup k' = some b := by
  constructor
  · rintro ⟨k', h⟩
    rw [Map.lookup_insert_eq] at h
    split at h
    · exact Or.inl (Option.some.inj h).symm
    · exact Or.inr ⟨k', h⟩
  · rintro (rfl | ⟨k', h⟩)
    · exact ⟨k, AList.lookup_insert m⟩
    · refine ⟨k', ?_⟩
      have hne : k' ≠ k := by rintro rfl; rw [hk] at h; cases h
      rw [AList.lookup_insert_ne hne, h]

section
variable {mk : Nat → A} {lo : Nat} {s : FreeList K A}

theorem lookup_fun_insert (m : Map K A) (k : K) (a : A) :
    (fun k' => (m.insert k a).lookup k') = Function.update (fun k' => m.lookup k') k (some a) := by
  funext k'
  rw [Map.lookup_insert_eq, Function.update_apply]

theorem lookup_fun_erase (m : Map K A) (k : K) :
    (fun k' => (m.erase k).lookup k') = Function.update (fun k' => m.lookup k') k none := by
  funext k'
  rw [Map.lookup_erase_eq, Function.update_apply]

/-- A number not drawn yet is held by nobody. -/
theorem Inv.next_fresh (h : Inv mk lo s) (hmk : InjOn mk lo s.max) (hn : s.next ≤ s.max) :
    (∀ k, s.inUse.lookup k ≠ some (mk s.next)) ∧ mk s.next ∉ s.released := by
  have key : ¬ ((∃ k, s.inUse.lookup k = some (mk s.next)) ∨ mk s.next ∈ s.released) := by
    rw [h.drawn]
    rintro ⟨n, h1, h2, h3⟩
    have := hmk n s.next h1 (by omega) h.lo_le hn h3
    omega
  exact ⟨fun k hk => key (Or.inl ⟨k, hk⟩), fun hr => key (Or.inr hr)⟩

/-- **`allocate` is a request of the abstract allocator.** -/
theorem allocate_acquire (h : Inv mk lo s) (hmk : InjOn mk lo s.max) (k : K) :
    Acquire (fun k' => s.inUse.lookup k') k (allocate mk s k).1
      (fun k' => (allocate mk s k).2.inUse.lookup k') := by
  unfold allocate
  cases hk : s.inUse.lookup k with
  | some a => exact .same hk
  | none =>
    cases hr : s.released with
    | cons a rest =>
      simp only []
      rw [lookup_fun_insert]
      exact .fresh hk (fun k' => h.disj a (by rw [hr]; exact List.mem_cons_self) k')
    | nil =>
      simp only []
      split
      · next hn =>
        rw [lookup_fun_insert]
        exact .fresh hk (h.next_fresh hmk hn).1
      · exact .none hk

theorem inv_allocate (h : Inv mk lo s) (hmk : InjOn mk lo s.max) (k : K) :
    Inv mk lo (allocate mk s k).2 := by
  have hinj := (allocate_acquire h hmk k).inj h.inj
  unfold allocate at hinj ⊢
  cases hk : s.inUse.lookup k with
  | some a => exact h
  | none =>
    cases hr : s.released with
    | cons a rest =>
      simp only [hk, hr] at hinj ⊢
      have hnd := h.nodup
      rw [hr, List.nodup_cons] at hnd
      refine ⟨h.lo_le, h.next_le, fun b => ?_, hinj, hnd.2, fun b hb k' hk' => ?_⟩
      · rw [exists_lookup_insert _ _ _ _ hk, ← h.drawn, hr, List.mem_cons]
        tauto
      · rw [Map.lookup_insert_eq] at hk'
        split at hk'
        · obtain rfl := Option.some.inj hk'
          exact hnd.1 hb
        · exact h.disj b (by rw [hr]; exact List.mem_cons_of_mem _ hb) k' hk'
    | nil =>
      simp only [hk, hr] at hinj ⊢
      split
      · next hn =>
        simp only [hn, if_true] at hinj
        have hfresh := h.next_fresh hmk hn
        have hlo := h.lo_le
        refine ⟨Nat.le_succ_of_le hlo, Or.inr (Nat.succ_le_succ hn), fun b => ?_, hinj,
          List.nodup_nil, fun b hb => by cases hb⟩
        have hd := h.drawn b
        rw [hr] at hd
        rw [exists_lookup_insert _ _ _ _ hk, or_assoc, hd]
        constructor
        · rintro (rfl | ⟨n, h1, h2, h3⟩)
          · exact ⟨s.next, hlo, Nat.lt_succ_self _, rfl⟩
          · exact ⟨n, h1, Nat.lt_succ_of_lt h2, h3⟩
        · rintro ⟨n, h1, h2, h3⟩
          rcases Nat.lt_succ_iff_lt_or_eq.1 h2 with h2 | rfl
          · exact Or.inr ⟨n, h1, h2, h3⟩
          · exact Or.inl h3.symm
      · exact h

theorem release_held (s : FreeList K A) (k : K) :
    (fun k' => (release s k).inUse.lookup k') =
      Function.update (fun k' => s.inUse.lookup k') k none := by
  unfold release
  cases hk : s.inUse.lookup k with
  | some a => exact lookup_fun_erase _ _
  | none =>
    simp only []
    rw [← hk]
    exact (Function.update_eq_self k fun k' => s.inUse.lookup k').symm

theorem inv_release (h : Inv mk lo s) (k : K) : Inv mk lo (release s k) := by
  have hinj : Exclusive fun k' => (release s k).inUse.lookup k' := by
    rw [release_held]; exact h.inj.forget k
  unfold release at hinj ⊢
  cases hk : s.inUse.lookup k with
  | none => exact h
  | some a =>
    simp only [hk] at hinj ⊢
    -- the address moves from the map to the stack, and only `k` held it
    have hold : ∀ b, (∃ k', (s.inUse.erase k).lookup k' = some b) ∨ b ∈ a :: s.released ↔
        (∃ k', s.inUse.lookup k' = some b) ∨ b ∈ s.released := by
      intro b
      constructor
      · rintro (⟨k', hb⟩ | hb)
        · rw [Map.lookup_erase_eq] at hb
          split at hb
          · cases hb
          · exact Or.inl ⟨k', hb⟩
        · rcases List.mem_cons.1 hb with rfl | hb
          · exact Or.inl ⟨k, hk⟩
          · exact Or.inr hb
      · rintro (⟨k', hb⟩ | hb)
        · by_cases hkk : k' = k
          · subst hkk
            rw [hk] at hb
            obtain rfl := Option.some.inj hb
            exact Or.inr List.mem_cons_self
          · exact Or.inl ⟨k', by rw [Map.lookup_erase_eq, if_neg hkk, hb]⟩
        · exact Or.inr (List.mem_cons_of_mem _ hb)
    refine ⟨h.lo_le, h.next_le, fun b => (hold b).trans (h.drawn b), hinj, ?_, fun b hb k' hk' => ?_⟩
    · exact List.nodup_cons.2 ⟨fun ha => h.disj a ha k hk, h.nodup⟩
    · rw [Map.lookup_erase_eq] at hk'
      split at hk'
      · cases hk'
      · next hne =>
        rcases List.mem_cons.1 hb with rfl | hb
        · exact hne (h.inj _ _ _ hk' hk)
        · exact h.disj b hb k' hk'

/-- **No address is lost**: a request fails only when every number is held. -/
theorem all_held_of_none (h : Inv mk lo s) (k : K) (hn : (allocate mk s k).1 = none) :
    ∀ n, lo ≤ n → n ≤ s.max → ∃ k', s.inUse.lookup k' = some (mk n) := by
  intro n h1 h2
  unfold allocate at hn
  cases hk : s.inUse.lookup k with
  | some a => simp [hk] at hn
  | none =>
    cases hr : s.released with
    | cons a rest => simp [hk, hr] at hn
    | nil =>
      simp only [hk, hr] at hn
      split at hn
      · cases hn
      · next hlt =>
        have := (h.drawn (mk n)).2 ⟨n, h1, by omega, rfl⟩
        rw [hr] at this
        simpa using this

theorem allocate_max (mk : Nat → A) (s : FreeList K A) (k : K) : (allocate mk s k).2.max = s.max := by
  unfold allocate
  split
  · rfl
  · split
    · rfl
    · split <;> rfl

theorem release_max (s : FreeList K A) (k : K) : (release s k).max = s.max := by
  unfold release; split <;> rfl

/-- A key that holds an address gets it again, and nothing changes. -/
theorem allocate_of_lookup (mk : Nat → A) (s : FreeList K A) (k : K) (a : A)
    (h : s.inUse.lookup k = some a) : allocate mk s k = (some a, s) := by
  unfold allocate; rw [h]

end

end FreeList

end Lib
