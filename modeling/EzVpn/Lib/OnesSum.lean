import EzVpn.Lib.Bytes

/-!
# One's complement sums

The Internet checksum.  `onesSum` adds the 16-bit words of a byte string with end-around
carry, and a string verifies when the sum is `0xffff`.  In plain numbers `onesSum` is the
sum of the words reduced to `1 .. 0xffff` modulo `0xffff` (`onesSum_eq`), so a string
verifies exactly when its words add up to a positive multiple of `0xffff`, and the
complement of a sum, put where the string has zeros, makes it verify
(`verifies_setBytes`).
-/

namespace Lib.Bytes

/-- The sum of the big-endian 16-bit words; an odd last byte is the high byte of a word. -/
def wordSum : Bytes → Nat
  | [] => 0
  | [a] => a.toNat * 256
  | a :: b :: rest => (a.toNat * 256 + b.toNat) + wordSum rest

/-- One's complement addition: the carry out of 16 bits is added back. -/
def onesAdd (a b : Nat) : Nat := (a + b) % 65536 + (a + b) / 65536

/-- The one's complement sum of the words, from `acc` on. -/
def onesSumFrom (acc : Nat) : Bytes → Nat
  | [] => acc
  | [a] => onesAdd acc (a.toNat * 256)
  | a :: b :: rest => onesSumFrom (onesAdd acc (a.toNat * 256 + b.toNat)) rest

def onesSum (b : Bytes) : Nat := onesSumFrom 0 b

/-- The checksum in `b` is right. -/
def Verifies (b : Bytes) : Prop := onesSum b = 0xffff

instance (b : Bytes) : Decidable (Verifies b) := inferInstanceAs (Decidable (_ = _))

/-- The representative of `n` modulo `0xffff`, with `0` for `0` only. -/
def carry (n : Nat) : Nat := if n = 0 then 0 else (n - 1) % 65535 + 1

/-! ## Sums of words -/

theorem wordSum_append {a : Bytes} (b : Bytes) (h : a.length % 2 = 0) :
    wordSum (a ++ b) = wordSum a + wordSum b := by
  induction a using wordSum.induct with
  | case1 => simp [wordSum]
  | case2 x => simp at h
  | case3 x y rest ih =>
    rw [List.cons_append, List.cons_append, wordSum, wordSum, ih (by simp at h; omega)]
    omega

theorem wordSum_le (b : Bytes) : wordSum b ≤ 65535 * ((b.length + 1) / 2) := by
  induction b using wordSum.induct with
  | case1 => simp [wordSum]
  | case2 x =>
    have := x.toNat_lt
    simp only [wordSum, List.length_singleton]
    omega
  | case3 x y rest ih =>
    have := x.toNat_lt
    have := y.toNat_lt
    simp only [wordSum, List.length_cons]
    omega

/-- Words do not straddle a cut at an even position. -/
theorem wordSum_take_add_drop (b : Bytes) {n : Nat} (hn : n % 2 = 0) :
    wordSum (b.take n) + wordSum (b.drop n) = wordSum b := by
  by_cases hlen : n ≤ b.length
  · rw [← wordSum_append _ (by rw [List.length_take]; omega), List.take_append_drop]
  · rw [List.take_of_length_le (by omega), List.drop_of_length_le (by omega)]
    rfl

/-- The 16-bit word at an index. -/
def wordAt (b : Bytes) (i : Nat) : Nat := (byteAt b i).toNat * 256 + (byteAt b (i + 1)).toNat

/-- A word that was written. -/
theorem wordAt_setBytes {b : Bytes} {i : Nat} (c : UInt16) (h : i + 2 ≤ b.length) :
    wordAt (setBytes b i (toBe16 c)) i = c.toNat := by
  have := c.toNat_lt
  have hlen : (toBe16 c).length = 2 := rfl
  rw [wordAt, byteAt_setBytes, if_pos (by omega), byteAt_setBytes, if_pos (by omega), Nat.sub_self,
    Nat.add_sub_cancel_left]
  simp only [toBe16, byteAt, List.getD_cons_zero, List.getD_cons_succ, UInt8.toNat_ofNat']
  omega

theorem wordAt_inj {a b : Bytes} {i : Nat} (h : wordAt a i = wordAt b i) :
    byteAt a i = byteAt b i ∧ byteAt a (i + 1) = byteAt b (i + 1) := by
  unfold wordAt at h
  have := (byteAt a i).toNat_lt
  have := (byteAt a (i + 1)).toNat_lt
  have := (byteAt b i).toNat_lt
  have := (byteAt b (i + 1)).toNat_lt
  exact ⟨UInt8.toNat_inj.1 (by omega), UInt8.toNat_inj.1 (by omega)⟩

/-- Replacing a word. -/
theorem wordSum_setBytes (b : Bytes) (j : Nat) (x y : UInt8) (hlen : 2 * j + 2 ≤ b.length) :
    wordSum (setBytes b (2 * j) [x, y]) + wordAt b (2 * j) =
      wordSum b + (x.toNat * 256 + y.toNat) := by
  induction j generalizing b with
  | zero =>
    match b, hlen with
    | a :: c :: rest, _ =>
      show x.toNat * 256 + y.toNat + wordSum rest + (a.toNat * 256 + c.toNat) =
        (a.toNat * 256 + c.toNat + wordSum rest) + (x.toNat * 256 + y.toNat)
      omega
  | succ j ih =>
    match b, hlen with
    | a :: c :: rest, hlen =>
      have hlen' : 2 * j + 2 ≤ rest.length := by simp only [List.length_cons] at hlen; omega
      have := ih rest hlen'
      show a.toNat * 256 + c.toNat + wordSum (setBytes rest (2 * j) [x, y]) + wordAt rest (2 * j) =
        (a.toNat * 256 + c.toNat + wordSum rest) + (x.toNat * 256 + y.toNat)
      omega

/-! ## End-around carry -/

theorem carry_le (n : Nat) : carry n ≤ 65535 := by
  unfold carry
  split <;> omega

/-- A part of a sum may be reduced first. -/
theorem carry_add_carry (n m : Nat) : carry (n + carry m) = carry (n + m) := by
  unfold carry
  split <;> split <;> split <;> omega

theorem add_complement (n : Nat) :
    0 < n + (65535 - carry n) ∧ (n + (65535 - carry n)) % 65535 = 0 := by
  unfold carry
  split <;> omega

theorem onesAdd_carry (n v : Nat) (hv : v ≤ 65535) : onesAdd (carry n) v = carry (n + v) := by
  have h1 := carry_le n
  unfold onesAdd
  by_cases hn : n = 0
  · subst hn
    simp only [carry, if_true, Nat.zero_add]
    split <;> omega
  · simp only [carry, if_neg hn, if_neg (show n + v ≠ 0 by omega)]
    omega

theorem onesSumFrom_eq (b : Bytes) (n : Nat) : onesSumFrom (carry n) b = carry (n + wordSum b) := by
  induction b using wordSum.induct generalizing n with
  | case1 => rfl
  | case2 x =>
    have := x.toNat_lt
    exact onesAdd_carry n _ (by omega)
  | case3 x y rest ih =>
    have := x.toNat_lt
    have := y.toNat_lt
    rw [onesSumFrom, onesAdd_carry n _ (by omega), ih, wordSum, Nat.add_assoc]

theorem onesSum_eq (b : Bytes) : onesSum b = carry (wordSum b) := by
  rw [onesSum, show (0 : Nat) = carry 0 from rfl, onesSumFrom_eq, Nat.zero_add]

theorem verifies_iff (b : Bytes) : Verifies b ↔ 0 < wordSum b ∧ wordSum b % 65535 = 0 := by
  rw [Verifies, onesSum_eq, carry]
  split <;> omega

theorem onesSum_le_wordSum (b : Bytes) : onesSum b ≤ wordSum b := by
  rw [onesSum_eq, carry]
  split <;> omega

theorem onesSum_mod (b : Bytes) : onesSum b % 65535 = wordSum b % 65535 := by
  rw [onesSum_eq, carry]
  split <;> omega

/-- When a string verifies with the word `c` put in.  `rest` is what the sum covers besides
`b`. -/
theorem verifies_setBytes_iff (rest : Bytes) {b : Bytes} {j : Nat} (c : UInt16)
    (hlen : 2 * j + 2 ≤ b.length) (hrest : rest.length % 2 = 0) :
    Verifies (rest ++ setBytes b (2 * j) (toBe16 c)) ↔
      wordAt b (2 * j) < wordSum rest + wordSum b + c.toNat ∧
        (wordSum rest + wordSum b + c.toNat - wordAt b (2 * j)) % 65535 = 0 := by
  have hword : (UInt8.ofNat (c.toNat / 256)).toNat * 256 + (UInt8.ofNat c.toNat).toNat = c.toNat := by
    have := c.toNat_lt
    rw [UInt8.toNat_ofNat', UInt8.toNat_ofNat']
    omega
  have hsum := wordSum_setBytes b j (UInt8.ofNat (c.toNat / 256)) (UInt8.ofNat c.toNat) hlen
  rw [hword] at hsum
  rw [verifies_iff, wordSum_append _ hrest, toBe16]
  have : wordSum rest + wordSum (setBytes b (2 * j) [UInt8.ofNat (c.toNat / 256), UInt8.ofNat c.toNat]) =
      wordSum rest + wordSum b + c.toNat - wordAt b (2 * j) := by omega
  rw [this]
  omega

/-- **The complement of the sum verifies**, put where the string has a zero word. -/
theorem verifies_setBytes (rest : Bytes) {b : Bytes} {j : Nat} (c : UInt16) (hlen : 2 * j + 2 ≤ b.length)
    (hrest : rest.length % 2 = 0) (h0 : wordAt b (2 * j) = 0)
    (hc : c.toNat = 65535 - carry (wordSum rest + wordSum b)) :
    Verifies (rest ++ setBytes b (2 * j) (toBe16 c)) := by
  rw [verifies_setBytes_iff rest c hlen hrest, h0, hc]
  exact add_complement _

/-- **Completing a sum**: the word held the sum of `rest`, and the complement of the sum of
the string, that word included, takes its place. -/
theorem verifies_complete (rest : Bytes) {b : Bytes} {j : Nat} (c : UInt16) (hlen : 2 * j + 2 ≤ b.length)
    (hrest : rest.length % 2 = 0) (hold : wordAt b (2 * j) = onesSum rest)
    (hc : c.toNat = 65535 - carry (wordSum b)) :
    Verifies (rest ++ setBytes b (2 * j) (toBe16 c)) := by
  have hle := onesSum_le_wordSum rest
  have hmod := onesSum_mod rest
  have hadd := add_complement (wordSum b)
  rw [verifies_setBytes_iff rest c hlen hrest, hold, hc]
  omega

end Lib.Bytes
