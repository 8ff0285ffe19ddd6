import EzVpn.Lib.Bytes

/-!
# Length-prefixed messages on a byte stream

A stream hands over its bytes in chunks of its own choosing and then ends.  `readExact`
collects a number of bytes from the chunks, or reports how many came before the end.  What
it returns depends on the bytes only, not on how they were cut into chunks
(`readExact_of_le`, `readExact_of_lt`), so a reader that takes a big-endian length and then
that many bytes gets back the message a writer put behind its length (`readExact_framed`).
-/

namespace Lib

open Bytes

/-- `to_be_bytes`: the lowest `k` bytes of a number, the highest first. -/
def toBe : Nat → Nat → Bytes
  | 0, _ => []
  | k + 1, n => toBe k (n / 256) ++ [UInt8.ofNat n]

@[simp] theorem length_toBe (k n : Nat) : (toBe k n).length = k := by
  induction k generalizing n with
  | zero => rfl
  | succ k ih => rw [toBe, List.length_append, ih, List.length_singleton]

theorem beNat_append_singleton (b : Bytes) (v : UInt8) : beNat (b ++ [v]) = beNat b * 256 + v.toNat := by
  rw [beNat, List.foldl_append]
  rfl

theorem beNat_toBe (k n : Nat) : beNat (toBe k n) = n % 256 ^ k := by
  induction k generalizing n with
  | zero => rw [pow_zero, Nat.mod_one]; rfl
  | succ k ih =>
    have hbyte : (UInt8.ofNat n).toNat = n % 256 := by simp
    rw [toBe, beNat_append_singleton, ih, hbyte, pow_succ, Nat.mul_comm (256 ^ k) 256, Nat.mod_mul]
    omega

theorem beNat_toBe_of_lt {k n : Nat} (h : n < 256 ^ k) : beNat (toBe k n) = n := by
  rw [beNat_toBe, Nat.mod_eq_of_lt h]

/-- `read_exact` of `n` bytes: the bytes and the rest of the stream, or the number of bytes
before the end. -/
def readExact : List Bytes → Nat → Except Nat (Bytes × List Bytes)
  | chunks, 0 => .ok ([], chunks)
  | [], _ => .error 0
  | chunk :: chunks, n =>
    if n ≤ chunk.length then .ok (chunk.take n, chunk.drop n :: chunks)
    else
      match readExact chunks (n - chunk.length) with
      | .ok (buf, rest) => .ok (chunk ++ buf, rest)
      | .error got => .error (chunk.length + got)

theorem readExact_of_le {chunks : List Bytes} {n : Nat} (h : n ≤ chunks.flatten.length) :
    ∃ rest, readExact chunks n = .ok (chunks.flatten.take n, rest) ∧
      rest.flatten = chunks.flatten.drop n := by
  fun_induction readExact chunks n with
  | case1 chunks => exact ⟨chunks, by simp, rfl⟩
  | case2 n hn => exact absurd (by simpa using h) hn
  | case3 chunk chunks n hn hle =>
    rw [List.flatten_cons, List.take_append_of_le_length hle, List.drop_append_of_le_length hle]
    exact ⟨_, rfl, rfl⟩
  | case4 chunk chunks n hn hgt buf rest heq ih =>
    rw [List.flatten_cons, List.length_append] at h
    obtain ⟨rest', hok, hrest⟩ := ih (by omega)
    rw [heq] at hok
    obtain ⟨hbuf, rfl⟩ := Prod.mk.inj (Except.ok.inj hok)
    have hle : chunk.length ≤ n := Nat.le_of_not_le hgt
    refine ⟨rest, ?_, ?_⟩
    · rw [hbuf, List.flatten_cons, List.take_append, List.take_of_length_le hle]
    · rw [hrest, List.flatten_cons, List.drop_append, List.drop_of_length_le hle, List.nil_append]
  | case5 chunk chunks n hn hgt got heq ih =>
    rw [List.flatten_cons, List.length_append] at h
    obtain ⟨rest', hok, -⟩ := ih (by omega)
    rw [heq] at hok
    cases hok

theorem readExact_of_lt {chunks : List Bytes} {n : Nat} (h : chunks.flatten.length < n) :
    readExact chunks n = .error chunks.flatten.length := by
  fun_induction readExact chunks n with
  | case1 chunks => omega
  | case2 n hn => rfl
  | case3 chunk chunks n hn hle =>
    rw [List.flatten_cons, List.length_append] at h
    omega
  | case4 chunk chunks n hn hgt buf rest heq ih =>
    rw [List.flatten_cons, List.length_append] at h
    rw [ih (by omega)] at heq
    cases heq
  | case5 chunk chunks n hn hgt got heq ih =>
    rw [List.flatten_cons, List.length_append] at h ⊢
    rw [ih (by omega)] at heq
    rw [Except.error.inj heq]

/-- A message behind its length, in `k` bytes. -/
def framed (k : Nat) (body : Bytes) : Bytes := toBe k body.length ++ body

@[simp] theorem length_framed (k : Nat) (body : Bytes) : (framed k body).length = k + body.length := by
  rw [framed, List.length_append, length_toBe]

/-- **Reading what was written.**  The length is the first thing on the stream, and that many
bytes after it are the message. -/
theorem readExact_framed {k : Nat} {body more : Bytes} {chunks : List Bytes}
    (h : chunks.flatten = framed k body ++ more) :
    ∃ rest, readExact chunks k = .ok (toBe k body.length, rest) ∧
      ∃ rest', readExact rest body.length = .ok (body, rest') ∧ rest'.flatten = more := by
  have hk := length_toBe k body.length
  rw [framed, List.append_assoc] at h
  obtain ⟨rest, hprefix, hrest⟩ := readExact_of_le
    (show k ≤ chunks.flatten.length by rw [h, List.length_append]; omega)
  rw [h, List.take_left' hk] at hprefix
  rw [h, List.drop_left' hk] at hrest
  obtain ⟨rest', hbody, hmore⟩ := readExact_of_le
    (show body.length ≤ rest.flatten.length by rw [hrest, List.length_append]; omega)
  rw [hrest, List.take_left' rfl] at hbody
  rw [hrest, List.drop_left' rfl] at hmore
  exact ⟨rest, hprefix, rest', hbody, hmore⟩

end Lib
