import EzVpn.Lib.Bytes

/-!
# Compact JSON text

The text a compact JSON writer produces, built from the texts of the parts: no blanks, the
fields of an object in the order given.  The lemmas bound its size from below.
-/

namespace Lib.Json

/-- Inside a string: quote, backslash and control characters are escaped. -/
def escape (c : Char) : String :=
  match c.toNat with
  | 0x22 => "\\\""
  | 0x5c => "\\\\"
  | 0x08 => "\\b"
  | 0x09 => "\\t"
  | 0x0a => "\\n"
  | 0x0c => "\\f"
  | 0x0d => "\\r"
  | n => if n < 0x10 then "\\u000" ++ String.ofList (Nat.toDigits 16 n)
    else if n < 0x20 then "\\u00" ++ String.ofList (Nat.toDigits 16 n)
    else c.toString

def str (s : String) : String := "\"" ++ s.toList.foldl (fun t c => t ++ escape c) "" ++ "\""

def bool (b : Bool) : String := if b then "true" else "false"

def sep : List String → String
  | [] => ""
  | [x] => x
  | x :: y :: xs => x ++ "," ++ sep (y :: xs)

def arr (xs : List String) : String := "[" ++ sep xs ++ "]"

def obj (fields : List (String × String)) : String :=
  "\x7b" ++ sep (fields.map fun f => str f.1 ++ ":" ++ f.2) ++ "\x7d"

/-- The bytes of a text. -/
def bytes (text : String) : Bytes := text.toUTF8.data.toList

theorem length_bytes (text : String) : (bytes text).length = text.utf8ByteSize := by
  simp [bytes]

/-! ## Sizes -/

theorem size_escape_pos (c : Char) : 0 < (escape c).utf8ByteSize := by
  have hpos : ∀ s t : String, s ≠ "" → 0 < (s ++ t).utf8ByteSize := fun s t hs => by
    rw [String.utf8ByteSize_append]
    exact Nat.add_pos_left (Nat.pos_of_ne_zero fun h => hs (String.utf8ByteSize_eq_zero_iff.1 h)) _
  unfold escape
  split
  case h_8 n =>
    split
    · exact hpos _ _ (by decide)
    · split
      · exact hpos _ _ (by decide)
      · exact String.utf8ByteSize_singleton ▸ Char.utf8Size_pos c
  all_goals decide +kernel

/-- A string takes a byte for each character, and its quotes. -/
theorem le_size_str (s : String) : s.length + 2 ≤ (str s).utf8ByteSize := by
  have hquote : ("\"" : String).utf8ByteSize = 1 := by decide +kernel
  have hchars : ∀ (cs : List Char) (t : String),
      t.utf8ByteSize + cs.length ≤ (cs.foldl (fun t c => t ++ escape c) t).utf8ByteSize := by
    intro cs
    induction cs with
    | nil => intro t; exact Nat.le_refl _
    | cons c cs ih =>
      intro t
      have hrest := ih (t ++ escape c)
      have hc := size_escape_pos c
      rw [String.utf8ByteSize_append] at hrest
      rw [List.foldl_cons, List.length_cons]
      omega
  have hs := hchars s.toList ""
  unfold str
  simp only [String.utf8ByteSize_append, hquote, String.length_toList] at hs ⊢
  omega

/-- Every part and a separator behind each but the last. -/
theorem le_size_sep {k : Nat} {xs : List String} (h : ∀ x ∈ xs, k ≤ x.utf8ByteSize) :
    xs.length * (k + 1) ≤ (sep xs).utf8ByteSize + 1 := by
  have hcomma : ("," : String).utf8ByteSize = 1 := by decide +kernel
  fun_induction sep xs with
  | case1 => simp
  | case2 x =>
    have := h x (List.mem_singleton_self x)
    simp only [List.length_singleton]
    omega
  | case3 x y xs ih =>
    have hx := h x List.mem_cons_self
    have hrest := ih fun z hz => h z (List.mem_cons_of_mem _ hz)
    simp only [String.utf8ByteSize_append, hcomma, List.length_cons, Nat.add_mul, Nat.one_mul] at hrest ⊢
    omega

theorem size_le_sep {x : String} {xs : List String} (h : x ∈ xs) :
    x.utf8ByteSize ≤ (sep xs).utf8ByteSize := by
  fun_induction sep xs with
  | case1 => cases h
  | case2 y => exact Nat.le_of_eq (congrArg String.utf8ByteSize (List.mem_singleton.1 h))
  | case3 y z xs ih =>
    simp only [String.utf8ByteSize_append]
    rcases List.mem_cons.1 h with rfl | h
    · omega
    · have := ih h
      omega

theorem sep_size_le_arr (xs : List String) : (sep xs).utf8ByteSize + 1 ≤ (arr xs).utf8ByteSize := by
  have hopen : ("[" : String).utf8ByteSize = 1 := by decide +kernel
  unfold arr
  simp only [String.utf8ByteSize_append, hopen]
  omega

theorem field_size_le_obj {f : String × String} {fields : List (String × String)} (h : f ∈ fields) :
    f.2.utf8ByteSize ≤ (obj fields).utf8ByteSize := by
  have hmem := size_le_sep (List.mem_map_of_mem (f := fun f => str f.1 ++ ":" ++ f.2) h)
  unfold obj
  simp only [String.utf8ByteSize_append] at hmem ⊢
  omega

end Lib.Json
