import Dataflow.Entries
import Mathlib.Algebra.Group.Nat.Defs
/-!
# Texts in byte order

Texts are compared by the code points of their characters. Comparing the bytes of their UTF-8 forms
comes to the same (`Text.lt_iff_bytes_lt`). The first byte of a character tells how many bytes
continue it and has the leading digits of its code point in base 64, and each further byte has one
more digit, so that a character already decides against any later one, whatever follows the two
(`Text.append_lt_append_of_lt`).
-/

namespace Dataflow.Text

/-- The UTF-8 form of a text. -/
def bytes (text : String) : List UInt8 := text.toUTF8.data.toList

theorem bytes_eq (text : String) : bytes text = text.toList.flatMap String.utf8EncodeChar := by
  rw [bytes, String.toUTF8_eq_toByteArray, ← String.utf8Encode_toList]
  exact List.toList_data_toByteArray

/-! ## One character -/

/-- The first byte of a code point. -/
def leadByte (n : Nat) : Nat :=
  if n ≤ 0x7f then n
  else if n ≤ 0x7ff then n / 64 + 192
  else if n ≤ 0xffff then n / 64 ^ 2 + 224
  else n / 64 ^ 3 + 240

/-- How many bytes continue a code point. -/
def trailLength (n : Nat) : Nat :=
  if n ≤ 0x7f then 0 else if n ≤ 0x7ff then 1 else if n ≤ 0xffff then 2 else 3

/-- The last digits of a number in base 64, a byte for each. -/
def trail : Nat → Nat → List UInt8
  | 0, _ => []
  | k + 1, n => UInt8.ofNat (n / 64 ^ k % 64 + 128) :: trail k n

theorem val_lt (c : Char) : c.val.toNat < 0x110000 := by
  rcases c.valid with h | h
  · exact Nat.lt_trans h (by decide)
  · exact h.2

theorem utf8EncodeChar_eq (c : Char) :
    String.utf8EncodeChar c = UInt8.ofNat (leadByte c.val.toNat) :: trail (trailLength c.val.toNat) c.val.toNat := by
  have hc := val_lt c
  simp only [String.utf8EncodeChar, leadByte, trailLength]
  generalize c.val.toNat = n at *
  split
  · rfl
  · split
    · have hlead : n / 64 % 32 = n / 64 := by omega
      simp [trail, hlead]
    · split
      · have hlead : n / 4096 % 16 = n / 4096 := by omega
        simp [trail, hlead]
      · have hlead : n / 262144 % 8 = n / 262144 := by omega
        simp [trail, hlead]

theorem ofNat_lt_iff {a b : Nat} (ha : a < 256) (hb : b < 256) : UInt8.ofNat a < UInt8.ofNat b ↔ a < b := by
  rw [UInt8.lt_iff_toNat_lt, UInt8.toNat_ofNat', UInt8.toNat_ofNat', Nat.mod_eq_of_lt ha, Nat.mod_eq_of_lt hb]

/-- Of two numbers with the same leading digits the other digits decide. -/
theorem trail_lt_trail {k m n : Nat} (hlt : m < n) (hlead : m / 64 ^ k = n / 64 ^ k) (s t : List UInt8) :
    trail k m ++ s < trail k n ++ t := by
  induction k with
  | zero =>
    simp only [Nat.pow_zero, Nat.div_one] at hlead
    omega
  | succ k ih =>
    rw [Nat.pow_succ, ← Nat.div_div_eq_div_mul, ← Nat.div_div_eq_div_mul] at hlead
    have hle : m / 64 ^ k ≤ n / 64 ^ k := Nat.div_le_div_right (Nat.le_of_lt hlt)
    rw [trail, trail, List.cons_append, List.cons_append, List.cons_lt_cons_iff]
    rcases Nat.lt_or_eq_of_le hle with hdigit | hsame
    · exact .inl ((ofNat_lt_iff (by omega) (by omega)).2 (by omega))
    · exact .inr ⟨by rw [hsame], ih hsame⟩

/-- The first byte decides, or it is the same, and then so are the leading digits. -/
theorem leadByte_cases {m n : Nat} (hlt : m < n) :
    leadByte m < leadByte n ∨
      leadByte m = leadByte n ∧ trailLength m = trailLength n ∧
        m / 64 ^ trailLength n = n / 64 ^ trailLength n := by
  unfold leadByte trailLength
  grind

/-- Whatever follows, the bytes of a character come before those of a later one. -/
theorem append_lt_append_of_lt {c d : Char} (h : c < d) (s t : List UInt8) :
    String.utf8EncodeChar c ++ s < String.utf8EncodeChar d ++ t := by
  have hlead : ∀ c : Char, leadByte c.val.toNat < 256 := by
    intro c
    have := val_lt c
    unfold leadByte
    grind
  rw [utf8EncodeChar_eq, utf8EncodeChar_eq, List.cons_append, List.cons_append, List.cons_lt_cons_iff]
  have hlt : c.val.toNat < d.val.toNat := h
  rcases leadByte_cases hlt with hbyte | ⟨hbyte, hlength, hdigits⟩
  · exact .inl ((ofNat_lt_iff (hlead c) (hlead d)).2 hbyte)
  · exact .inr ⟨by rw [hbyte], hlength ▸ trail_lt_trail hlt hdigits s t⟩

/-! ## Texts -/

theorem flatMap_lt_flatMap {cs ds : List Char} (h : cs < ds) :
    cs.flatMap String.utf8EncodeChar < ds.flatMap String.utf8EncodeChar := by
  induction h with
  | @nil d ds =>
    obtain ⟨b, bs, hb⟩ := List.exists_cons_of_ne_nil (String.utf8EncodeChar_ne_nil (c := d))
    rw [List.flatMap_nil, List.flatMap_cons, hb]
    exact .nil
  | rel h => exact append_lt_append_of_lt h _ _
  | cons _ ih =>
    rw [List.flatMap_cons, List.flatMap_cons]
    exact List.append_left_lt ih

/-- Texts are ordered as their UTF-8 forms are. -/
theorem lt_iff_bytes_lt {a b : String} : a < b ↔ bytes a < bytes b := by
  have hmono {a b : String} (h : a < b) : bytes a < bytes b := by
    rw [bytes_eq, bytes_eq]
    exact flatMap_lt_flatMap h
  constructor
  · exact hmono
  · intro h
    by_cases hsame : b = a
    · subst hsame
      exact absurd h (List.lt_irrefl _)
    · refine Decidable.byContradiction fun hlt => ?_
      exact List.lt_asymm (hmono (key_lt_trichotomy hlt hsame)) h

end Dataflow.Text
