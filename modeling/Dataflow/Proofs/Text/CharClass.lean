import Dataflow.Text.CharClass
import Mathlib.Data.List.Chain
/-!
# Character classes and their tables

A class looks a code point up in its table from the front and stops at the first range that starts
behind it. That finds every range that holds the code point as long as the ranges stand in order
(`inRanges_iff`), and those of every table do (`tables_in_order`). So a character is white space, or a
letter, exactly when some range of the table holds it.
-/

namespace Dataflow.Text

open CharTable

variable {n : Nat} {c : Char} {ranges : List (Nat × Nat)}

/-- The range `r` is not empty and ends before `s` starts. -/
def Precedes (r s : Nat × Nat) : Prop := r.1 ≤ r.2 ∧ r.2 < s.1

instance (r s : Nat × Nat) : Decidable (Precedes r s) := inferInstanceAs (Decidable (r.1 ≤ r.2 ∧ r.2 < s.1))

theorem Precedes.trans {r s t : Nat × Nat} (h : Precedes r s) (h' : Precedes s t) : Precedes r t :=
  ⟨h.1, (h.2.trans_le h'.1).trans h'.2⟩

instance : Trans Precedes Precedes Precedes := ⟨Precedes.trans⟩

/-- In a table whose ranges stand in order, the range that holds a number is found. -/
theorem inRanges_iff (h : ranges.IsChain Precedes) : inRanges n ranges = true ↔ ∃ r ∈ ranges, r.1 ≤ n ∧ n ≤ r.2 := by
  induction ranges with
  | nil => simp [inRanges]
  | cons r rest ih =>
    have hrest : ∀ s ∈ rest, Precedes r s := (List.pairwise_cons.1 (List.isChain_iff_pairwise.1 h)).1
    simp only [inRanges, List.mem_cons, exists_eq_or_imp]
    split
    · next hbelow =>
      -- The number lies below all ranges, because each later one starts behind `r`.
      have hlater : ∀ s ∈ rest, ¬ (s.1 ≤ n ∧ n ≤ s.2) := by
        intro s hs hn
        have := hrest s hs
        unfold Precedes at this
        omega
      simp only [Bool.false_eq_true, false_iff, not_or, not_exists, not_and]
      exact ⟨by omega, fun s hs hlow hhigh => hlater s hs ⟨hlow, hhigh⟩⟩
    · next habove =>
      rw [Bool.or_eq_true, decide_eq_true_eq, ih h.tail]
      have hlow : r.1 ≤ n := by omega
      simp only [hlow, true_and]

theorem tables_in_order : ∀ table ∈ [whiteSpace, alphabetic, numeric, unprintable], table.IsChain Precedes := by
  decide +kernel

theorem isBlank_iff : isBlank c = true ↔ ∃ r ∈ whiteSpace, r.1 ≤ c.toNat ∧ c.toNat ≤ r.2 :=
  inRanges_iff (tables_in_order whiteSpace (by simp))

theorem isLetter_iff : isLetter c = true ↔ ∃ r ∈ alphabetic, r.1 ≤ c.toNat ∧ c.toNat ≤ r.2 :=
  inRanges_iff (tables_in_order alphabetic (by simp))

end Dataflow.Text
