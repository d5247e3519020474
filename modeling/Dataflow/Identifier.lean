import Dataflow.Json.Printer
/-!
# Identifiers

Universally unique identifiers: `isIdentifier` recognises their written forms, and
`identifierText` writes the random (version 4) identifier that a number stands for.

The program leaves both to a library, and what that documents is followed here. Read are 32 hexadecimal
digits of either case, bare or in hyphenated groups of 8, 4, 4, 4 and 12, the hyphenated form also in
braces or behind `urn:uuid:`. Nothing may stand around them, blanks included, and no version or variant
is asked for. Written is the hyphenated form, in lower case, with version 4 and the variant bits `10`.
-/

namespace Dataflow

/-- Whether the text has this many hexadecimal digits and nothing else. -/
def isHexGroup (width : Nat) (cs : List Char) : Bool :=
  cs.length == width && cs.all fun c => (Text.hexValue? c).isSome

/-- The hyphenated form: groups of 8, 4, 4, 4 and 12 digits. -/
def isHyphenated (cs : List Char) : Bool :=
  cs.length == 36 &&
  isHexGroup 8 (cs.take 8) && cs[8]? == some '-' &&
  isHexGroup 4 ((cs.drop 9).take 4) && cs[13]? == some '-' &&
  isHexGroup 4 ((cs.drop 14).take 4) && cs[18]? == some '-' &&
  isHexGroup 4 ((cs.drop 19).take 4) && cs[23]? == some '-' &&
  isHexGroup 12 (cs.drop 24)

/-- Whether the text is the announcement of an identifier, in either case. -/
def isIdentifierScheme (cs : List Char) : Bool := cs.map Char.toLower == "urn:uuid:".toList

/-- The forms of an identifier: 32 digits, hyphenated, hyphenated in braces, or announced by its scheme. -/
def isIdentifier (text : String) : Bool :=
  let cs := text.toList
  isHexGroup 32 cs || isHyphenated cs ||
  (cs.head? == some '{' && cs.getLast? == some '}' && isHyphenated (cs.drop 1).dropLast) ||
  (isIdentifierScheme (cs.take 9) && isHyphenated (cs.drop 9))

/-- The last `width` hexadecimal digits of `n`, lower case. -/
def hexFixed : Nat → Nat → List Char
  | 0, _ => []
  | width + 1, n => hexFixed width (n / 16) ++ [Nat.digitChar (n % 16)]

/-- How many random identifiers there are: 122 of their bits are free. -/
def identifierCount : Nat := 0x4000000000000000000000000000000

/-- The hyphenated text of the random identifier whose 122 free bits are those of `n`. -/
def identifierText (n : Nat) : String :=
  let low := n % 0x4000000000000000
  let middle := n / 0x4000000000000000
  let high := middle / 0x1000
  String.ofList (hexFixed 8 (high / 0x10000) ++ '-' :: hexFixed 4 high ++ '-' ::
    '4' :: hexFixed 3 middle ++ '-' :: hexFixed 4 (0x8000 + low / 0x1000000000000) ++ '-' ::
    hexFixed 12 low)

/-! ## What is written is recognised -/

theorem hexValue?_digitChar {d : Nat} (h : d < 16) : (Text.hexValue? (Nat.digitChar d)).isSome = true := by
  revert d
  decide

theorem isHexGroup_append {m n : Nat} {cs ds : List Char} (hc : isHexGroup m cs = true) (hd : isHexGroup n ds = true) :
    isHexGroup (m + n) (cs ++ ds) = true := by
  simp only [isHexGroup, Bool.and_eq_true, beq_iff_eq] at *
  simp [hc, hd]

theorem isHexGroup_hexFixed (width n : Nat) : isHexGroup width (hexFixed width n) = true := by
  induction width generalizing n with
  | zero => rfl
  | succ width ih =>
    refine isHexGroup_append (ih _) ?_
    simpa [isHexGroup] using hexValue?_digitChar (Nat.mod_lt n (by decide))

theorem isHyphenated_groups {a b c d e : List Char} (ha : isHexGroup 8 a = true) (hb : isHexGroup 4 b = true)
    (hc : isHexGroup 4 c = true) (hd : isHexGroup 4 d = true) (he : isHexGroup 12 e = true) :
    isHyphenated (a ++ '-' :: b ++ '-' :: c ++ '-' :: d ++ '-' :: e) = true := by
  have length_eq {width cs} (h : isHexGroup width cs = true) : cs.length = width := by
    simp only [isHexGroup, Bool.and_eq_true, beq_iff_eq] at h
    exact h.1
  have la := length_eq ha
  have lb := length_eq hb
  have lc := length_eq hc
  have ld := length_eq hd
  simp [isHyphenated, List.drop_append, List.drop_eq_nil_of_le, la, lb, lc, ld, length_eq he, ha, hb, hc, hd, he]

theorem isIdentifier_identifierText (n : Nat) : isIdentifier (identifierText n) = true := by
  have hversion (n : Nat) : isHexGroup 4 ('4' :: hexFixed 3 n) = true :=
    isHexGroup_append (show isHexGroup 1 ['4'] = true by decide) (isHexGroup_hexFixed 3 n)
  have h : isHyphenated (identifierText n).toList = true := by
    unfold identifierText
    rw [String.toList_ofList]
    exact isHyphenated_groups (isHexGroup_hexFixed 8 _) (isHexGroup_hexFixed 4 _) (hversion _) (isHexGroup_hexFixed 4 _)
      (isHexGroup_hexFixed 12 _)
  simp [isIdentifier, h]

example : identifierText 0 = "00000000-0000-4000-8000-000000000000" := by decide +kernel
example : isIdentifier (identifierText (identifierCount - 1)) = true := by decide +kernel
example : isIdentifier "" = false := by decide +kernel

end Dataflow
