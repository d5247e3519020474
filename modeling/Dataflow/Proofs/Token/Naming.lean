import Dataflow.Proofs.Token.Splitting
/-!
# Names in a text

Every token of a text is spelled somewhere in it (`exists_spelling_of_mem`). An identifier is therefore
a name of the token grammar (`isName_of_mem`), which has no dot in it.
-/

namespace Dataflow

open Text Lexeme

theorem Split.Proper.exists_spelling {s : Split} (hs : s.Proper) {before : List Char} {t : Token}
    (ht : t ∈ s.tokensBehind before) : ∃ cs, t.kind.Spelling cs := by
  induction s generalizing before with
  | last gap => cases ht
  | cut gap lexeme kind rest ih =>
    obtain ⟨-, hspelling, -, hrest⟩ := hs
    rcases List.mem_cons.1 ht with rfl | ht
    · exact ⟨lexeme, hspelling⟩
    · exact ih hrest ht

theorem exists_spelling_of_mem {language : Language} {source : String} {tokens : List Token}
    (h : tokenize language source = .ok tokens) {t : Token} (ht : t ∈ tokens) : ∃ cs, t.kind.Spelling cs := by
  obtain ⟨s, hs, -, rfl⟩ := exists_split_of_tokenize h
  exact hs.exists_spelling ht

theorem isName_of_spelling {name : String} {cs : List Char} (h : (TokenKind.identifier name).Spelling cs) :
    isName name = true := by
  cases h with
  | identifier hc hmore => exact isName_iff.2 ⟨_, _, String.toList_ofList, hc, hmore⟩

theorem isName_of_mem {language : Language} {source : String} {tokens : List Token}
    (h : tokenize language source = .ok tokens) {name : String} (hm : .identifier name ∈ tokens.map Token.kind) :
    isName name = true := by
  obtain ⟨t, ht, hkind⟩ := List.mem_map.1 hm
  obtain ⟨cs, hcs⟩ := exists_spelling_of_mem h ht
  rw [hkind] at hcs
  exact isName_of_spelling hcs

theorem extendsIdentifier_of_startsIdentifier {c : Char} (h : startsIdentifier c = true) :
    extendsIdentifier c = true := by
  rcases Bool.or_eq_true_iff.1 h with hletter | hunderscore
  · simp [extendsIdentifier, hletter]
  · simp [extendsIdentifier, hunderscore]

/-- Every character of an identifier could extend one. -/
theorem extendsIdentifier_of_mem {c d : Char} {more : List Char} (hc : startsIdentifier c = true)
    (hmore : ∀ d ∈ more, extendsIdentifier d = true) (h : d ∈ c :: more) : extendsIdentifier d = true := by
  rcases List.mem_cons.1 h with rfl | h
  · exact extendsIdentifier_of_startsIdentifier hc
  · exact hmore d h

theorem dot_not_mem_of_isName {name : String} (h : isName name = true) : '.' ∉ name.toList := by
  obtain ⟨c, more, hname, hc, hmore⟩ := isName_iff.1 h
  intro hdot
  rw [hname] at hdot
  have := extendsIdentifier_of_mem hc hmore hdot
  rw [not_extendsIdentifier_blank.2.2] at this
  cases this

end Dataflow
