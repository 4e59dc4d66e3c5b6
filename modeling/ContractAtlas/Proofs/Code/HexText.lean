import ContractAtlas.Code
import ContractAtlas.Proofs.Hex
import ContractAtlas.Proofs.Text.Trimming

/-! Code as hexadecimal text: which texts are read, as what, what stops the others, and how what was read is
written again. -/

namespace ContractAtlas.Code

def Stripped (text digits : List Char) : Prop :=
  ∃ inner, Text.Trims text inner ∧
    (inner = '0' :: 'x' :: digits ∨ ¬ ['0', 'x'] <+: inner ∧ digits = inner)

lemma digitsOf_of_mark {text digits : List Char} (h : Text.trim text = '0' :: 'x' :: digits) :
    digitsOf text = digits := by
  rw [digitsOf, h]
  rfl

lemma digitsOf_of_not_mark {text : List Char} (h : ¬ ['0', 'x'] <+: Text.trim text) :
    digitsOf text = Text.trim text := by
  rw [digitsOf]
  split
  · rename_i ds hmark
    exact absurd ⟨ds, hmark.symm⟩ h
  · rfl

lemma stripped_iff {text digits : List Char} : Stripped text digits ↔ digits = digitsOf text := by
  constructor
  · rintro ⟨inner, hinner, hmark⟩
    obtain rfl := hinner.eq_trim
    rcases hmark with hmark | ⟨hmark, rfl⟩
    · exact (digitsOf_of_mark hmark).symm
    · exact (digitsOf_of_not_mark hmark).symm
  · rintro rfl
    refine ⟨Text.trim text, Text.trims_trim text, ?_⟩
    by_cases hmark : ['0', 'x'] <+: Text.trim text
    · obtain ⟨ds, hds⟩ := hmark
      rw [digitsOf_of_mark hds.symm]
      exact .inl hds.symm
    · exact .inr ⟨hmark, digitsOf_of_not_mark hmark⟩

section Reading

variable {text : String} {c : Code} {bs : List UInt8}

lemma ofHex_of_spells (h : Hex.Spells (digitsOf text.toList) bs) : ofHex text = .ok ⟨bs⟩ := by
  rw [ofHex, h.decode_eq]

lemma spells_of_ofHex (h : ofHex text = .ok c) : Hex.Spells (digitsOf text.toList) c.bytes := by
  by_cases hs : ∃ bs, Hex.Spells (digitsOf text.toList) bs
  · obtain ⟨bs, hbs⟩ := hs
    rw [ofHex_of_spells hbs] at h
    cases h
    exact hbs
  · obtain ⟨fault, _, hfault⟩ := Hex.exists_stops hs
    rw [ofHex, hfault] at h
    cases h

lemma exists_ofHex_iff : (∃ c, ofHex text = .ok c) ↔ ∃ bs, Hex.Spells (digitsOf text.toList) bs := by
  constructor
  · rintro ⟨c, hc⟩
    exact ⟨c.bytes, spells_of_ofHex hc⟩
  · rintro ⟨bs, hbs⟩
    exact ⟨⟨bs⟩, ofHex_of_spells hbs⟩

end Reading

theorem ofHex_by_grammar :
    (∀ c : Code, ofHex c.toHex = .ok c) ∧
    ∀ text : String, ∃ ds, (∀ es, Stripped text.toList es ↔ es = ds) ∧
      ((∃ c, ofHex text = .ok c) ↔ ds.length % 2 = 0 ∧ ∀ d ∈ ds, Hex.IsDigit d) ∧
      (∀ c, ofHex text = .ok c →
        Hex.Spells ds c.bytes ∧ c.toHex = String.ofList ('0' :: 'x' :: ds.map Char.toLower)) ∧
      ((¬ ∃ c, ofHex text = .ok c) →
        ∃ fault, Hex.Stops (Text.utf8 ds) fault ∧ ofHex text = .error (.invalidCode fault)) := by
  refine ⟨ofHex_toHex, fun text => ⟨digitsOf text.toList, fun es => stripped_iff, ?_, fun c hc => ?_, ?_⟩⟩
  · rw [exists_ofHex_iff]
    constructor
    · rintro ⟨bs, hbs⟩
      exact ⟨hbs.even_length, hbs.isDigit⟩
    · rintro ⟨heven, hdigits⟩
      exact Hex.Spells.exists_of_isDigit heven hdigits
  · have hspells := spells_of_ofHex hc
    refine ⟨hspells, ?_⟩
    rw [toHex, Hex.prefixed, hspells.encode_eq]
  · intro hno
    rw [exists_ofHex_iff] at hno
    obtain ⟨fault, hstops, hfault⟩ := Hex.exists_stops hno
    exact ⟨fault, hstops, by rw [ofHex, hfault]⟩

/-- An odd number of characters may have an even number of bytes, and the mark is taken off once. -/
example : ofHex " 0x6Aé\n" = .error (.invalidCode (.badDigit 0xc3 2)) ∧
    ofHex "0x0x" = .error (.invalidCode (.badDigit 0x78 1)) := by
  decide

end ContractAtlas.Code
