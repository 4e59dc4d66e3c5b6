import ContractAtlas.Proofs.BigEndian
import ContractAtlas.Proofs.Storage.Field
import ContractAtlas.Proofs.Storage.Reading

/-! A scalar is the number that its own bytes spell. Where it lies, and whether it can be read at all, is
found out before storage is looked at; then one word is asked for, and of that no other byte counts. -/

namespace ContractAtlas

def Variable.bytesIn (v : Variable) (width : Nat) (w : Word) : List UInt8 :=
  (w.bytes.take (32 - v.offset.toNat)).drop (32 - v.offset.toNat - width)

namespace Layout

variable {l : Layout} {label : String} {v : Variable} {d : Descriptor}

structure Readable (l : Layout) (label : String) (v : Variable) (d : Descriptor) : Prop where
  first : v.label = label ∧ ∃ before after, l.vars = before ++ v :: after ∧ ∀ u ∈ before, u.label ≠ label
  described : l.types.get? v.type = some d
  inplace : d.encoding = .inplace
  narrow : d.width.toNat ≤ 32
  fits : v.offset.toNat + d.width.toNat ≤ 32

lemma locate_of_readable (h : l.Readable label v d) : l.locate label = .ok (v, d) := by
  have hf := Descriptor.fitsInWord_iff.mpr ⟨h.inplace, h.narrow⟩
  rw [locate_of_find? (find?_eq_some_iff.mpr h.first) h.described, if_pos hf,
    checkPacked_eq_ok_iff.mpr h.fits]
  rfl

lemma readable_of_locate (h : l.locate label = .ok (v, d)) : l.Readable label v d := by
  obtain ⟨u, hu, hrest⟩ := bind_eq_ok_iff.mp h
  obtain ⟨e, he, -⟩ := bind_eq_ok_iff.mp hrest
  rw [variableNamed_eq_ok_iff] at hu
  rw [descriptor_eq_ok_iff] at he
  rw [locate_of_find? hu he] at h
  split at h
  · rename_i hf
    obtain ⟨hin, hn⟩ := Descriptor.fitsInWord_iff.mp hf
    cases hp : checkPacked u e with
    | error f =>
      rw [hp] at h
      cases h
    | ok _ =>
      rw [hp] at h
      cases h
      exact ⟨find?_eq_some_iff.mp hu, he, hin, hn, checkPacked_eq_ok_iff.mp hp⟩
  · cases h

lemma Readable.readVariable_eq (h : l.Readable label v d) (source : Source) (address : Address) :
    source.readVariable address l label =
      .ok (Word.field (source.word address v.slot) v.offset d.width) := by
  rw [Source.readVariable_eq_map_locate, locate_of_readable h]
  rfl

lemma readVariable_answered_iff (source : Source) (address : Address) :
    Answered (source.readVariable address l label) ↔ ∃ v d, l.Readable label v d := by
  constructor
  · rintro ⟨x, hx⟩
    rw [Source.readVariable_eq_map_locate] at hx
    cases hl : l.locate label with
    | error f =>
      rw [hl] at hx
      cases hx
    | ok p => exact ⟨p.1, p.2, readable_of_locate hl⟩
  · rintro ⟨v, d, h⟩
    exact ⟨_, h.readVariable_eq source address⟩

lemma readVariable_eq_error_iff {source : Source} {address : Address} {f : Fault} :
    source.readVariable address l label = .error f ↔ l.locate label = .error f := by
  rw [Source.readVariable_eq_map_locate]
  cases l.locate label <;> simp [Except.map]

lemma length_bytesIn (h : v.offset.toNat + d.width.toNat ≤ 32) (w : Word) :
    (v.bytesIn d.width.toNat w).length = d.width.toNat := by
  rw [Variable.bytesIn, Word.bytes, slice_toBigEndian h, length_toBigEndian]

lemma toNat_field_eq (h : v.offset.toNat + d.width.toNat ≤ 32) (w : Word) :
    (Word.field w v.offset d.width).toNat = ofBigEndian (v.bytesIn d.width.toNat w) := by
  rw [Word.toNat_field, Variable.bytesIn, Word.bytes, slice_toBigEndian h, ofBigEndian_toBigEndian_mod]

lemma toNat_field_zero (offset width : UInt64) : (Word.field 0 offset width).toNat = 0 := by
  simp [Word.toNat_field]

lemma field_inj (h : v.offset.toNat + d.width.toNat ≤ 32) {w x : Word} :
    Word.field w v.offset d.width = Word.field x v.offset d.width ↔
      v.bytesIn d.width.toNat w = v.bytesIn d.width.toNat x := by
  have hlength : (v.bytesIn d.width.toNat w).length = (v.bytesIn d.width.toNat x).length := by
    rw [length_bytesIn h, length_bytesIn h]
  rw [← BitVec.toNat_inj, toNat_field_eq h, toNat_field_eq h, ofBigEndian_inj hlength]

theorem readVariable_own_bytes (l : Layout) (address : Address) (label : String) :
    (∀ source : Source, Answered (source.readVariable address l label) ↔ ∃ v d, l.Readable label v d) ∧
    (∀ v d, l.Readable label v d →
      (∀ source : Source, ∃ x, source.readVariable address l label = .ok x ∧
        x.toNat = (source address v.slot).elim 0 (fun w => ofBigEndian (v.bytesIn d.width.toNat w)) ∧
        x.toNat < 256 ^ d.width.toNat) ∧
      ∀ s t : Source, s.readVariable address l label = t.readVariable address l label ↔
        v.bytesIn d.width.toNat (s.word address v.slot) = v.bytesIn d.width.toNat (t.word address v.slot)) ∧
    ∀ (s t : Source) (f : Fault), s.readVariable address l label = .error f →
      t.readVariable address l label = .error f := by
  refine ⟨fun source => readVariable_answered_iff source address, fun v d h => ⟨?_, ?_⟩, ?_⟩
  · intro source
    refine ⟨_, h.readVariable_eq source address, ?_, ?_⟩
    · rw [Source.word]
      cases source address v.slot with
      | none => exact toNat_field_zero v.offset d.width
      | some w => exact toNat_field_eq h.fits w
    · rw [Word.toNat_field]
      exact Nat.mod_lt _ (Nat.pow_pos (by decide))
  · intro s t
    rw [h.readVariable_eq, h.readVariable_eq, Except.ok.injEq, field_inj h.fits]
  · intro s t f hf
    rw [readVariable_eq_error_iff] at hf ⊢
    exact hf

/-- A flag above an address, and another flag of its name. -/
def gate : Layout where
  vars := [⟨1, "Gate", "owner", 0, 3, "t_address"⟩, ⟨2, "Gate", "open", 20, 3, "t_bool"⟩,
    ⟨3, "Tower", "open", 21, 3, "t_bool"⟩]
  types :=
    { entries := [("t_address", ⟨.inplace, "address", 20, none, none, none, none⟩),
        ("t_bool", ⟨.inplace, "bool", 1, none, none, none, none⟩)]
      sorted := by decide }

lemma readable_gate :
    gate.Readable "open" ⟨2, "Gate", "open", 20, 3, "t_bool"⟩ ⟨.inplace, "bool", 1, none, none, none, none⟩ where
  first := ⟨rfl, [⟨1, "Gate", "owner", 0, 3, "t_address"⟩], [⟨3, "Tower", "open", 21, 3, "t_bool"⟩], rfl, by decide⟩
  described := rfl
  inplace := rfl
  narrow := by decide
  fits := by decide

theorem readVariable_own_bytes_gate :
    Source.readVariable (fun _ _ => some 0x0100000000000000000000000000000000000000ff) 7 gate "open" =
      Source.readVariable (fun _ _ => some 0xffff010000000000000000000000000000000000000000) 7 gate "open" :=
  (((readVariable_own_bytes gate 7 "open").2.1 _ _ readable_gate).2 _ _).mpr rfl

end Layout

end ContractAtlas
