import ContractAtlas.Proofs.Layout.Slots
import ContractAtlas.Storage
import Mathlib.Logic.Relation

/-! What the readers of storage answer, and that a checked layout never stops a query. -/

namespace ContractAtlas

lemma Descriptor.fitsInWord_iff {d : Descriptor} :
    d.fitsInWord = true ↔ d.encoding = .inplace ∧ d.width.toNat ≤ 32 := by
  rw [fitsInWord, Bool.and_eq_true, beq_iff_eq, decide_eq_true_eq, UInt64.le_iff_toNat_le]
  rfl

namespace Layout

variable {l : Layout} {label : String} {v : Variable} {d : Descriptor}

lemma variableNamed_eq_ok_iff : l.variableNamed label = .ok v ↔ l.find? label = some v := by
  rw [variableNamed]
  cases l.find? label <;> simp

def locate (l : Layout) (label : String) : Except Fault (Variable × Descriptor) := do
  let v ← l.variableNamed label
  let d ← l.descriptor v.type
  if !d.fitsInWord then .error (.notScalar label v.type)
  else do
    checkPacked v d
    return (v, d)

lemma locate_of_unknown (h : l.find? label = none) :
    l.locate label = .error (.unknownLabel (l.contractName?.getD "<empty layout>") label) := by
  rw [locate, variableNamed, h]
  rfl

lemma locate_of_find? (hv : l.find? label = some v) (hd : l.types.get? v.type = some d) :
    l.locate label = if d.fitsInWord then (checkPacked v d).map fun _ => (v, d)
      else .error (.notScalar label v.type) := by
  rw [locate, variableNamed_eq_ok_iff.mpr hv]
  simp only [bind, Except.bind, descriptor_eq_ok_iff.mpr hd]
  cases d.fitsInWord with
  | false => rfl
  | true => cases checkPacked v d <;> rfl

end Layout

namespace Source

variable {source : Source} {address : Address} {l : Layout} {label : String} {key : Word}

lemma readVariable_eq_map_locate : source.readVariable address l label = (l.locate label).map fun p =>
    Word.field (source.word address p.1.slot) p.1.offset p.2.width := by
  rw [readVariable, Layout.locate]
  cases l.variableNamed label with
  | error e => rfl
  | ok v =>
    simp only [bind, Except.bind]
    cases l.descriptor v.type with
    | error e => rfl
    | ok d =>
      dsimp only
      cases d.fitsInWord with
      | false => rfl
      | true => cases Layout.checkPacked v d <;> rfl

lemma readVariable_of_unknown (h : l.find? label = none) :
    source.readVariable address l label =
      .error (.unknownLabel (l.contractName?.getD "<empty layout>") label) := by
  rw [readVariable_eq_map_locate, Layout.locate_of_unknown h]
  rfl

lemma readVariable_of_find? {v : Variable} {d : Descriptor} (hv : l.find? label = some v)
    (hd : l.types.get? v.type = some d) : source.readVariable address l label =
      if d.fitsInWord then
        (Layout.checkPacked v d).map fun _ => Word.field (source.word address v.slot) v.offset d.width
      else .error (.notScalar label v.type) := by
  rw [readVariable_eq_map_locate, Layout.locate_of_find? hv hd]
  cases d.fitsInWord with
  | false => rfl
  | true => cases Layout.checkPacked v d <;> rfl

lemma readMapping_of_unknown (h : l.find? label = none) :
    source.readMapping address l label key =
      .error (.unknownLabel (l.contractName?.getD "<empty layout>") label) := by
  rw [readMapping, Layout.variableNamed, h]
  rfl

lemma readMapping_of_not_mapping {v : Variable} {d : Descriptor}
    (hv : l.find? label = some v) (hd : l.types.get? v.type = some d)
    (hm : d.isMapping = false ∨ d.value = none) :
    source.readMapping address l label key = .error (.notMapping label) := by
  rw [readMapping, Layout.variableNamed_eq_ok_iff.mpr hv]
  simp only [bind, Except.bind, Layout.descriptor_eq_ok_iff.mpr hd]
  rcases hm with hm | hm
  · rw [hm]
  · rw [hm]
    cases d.isMapping <;> rfl

lemma readMapping_of_mapping {v : Variable} {d value : Descriptor} {type : String}
    (hv : l.find? label = some v) (hd : l.types.get? v.type = some d) (hm : d.isMapping = true)
    (ht : d.value = some type) (hvalue : l.types.get? type = some value) :
    source.readMapping address l label key =
      if value.fitsInWord then
        .ok (Word.field (source.word address (mappingSlot key v.slot)) 0 value.width)
      else .error (.notScalar label type) := by
  rw [readMapping, Layout.variableNamed_eq_ok_iff.mpr hv]
  simp only [bind, Except.bind, Layout.descriptor_eq_ok_iff.mpr hd, hm, ht,
    Layout.descriptor_eq_ok_iff.mpr hvalue]
  cases value.fitsInWord <;> rfl

end Source

namespace Layout

def Refers (l : Layout) (a b : String) : Prop := ∃ d, l.types.get? a = some d ∧ d.Mentions b

def Answered {α : Type} (x : Except Fault α) : Prop := ∃ a, x = .ok a

lemma Closed.mem_of_refers {l : Layout} (h : l.Closed) {a b : String} (ha : a ∈ l.types.names)
    (hab : Relation.ReflTransGen l.Refers a b) : b ∈ l.types.names := by
  induction hab with
  | refl => exact ha
  | tail _ hstep _ =>
    obtain ⟨d, hd, hm⟩ := hstep
    exact h.ofTypes _ d _ hd hm

lemma Closed.get?_of_find? {l : Layout} (h : l.Closed) {label : String} {v : Variable}
    (hv : l.find? label = some v) : ∃ d, l.types.get? v.type = some d :=
  mem_names_iff.mp (h.ofVars v (List.mem_of_find?_eq_some hv))

lemma Packed.slotCount_answered {l : Layout} (h : l.Packed) : Answered l.slotCount := by
  obtain ⟨count, hcount, -⟩ := h.exists_slotCount
  exact ⟨count, hcount⟩

lemma Packed.readVariable_of_fits {l : Layout} (h : l.Packed) {label : String} {v : Variable}
    {d : Descriptor} (hv : l.find? label = some v) (hd : l.types.get? v.type = some d)
    (hf : d.fitsInWord = true) (source : Source) (address : Address) :
    source.readVariable address l label =
      .ok (Word.field (source.word address v.slot) v.offset d.width) := by
  have hle := (h.aligned v (List.mem_of_find?_eq_some hv)).1
  rw [width_of_get? hd] at hle
  rw [Source.readVariable_of_find? hv hd, if_pos hf,
    checkPacked_eq_ok_iff.mpr (hle (Descriptor.fitsInWord_iff.mp hf).2)]
  rfl

lemma Packed.readVariable_cases {l : Layout} (h : l.Packed) (source : Source) (address : Address)
    (label : String) : Answered (source.readVariable address l label) ∨
      (∃ contract, source.readVariable address l label = .error (.unknownLabel contract label)) ∨
      ∃ type, source.readVariable address l label = .error (.notScalar label type) := by
  cases hv : l.find? label with
  | none => exact .inr (.inl ⟨_, Source.readVariable_of_unknown hv⟩)
  | some v =>
    obtain ⟨d, hd⟩ := h.closed.get?_of_find? hv
    by_cases hf : d.fitsInWord = true
    · exact .inl ⟨_, h.readVariable_of_fits hv hd hf source address⟩
    · refine .inr (.inr ⟨v.type, ?_⟩)
      rw [Source.readVariable_of_find? hv hd, if_neg hf]

lemma Packed.readVariable_answered_iff {l : Layout} (h : l.Packed) (source : Source)
    (address : Address) (label : String) : Answered (source.readVariable address l label) ↔
      ∃ v d, l.find? label = some v ∧ l.types.get? v.type = some d ∧ d.fitsInWord = true := by
  constructor
  · rintro ⟨a, ha⟩
    cases hv : l.find? label with
    | none =>
      rw [Source.readVariable_of_unknown hv] at ha
      cases ha
    | some v =>
      obtain ⟨d, hd⟩ := h.closed.get?_of_find? hv
      refine ⟨v, d, rfl, hd, by_contra fun hf => ?_⟩
      rw [Source.readVariable_of_find? hv hd, if_neg hf] at ha
      cases ha
  · rintro ⟨v, d, hv, hd, hf⟩
    exact ⟨_, h.readVariable_of_fits hv hd hf source address⟩

lemma Closed.readMapping_cases {l : Layout} (h : l.Closed) (source : Source) (address : Address)
    (label : String) (key : Word) : Answered (source.readMapping address l label key) ∨
      (∃ contract, source.readMapping address l label key = .error (.unknownLabel contract label)) ∨
      source.readMapping address l label key = .error (.notMapping label) ∨
      ∃ type, source.readMapping address l label key = .error (.notScalar label type) := by
  cases hv : l.find? label with
  | none => exact .inr (.inl ⟨_, Source.readMapping_of_unknown hv⟩)
  | some v =>
    obtain ⟨d, hd⟩ := h.get?_of_find? hv
    cases hm : d.isMapping with
    | false => exact .inr (.inr (.inl (Source.readMapping_of_not_mapping hv hd (.inl hm))))
    | true =>
      cases ht : d.value with
      | none => exact .inr (.inr (.inl (Source.readMapping_of_not_mapping hv hd (.inr ht))))
      | some type =>
        have hmention : d.Mentions type := .inr (.inr (.inl ht))
        obtain ⟨value, hvalue⟩ := mem_names_iff.mp (h.ofTypes _ d _ hd hmention)
        by_cases hf : value.fitsInWord = true
        · refine .inl ⟨Word.field (source.word address (mappingSlot key v.slot)) 0 value.width, ?_⟩
          rw [Source.readMapping_of_mapping hv hd hm ht hvalue, if_pos hf]
        · refine .inr (.inr (.inr ⟨type, ?_⟩))
          rw [Source.readMapping_of_mapping hv hd hm ht hvalue, if_neg hf]

theorem queries_of_check_eq_ok {l : Layout} (h : l.check = .ok ()) :
    (∀ v ∈ l.vars, ∀ type, Relation.ReflTransGen l.Refers v.type type →
      Answered (l.descriptor type)) ∧
    Answered l.slotCount ∧
    ∀ (source : Source) (address : Address) (label : String),
      ((Answered (source.readVariable address l label) ∨
          (∃ contract, source.readVariable address l label = .error (.unknownLabel contract label)) ∨
          ∃ type, source.readVariable address l label = .error (.notScalar label type)) ∧
        (Answered (source.readVariable address l label) ↔
          ∃ v d, l.find? label = some v ∧ l.types.get? v.type = some d ∧ d.fitsInWord = true)) ∧
      ∀ key, Answered (source.readMapping address l label key) ∨
        (∃ contract, source.readMapping address l label key = .error (.unknownLabel contract label)) ∨
        source.readMapping address l label key = .error (.notMapping label) ∨
        ∃ type, source.readMapping address l label key = .error (.notScalar label type) := by
  have hp := packed_of_check h
  refine ⟨fun v hv type ht => ?_, hp.slotCount_answered, fun source address label => ⟨⟨?_, ?_⟩, ?_⟩⟩
  · obtain ⟨d, hd⟩ := mem_names_iff.mp (hp.closed.mem_of_refers (hp.closed.ofVars v hv) ht)
    exact ⟨d, descriptor_eq_ok_iff.mpr hd⟩
  · exact hp.readVariable_cases source address label
  · exact hp.readVariable_answered_iff source address label
  · exact hp.closed.readMapping_cases source address label

/-- The types of a node and of the mapping of its children lead to each other. -/
def forest : Layout where
  vars := [⟨1, "Forest", "owner", 0, 0, "t_address"⟩, ⟨2, "Forest", "roots", 0, 1, "t_children"⟩,
    ⟨3, "Forest", "first", 0, 2, "t_node"⟩]
  types :=
    { entries := [("t_address", ⟨.inplace, "address", 20, none, none, none, none⟩),
        ("t_children", ⟨.mapping, "mapping(address => Node)", 32, none, "t_address", "t_node", none⟩),
        ("t_node", ⟨.inplace, "struct Node", 64, none, none, none,
          some [⟨4, "Forest", "children", 0, 0, "t_children"⟩, ⟨5, "Forest", "owner", 0, 1, "t_address"⟩]⟩)]
      sorted := by decide }

theorem queries_of_forest :
    forest.check = .ok () ∧ Answered (forest.descriptor "t_children") ∧ Answered forest.slotCount ∧
      Answered (Memory.empty.read.readVariable 7 forest "owner") ∧
      ¬ Answered (Memory.empty.read.readVariable 7 forest "first") := by
  have hcheck : forest.check = .ok () := by rfl
  have hnode : forest.Refers "t_children" "t_node" := ⟨_, rfl, .inr (.inr (.inl rfl))⟩
  have hchildren : forest.Refers "t_node" "t_children" :=
    ⟨_, rfl, .inr (.inr (.inr ⟨_, rfl, _, .head _, rfl⟩))⟩
  obtain ⟨htypes, hcount, hread⟩ := queries_of_check_eq_ok hcheck
  refine ⟨hcheck, ?_, hcount, ?_, ?_⟩
  · exact htypes _ (.tail _ (.head _)) _ (.tail (.single hnode) hchildren)
  · exact (hread Memory.empty.read 7 "owner").1.2.mpr ⟨_, _, rfl, rfl, rfl⟩
  · rw [(hread Memory.empty.read 7 "first").1.2]
    rintro ⟨v, d, hv, hd, hf⟩
    cases hv
    cases hd
    cases hf

end Layout

end ContractAtlas
