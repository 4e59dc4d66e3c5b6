import ContractAtlas.Proofs.Json.Rearranged
import ContractAtlas.Proofs.Layout.Decoding

namespace ContractAtlas

open Json

variable {ms ns : List (String × Value)} {v w : Value}

namespace Variable

def fields : List String := ["astId", "contract", "label", "offset", "slot", "type"]

lemma Draft.put_eq_some_iff {m : String × Value} {d e : Draft} : Draft.put m.1 d m.2 = some e ↔
    takeOne Value.count? "astId" d.astId m = some e.astId ∧
      takeOne Value.string? "contract" d.contract m = some e.contract ∧
      takeOne Value.string? "label" d.label m = some e.label ∧
      takeOne Value.count? "offset" d.offset m = some e.offset ∧
      takeOne Decimal.slot? "slot" d.slot m = some e.slot ∧
      takeOne Value.string? "type" d.type m = some e.type := by
  obtain ⟨k, v⟩ := m
  obtain ⟨_, _, _, _, _, _⟩ := d
  obtain ⟨_, _, _, _, _, _⟩ := e
  unfold put
  split <;> simp_all [takeOne, Option.map_eq_some_iff, and_left_comm]

lemma Draft.foldlM_put_eq_some_iff {d e : Draft} :
    ms.foldlM (fun d m => Draft.put m.1 d m.2) d = some e ↔
      gather Value.count? "astId" d.astId ms = some e.astId ∧
        gather Value.string? "contract" d.contract ms = some e.contract ∧
        gather Value.string? "label" d.label ms = some e.label ∧
        gather Value.count? "offset" d.offset ms = some e.offset ∧
        gather Decimal.slot? "slot" d.slot ms = some e.slot ∧
        gather Value.string? "type" d.type ms = some e.type := by
  -- a member changes one part of the draft, so the one fold is a fold for each name
  induction ms generalizing d with
  | nil =>
    obtain ⟨_, _, _, _, _, _⟩ := d
    obtain ⟨_, _, _, _, _, _⟩ := e
    simp [gather]
  | cons m ms ih =>
    simp only [List.foldlM_cons, Option.bind_eq_bind, Option.bind_eq_some_iff, put_eq_some_iff, ih,
      gather_cons_eq_some_iff]
    constructor
    · rintro ⟨_, ⟨h₁, h₂, h₃, h₄, h₅, h₆⟩, g₁, g₂, g₃, g₄, g₅, g₆⟩
      exact ⟨⟨_, h₁, g₁⟩, ⟨_, h₂, g₂⟩, ⟨_, h₃, g₃⟩, ⟨_, h₄, g₄⟩, ⟨_, h₅, g₅⟩, ⟨_, h₆, g₆⟩⟩
    · rintro ⟨⟨a₁, h₁, g₁⟩, ⟨a₂, h₂, g₂⟩, ⟨a₃, h₃, g₃⟩, ⟨a₄, h₄, g₄⟩, ⟨a₅, h₅, g₅⟩, ⟨a₆, h₆, g₆⟩⟩
      exact ⟨⟨a₁, a₂, a₃, a₄, a₅, a₆⟩, ⟨h₁, h₂, h₃, h₄, h₅, h₆⟩, g₁, g₂, g₃, g₄, g₅, g₆⟩

lemma Draft.finish?_eq_some_iff {d : Draft} {x : Variable} : d.finish? = some x ↔
    d.astId = some x.astId ∧ d.contract = some x.contract ∧ d.label = some x.label ∧
      d.offset = some x.offset ∧ d.slot = some x.slot ∧ d.type = some x.type := by
  simp only [finish?, Option.bind_eq_bind, Option.bind_eq_some_iff, Option.pure_def, Option.some.injEq]
  constructor
  · rintro ⟨_, h₁, _, h₂, _, h₃, _, h₄, _, h₅, _, h₆, rfl⟩
    exact ⟨h₁, h₂, h₃, h₄, h₅, h₆⟩
  · rintro ⟨h₁, h₂, h₃, h₄, h₅, h₆⟩
    exact ⟨_, h₁, _, h₂, _, h₃, _, h₄, _, h₅, _, h₆, rfl⟩

lemma ofMembers?_eq_some_iff {x : Variable} : ofMembers? ms = some x ↔
    Once "astId" ms (Value.count? · = some x.astId) ∧
      Once "contract" ms (Value.string? · = some x.contract) ∧
      Once "label" ms (Value.string? · = some x.label) ∧
      Once "offset" ms (Value.count? · = some x.offset) ∧
      Once "slot" ms (Decimal.slot? · = some x.slot) ∧
      Once "type" ms (Value.string? · = some x.type) := by
  simp only [ofMembers?, Option.bind_eq_some_iff, Draft.foldlM_put_eq_some_iff, Draft.finish?_eq_some_iff,
    ← gather_eq_some_some_iff]
  constructor
  · rintro ⟨_, hg, h₁, h₂, h₃, h₄, h₅, h₆⟩
    rwa [h₁, h₂, h₃, h₄, h₅, h₆] at hg
  · intro hg
    exact ⟨⟨_, _, _, _, _, _⟩, hg, rfl, rfl, rfl, rfl, rfl, rfl⟩

def Alike : Value → Value → Prop := RecordAlike fields fun _ => Eq

lemma ofValue?_eq_of_alike (h : Alike v w) : ofValue? v = ofValue? w := by
  cases h with
  | same => rfl
  | members h =>
    have hperm {β : Type} {name : String} (hname : name ∈ fields) (f : Value → β) :=
      h.perm_named hname (f := f) fun _ _ he => congrArg f he
    apply Option.ext
    intro x
    change ofMembers? _ = some x ↔ ofMembers? _ = some x
    rw [ofMembers?_eq_some_iff, ofMembers?_eq_some_iff]
    refine and_congr ?_ (and_congr ?_ (and_congr ?_ (and_congr ?_ (and_congr ?_ ?_))))
    all_goals exact once_congr_of_perm (hperm (by decide) _) _

end Variable

namespace Descriptor

def fields : List String := ["encoding", "label", "numberOfBytes", "base", "key", "value", "members"]

lemma Draft.put_eq_some_iff {m : String × Value} {d e : Draft} : Draft.put m.1 d m.2 = some e ↔
    takeOne Encoding.ofValue? "encoding" d.encoding m = some e.encoding ∧
      takeOne Value.string? "label" d.label m = some e.label ∧
      takeOne Decimal.byteCount? "numberOfBytes" d.width m = some e.width ∧
      takeOne (Value.optional? Value.string?) "base" d.base m = some e.base ∧
      takeOne (Value.optional? Value.string?) "key" d.key m = some e.key ∧
      takeOne (Value.optional? Value.string?) "value" d.value m = some e.value ∧
      takeOne (Value.optional? Variable.all?) "members" d.members m = some e.members := by
  obtain ⟨k, v⟩ := m
  obtain ⟨_, _, _, _, _, _, _⟩ := d
  obtain ⟨_, _, _, _, _, _, _⟩ := e
  unfold put
  split <;> simp_all [takeOne, Option.map_eq_some_iff, and_left_comm]

lemma Draft.foldlM_put_eq_some_iff {d e : Draft} :
    ms.foldlM (fun d m => Draft.put m.1 d m.2) d = some e ↔
      gather Encoding.ofValue? "encoding" d.encoding ms = some e.encoding ∧
        gather Value.string? "label" d.label ms = some e.label ∧
        gather Decimal.byteCount? "numberOfBytes" d.width ms = some e.width ∧
        gather (Value.optional? Value.string?) "base" d.base ms = some e.base ∧
        gather (Value.optional? Value.string?) "key" d.key ms = some e.key ∧
        gather (Value.optional? Value.string?) "value" d.value ms = some e.value ∧
        gather (Value.optional? Variable.all?) "members" d.members ms = some e.members := by
  induction ms generalizing d with
  | nil =>
    obtain ⟨_, _, _, _, _, _, _⟩ := d
    obtain ⟨_, _, _, _, _, _, _⟩ := e
    simp [gather]
  | cons m ms ih =>
    simp only [List.foldlM_cons, Option.bind_eq_bind, Option.bind_eq_some_iff, put_eq_some_iff, ih,
      gather_cons_eq_some_iff]
    constructor
    · rintro ⟨_, ⟨h₁, h₂, h₃, h₄, h₅, h₆, h₇⟩, g₁, g₂, g₃, g₄, g₅, g₆, g₇⟩
      exact ⟨⟨_, h₁, g₁⟩, ⟨_, h₂, g₂⟩, ⟨_, h₃, g₃⟩, ⟨_, h₄, g₄⟩, ⟨_, h₅, g₅⟩, ⟨_, h₆, g₆⟩, ⟨_, h₇, g₇⟩⟩
    · rintro ⟨⟨a₁, h₁, g₁⟩, ⟨a₂, h₂, g₂⟩, ⟨a₃, h₃, g₃⟩, ⟨a₄, h₄, g₄⟩, ⟨a₅, h₅, g₅⟩, ⟨a₆, h₆, g₆⟩,
        ⟨a₇, h₇, g₇⟩⟩
      exact ⟨⟨a₁, a₂, a₃, a₄, a₅, a₆, a₇⟩, ⟨h₁, h₂, h₃, h₄, h₅, h₆, h₇⟩, g₁, g₂, g₃, g₄, g₅, g₆, g₇⟩

lemma Draft.finish?_eq_some_iff {d : Draft} {x : Descriptor} : d.finish? = some x ↔
    d.encoding = some x.encoding ∧ d.label = some x.label ∧ d.width = some x.width ∧
      d.base.join = x.base ∧ d.key.join = x.key ∧ d.value.join = x.value ∧ d.members.join = x.members := by
  simp only [finish?, Option.bind_eq_bind, Option.bind_eq_some_iff, Option.pure_def, Option.some.injEq]
  constructor
  · rintro ⟨_, h₁, _, h₂, _, h₃, rfl⟩
    exact ⟨h₁, h₂, h₃, rfl, rfl, rfl, rfl⟩
  · rintro ⟨h₁, h₂, h₃, h₄, h₅, h₆, h₇⟩
    refine ⟨_, h₁, _, h₂, _, h₃, ?_⟩
    rw [h₄, h₅, h₆, h₇]

lemma ofMembers?_eq_some_iff {x : Descriptor} : ofMembers? ms = some x ↔
    Once "encoding" ms (Encoding.ofValue? · = some x.encoding) ∧
      Once "label" ms (Value.string? · = some x.label) ∧
      Once "numberOfBytes" ms (Decimal.byteCount? · = some x.width) ∧
      Held "base" ms (Value.string? · = some ·) x.base ∧
      Held "key" ms (Value.string? · = some ·) x.key ∧
      Held "value" ms (Value.string? · = some ·) x.value ∧
      Held "members" ms (Variable.all? · = some ·) x.members := by
  have hstring : Value.string? .null = none := rfl
  have hlist : Variable.all? .null = none := rfl
  simp only [ofMembers?, Option.bind_eq_some_iff, Draft.foldlM_put_eq_some_iff, Draft.finish?_eq_some_iff,
    ← gather_eq_some_some_iff, ← exists_gather_join hstring, ← exists_gather_join hlist]
  constructor
  · rintro ⟨_, ⟨g₁, g₂, g₃, g₄, g₅, g₆, g₇⟩, h₁, h₂, h₃, h₄, h₅, h₆, h₇⟩
    exact ⟨h₁ ▸ g₁, h₂ ▸ g₂, h₃ ▸ g₃, ⟨_, g₄, h₄⟩, ⟨_, g₅, h₅⟩, ⟨_, g₆, h₆⟩, ⟨_, g₇, h₇⟩⟩
  · rintro ⟨g₁, g₂, g₃, ⟨b₄, g₄, h₄⟩, ⟨b₅, g₅, h₅⟩, ⟨b₆, g₆, h₆⟩, ⟨b₇, g₇, h₇⟩⟩
    exact ⟨⟨_, _, _, b₄, b₅, b₆, b₇⟩, ⟨g₁, g₂, g₃, g₄, g₅, g₆, g₇⟩, rfl, rfl, rfl, h₄, h₅, h₆, h₇⟩

def Part : String → Value → Value → Prop
  | "members" => ListAlike Variable.Alike
  | _ => Eq

def Alike : Value → Value → Prop := RecordAlike fields Part

lemma Part.refl (name : String) (v : Value) : Part name v v := by
  unfold Part
  split
  · exact .same
  · rfl

lemma Part.eq {name : String} (hname : name ≠ "members") (h : Part name v w) : v = w := by
  unfold Part at h
  split at h
  · exact absurd rfl hname
  · exact h

lemma Part.members_eq (h : Part "members" v w) :
    Value.optional? Variable.all? v = Value.optional? Variable.all? w := by
  have ha : ListAlike Variable.Alike v w := h
  apply optional?_eq_of_alike _ ha
  exact fun _ _ => Variable.ofValue?_eq_of_alike

lemma ofValue?_eq_of_alike (h : Alike v w) : ofValue? v = ofValue? w := by
  cases h with
  | same => rfl
  | members h =>
    have hperm {β : Type} {name : String} (hname : name ∈ fields) (hne : name ≠ "members") (f : Value → β) :=
      h.perm_named hname (f := f) fun _ _ he => congrArg f (he.eq hne)
    have hmembers := h.perm_named (show "members" ∈ fields by decide) fun _ _ => Part.members_eq
    apply Option.ext
    intro x
    change ofMembers? _ = some x ↔ ofMembers? _ = some x
    rw [ofMembers?_eq_some_iff, ofMembers?_eq_some_iff]
    refine and_congr ?_ (and_congr ?_ (and_congr ?_ (and_congr ?_ (and_congr ?_ (and_congr ?_ ?_)))))
    iterate 3 exact once_congr_of_perm (hperm (by decide) (by decide) _) _
    iterate 3 exact held_congr_of_perm rfl (hperm (by decide) (by decide) _) _
    exact held_congr_of_perm rfl hmembers _

end Descriptor

namespace Layout

def fields : List String := ["storage", "types"]

lemma Draft.put_eq_some_iff {m : String × Value} {d e : Draft} : Draft.put m.1 d m.2 = some e ↔
    takeOne Variable.all? "storage" d.vars m = some e.vars ∧
      takeOne types? "types" d.types m = some e.types := by
  obtain ⟨k, v⟩ := m
  obtain ⟨_, _⟩ := d
  obtain ⟨_, _⟩ := e
  unfold put
  split <;> simp_all [takeOne, Option.map_eq_some_iff, and_left_comm]

lemma Draft.foldlM_put_eq_some_iff {d e : Draft} :
    ms.foldlM (fun d m => Draft.put m.1 d m.2) d = some e ↔
      gather Variable.all? "storage" d.vars ms = some e.vars ∧
        gather types? "types" d.types ms = some e.types := by
  induction ms generalizing d with
  | nil =>
    obtain ⟨_, _⟩ := d
    obtain ⟨_, _⟩ := e
    simp [gather]
  | cons m ms ih =>
    simp only [List.foldlM_cons, Option.bind_eq_bind, Option.bind_eq_some_iff, put_eq_some_iff, ih,
      gather_cons_eq_some_iff]
    constructor
    · rintro ⟨_, ⟨h₁, h₂⟩, g₁, g₂⟩
      exact ⟨⟨_, h₁, g₁⟩, ⟨_, h₂, g₂⟩⟩
    · rintro ⟨⟨a₁, h₁, g₁⟩, ⟨a₂, h₂, g₂⟩⟩
      exact ⟨⟨a₁, a₂⟩, ⟨h₁, h₂⟩, g₁, g₂⟩

lemma ofMembers?_eq_some_iff {l : Layout} : ofMembers? ms = some l ↔
    Once "storage" ms (Variable.all? · = some l.vars) ∧
      ((named "types" ms = [] ∧ l.types = Table.empty) ∨ Once "types" ms (types? · = some l.types)) := by
  obtain ⟨vars, types⟩ := l
  simp only [ofMembers?, Option.bind_eq_some_iff, Draft.foldlM_put_eq_some_iff, Draft.finish?,
    Option.map_eq_some_iff, Layout.mk.injEq]
  rw [← exists_gather_getD, ← gather_eq_some_some_iff]
  constructor
  · rintro ⟨_, ⟨g₁, g₂⟩, _, h, rfl, ht⟩
    exact ⟨h ▸ g₁, _, g₂, ht⟩
  · rintro ⟨g₁, types, g₂, ht⟩
    exact ⟨⟨_, types⟩, ⟨g₁, g₂⟩, _, rfl, rfl, ht⟩

def Part : String → Value → Value → Prop
  | "storage" => ListAlike Variable.Alike
  | "types" => TableAlike Descriptor.Alike
  | _ => Eq

def Alike : Value → Value → Prop := RecordAlike fields Part

lemma Part.storage_eq (h : Part "storage" v w) : Variable.all? v = Variable.all? w := by
  have ha : ListAlike Variable.Alike v w := h
  apply list?_eq_of_alike _ ha
  exact fun _ _ => Variable.ofValue?_eq_of_alike

lemma Part.types_eq (h : Part "types" v w) : types? v = types? w := by
  have ha : TableAlike Descriptor.Alike v w := h
  apply dictionary?_eq_of_alike _ _ _ ha
  exact fun _ _ => Descriptor.ofValue?_eq_of_alike

lemma ofValue?_eq_of_alike (h : Alike v w) : ofValue? v = ofValue? w := by
  cases h with
  | same => rfl
  | members h =>
    have hvars := h.perm_named (show "storage" ∈ fields by decide) fun _ _ => Part.storage_eq
    have htypes := h.perm_named (show "types" ∈ fields by decide) fun _ _ => Part.types_eq
    apply Option.ext
    intro x
    change ofMembers? _ = some x ↔ ofMembers? _ = some x
    rw [ofMembers?_eq_some_iff, ofMembers?_eq_some_iff, named_eq_nil_congr htypes,
      once_congr_of_perm hvars, once_congr_of_perm htypes]

end Layout

end ContractAtlas
