import ContractAtlas.Proofs.Decimal.Digits
import ContractAtlas.Proofs.Json.Written
import ContractAtlas.Proofs.Layout.Members
import Mathlib.Tactic.MkIffOfInductiveProp

/-! The schema of layouts: which members every object must have and may have, and the field that each of them
gives. A text that writes its records as objects is read by this schema and by nothing else. -/

namespace ContractAtlas

open Json

variable {ms : List (String × Value)} {v w : Value}

namespace Json.Value

def IsCount (v : Value) (n : UInt64) : Prop :=
  ∃ digits, v = .number digits ∧ (∀ c ∈ digits, c.isDigit = true) ∧ Nat.ofDigitChars 10 digits 0 = n.toNat

def IsObject (v : Value) : Prop := ∃ ms, v = .object ms

def HoldsObjects (v : Value) : Prop := ∀ vs, v = .list vs → ∀ w ∈ vs, w.IsObject

lemma string?_eq_some_iff {s : String} : v.string? = some s ↔ v = .string s := by
  cases v <;> simp [string?]

lemma count?_eq_some_iff {n : UInt64} : v.count? = some n ↔ v.IsCount n := by
  cases v with
  | number digits =>
    simp only [count?, Number.count?, IsCount, number.injEq, exists_eq_left', List.all_eq_true,
      Option.ite_none_right_eq_some, Option.some.injEq]
    constructor
    · rintro ⟨⟨hd, hn⟩, rfl⟩
      exact ⟨hd, (UInt64.toNat_ofNat_of_lt' hn).symm⟩
    · rintro ⟨hd, hn⟩
      rw [hn]
      exact ⟨⟨hd, n.toNat_lt⟩, UInt64.ofNat_toNat⟩
  | _ => simp [count?, IsCount]

end Json.Value

namespace Decimal

def IsSlot (v : Value) (w : Word) : Prop :=
  ∃ s, v = .string s ∧ IsSlotText s.toList ∧ spelled s.toList = w.toNat

def SpellsSlot (v : Value) : Prop :=
  ∃ s, v = .string s ∧ IsSlotText s.toList ∧ spelled s.toList < 2 ^ 256

def IsByteCount (v : Value) (n : UInt64) : Prop :=
  ∃ s, v = .string s ∧ IsCountText s.toList ∧ spelled s.toList = n.toNat

def SpellsByteCount (v : Value) : Prop :=
  ∃ s, v = .string s ∧ IsCountText s.toList ∧ spelled s.toList < 2 ^ 64

lemma slot?_eq_some_iff {x : Word} : slot? v = some x ↔ IsSlot v x := by
  simp only [slot?, IsSlot, Option.bind_eq_some_iff, Value.string?_eq_some_iff, toOption_eq_some_iff,
    readSlot_eq_ok_iff]

lemma byteCount?_eq_some_iff {n : UInt64} : byteCount? v = some n ↔ IsByteCount v n := by
  simp only [byteCount?, IsByteCount, Option.bind_eq_some_iff, Value.string?_eq_some_iff,
    toOption_eq_some_iff, readCount_eq_ok_iff]

lemma exists_isSlot_iff : (∃ x, IsSlot v x) ↔ SpellsSlot v := by
  simp only [IsSlot, SpellsSlot, ← exists_readSlot_iff, ← readSlot_eq_ok_iff]
  rw [exists_comm]
  simp only [exists_and_left]

lemma exists_isByteCount_iff : (∃ n, IsByteCount v n) ↔ SpellsByteCount v := by
  simp only [IsByteCount, SpellsByteCount, ← exists_readCount_iff, ← readCount_eq_ok_iff]
  rw [exists_comm]
  simp only [exists_and_left]

end Decimal

namespace Encoding

def IsName (v : Value) (e : Encoding) : Prop := v = .string e.name ∨ v = .object [(e.name, .null)]

lemma ofName?_eq_some_iff {s : String} {e : Encoding} : ofName? s = some e ↔ s = e.name := by
  constructor
  · intro h
    have hs := List.find?_some h
    exact (beq_iff_eq.mp hs).symm
  · rintro rfl
    exact ofName?_name e

lemma unit?_eq_some_iff {u : Unit} : unit? v = some u ↔ v = .null := by
  cases v <;> simp [unit?]

lemma ofMembers?_eq_some_iff {e : Encoding} : ofMembers? ms = some e ↔ ms = [(e.name, .null)] := by
  cases ms with
  | nil => simp [ofMembers?]
  | cons m ms =>
    obtain ⟨k, v⟩ := m
    cases ms with
    | nil => simp [ofMembers?, Option.bind_eq_some_iff, ofName?_eq_some_iff, unit?_eq_some_iff, and_comm]
    | cons => simp [ofMembers?]

lemma ofValue?_eq_some_iff {e : Encoding} : ofValue? v = some e ↔ IsName v e := by
  cases v with
  | string s => simp [ofValue?, IsName, ofName?_eq_some_iff]
  | object ms => simp [ofValue?, IsName, ofMembers?_eq_some_iff]
  | _ => simp [ofValue?, IsName]

end Encoding

namespace Variable

@[mk_iff]
structure Describes (ms : List (String × Value)) (x : Variable) : Prop where
  astId : Once "astId" ms (Value.IsCount · x.astId)
  contract : Once "contract" ms (· = .string x.contract)
  label : Once "label" ms (· = .string x.label)
  offset : Once "offset" ms (Value.IsCount · x.offset)
  slot : Once "slot" ms (Decimal.IsSlot · x.slot)
  type : Once "type" ms (· = .string x.type)

structure Conforms (ms : List (String × Value)) : Prop where
  astId : Once "astId" ms fun v => ∃ n, Value.IsCount v n
  contract : Once "contract" ms fun v => ∃ s, v = .string s
  label : Once "label" ms fun v => ∃ s, v = .string s
  offset : Once "offset" ms fun v => ∃ n, Value.IsCount v n
  slot : Once "slot" ms Decimal.SpellsSlot
  type : Once "type" ms fun v => ∃ s, v = .string s

lemma exists_describes_iff : (∃ x, Describes ms x) ↔ Conforms ms := by
  have hslot : (∃ w, Once "slot" ms (Decimal.IsSlot · w)) ↔ Once "slot" ms Decimal.SpellsSlot :=
    exists_once_iff fun _ => Decimal.exists_isSlot_iff
  constructor
  · rintro ⟨x, h⟩
    exact ⟨exists_once.mp ⟨_, h.astId⟩, exists_once.mp ⟨_, h.contract⟩, exists_once.mp ⟨_, h.label⟩,
      exists_once.mp ⟨_, h.offset⟩, hslot.mp ⟨_, h.slot⟩, exists_once.mp ⟨_, h.type⟩⟩
  · intro h
    obtain ⟨astId, h₁⟩ := exists_once.mpr h.astId
    obtain ⟨contract, h₂⟩ := exists_once.mpr h.contract
    obtain ⟨label, h₃⟩ := exists_once.mpr h.label
    obtain ⟨offset, h₄⟩ := exists_once.mpr h.offset
    obtain ⟨slot, h₅⟩ := hslot.mpr h.slot
    obtain ⟨type, h₆⟩ := exists_once.mpr h.type
    exact ⟨⟨astId, contract, label, offset, slot, type⟩, h₁, h₂, h₃, h₄, h₅, h₆⟩

lemma ofMembers?_eq_some_iff_describes {x : Variable} : ofMembers? ms = some x ↔ Describes ms x := by
  rw [ofMembers?_eq_some_iff, describes_iff]
  simp only [Value.string?_eq_some_iff, Value.count?_eq_some_iff, Decimal.slot?_eq_some_iff]

lemma ofValue?_eq_some_iff (h : v.IsObject) {x : Variable} :
    ofValue? v = some x ↔ v.IsRecord Describes x := by
  obtain ⟨ms, rfl⟩ := h
  simp only [Value.IsRecord, Value.object.injEq, exists_eq_left']
  exact ofMembers?_eq_some_iff_describes

lemma all?_eq_some_iff (h : v.HoldsObjects) {xs : List Variable} :
    all? v = some xs ↔ v.IsList (Value.IsRecord Describes) xs := by
  rw [all?, list?_eq_some_iff]
  apply Value.IsList.congr
  intro vs hv w hw x
  exact ofValue?_eq_some_iff (h vs hv w hw)

lemma exists_isList_iff : (∃ xs, v.IsList (Value.IsRecord Describes) xs) ↔
    v.IsListOf (Value.IsObjectOf Conforms) := by
  simp only [Value.exists_isList, Value.exists_isRecord, exists_describes_iff]

end Variable

namespace Descriptor

@[mk_iff]
structure Describes (ms : List (String × Value)) (d : Descriptor) : Prop where
  encoding : Once "encoding" ms (Encoding.IsName · d.encoding)
  label : Once "label" ms (· = .string d.label)
  width : Once "numberOfBytes" ms (Decimal.IsByteCount · d.width)
  base : Held "base" ms (· = .string ·) d.base
  key : Held "key" ms (· = .string ·) d.key
  value : Held "value" ms (· = .string ·) d.value
  members : Held "members" ms (Value.IsList (Value.IsRecord Variable.Describes)) d.members

structure Conforms (ms : List (String × Value)) : Prop where
  encoding : Once "encoding" ms fun v => ∃ e, Encoding.IsName v e
  label : Once "label" ms fun v => ∃ s, v = .string s
  width : Once "numberOfBytes" ms Decimal.SpellsByteCount
  base : AtMostOnce "base" ms fun v => v = .null ∨ ∃ s, v = .string s
  key : AtMostOnce "key" ms fun v => v = .null ∨ ∃ s, v = .string s
  value : AtMostOnce "value" ms fun v => v = .null ∨ ∃ s, v = .string s
  members : AtMostOnce "members" ms fun v => v = .null ∨ v.IsListOf (Value.IsObjectOf Variable.Conforms)

def InObjects (ms : List (String × Value)) : Prop := ∀ v ∈ named "members" ms, v.HoldsObjects

lemma exists_describes_iff : (∃ d, Describes ms d) ↔ Conforms ms := by
  have hwidth : (∃ n, Once "numberOfBytes" ms (Decimal.IsByteCount · n)) ↔
      Once "numberOfBytes" ms Decimal.SpellsByteCount :=
    exists_once_iff fun _ => Decimal.exists_isByteCount_iff
  constructor
  · rintro ⟨d, h⟩
    refine ⟨exists_once.mp ⟨_, h.encoding⟩, exists_once.mp ⟨_, h.label⟩, hwidth.mp ⟨_, h.width⟩,
      exists_held.mp ⟨_, h.base⟩, exists_held.mp ⟨_, h.key⟩, exists_held.mp ⟨_, h.value⟩, ?_⟩
    simp only [← Variable.exists_isList_iff]
    exact exists_held.mp ⟨_, h.members⟩
  · intro h
    obtain ⟨encoding, h₁⟩ := exists_once.mpr h.encoding
    obtain ⟨label, h₂⟩ := exists_once.mpr h.label
    obtain ⟨width, h₃⟩ := hwidth.mpr h.width
    obtain ⟨base, h₄⟩ := exists_held.mpr h.base
    obtain ⟨key, h₅⟩ := exists_held.mpr h.key
    obtain ⟨value, h₆⟩ := exists_held.mpr h.value
    have h₇ := h.members
    simp only [← Variable.exists_isList_iff] at h₇
    obtain ⟨members, h₇⟩ := exists_held.mpr h₇
    exact ⟨⟨encoding, label, width, base, key, value, members⟩, h₁, h₂, h₃, h₄, h₅, h₆, h₇⟩

lemma ofMembers?_eq_some_iff_describes (h : InObjects ms) {d : Descriptor} :
    ofMembers? ms = some d ↔ Describes ms d := by
  have hmembers : Held "members" ms (Variable.all? · = some ·) d.members ↔
      Held "members" ms (Value.IsList (Value.IsRecord Variable.Describes)) d.members := by
    apply Held.congr
    intro v hv xs
    exact Variable.all?_eq_some_iff (h v hv)
  rw [ofMembers?_eq_some_iff, describes_iff, hmembers]
  simp only [Value.string?_eq_some_iff, Encoding.ofValue?_eq_some_iff, Decimal.byteCount?_eq_some_iff]

lemma ofValue?_eq_some_iff (h : v.IsObjectOf InObjects) {d : Descriptor} :
    ofValue? v = some d ↔ v.IsRecord Describes d := by
  obtain ⟨ms, rfl, h⟩ := h
  simp only [Value.IsRecord, Value.object.injEq, exists_eq_left']
  exact ofMembers?_eq_some_iff_describes h

lemma exists_isRecord_iff : (∃ d, v.IsRecord Describes d) ↔ v.IsObjectOf Conforms := by
  simp only [Value.exists_isRecord, exists_describes_iff]

end Descriptor

namespace Layout

@[mk_iff]
structure Describes (ms : List (String × Value)) (l : Layout) : Prop where
  vars : Once "storage" ms (Value.IsList (Value.IsRecord Variable.Describes) · l.vars)
  types : (named "types" ms = [] ∧ l.types = Table.empty) ∨
    Once "types" ms (Value.IsTable (Value.IsRecord Descriptor.Describes) · l.types)

structure Conforms (ms : List (String × Value)) : Prop where
  vars : Once "storage" ms (Value.IsListOf (Value.IsObjectOf Variable.Conforms))
  types : AtMostOnce "types" ms (Value.IsTableOf (Value.IsObjectOf Descriptor.Conforms))

structure InObjects (ms : List (String × Value)) : Prop where
  vars : ∀ v ∈ named "storage" ms, v.HoldsObjects
  types : ∀ v ∈ named "types" ms, ∀ ns, v = .object ns → ∀ m ∈ ns, m.2.IsObjectOf Descriptor.InObjects

variable (ho : InObjects ms)

include ho

lemma types?_eq_some_iff (hv : v ∈ named "types" ms) {t : Table Descriptor} :
    types? v = some t ↔ v.IsTable (Value.IsRecord Descriptor.Describes) t := by
  rw [types?, dictionary?_eq_some_iff]
  apply Value.IsTable.congr
  intro ns hns m hm d
  exact Descriptor.ofValue?_eq_some_iff (ho.types v hv ns hns m hm)

lemma exists_isTable_iff (hv : v ∈ named "types" ms) :
    (∃ t, v.IsTable (Value.IsRecord Descriptor.Describes) t) ↔
      v.IsTableOf (Value.IsObjectOf Descriptor.Conforms) := by
  simp only [← types?_eq_some_iff ho hv, types?, dictionary?_eq_some_iff, exists_isTable]
  refine exists_congr fun ns => and_congr_right fun hns => forall₂_congr fun m hm => ?_
  rw [← Descriptor.exists_isRecord_iff]
  exact exists_congr fun d => Descriptor.ofValue?_eq_some_iff (ho.types v hv ns hns m hm)

lemma ofMembers?_eq_some_iff_describes {l : Layout} : ofMembers? ms = some l ↔ Describes ms l := by
  rw [ofMembers?_eq_some_iff, describes_iff]
  refine and_congr ?_ (or_congr_right ?_)
  · exact Once.congr fun v hv => Variable.all?_eq_some_iff (ho.vars v hv)
  · exact Once.congr fun v hv => types?_eq_some_iff ho hv

lemma exists_describes_iff : (∃ l, Describes ms l) ↔ Conforms ms := by
  have hstorage : (∃ vars, Once "storage" ms (Value.IsList (Value.IsRecord Variable.Describes) · vars)) ↔
      Once "storage" ms (Value.IsListOf (Value.IsObjectOf Variable.Conforms)) :=
    exists_once_iff fun _ => Variable.exists_isList_iff
  constructor
  · rintro ⟨l, h⟩
    refine ⟨hstorage.mp ⟨_, h.vars⟩, h.types.imp And.left fun ⟨v, hv, ht⟩ => ⟨v, hv, ?_⟩⟩
    exact (exists_isTable_iff ho (hv ▸ .head _)).mp ⟨_, ht⟩
  · intro h
    obtain ⟨vars, hvars⟩ := hstorage.mpr h.vars
    rcases h.types with hn | ⟨v, hv, ht⟩
    · exact ⟨⟨vars, Table.empty⟩, hvars, .inl ⟨hn, rfl⟩⟩
    · obtain ⟨types, ht⟩ := (exists_isTable_iff ho (hv ▸ .head _)).mpr ht
      exact ⟨⟨vars, types⟩, hvars, .inr ⟨v, hv, ht⟩⟩

omit ho

theorem ofText_by_schema {s : String} (hs : IsText s.toList (.object ms)) (ho : InObjects ms) :
    ((∃ l, ofText s = .ok l) ↔ Conforms ms) ∧ (∀ l, ofText s = .ok l ↔ Describes ms l) ∧
      ∀ (t : String) (v : Value), Alike (.object ms) v → IsText t.toList v →
        ∀ l, ofText t = .ok l ↔ ofText s = .ok l := by
  have hread (l : Layout) : ofText s = .ok l ↔ Describes ms l :=
    (ofText_eq_ok_iff hs).trans (ofMembers?_eq_some_iff_describes ho)
  refine ⟨?_, hread, fun t v hv ht l => ?_⟩
  · simp only [hread]
    exact exists_describes_iff ho
  · rw [ofText_eq_ok_iff ht, ofText_eq_ok_iff hs, ofValue?_eq_of_alike hv]

def totalMembers : List (String × Value) :=
  [("astId", .ofNat 3), ("contract", .string "Vault"), ("label", .string "total"), ("offset", .ofNat 0),
    ("slot", .string "203"), ("type", .string "t_uint256")]

def uint256Members : List (String × Value) :=
  [("encoding", .string "inplace"), ("label", .string "uint256"), ("numberOfBytes", .string "32"), ("base", .null)]

def vaultMembers : List (String × Value) :=
  [("storage", .list [.object totalMembers]), ("types", .object [("t_uint256", .object uint256Members)])]

def vault : Layout where
  vars := [⟨3, "Vault", "total", 0, 203, "t_uint256"⟩]
  types :=
    { entries := [("t_uint256", ⟨.inplace, "uint256", 32, none, none, none, none⟩)]
      sorted := by simp }

/-- `vaultMembers` from back to front at every level, with members that no record knows. -/
def shuffled : List (String × Value) :=
  [("types", .object [("t_uint256", .object (("padding", .boolean false) :: uint256Members.reverse))]),
    ("compiler", .list [.null, .object []]),
    ("storage", .list [.object (("src", .string "Vault.sol") :: totalMembers.reverse)])]

lemma alike_shuffled : Alike (.object vaultMembers) (.object shuffled) := by
  have htotal : Variable.Alike (.object totalMembers)
      (.object (("src", .string "Vault.sol") :: totalMembers.reverse)) :=
    .members (.unknown (by decide) (.of_perm (fun _ _ => rfl) (List.reverse_perm _).symm))
  have hword : Descriptor.Alike (.object uint256Members)
      (.object (("padding", .boolean false) :: uint256Members.reverse)) :=
    .members (.unknown (by decide) (.of_perm Descriptor.Part.refl (List.reverse_perm _).symm))
  refine .members (.trans .swap (.member ?_ (.unknown (by decide) (.member ?_ .nil))))
  · exact .entries (.cons ⟨rfl, hword⟩ .nil)
  · exact .elements (.cons htotal .nil)

lemma proper_totalMembers : ∀ m ∈ totalMembers, m.2.Proper := by
  simp only [totalMembers, List.forall_mem_cons, List.not_mem_nil, false_imp_iff, implies_true, and_true]
  exact ⟨Value.proper_ofNat 3, .string, .string, Value.proper_ofNat 0, .string, .string⟩

lemma proper_uint256Members : ∀ m ∈ uint256Members, m.2.Proper := by
  simp only [uint256Members, List.forall_mem_cons, List.not_mem_nil, false_imp_iff, implies_true, and_true]
  exact ⟨.string, .string, .string, .null⟩

lemma proper_vaultMembers : (Value.object vaultMembers).Proper := by
  refine .object (List.forall_mem_cons.mpr ⟨.list ?_, List.forall_mem_singleton.mpr (.object ?_)⟩)
  · exact List.forall_mem_singleton.mpr (.object proper_totalMembers)
  · exact List.forall_mem_singleton.mpr (.object proper_uint256Members)

lemma proper_shuffled : (Value.object shuffled).Proper := by
  have htotal : ∀ m ∈ totalMembers.reverse, m.2.Proper := fun m hm =>
    proper_totalMembers m (List.mem_reverse.mp hm)
  have huint256 : ∀ m ∈ uint256Members.reverse, m.2.Proper := fun m hm =>
    proper_uint256Members m (List.mem_reverse.mp hm)
  refine .object (List.forall_mem_cons.mpr ⟨.object ?_, List.forall_mem_cons.mpr ⟨.list ?_,
    List.forall_mem_singleton.mpr (.list ?_)⟩⟩)
  · exact List.forall_mem_singleton.mpr (.object (List.forall_mem_cons.mpr ⟨.boolean, huint256⟩))
  · exact List.forall_mem_cons.mpr ⟨.null, List.forall_mem_singleton.mpr (.object nofun)⟩
  · exact List.forall_mem_singleton.mpr (.object (List.forall_mem_cons.mpr ⟨.string, htotal⟩))

lemma inObjects_vaultMembers : InObjects vaultMembers := by
  constructor
  · intro v hv vs hvs w hw
    obtain rfl := List.mem_singleton.mp hv
    cases hvs
    exact ⟨totalMembers, List.mem_singleton.mp hw⟩
  · intro v hv ns hns m hm
    obtain rfl := List.mem_singleton.mp hv
    cases hns
    obtain rfl := List.mem_singleton.mp hm
    exact ⟨uint256Members, rfl, nofun⟩

theorem ofText_by_schema_shuffled :
    Conforms vaultMembers ∧ Describes vaultMembers vault ∧
      ofText (String.ofList (Value.object vaultMembers).compact) = .ok vault ∧
      ofText (String.ofList ((Value.object shuffled).indented 0)) = .ok vault := by
  have hs : IsText (String.ofList (Value.object vaultMembers).compact).toList (.object vaultMembers) := by
    rw [String.toList_ofList]
    exact proper_vaultMembers.isText_compact
  have ht : IsText (String.ofList ((Value.object shuffled).indented 0)).toList (.object shuffled) := by
    rw [String.toList_ofList]
    exact proper_shuffled.isText_indented 0
  obtain ⟨hiff, hread, hsame⟩ := ofText_by_schema hs inObjects_vaultMembers
  have hvault : ofText (String.ofList (Value.object vaultMembers).compact) = .ok vault :=
    (ofText_eq_ok_iff hs).mpr rfl
  exact ⟨hiff.mp ⟨vault, hvault⟩, (hread vault).mp hvault, hvault,
    (hsame _ _ alike_shuffled ht vault).mpr hvault⟩

end Layout

end ContractAtlas
