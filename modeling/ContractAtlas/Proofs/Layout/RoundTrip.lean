import ContractAtlas.Layout.Printer
import ContractAtlas.Proofs.Decimal.Digits
import ContractAtlas.Proofs.Json.Written
import ContractAtlas.Proofs.Layout.Decoding
import ContractAtlas.Proofs.Table

namespace ContractAtlas

open Json

section Values

variable {α σ : Type} {decode : Value → Option α} {encode : α → Value}

lemma Json.Value.list?_map (h : ∀ a, decode (encode a) = some a) (as : List α) :
    list? decode (.list (as.map encode)) = some as := by
  rw [list?]
  induction as with
  | nil => rfl
  | cons a as ih =>
    rw [List.map_cons, List.mapM_cons, h, ih]
    rfl

lemma Json.Value.dictionary?_map (h : ∀ a, decode (encode a) = some a) (add : σ → String → α → σ)
    (es : List (String × α)) (start : σ) :
    dictionary? decode add start (.object (es.map fun e => (e.1, encode e.2))) =
      some (es.foldl (fun acc e => add acc e.1 e.2) start) := by
  rw [dictionary?]
  induction es generalizing start with
  | nil => rfl
  | cons e es ih =>
    rw [List.map_cons, List.foldlM_cons, List.foldl_cons, h]
    exact ih _

lemma foldlM_optionalMember (put : String → σ → Value → Option σ) (name : String) (f : α → Value)
    (set : Option α → σ) (h : ∀ a, put name (set none) (f a) = some (set (some a))) (a : Option α) :
    (optionalMember name f a).foldlM (fun d m => put m.1 d m.2) (set none) = some (set a) := by
  cases a with
  | none => rfl
  | some a =>
    rw [optionalMember, Option.map_some, Option.toList_some, List.foldlM_cons, h]
    rfl

end Values

lemma Json.Value.count?_ofNat (n : UInt64) : (Value.ofNat n.toNat).count? = some n := Number.count?_toDigits n

lemma Decimal.slot?_decimal (w : Word) : slot? (.string w.decimal) = some w := by
  rw [slot?, Value.string?, Option.bind_some, readSlot_decimal]
  rfl

lemma Decimal.byteCount?_toString (n : UInt64) : byteCount? (.string (toString n.toNat)) = some n := by
  rw [byteCount?, Value.string?, Option.bind_some, readCount_toString]
  rfl

lemma Variable.ofValue?_toValue (v : Variable) : ofValue? v.toValue = some v := by
  simp [toValue, ofValue?, Value.record?, ofMembers?, List.foldlM_cons, Draft.put, Value.once?,
    Value.count?_ofNat, Decimal.slot?_decimal, Value.string?, Draft.finish?]

lemma Variable.all?_map (vs : List Variable) : all? (.list (vs.map toValue)) = some vs :=
  Value.list?_map ofValue?_toValue vs

namespace Descriptor

def written (d : Descriptor) (base key value : Option String) (members : Option (List Variable)) : Draft where
  encoding := some d.encoding
  label := some d.label
  width := some d.width
  base := base.map some
  key := key.map some
  value := value.map some
  members := members.map some

lemma foldlM_required (d : Descriptor) :
    [("encoding", Value.string d.encoding.name), ("label", .string d.label),
      ("numberOfBytes", .string (toString d.width.toNat))].foldlM (fun d m => Draft.put m.1 d m.2) {} =
      some (d.written none none none none) := by
  simp only [List.foldlM_cons, List.foldlM_nil, Draft.put, Value.once?, Encoding.ofValue?,
    Encoding.ofName?_name, Value.string?, Decimal.byteCount?_toString, Option.map_some, Option.bind_eq_bind,
    Option.bind_some]
  rfl

lemma finish?_written (d : Descriptor) : (d.written d.base d.key d.value d.members).finish? = some d := by
  obtain ⟨encoding, label, width, base, key, value, members⟩ := d
  cases base <;> cases key <;> cases value <;> cases members <;> rfl

lemma ofValue?_toValue (d : Descriptor) : ofValue? d.toValue = some d := by
  have hb := foldlM_optionalMember Draft.put "base" Value.string (fun a => d.written a none none none)
    (fun _ => rfl) d.base
  have hk := foldlM_optionalMember Draft.put "key" Value.string (fun a => d.written d.base a none none)
    (fun _ => rfl) d.key
  have hv := foldlM_optionalMember Draft.put "value" Value.string (fun a => d.written d.base d.key a none)
    (fun _ => rfl) d.value
  have hm := foldlM_optionalMember Draft.put "members" (fun vs => .list (vs.map Variable.toValue))
    (fun a => d.written d.base d.key d.value a) (fun vs => by
      simp only [Draft.put, written, Option.map_none, Value.once?, Value.optional?, Variable.all?_map,
        Option.map_some]) d.members
  rw [toValue, ofValue?, Value.record?, ofMembers?]
  simp only [List.foldlM_append, foldlM_required, hb, hk, hv, hm, Option.bind_eq_bind, Option.bind_some]
  exact d.finish?_written

end Descriptor

lemma Layout.ofValue?_toValue (l : Layout) : ofValue? l.toValue = some l := by
  have ht : types? (.object (l.types.entries.map fun e => (e.1, e.2.toValue))) = some l.types := by
    rw [types?, Value.dictionary?_map Descriptor.ofValue?_toValue]
    exact congrArg some l.types.ofList_entries
  simp [toValue, ofValue?, Value.record?, ofMembers?, List.foldlM_cons, Draft.put, Value.once?,
    Variable.all?_map, ht, Draft.finish?]

lemma exists_of_mem_optionalMember {α : Type} {name : String} {f : α → Value} {a : Option α}
    {m : String × Value} (hm : m ∈ optionalMember name f a) : ∃ x, m = (name, f x) := by
  obtain ⟨x, -, hx⟩ := Option.map_eq_some_iff.mp (Option.mem_toList.mp hm)
  exact ⟨x, hx.symm⟩

lemma proper_of_mem_optionalMember {α : Type} {name : String} {f : α → Value} {a : Option α}
    (h : ∀ x, (f x).Proper) {m : String × Value} (hm : m ∈ optionalMember name f a) : m.2.Proper := by
  obtain ⟨x, rfl⟩ := exists_of_mem_optionalMember hm
  exact h x

lemma Variable.proper_toValue (v : Variable) : v.toValue.Proper := by
  refine .object ?_
  simp only [List.forall_mem_cons, List.not_mem_nil, false_imp_iff, implies_true, and_true]
  exact ⟨Value.proper_ofNat _, .string, .string, Value.proper_ofNat _, .string, .string⟩

lemma Variable.proper_all (vs : List Variable) : (Value.list (vs.map toValue)).Proper :=
  .list (List.forall_mem_map.mpr fun v _ => v.proper_toValue)

lemma Descriptor.proper_toValue (d : Descriptor) : d.toValue.Proper := by
  refine .object ?_
  simp only [List.forall_mem_append, List.forall_mem_cons, List.not_mem_nil, false_imp_iff, implies_true, and_true]
  exact ⟨⟨⟨⟨⟨.string, .string, .string⟩, fun m => proper_of_mem_optionalMember fun _ => .string⟩,
    fun m => proper_of_mem_optionalMember fun _ => .string⟩,
    fun m => proper_of_mem_optionalMember fun _ => .string⟩,
    fun m => proper_of_mem_optionalMember Variable.proper_all⟩

lemma Layout.proper_toValue (l : Layout) : l.toValue.Proper := by
  refine .object ?_
  simp only [List.forall_mem_cons, List.not_mem_nil, false_imp_iff, implies_true, and_true]
  exact ⟨Variable.proper_all _, .object (List.forall_mem_map.mpr fun e _ => e.2.proper_toValue)⟩

lemma Layout.ofText_eq_ok {s : String} {v : Value} {l : Layout} (h : IsText s.toList v)
    (hv : ofValue? v = some l) : ofText s = .ok l := (ofText_eq_ok_iff h).mpr hv

theorem Layout.ofText_compact_and_indented (l : Layout) : ofText l.compact = .ok l ∧ ofText l.indented = .ok l := by
  constructor
  · refine ofText_eq_ok ?_ l.ofValue?_toValue
    rw [compact, String.toList_ofList]
    exact l.proper_toValue.isText_compact
  · refine ofText_eq_ok ?_ l.ofValue?_toValue
    rw [indented, String.toList_ofList]
    exact l.proper_toValue.isText_indented 0

end ContractAtlas
