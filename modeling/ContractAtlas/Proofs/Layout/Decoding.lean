import ContractAtlas.Layout.Reader
import ContractAtlas.Proofs.Json.Records

namespace ContractAtlas

open Json

namespace Decimal

def slot? (v : Value) : Option Word := v.string?.bind fun s => (readSlot s).toOption

def byteCount? (v : Value) : Option UInt64 := v.string?.bind fun s => (readCount s).toOption

lemma decodes_slot : Decodes slot slot? :=
  decodes_text.bind fun s t => by
    cases readSlot s <;> rfl

lemma decodes_byteCount : Decodes byteCount byteCount? :=
  decodes_text.bind fun s t => by
    cases readCount s <;> rfl

end Decimal

namespace Encoding

def unit? : Value → Option Unit
  | .null => some ()
  | _ => none

def ofMembers? : List (String × Value) → Option Encoding
  | [(k, v)] => (ofName? k).bind fun e => (unit? v).map fun _ => e
  | _ => none

def ofValue? : Value → Option Encoding
  | .string s => ofName? s
  | .object ms => ofMembers? ms
  | _ => none

lemma run?_named (s : String) (t : List Char) : (named s).run? t = (ofName? s).map (·, t) := by
  rw [named]
  cases ofName? s <;> rfl

lemma decodes_null : Decodes null unit? := by
  intro t u rest v hg hs
  have hk := hs.skipSpace_eq hg
  obtain ⟨c, s, hu, ho⟩ := hs.head
  by_cases hc : c = 'n'
  · obtain rfl := (hc ▸ ho).eq_null
    cases hs with
    | null =>
      simp only [Reader.run?, null, hk]
      exact congrArg _ (run_word_append ['u', 'l', 'l'] rest)
  · have hw : null.run? t = none := by
      simp only [Reader.run?, null, hk]
      split
      · rfl
      · exact absurd (List.cons.inj hu).1.symm hc
      · exact run?_wrongKind _ _
    cases v with
    | null => exact absurd ho hc
    | _ => exact hw

lemma run_closeVariant {t rest : List Char} (hg : Gap t ('\x7d' :: rest)) :
    closeVariant.run t = .ok ((), rest) := by
  simp only [closeVariant, hg.skipSpace_eq, skipSpace_of_not_isSpace (c := '\x7d') rfl]

lemma run?_closeVariant_more {t u : List Char} (hc : Comma false t u) : closeVariant.run? t = none := by
  cases hc with
  | next hg _ =>
    simp only [Reader.run?, closeVariant, hg.skipSpace_eq, skipSpace_of_not_isSpace (c := ',') rfl]
    rfl

lemma run_variantName {t u rest : List Char} {k : String} (hc : Comma true t ('"' :: u))
    (hk : Literal.Spells u k.toList rest) : variantName.run t = .ok (k, rest) := by
  cases hc with
  | first hg =>
    simp only [variantName, hg.skipSpace_eq, skipSpace_of_not_isSpace (c := '"') rfl, Literal.run_read hk]

lemma run?_variantName_close {t rest : List Char} (hg : Gap t ('\x7d' :: rest)) :
    variantName.run? t = none := by
  simp only [Reader.run?, variantName, hg.skipSpace_eq, skipSpace_of_not_isSpace (c := '\x7d') rfl]
  rfl

lemma decodesObject_wrapped : DecodesObject wrapped ofMembers? := by
  intro t rest ms hs
  cases hs with
  | close hg =>
    rw [wrapped, Reader.run?_bind, run?_variantName_close hg]
    rfl
  | @more _ _ _ k _ v _ ms _ hc hk hv hs =>
    obtain ⟨ht, hm, hv⟩ := hv
    rw [wrapped, Reader.run?_bind, Reader.run?_of_ok (run_variantName hc hk)]
    rw [Option.bind_some, Reader.run?_bind, run?_named]
    cases he : ofName? k with
    | none => cases ms <;> simp [ofMembers?, he]
    | some e =>
      simp only [Option.map_some, Option.bind_some, Reader.run?_bind, Reader.run?_of_ok (run_colon ht),
        decodes_null hm hv]
      cases hn : unit? v with
      | none => cases ms <;> simp [ofMembers?, he, hn]
      | some _ =>
        cases hs with
        | close hg => simp [ofMembers?, he, hn, Reader.run?_of_ok (run_closeVariant hg)]
        | more hc _ _ _ => simp [ofMembers?, run?_closeVariant_more hc]

lemma decodes_reader : Decodes reader ofValue? := by
  intro t u rest v hg hs
  have hk := hs.skipSpace_eq hg
  obtain ⟨c, s, hu, ho⟩ := hs.head
  by_cases hq : c = '"'
  · obtain ⟨a, rfl⟩ := (hq ▸ ho).eq_string
    obtain ⟨s, rfl, h⟩ := hs.of_string
    have hr : reader.run? t = (Literal.read >>= named).run? s := by
      simp only [Reader.run?, reader, hk]
    rw [hr, Reader.run?_bind, Reader.run?_of_ok (Literal.run_read h)]
    exact run?_named a rest
  by_cases hc : c = '\x7b'
  · obtain ⟨ms, rfl⟩ := (hc ▸ ho).eq_object
    obtain ⟨s, rfl, hms⟩ := hs.of_object
    refine Eq.trans ?_ (decodesObject_wrapped hms)
    simp only [Reader.run?, reader, hk]
  · have hw : reader.run? t = none := by
      simp only [Reader.run?, reader, hk]
      split
      · rfl
      · exact absurd (List.cons.inj hu).1.symm hq
      · exact absurd (List.cons.inj hu).1.symm hc
      · rfl
    cases v with
    | string _ => exact absurd ho hq
    | object _ => exact absurd ho hc
    | _ => exact hw

end Encoding

namespace Variable

def Draft.put (key : String) (d : Draft) (v : Value) : Option Draft :=
  match key with
  | "astId" => (Value.once? Value.count? d.astId v).map fun a => { d with astId := a }
  | "contract" => (Value.once? Value.string? d.contract v).map fun a => { d with contract := a }
  | "label" => (Value.once? Value.string? d.label v).map fun a => { d with label := a }
  | "offset" => (Value.once? Value.count? d.offset v).map fun a => { d with offset := a }
  | "slot" => (Value.once? Decimal.slot? d.slot v).map fun a => { d with slot := a }
  | "type" => (Value.once? Value.string? d.type v).map fun a => { d with type := a }
  | _ => some d

def Draft.finish? (d : Draft) : Option Variable := do
  return {
    astId := ← d.astId
    contract := ← d.contract
    label := ← d.label
    offset := ← d.offset
    slot := ← d.slot
    type := ← d.type }

lemma Draft.decodesMember_step (key : String) (d : Draft) : DecodesMember (d.step key) (d.put key) := by
  unfold step
  split
  · exact (decodesMember_once decodes_number64 _ _).map fun a => { d with astId := a }
  · exact (decodesMember_once decodes_text _ _).map fun a => { d with contract := a }
  · exact (decodesMember_once decodes_text _ _).map fun a => { d with label := a }
  · exact (decodesMember_once decodes_number64 _ _).map fun a => { d with offset := a }
  · exact (decodesMember_once Decimal.decodes_slot _ _).map fun a => { d with slot := a }
  · exact (decodesMember_once decodes_text _ _).map fun a => { d with type := a }
  · refine decodesMember_unknown fun v => ?_
    unfold put
    split
    all_goals first | contradiction | rfl

lemma Draft.run?_finish (d : Draft) (s : List Char) : d.finish.run? s = d.finish?.map (·, s) := by
  simp only [finish, finish?, Reader.run?_bind, run?_present, Reader.run?_pure, Option.bind_map,
    Option.bind_eq_bind, Option.map_bind, Option.pure_def, Option.map_some, Function.comp_def]

def ofList? : List Value → Option Variable :=
  Value.required? Value.count? fun astId =>
  Value.required? Value.string? fun contract =>
  Value.required? Value.string? fun label =>
  Value.required? Value.count? fun offset =>
  Value.required? Decimal.slot? fun slot =>
  Value.required? Value.string? fun type => Value.ended? { astId, contract, label, offset, slot, type }

def ofMembers? (ms : List (String × Value)) : Option Variable :=
  (ms.foldlM (fun d m => Draft.put m.1 d m.2) {}).bind Draft.finish?

def ofValue? : Value → Option Variable := Value.record? ofList? ofMembers?

lemma decodesList_inOrder :
    DecodesList true (inOrder >>= fun a => closeList >>= fun _ => pure a) ofList? := by
  simp only [inOrder, bind_assoc, pure_bind]
  exact decodesList_required decodes_number64 (fun _ =>
    decodesList_required decodes_text (fun _ =>
    decodesList_required decodes_text (fun _ =>
    decodesList_required decodes_number64 (fun _ =>
    decodesList_required Decimal.decodes_slot (fun _ =>
    decodesList_required decodes_text (fun _ => decodesList_close _) _ 5) _ 4) _ 3) _ 2) _ 1) _ 0

lemma decodes_reader : Decodes reader ofValue? :=
  decodes_record decodesList_inOrder
    ((decodesObject_object Draft.decodesMember_step {}).bind Draft.run?_finish) _

def all? : Value → Option (List Variable) := Value.list? ofValue?

lemma decodes_all : Decodes (list reader) all? := decodes_list decodes_reader

end Variable

namespace Descriptor

def Draft.put (key : String) (d : Draft) (v : Value) : Option Draft :=
  match key with
  | "encoding" => (Value.once? Encoding.ofValue? d.encoding v).map fun a => { d with encoding := a }
  | "label" => (Value.once? Value.string? d.label v).map fun a => { d with label := a }
  | "numberOfBytes" => (Value.once? Decimal.byteCount? d.width v).map fun a => { d with width := a }
  | "base" => (Value.once? (Value.optional? Value.string?) d.base v).map fun a => { d with base := a }
  | "key" => (Value.once? (Value.optional? Value.string?) d.key v).map fun a => { d with key := a }
  | "value" => (Value.once? (Value.optional? Value.string?) d.value v).map fun a => { d with value := a }
  | "members" => (Value.once? (Value.optional? Variable.all?) d.members v).map fun a => { d with members := a }
  | _ => some d

def Draft.finish? (d : Draft) : Option Descriptor := do
  return {
    encoding := ← d.encoding
    label := ← d.label
    width := ← d.width
    base := d.base.join
    key := d.key.join
    value := d.value.join
    members := d.members.join }

lemma Draft.decodesMember_step (key : String) (d : Draft) : DecodesMember (d.step key) (d.put key) := by
  unfold step
  split
  · exact (decodesMember_once Encoding.decodes_reader _ _).map fun a => { d with encoding := a }
  · exact (decodesMember_once decodes_text _ _).map fun a => { d with label := a }
  · exact (decodesMember_once Decimal.decodes_byteCount _ _).map fun a => { d with width := a }
  · exact (decodesMember_once (decodes_optional decodes_text) _ _).map fun a => { d with base := a }
  · exact (decodesMember_once (decodes_optional decodes_text) _ _).map fun a => { d with key := a }
  · exact (decodesMember_once (decodes_optional decodes_text) _ _).map fun a => { d with value := a }
  · exact (decodesMember_once (decodes_optional Variable.decodes_all) _ _).map fun a => { d with members := a }
  · refine decodesMember_unknown fun v => ?_
    unfold put
    split
    all_goals first | contradiction | rfl

lemma Draft.run?_finish (d : Draft) (s : List Char) : d.finish.run? s = d.finish?.map (·, s) := by
  simp only [finish, finish?, Reader.run?_bind, run?_present, Reader.run?_pure, Option.bind_map,
    Option.bind_eq_bind, Option.map_bind, Option.pure_def, Option.map_some, Function.comp_def]

def ofList? : List Value → Option Descriptor :=
  Value.required? Encoding.ofValue? fun encoding =>
  Value.required? Value.string? fun label =>
  Value.required? Decimal.byteCount? fun width =>
  Value.defaulted? none (Value.optional? Value.string?) fun base =>
  Value.defaulted? none (Value.optional? Value.string?) fun key =>
  Value.defaulted? none (Value.optional? Value.string?) fun value =>
  Value.defaulted? none (Value.optional? Variable.all?) fun members =>
  Value.ended? { encoding, label, width, base, key, value, members }

def ofMembers? (ms : List (String × Value)) : Option Descriptor :=
  (ms.foldlM (fun d m => Draft.put m.1 d m.2) {}).bind Draft.finish?

def ofValue? : Value → Option Descriptor := Value.record? ofList? ofMembers?

lemma decodesList_inOrder :
    DecodesList true (inOrder >>= fun a => closeList >>= fun _ => pure a) ofList? := by
  simp only [inOrder, bind_assoc, pure_bind]
  exact decodesList_required Encoding.decodes_reader (fun _ =>
    decodesList_required decodes_text (fun _ =>
    decodesList_required Decimal.decodes_byteCount (fun _ =>
    decodesList_defaulted (decodes_optional decodes_text) (fun _ =>
    decodesList_defaulted (decodes_optional decodes_text) (fun _ =>
    decodesList_defaulted (decodes_optional decodes_text) (fun _ =>
    decodesList_defaulted (decodes_optional Variable.decodes_all) (fun _ => decodesList_close _)
      none) none) none) none) _ 2) _ 1) _ 0

lemma decodes_reader : Decodes reader ofValue? :=
  decodes_record decodesList_inOrder
    ((decodesObject_object Draft.decodesMember_step {}).bind Draft.run?_finish) _

end Descriptor

namespace Layout

def types? : Value → Option (Table Descriptor) :=
  Value.dictionary? Descriptor.ofValue? Table.insert Table.empty

def Draft.put (key : String) (d : Draft) (v : Value) : Option Draft :=
  match key with
  | "storage" => (Value.once? Variable.all? d.vars v).map fun a => { d with vars := a }
  | "types" => (Value.once? types? d.types v).map fun a => { d with types := a }
  | _ => some d

def Draft.finish? (d : Draft) : Option Layout :=
  d.vars.map fun vars => { vars, types := d.types.getD Table.empty }

lemma decodes_types : Decodes types.reader types? :=
  decodes_dictionary Descriptor.decodes_reader Table.insert Table.empty

lemma Draft.decodesMember_step (key : String) (d : Draft) : DecodesMember (d.step key) (d.put key) := by
  unfold step
  split
  · exact (decodesMember_once Variable.decodes_all _ _).map fun a => { d with vars := a }
  · exact (decodesMember_once decodes_types _ _).map fun a => { d with types := a }
  · refine decodesMember_unknown fun v => ?_
    unfold put
    split
    all_goals first | contradiction | rfl

lemma Draft.run?_finish (d : Draft) (s : List Char) : d.finish.run? s = d.finish?.map (·, s) := by
  rw [finish, finish?, Reader.run?_bind, run?_present]
  cases d.vars <;> rfl

def ofList? : List Value → Option Layout :=
  Value.required? Variable.all? fun vars =>
  Value.defaulted? Table.empty types? fun types => Value.ended? { vars, types }

def ofMembers? (ms : List (String × Value)) : Option Layout :=
  (ms.foldlM (fun d m => Draft.put m.1 d m.2) {}).bind Draft.finish?

def ofValue? : Value → Option Layout := Value.record? ofList? ofMembers?

lemma decodesList_inOrder :
    DecodesList true (inOrder >>= fun a => closeList >>= fun _ => pure a) ofList? := by
  simp only [inOrder, bind_assoc, pure_bind]
  exact decodesList_required Variable.decodes_all (fun _ =>
    decodesList_defaulted decodes_types (fun _ => decodesList_close _) Table.empty) _ 0

lemma decodes_reader : Decodes reader ofValue? :=
  decodes_record decodesList_inOrder
    ((decodesObject_object Draft.decodesMember_step {}).bind Draft.run?_finish) _

lemma ofText_eq_ok_iff {s : String} {v : Value} (h : IsText s.toList v) {l : Layout} :
    ofText s = .ok l ↔ ofValue? v = some l := by
  rw [← toOption_eq_some_iff, ofText, decodes_reader.toOption_whole h]

end Layout

end ContractAtlas
