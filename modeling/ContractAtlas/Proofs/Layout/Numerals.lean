import ContractAtlas.Layout.Printer
import ContractAtlas.Proofs.Decimal.Digits
import ContractAtlas.Proofs.Json.Members
import ContractAtlas.Proofs.Layout.Decoding

/-! Slots and byte counts as members of the records that have them: which strings are read, as which number,
and how the number is written again. -/

namespace ContractAtlas

open Json

lemma Json.DecodesMember.run_eq_ok_iff {α : Type} {r : Reader α} {decode : Value → Option α}
    (h : DecodesMember r decode) {t rest : List Char} {v : Value} (ht : Assigned t v rest)
    {p : α × List Char} : r.run t = .ok p ↔ ∃ a, decode v = some a ∧ p = (a, rest) := by
  rw [← toOption_eq_some_iff]
  change r.run? t = some p ↔ _
  rw [h ht, Option.map_eq_some_iff]
  simp only [eq_comm (a := p)]

namespace Decimal

variable {r : String} {t rest : List Char}

lemma run_slot_member {d : Variable.Draft} (hd : d.slot = none) (ht : Assigned t (.string r) rest)
    {p : Variable.Draft × List Char} : (d.step "slot").run t = .ok p ↔
      ∃ w, readSlot r = .ok w ∧ p = ({ d with slot := some w }, rest) := by
  rw [(d.decodesMember_step "slot").run_eq_ok_iff ht]
  simp [Variable.Draft.put, hd, Value.once?, slot?, Value.string?, toOption_eq_some_iff]

lemma run_byteCount_member {d : Descriptor.Draft} (hd : d.width = none) (ht : Assigned t (.string r) rest)
    {p : Descriptor.Draft × List Char} : (d.step "numberOfBytes").run t = .ok p ↔
      ∃ n, readCount r = .ok n ∧ p = ({ d with width := some n }, rest) := by
  rw [(d.decodesMember_step "numberOfBytes").run_eq_ok_iff ht]
  simp [Descriptor.Draft.put, hd, Value.once?, byteCount?, Value.string?, toOption_eq_some_iff]

lemma isSlotText_zeros_append {k : Nat} {t : List Char} :
    IsSlotText (List.replicate k '0' ++ t) ↔ IsSlotText t := by
  simp only [IsSlotText, List.forall_mem_append]
  refine and_iff_right fun c hc => .inl ?_
  rw [List.eq_of_mem_replicate hc]
  rfl

lemma IsNumeral.zeros_append {ds : List Char} (h : IsNumeral ds) (k : Nat) :
    IsNumeral (List.replicate k '0' ++ ds) := by
  refine ⟨List.append_ne_nil_of_right_ne_nil _ h.1, List.forall_mem_append.mpr ⟨fun c hc => ?_, h.2⟩⟩
  rw [List.eq_of_mem_replicate hc]
  rfl

lemma readSlot_zeros (r : String) (k : Nat) (w : Word) :
    readSlot (String.ofList (List.replicate k '0' ++ r.toList)) = .ok w ↔ readSlot r = .ok w := by
  rw [readSlot_eq_ok_iff, readSlot_eq_ok_iff, String.toList_ofList, isSlotText_zeros_append,
    spelled_zeros_append]

lemma readCount_zeros {sign ds : List Char} (hsign : sign = [] ∨ sign = ['+']) (hds : IsNumeral ds)
    (hr : r.toList = sign ++ ds) (k : Nat) (n : UInt64) :
    readCount (String.ofList (sign ++ (List.replicate k '0' ++ ds))) = .ok n ↔ readCount r = .ok n := by
  have hcount {es : List Char} (hes : IsNumeral es) : IsCountText (sign ++ es) := by
    rcases hsign with rfl | rfl
    · exact .unsigned hes
    · exact .signed hes
  have hspelled : spelled (sign ++ (List.replicate k '0' ++ ds)) = spelled (sign ++ ds) := by
    rcases hsign with rfl | rfl
    · exact spelled_zeros_append k ds
    · exact spelled_zeros_append k ds
  rw [readCount_eq_ok_iff, readCount_eq_ok_iff, String.toList_ofList, hr, hspelled]
  exact and_congr_left fun _ => iff_of_true (hcount (hds.zeros_append k)) (hcount hds)

end Decimal

lemma Variable.named_slot_toValue (v : Variable) :
    ∃ ms, v.toValue = .object ms ∧ named "slot" ms = [.string (toString v.slot.toNat)] :=
  ⟨_, rfl, rfl⟩

lemma named_append (name : String) (ms ns : List (String × Value)) :
    named name (ms ++ ns) = named name ms ++ named name ns :=
  List.filterMap_append

lemma named_optionalMember {α : Type} {name other : String} (h : other ≠ name) (f : α → Value)
    (a : Option α) : named name (optionalMember other f a) = [] := by
  cases a with
  | none => rfl
  | some a => simp [optionalMember, named_cons, h]

lemma Descriptor.named_width_toValue (d : Descriptor) :
    ∃ ms, d.toValue = .object ms ∧ named "numberOfBytes" ms = [.string (toString d.width.toNat)] := by
  refine ⟨_, rfl, ?_⟩
  rw [named_append, named_append, named_append, named_append, named_optionalMember (by decide),
    named_optionalMember (by decide), named_optionalMember (by decide), named_optionalMember (by decide)]
  rfl

theorem numerals_by_grammar (r : String) :
    (∀ (d : Variable.Draft) (t rest : List Char), d.slot = none → Assigned t (.string r) rest →
      ((∃ p, (d.step "slot").run t = .ok p) ↔
        Decimal.IsSlotText r.toList ∧ Decimal.spelled r.toList < 2 ^ 256) ∧
      ∀ p, (d.step "slot").run t = .ok p → ∃ w : Word, w.toNat = Decimal.spelled r.toList ∧
        p = ({ d with slot := some w }, rest)) ∧
    (∀ (d : Descriptor.Draft) (t rest : List Char), d.width = none → Assigned t (.string r) rest →
      ((∃ p, (d.step "numberOfBytes").run t = .ok p) ↔
        Decimal.IsCountText r.toList ∧ Decimal.spelled r.toList < 2 ^ 64) ∧
      ∀ p, (d.step "numberOfBytes").run t = .ok p → ∃ n : UInt64, n.toNat = Decimal.spelled r.toList ∧
        p = ({ d with width := some n }, rest)) ∧
    (∀ k w, Decimal.readSlot (String.ofList (List.replicate k '0' ++ r.toList)) = .ok w ↔
      Decimal.readSlot r = .ok w) ∧
    (∀ k n sign ds, sign = [] ∨ sign = ['+'] → Decimal.IsNumeral ds → r.toList = sign ++ ds →
      (Decimal.readCount (String.ofList (sign ++ (List.replicate k '0' ++ ds))) = .ok n ↔
        Decimal.readCount r = .ok n)) ∧
    (∀ v : Variable, Decimal.readSlot r = .ok v.slot → ∃ ms, v.toValue = .object ms ∧
      named "slot" ms = [.string (toString (Decimal.spelled r.toList))]) ∧
    ∀ d : Descriptor, Decimal.readCount r = .ok d.width → ∃ ms, d.toValue = .object ms ∧
      named "numberOfBytes" ms = [.string (toString (Decimal.spelled r.toList))] := by
  refine ⟨fun d t rest hd ht => ?_, fun d t rest hd ht => ?_, fun k w => Decimal.readSlot_zeros r k w,
    fun k n sign ds hsign hds hr => Decimal.readCount_zeros hsign hds hr k n,
    fun v hv => ?_, fun d hd => ?_⟩
  · refine ⟨?_, fun p hp => ?_⟩
    · rw [← Decimal.exists_readSlot_iff]
      simp [Decimal.run_slot_member hd ht]
    · obtain ⟨w, hw, rfl⟩ := (Decimal.run_slot_member hd ht).mp hp
      exact ⟨w, (Decimal.readSlot_eq_ok_iff.mp hw).2.symm, rfl⟩
  · refine ⟨?_, fun p hp => ?_⟩
    · rw [← Decimal.exists_readCount_iff]
      simp [Decimal.run_byteCount_member hd ht]
    · obtain ⟨n, hn, rfl⟩ := (Decimal.run_byteCount_member hd ht).mp hp
      exact ⟨n, (Decimal.readCount_eq_ok_iff.mp hn).2.symm, rfl⟩
  · rw [(Decimal.readSlot_eq_ok_iff.mp hv).2]
    exact v.named_slot_toValue
  · rw [(Decimal.readCount_eq_ok_iff.mp hd).2]
    exact d.named_width_toValue

def padded : List Char := [':', ' ', '"', '0', '7', '"', ',']

lemma assigned_padded : Assigned padded (.string "07") [','] := by
  refine .colon .none (.space rfl .none) (.string ?_)
  exact .plain (by decide) (by decide) (by decide) (.plain (by decide) (by decide) (by decide) .close)

theorem numerals_by_grammar_padded : Assigned padded (.string "07") [','] ∧
    (∃ w : Word, w.toNat = 7 ∧ (({} : Variable.Draft).step "slot").run padded = .ok ({ slot := some w }, [','])) ∧
    (∃ n : UInt64, n.toNat = 7 ∧
      (({} : Descriptor.Draft).step "numberOfBytes").run padded = .ok ({ width := some n }, [','])) ∧
    Decimal.readCount "00007" = .ok 7 ∧
    ∃ ms, (Variable.mk 1 "Vault" "total" 0 7 "t_uint256").toValue = .object ms ∧
      named "slot" ms = [.string "7"] := by
  have hseven : Decimal.spelled "07".toList = 7 := by decide
  have hnumeral : Decimal.IsNumeral "07".toList := ⟨by decide, List.all_eq_true.mp rfl⟩
  have htext : Decimal.IsSlotText "07".toList := fun c hc => .inl (hnumeral.2 c hc)
  obtain ⟨hslot, hcount, -, hzeros, hwritten, -⟩ := numerals_by_grammar "07"
  obtain ⟨hiff, hvalue⟩ := hslot {} padded [','] rfl assigned_padded
  obtain ⟨p, hp⟩ := hiff.mpr ⟨htext, by rw [hseven]; decide⟩
  obtain ⟨w, hw, rfl⟩ := hvalue p hp
  obtain ⟨hiff, hvalue⟩ := hcount {} padded [','] rfl assigned_padded
  obtain ⟨q, hq⟩ := hiff.mpr ⟨.unsigned hnumeral, by rw [hseven]; decide⟩
  obtain ⟨n, hn, rfl⟩ := hvalue q hq
  refine ⟨assigned_padded, ⟨w, hw.trans hseven, hp⟩, ⟨n, hn.trans hseven, hq⟩, ?_, ?_⟩
  · apply (hzeros 3 7 [] "07".toList (.inl rfl) hnumeral rfl).mpr
    exact Decimal.readCount_eq_ok_iff.mpr ⟨.unsigned hnumeral, hseven⟩
  · have hread : Decimal.readSlot "07" = .ok 7 := Decimal.readSlot_eq_ok_iff.mpr ⟨htext, hseven⟩
    have hms := hwritten ⟨1, "Vault", "total", 0, 7, "t_uint256"⟩ hread
    rwa [hseven] at hms

end ContractAtlas
