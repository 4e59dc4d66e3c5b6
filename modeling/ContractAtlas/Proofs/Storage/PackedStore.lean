import ContractAtlas.Proofs.Storage.Field
import ContractAtlas.Proofs.Storage.Reading
import Mathlib.Data.List.Induction

/-! The scalars of a checked layout behave as variables of their own: what is put into one is read from
it until something else is put there, whatever is put into the others. -/

namespace ContractAtlas

namespace Layout

def Scalar (l : Layout) (v : Variable) : Prop :=
  ∃ d, l.types.get? v.type = some d ∧ d.fitsInWord = true

/-- A write to storage by a program that keeps to the layout; `put` replaces the bytes of the variable at
a position and keeps the rest of its word. -/
inductive Write (l : Layout) where
  | put (i : Fin l.vars.length) (value : Nat)
  | set (address : Address) (slot word : Word)

variable {l : Layout} {a : Address} {m : Memory}

namespace Write

/-- Puts are to scalars of the account `a`; other words are set in other accounts, or in a slot that
belongs to a variable wider than one. -/
def Legal (a : Address) : l.Write → Prop
  | put i value => l.Scalar l.vars[i] ∧ value < 256 ^ l.width l.vars[i]
  | set address slot _ => address ≠ a ∨
      ∃ v ∈ l.vars, 32 < l.width v ∧ v.slot.toNat ≤ slot.toNat ∧ slot.toNat < l.slotStop v

def apply (a : Address) (m : Memory) : l.Write → Memory
  | put i value =>
    let v := l.vars[i]
    m.set a v.slot ((m.read.word a v.slot).withField v.offset.toNat (l.width v) value)
  | set address slot word => m.set address slot word

def run (a : Address) (m : Memory) (ws : List l.Write) : Memory := ws.foldl (apply a) m

def valueAt? (i : Fin l.vars.length) : l.Write → Option Nat
  | put j value => if j = i then some value else none
  | set _ _ _ => none

def latest? (i : Fin l.vars.length) (ws : List l.Write) : Option Nat :=
  (ws.filterMap (valueAt? i)).getLast?

lemma run_concat (ws : List l.Write) (w : l.Write) : run a m (ws ++ [w]) = apply a (run a m ws) w := by
  rw [run, List.foldl_append, List.foldl_cons, List.foldl_nil, run]

lemma latest?_concat (i : Fin l.vars.length) (ws : List l.Write) (w : l.Write) :
    latest? i (ws ++ [w]) = (valueAt? i w).or (latest? i ws) := by
  rw [latest?, List.filterMap_append, latest?]
  cases h : valueAt? i w <;> simp [h]

end Write

def held (l : Layout) (a : Address) (m : Memory) (v : Variable) : Nat :=
  (m.read.word a v.slot).toNat / 256 ^ v.offset.toNat % 256 ^ l.width v

lemma word_set (b : Address) (slot other word : Word) : (m.set b slot word).read.word a other =
    if b = a ∧ slot = other then word else m.read.word a other := by
  rw [Source.word, Memory.read_set, Source.word]
  split <;> rfl

lemma held_of_width_eq_zero {v : Variable} (h : l.width v = 0) : l.held a m v = 0 := by
  rw [held, h, Nat.pow_zero, Nat.mod_one]

lemma Scalar.width_le {v : Variable} (h : l.Scalar v) : l.width v ≤ 32 := by
  obtain ⟨d, hd, hf⟩ := h
  rw [width_of_get? hd]
  exact (Descriptor.fitsInWord_iff.mp hf).2

namespace Packed

variable (h : l.Packed)
include h

lemma fits (i : Fin l.vars.length) (hi : l.Scalar l.vars[i]) :
    l.vars[i].offset.toNat + l.width l.vars[i] ≤ 32 :=
  (h.aligned _ (List.getElem_mem _)).1 hi.width_le

lemma apart_of_ne {i j : Fin l.vars.length} (hij : i ≠ j) :
    l.stop l.vars[i] ≤ l.vars[j].start ∨ l.stop l.vars[j] ≤ l.vars[i].start := by
  have hp := List.pairwise_iff_getElem.mp h.apart
  rcases Nat.lt_or_gt_of_ne (Fin.val_ne_of_ne hij) with hlt | hlt
  · exact .inl (hp _ _ i.isLt j.isLt hlt)
  · exact .inr (hp _ _ j.isLt i.isLt hlt)

lemma offsets_apart {i j : Fin l.vars.length} (hij : i ≠ j) (hi : l.Scalar l.vars[i])
    (hj : l.Scalar l.vars[j]) (hs : l.vars[i].slot = l.vars[j].slot) :
    l.vars[i].offset.toNat + l.width l.vars[i] ≤ l.vars[j].offset.toNat ∨
      l.vars[j].offset.toNat + l.width l.vars[j] ≤ l.vars[i].offset.toNat := by
  have hslot := congrArg BitVec.toNat hs
  have happart := h.apart_of_ne hij
  simp only [stop, extent, Variable.start, if_pos hi.width_le, if_pos hj.width_le] at happart
  omega

lemma width_eq_zero_of_mem_span {i : Fin l.vars.length} (hi : l.Scalar l.vars[i]) {v : Variable}
    (hv : v ∈ l.vars) (hw : 32 < l.width v) (hle : v.slot.toNat ≤ l.vars[i].slot.toNat)
    (hlt : l.vars[i].slot.toNat < l.slotStop v) : l.width l.vars[i] = 0 := by
  obtain ⟨j, hj, rfl⟩ := List.getElem_of_mem hv
  have hij : i ≠ ⟨j, hj⟩ := by
    rintro rfl
    have := hi.width_le
    simp only [Fin.getElem_fin] at this
    omega
  have hfit := h.fits i hi
  have halign := (h.aligned _ hv).2 hw
  have hwi := hi.width_le
  have happart := h.apart_of_ne hij
  simp only [Fin.getElem_fin] at *
  simp only [stop, extent, Variable.start, if_pos hwi, if_neg (Nat.not_le.mpr hw)] at happart
  rw [slotStop, span] at hlt
  omega

lemma held_put {i j : Fin l.vars.length} (hi : l.Scalar l.vars[i]) (hj : l.Scalar l.vars[j])
    {value : Nat} (hvalue : value < 256 ^ l.width l.vars[j]) :
    l.held a ((Write.put j value).apply a m) l.vars[i] =
      if j = i then value else l.held a m l.vars[i] := by
  have hfit := h.fits j hj
  rw [held, Write.apply, word_set]
  by_cases hij : j = i
  · subst hij
    rw [if_pos ⟨rfl, rfl⟩, if_pos rfl, Word.withField_at hfit hvalue]
  · rw [if_neg hij]
    by_cases hs : l.vars[j].slot = l.vars[i].slot
    · rw [if_pos ⟨rfl, hs⟩, held, ← hs]
      rcases h.offsets_apart hij hj hi hs with hle | hle
      · rw [Word.withField_above hfit hvalue hle]
      · exact Word.withField_below hfit hvalue hle
    · rw [if_neg fun hn => hs hn.2, held]

lemma held_apply {i : Fin l.vars.length} (hi : l.Scalar l.vars[i]) {w : l.Write} (hw : w.Legal a) :
    l.held a (w.apply a m) l.vars[i] = (w.valueAt? i).getD (l.held a m l.vars[i]) := by
  cases w with
  | put j value =>
    rw [h.held_put hi hw.1 hw.2, Write.valueAt?]
    split <;> rfl
  | set b slot word =>
    change l.held a (m.set b slot word) l.vars[i] = l.held a m l.vars[i]
    rcases hw with hb | ⟨v, hv, hwide, hle, hlt⟩
    · rw [held, word_set, if_neg fun hn => hb hn.1, held]
    · by_cases hs : slot = l.vars[i].slot
      · rw [hs] at hle hlt
        have hzero := h.width_eq_zero_of_mem_span hi hv hwide hle hlt
        rw [held_of_width_eq_zero hzero, held_of_width_eq_zero hzero]
      · rw [held, word_set, if_neg fun hn => hs hn.2, held]

lemma held_run {i : Fin l.vars.length} (hi : l.Scalar l.vars[i]) {ws : List l.Write}
    (hws : ∀ w ∈ ws, w.Legal a) :
    l.held a (Write.run a m ws) l.vars[i] = (Write.latest? i ws).getD (l.held a m l.vars[i]) := by
  induction ws using List.reverseRecOn with
  | nil => rfl
  | append_singleton ws w ih =>
    obtain ⟨hinit, hlast⟩ := List.forall_mem_append.mp hws
    rw [Write.run_concat, h.held_apply hi (hlast w (List.mem_singleton_self w)), ih hinit,
      Write.latest?_concat]
    cases w.valueAt? i <;> rfl

lemma readVariable_held {i : Fin l.vars.length} (hi : l.Scalar l.vars[i])
    (hfirst : ∀ j < i, l.vars[j].label ≠ l.vars[i].label) :
    ∃ x, m.read.readVariable a l l.vars[i].label = .ok x ∧ x.toNat = l.held a m l.vars[i] := by
  have hfind : l.find? l.vars[i].label = some l.vars[i] := by
    rw [find?, List.find?_eq_some_iff_getElem]
    refine ⟨by simp, i, i.isLt, rfl, fun j hj => ?_⟩
    simpa using hfirst ⟨j, hj.trans i.isLt⟩ hj
  obtain ⟨d, hd, hf⟩ := hi
  refine ⟨_, h.readVariable_of_fits hfind hd hf m.read a, ?_⟩
  rw [Word.toNat_field, held, width_of_get? hd]

end Packed

theorem readVariable_run (h : l.check = .ok ()) (a : Address) (m : Memory) (ws : List l.Write)
    (hws : ∀ w ∈ ws, w.Legal a) (i : Fin l.vars.length) (hi : l.Scalar l.vars[i])
    (hfirst : ∀ j < i, l.vars[j].label ≠ l.vars[i].label) :
    ∃ before after, m.read.readVariable a l l.vars[i].label = .ok before ∧
      (Write.run a m ws).read.readVariable a l l.vars[i].label = .ok after ∧
      after.toNat = (Write.latest? i ws).getD before.toNat := by
  have hp := packed_of_check h
  obtain ⟨before, hbefore, hb⟩ := hp.readVariable_held (m := m) (a := a) hi hfirst
  obtain ⟨after, hafter, ha⟩ := hp.readVariable_held (m := Write.run a m ws) (a := a) hi hfirst
  exact ⟨before, after, hbefore, hafter, by rw [ha, hb, hp.held_run hi hws]⟩

/-- Three scalars in one slot, an array over three slots, and a second variable of an old name. -/
def ledger : Layout where
  vars := [⟨1, "Ledger", "owner", 0, 0, "t_address"⟩, ⟨2, "Ledger", "paused", 20, 0, "t_bool"⟩,
    ⟨3, "Ledger", "level", 21, 0, "t_uint8"⟩, ⟨4, "Ledger", "history", 0, 1, "t_array"⟩,
    ⟨5, "Ledger", "owner", 0, 4, "t_address"⟩]
  types :=
    { entries := [("t_address", ⟨.inplace, "address", 20, none, none, none, none⟩),
        ("t_array", ⟨.inplace, "uint8[96]", 96, some "t_uint8", none, none, none⟩),
        ("t_bool", ⟨.inplace, "bool", 1, none, none, none, none⟩),
        ("t_uint8", ⟨.inplace, "uint8", 1, none, none, none, none⟩)]
      sorted := by decide }

def ledgerWrites : List ledger.Write :=
  [.put ⟨1, by decide⟩ 1, .put ⟨0, by decide⟩ 0xbeef, .set 7 3 (BitVec.allOnes 256),
    .put ⟨2, by decide⟩ 255, .set 8 0 5, .put ⟨4, by decide⟩ 3]

theorem readVariable_run_ledger :
    ledger.check = .ok () ∧ (∀ w ∈ ledgerWrites, w.Legal 7) ∧
      Write.latest? ⟨0, by decide⟩ ledgerWrites = some 0xbeef ∧
      ∃ before after, Memory.empty.read.readVariable 7 ledger "owner" = .ok before ∧
        (Write.run 7 .empty ledgerWrites).read.readVariable 7 ledger "owner" = .ok after ∧
        after.toNat = (Write.latest? ⟨0, by decide⟩ ledgerWrites).getD before.toNat := by
  have hws : ∀ w ∈ ledgerWrites, w.Legal 7 := by
    simp only [ledgerWrites, List.forall_mem_cons]
    refine ⟨?_, ?_, ?_, ?_, ?_, ?_, ?_⟩
    · exact ⟨⟨_, rfl, rfl⟩, by decide⟩
    · exact ⟨⟨_, rfl, rfl⟩, by decide⟩
    · exact .inr ⟨_, .tail _ (.tail _ (.tail _ (.head _))), by decide, by decide, by decide⟩
    · exact ⟨⟨_, rfl, rfl⟩, by decide⟩
    · exact .inl (by decide)
    · exact ⟨⟨_, rfl, rfl⟩, by decide⟩
    · simp
  have hcheck : ledger.check = .ok () := by rfl
  refine ⟨hcheck, hws, rfl, ?_⟩
  exact readVariable_run hcheck 7 .empty ledgerWrites hws ⟨0, by decide⟩ ⟨_, rfl, rfl⟩ (by decide)

end Layout

end ContractAtlas
