import ContractAtlas.Proofs.Report.Text
import ContractAtlas.Proofs.Layout.Footprint
import Mathlib.Data.List.Forall2

/-! The table of a layout, read back from its lines: each row shows the slots of its variable, and together
they show how many slots the layout takes up. -/

namespace ContractAtlas

namespace Descriptor

lemma one_le_slotsSpanned (d : Descriptor) : 1 ≤ d.slotsSpanned.toNat := by
  rw [Descriptor.toNat_slotsSpanned]
  exact Nat.le_max_right _ _

lemma toNat_slotsSpanned_sub_one (d : Descriptor) :
    (d.slotsSpanned - 1).toNat = d.slotsSpanned.toNat - 1 :=
  UInt64.toNat_sub_of_le _ _ (UInt64.le_iff_toNat_le.mpr (one_le_slotsSpanned d))

lemma slotsSpanned_le_one_iff {d : Descriptor} : d.slotsSpanned ≤ 1 ↔ d.slotsSpanned = 1 := by
  have hpos := one_le_slotsSpanned d
  rw [UInt64.le_iff_toNat_le, ← UInt64.toNat_inj]
  simp only [UInt64.toNat_one]
  omega

end Descriptor

namespace Report

def headings (name : String) : List (List Char) :=
  [[], ("Storage layout of " ++ name).toList, "  slot       offset  label                    type".toList]

structure RowOf (v : Variable) (d : Descriptor) (last : Word) (line : List Char) : Prop where
  unclamped : Word.add? v.slot (Word.ofUInt64 (d.slotsSpanned - 1)) = some last
  toNat_last : last.toNat = v.slot.toNat + d.slotsSpanned.toNat - 1
  slots : firstWord line =
    (if d.slotsSpanned = 1 then v.slot.decimal else s!"{v.slot.decimal}..={last.decimal}").toList
  columns : ∃ m n k, line = blanks 2 ++ firstWord line ++ blanks (m + 1) ++
    (toString v.offset.toNat).toList ++ blanks (n + 1) ++ v.label.toList ++ blanks (k + 1) ++ d.label.toList

variable {l : Layout} {v : Variable} {d : Descriptor} {last : Word}

lemma exists_last (h : v.slot.toNat + d.slotsSpanned.toNat ≤ 2 ^ 256 - 1) :
    ∃ last, Word.add? v.slot (Word.ofUInt64 (d.slotsSpanned - 1)) = some last ∧
      last.toNat = v.slot.toNat + d.slotsSpanned.toNat - 1 := by
  have hpos := d.one_le_slotsSpanned
  have hlast := Word.toNat_ofNat_of_lt (n := v.slot.toNat + d.slotsSpanned.toNat - 1) (by omega)
  refine ⟨_, Word.add?_eq_some_iff.mpr ?_, hlast⟩
  rw [hlast, Word.toNat_ofUInt64, d.toNat_slotsSpanned_sub_one]
  omega

lemma slotSpan_eq (h : Word.add? v.slot (Word.ofUInt64 (d.slotsSpanned - 1)) = some last) :
    slotSpan v.slot d.slotsSpanned =
      if d.slotsSpanned = 1 then v.slot.decimal else s!"{v.slot.decimal}..={last.decimal}" := by
  simp only [slotSpan, Descriptor.slotsSpanned_le_one_iff, Word.addClamped, h, Option.getD_some]

lemma exists_columns (v : Variable) (slots type : String) :
    ∃ m n k, lineText (row v slots (plain type)) = blanks 2 ++ slots.toList ++ blanks (m + 1) ++
      (toString v.offset.toNat).toList ++ blanks (n + 1) ++ v.label.toList ++ blanks (k + 1) ++
        type.toList := by
  set offset := toString v.offset.toNat
  -- the blanks behind the slots and those in front of the offset are one gap
  refine ⟨10 - slots.length + (6 - offset.length), 1, 24 - v.label.length, ?_⟩
  have htext : lineText (row v slots (plain type)) =
      blanks 2 ++ (slots.toList ++ blanks (10 - slots.length)) ++ blanks 1 ++
        (blanks (6 - offset.length) ++ offset.toList) ++ blanks 2 ++
        (v.label.toList ++ blanks (24 - v.label.length)) ++ blanks 1 ++ type.toList := by
    simp [lineText, row, plain, styled, padEnd, padStart, blanks, offset]
  have hgap : blanks (10 - slots.length + (6 - offset.length) + 1) =
      blanks (10 - slots.length) ++ blanks 1 ++ blanks (6 - offset.length) := by
    rw [← blanks_add, ← blanks_add, Nat.add_right_comm]
  rw [htext, hgap, blanks_add (24 - _)]
  simp only [List.append_assoc]

lemma firstWord_row (v : Variable) {slots : String} (hne : slots.toList ≠ []) (h : Lacks ' ' slots)
    (type : String) : firstWord (lineText (row v slots (plain type))) = slots.toList := by
  obtain ⟨m, n, k, hcolumns⟩ := exists_columns v slots type
  have hblank : blanks (m + 1) = ' ' :: blanks m := List.replicate_succ
  rw [hcolumns]
  simp only [List.append_assoc, hblank, List.cons_append]
  rw [← List.append_assoc]
  apply firstWord_blanks_append hne
  intro c hc he
  exact h (he ▸ hc)

lemma toList_dotted (s t : String) : s!"{s}..={t}".toList = s.toList ++ '.' :: '.' :: '=' :: t.toList := by
  change (s ++ "..=" ++ t).toList = _
  simp

lemma slotSpan_ne_nil (slot : Word) (spanned : UInt64) : (slotSpan slot spanned).toList ≠ [] := by
  rw [slotSpan]
  split
  · simp [Word.decimal]
  · rw [toList_dotted]
    exact List.append_ne_nil_of_right_ne_nil _ (List.cons_ne_nil _ _)

lemma rowOf_variableRow (hd : l.types.get? v.type = some d)
    (hadd : Word.add? v.slot (Word.ofUInt64 (d.slotsSpanned - 1)) = some last)
    (hlast : last.toNat = v.slot.toNat + d.slotsSpanned.toNat - 1) :
    RowOf v d last (lineText (variableRow l v)) := by
  have hrow : variableRow l v = row v (slotSpan v.slot d.slotsSpanned) (plain d.label) := by
    rw [variableRow, hd]
  have hword := firstWord_row v (slotSpan_ne_nil v.slot d.slotsSpanned)
    (lacks_slotSpan rfl (by decide) v.slot d.slotsSpanned) d.label
  rw [hrow]
  refine ⟨hadd, hlast, ?_, ?_⟩
  · rw [hword, slotSpan_eq hadd]
  · rw [hword]
    exact exists_columns v _ d.label

lemma RowOf.numbersIn_slots {line : List Char} (h : RowOf v d last line) :
    numbersIn (firstWord line) =
      if d.slotsSpanned = 1 then [v.slot.toNat] else [v.slot.toNat, last.toNat] := by
  have hdecimal (w : Word) : w.decimal.toList = Nat.toDigits 10 w.toNat := Nat.toList_repr
  rw [h.slots]
  split
  · rw [hdecimal, numbersIn_toDigits]
  · have hdots (t : List Char) : numbersIn ('.' :: '=' :: t) = numbersIn t := by
      rw [← List.nil_append ('.' :: _), numbersIn_append rfl, ← List.nil_append ('=' :: _), numbersIn_append rfl]
      rfl
    rw [toList_dotted, numbersIn_append rfl, hdots, hdecimal, hdecimal, numbersIn_toDigits, numbersIn_toDigits]
    rfl

lemma RowOf.isGreatest_last {line : List Char} (h : RowOf v d last line) :
    IsGreatest {n | n ∈ numbersIn (firstWord line)} last.toNat := by
  have hpos := d.one_le_slotsSpanned
  have hlast := h.toNat_last
  simp only [h.numbersIn_slots]
  split
  · rename_i hone
    rw [hone, UInt64.toNat_one, Nat.add_sub_cancel] at hlast
    simp [hlast, IsGreatest, upperBounds]
  · refine ⟨.tail _ (.head _), ?_⟩
    rintro n (_ | ⟨_, _ | ⟨_, ⟨⟩⟩⟩)
    · omega
    · exact Nat.le_refl _

lemma headings_eq (name : String) : (layoutHeader name).map lineText = headings name := by
  have hcolumns : lineText [plain "  ", styled .faint (padEnd 10 "slot"), plain " ",
      styled .faint (padStart 6 "offset"), plain "  ", styled .faint (padEnd 24 "label"), plain " ",
      styled .faint "type"] = "  slot       offset  label                    type".toList := by decide
  have htitle : lineText [styled .heading "Storage layout of", plain " ", styled .name name] =
      ("Storage layout of " ++ name).toList := by
    simp [lineText, styled, plain]
  rw [layoutHeader, List.map_cons, List.map_cons, List.map_singleton, hcolumns, htitle]
  rfl

end Report

namespace Layout

variable {l : Layout}

lemma Packed.exists_rowOf (h : l.Packed) {v : Variable} (hv : v ∈ l.vars) :
    ∃ d last, l.types.get? v.type = some d ∧ last.toNat + 1 = l.slotStop v ∧
      Report.RowOf v d last (Report.lineText (Report.variableRow l v)) := by
  obtain ⟨d, hd⟩ := mem_names_iff.mp (h.closed.ofVars v hv)
  have hspan := toNat_slotsSpanned_of_get? hd
  have hpos := d.one_le_slotsSpanned
  have hle := h.slotStop_le hv
  have hstop : l.slotStop v = v.slot.toNat + l.span v := rfl
  obtain ⟨last, hadd, hlast⟩ := Report.exists_last (v := v) (d := d) (by omega)
  exact ⟨d, last, hd, by omega, Report.rowOf_variableRow hd hadd hlast⟩

end Layout

namespace Report

theorem layout_rows {l : Layout} {name : String} (h : l.check = .ok ()) (hne : l.vars ≠ [])
    (hname : Lacks '\n' name) (hl : l.LabelsLack '\n') :
    ∃ rows count greatest,
      ((layout name l).render false).toList.splitOn '\n' = headings name ++ rows ++ [[]] ∧
      List.Forall₂ (fun v line => ∃ d last, l.types.get? v.type = some d ∧ RowOf v d last line)
        l.vars rows ∧
      l.slotCount = .ok count ∧
      IsGreatest {n | ∃ line ∈ rows, n ∈ numbersIn (firstWord line)} greatest ∧
      greatest + 1 = count.toNat := by
  have hp := Layout.packed_of_check h
  obtain ⟨count, hcount, ⟨u, hu, hfarthest⟩, hall⟩ := hp.exists_farthest hne
  obtain ⟨_, final, -, hfinal, hrow⟩ := hp.exists_rowOf hu
  refine ⟨l.vars.map fun v => lineText (variableRow l v), count, final.toNat, ?_, ?_, hcount, ⟨?_, ?_⟩, ?_⟩
  · -- the names of types may have line breaks: in a checked layout none of them is shown
    have hdescribed : ∀ v ∈ l.vars, l.types.get? v.type = none → Lacks '\n' v.type := fun v hv hnone => by
      obtain ⟨d, _, hd, -⟩ := hp.exists_rowOf hv
      rw [hd] at hnone
      cases hnone
    rw [splitOn_render (without_layout (.inl rfl) hl hname hdescribed), layout, List.map_append,
      headings_eq, List.map_map]
    rfl
  · rw [List.forall₂_map_right_iff, List.forall₂_same]
    intro v hv
    obtain ⟨d, last, hd, -, hrow⟩ := hp.exists_rowOf hv
    exact ⟨d, last, hd, hrow⟩
  · exact ⟨_, List.mem_map_of_mem hu, hrow.isGreatest_last.1⟩
  · rintro n ⟨line, hline, hn⟩
    obtain ⟨v, hv, rfl⟩ := List.mem_map.mp hline
    obtain ⟨d, last, -, hlast, hrow⟩ := hp.exists_rowOf hv
    have hle := hrow.isGreatest_last.2 hn
    have hmax := hall v hv
    omega
  · omega

example : Layout.archive.vars.map (fun v => String.ofList (lineText (variableRow Layout.archive v))) =
    ["  0               0  owner                    address",
      "  1..=3           0  roots                    bytes32[3]",
      "  4              31  sealed                   bool"] := by
  rfl

theorem layout_rows_archive : Layout.archive.check = .ok () ∧ Layout.archive.vars ≠ [] ∧
    Lacks '\n' "Archive" ∧ Layout.archive.LabelsLack '\n' ∧
    ∃ rows, ((layout "Archive" Layout.archive).render false).toList.splitOn '\n' =
        headings "Archive" ++ rows ++ [[]] ∧
      rows.length = 3 ∧ IsGreatest {n | ∃ line ∈ rows, n ∈ numbersIn (firstWord line)} 4 := by
  have hcheck : Layout.archive.check = .ok () := rfl
  have hne : Layout.archive.vars ≠ [] := List.cons_ne_nil _ _
  have hname : Lacks '\n' "Archive" := by decide
  have hlabels : Layout.archive.LabelsLack '\n' := ⟨by decide, by decide⟩
  obtain ⟨rows, count, greatest, hlines, hrows, hcount, hgreatest, hlast⟩ :=
    layout_rows hcheck hne hname hlabels
  have hfive : Layout.archive.slotCount = .ok 5 := rfl
  obtain rfl := Except.ok.inj (hcount.symm.trans hfive)
  obtain rfl : greatest = 4 := Nat.succ.inj hlast
  exact ⟨hcheck, hne, hname, hlabels, rows, hlines, hrows.length_eq.symm, hgreatest⟩

end Report

end ContractAtlas
