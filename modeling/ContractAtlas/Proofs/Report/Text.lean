import ContractAtlas.Report
import ContractAtlas.Proofs.Decimal.Digits

/-! The lines of a report as text. Line breaks and escape characters come from the texts that a report is given,
and from nothing else, so that its lines, and the words and numbers in them, can be read back. -/

namespace ContractAtlas

def Lacks (c : Char) (s : String) : Prop := c ∉ s.toList

instance (c : Char) (s : String) : Decidable (Lacks c s) := inferInstanceAs (Decidable (_ ∉ _))

def IsControl (c : Char) : Prop := c = '\n' ∨ c = '\x1b'

section Lacks

variable {c : Char} {s t : String} {width : Nat}

@[simp] lemma lacks_append : Lacks c (s ++ t) ↔ Lacks c s ∧ Lacks c t := by
  rw [Lacks, String.toList_append, List.mem_append, not_or]
  rfl

@[simp] lemma lacks_toString : Lacks c (toString s) ↔ Lacks c s := Iff.rfl

lemma lacks_repr (h : c.isDigit = false) (n : Nat) : Lacks c n.repr := by
  intro hc
  rw [Nat.toList_repr] at hc
  simp [Decimal.isDigit_of_mem_toDigits hc] at h

lemma lacks_decimal (h : c.isDigit = false) (w : Word) : Lacks c w.decimal := lacks_repr h w.toNat

lemma lacks_slotSpan (h : c.isDigit = false) (hdots : Lacks c "..=") (slot : Word) (spanned : UInt64) :
    Lacks c (Report.slotSpan slot spanned) := by
  rw [Report.slotSpan]
  split
  · exact lacks_decimal h slot
  · simp [lacks_decimal h, hdots]

lemma lacks_padEnd (h : c ≠ ' ') : Lacks c (Report.padEnd width s) ↔ Lacks c s := by
  simp [Lacks, Report.padEnd, List.mem_replicate, h]

lemma lacks_padStart (h : c ≠ ' ') : Lacks c (Report.padStart width s) ↔ Lacks c s := by
  simp [Lacks, Report.padStart, List.mem_replicate, h]

end Lacks

def Layout.LabelsLack (c : Char) (l : Layout) : Prop :=
  (∀ v ∈ l.vars, Lacks c v.label) ∧ ∀ e ∈ l.types.entries, Lacks c e.2.label

def Report.Without (c : Char) (r : Report) : Prop := ∀ line ∈ r.lines, ∀ s ∈ line, Lacks c s.text

section Table

variable {c : Char} {l : Layout} {name : String} {v : Variable}

lemma lacks_variableRow (hc : IsControl c) (hl : l.LabelsLack c) (hv : v ∈ l.vars)
    (ht : l.types.get? v.type = none → Lacks c v.type) :
    ∀ s ∈ Report.variableRow l v, Lacks c s.text := by
  obtain ⟨hne, hdigit, hdots, hblank⟩ : c ≠ ' ' ∧ c.isDigit = false ∧ Lacks c "..=" ∧ Lacks c " " ∧
      Lacks c "  " := by
    rcases hc with rfl | rfl <;> decide
  have hlabel := hl.1 v hv
  rw [Report.variableRow]
  cases hd : l.types.get? v.type with
  | some d =>
    have hdescribed : Lacks c d.label := hl.2 (v.type, d) (Table.mem_entries_iff.mpr hd)
    simp [Report.row, Report.plain, Report.styled, lacks_padEnd hne, lacks_padStart hne,
      lacks_repr hdigit, lacks_slotSpan hdigit hdots, hblank, hlabel, hdescribed]
  | none =>
    simp [Report.row, Report.plain, Report.styled, lacks_padEnd hne, lacks_padStart hne,
      lacks_repr hdigit, lacks_decimal hdigit, hblank, hlabel, ht hd]

lemma lacks_layoutHeader (hc : IsControl c) (hname : Lacks c name) :
    ∀ line ∈ Report.layoutHeader name, ∀ s ∈ line, Lacks c s.text := by
  obtain ⟨hne, htexts⟩ : c ≠ ' ' ∧ Lacks c "Storage layout of" ∧ Lacks c " " ∧ Lacks c "  " ∧
      Lacks c "slot" ∧ Lacks c "offset" ∧ Lacks c "label" ∧ Lacks c "type" := by
    rcases hc with rfl | rfl <;> decide
  simp [Report.layoutHeader, Report.plain, Report.styled, lacks_padEnd hne, lacks_padStart hne, htexts,
    hname]

lemma without_layout (hc : IsControl c) (hl : l.LabelsLack c) (hname : Lacks c name)
    (ht : ∀ v ∈ l.vars, l.types.get? v.type = none → Lacks c v.type) :
    (Report.layout name l).Without c := by
  intro line hline
  rcases List.mem_append.mp hline with hline | hline
  · exact lacks_layoutHeader hc hname line hline
  · obtain ⟨v, hv, rfl⟩ := List.mem_map.mp hline
    exact lacks_variableRow hc hl hv (ht v hv)

end Table

namespace Report

section Reading

def firstWord (line : List Char) : List Char := (line.dropWhile (· == ' ')).takeWhile (· != ' ')

def numbersIn (t : List Char) : List Nat :=
  ((t.splitOnP fun c => !c.isDigit).filter (· ≠ [])).map fun ds => Nat.ofDigitChars 10 ds 0

def lineText (line : Line) : List Char := line.flatMap fun s => s.text.toList

def blanks (n : Nat) : List Char := List.replicate n ' '

lemma blanks_add (m n : Nat) : blanks (m + n) = blanks m ++ blanks n :=
  List.replicate_append_replicate.symm

lemma splitOn_lines {lines : List (List Char)} (h : ∀ line ∈ lines, '\n' ∉ line) :
    (lines.flatMap (· ++ ['\n'])).splitOn '\n' = lines ++ [[]] := by
  induction lines with
  | nil => exact List.splitOnP_nil
  | cons line lines ih =>
    obtain ⟨hline, hlines⟩ := List.forall_mem_cons.mp h
    have hone : line.splitOnP (· == '\n') = [line] := by
      apply List.splitOnP_eq_singleton
      intro c hc
      exact beq_eq_false_iff_ne.mpr fun he => hline (he ▸ hc)
    rw [List.flatMap_cons, List.append_assoc, List.singleton_append, List.splitOn,
      List.splitOnP_append_cons (p := (· == '\n')) _ _ rfl, hone, ← List.splitOn, ih hlines]
    rfl

lemma not_mem_lineText {c : Char} {line : Line} (h : ∀ s ∈ line, Lacks c s.text) : c ∉ lineText line := by
  rw [lineText, List.mem_flatMap]
  rintro ⟨s, hs, hc⟩
  exact h s hs hc

lemma splitOn_render {r : Report} (h : r.Without '\n') :
    (r.render false).toList.splitOn '\n' = r.lines.map lineText ++ [[]] := by
  have hlines : ∀ line ∈ r.lines.map lineText, '\n' ∉ line :=
    List.forall_mem_map.mpr fun line hline => not_mem_lineText (h line hline)
  have hrender : r.lines.flatMap (Line.render false) = (r.lines.map lineText).flatMap (· ++ ['\n']) := by
    rw [List.flatMap_map]
    rfl
  rw [render, String.toList_ofList, hrender, splitOn_lines hlines]

lemma firstWord_blanks_append {w : List Char} (hne : w ≠ []) (h : ∀ c ∈ w, c ≠ ' ') (n : Nat)
    (rest : List Char) : firstWord (blanks n ++ w ++ ' ' :: rest) = w := by
  obtain ⟨c, w, rfl⟩ := List.exists_cons_of_ne_nil hne
  have hblanks : ∀ c ∈ blanks n, (c == ' ') = true := fun c hc => by
    rw [List.eq_of_mem_replicate hc]
    rfl
  have hc : (c == ' ') = false := beq_eq_false_iff_ne.mpr (h c (.head _))
  have hw : ∀ x ∈ c :: w, (x != ' ') = true := fun x hx => bne_iff_ne.mpr (h x hx)
  rw [firstWord, List.append_assoc, List.dropWhile_append_of_pos hblanks, List.cons_append,
    List.dropWhile_cons_of_neg (by simpa using hc), ← List.cons_append, List.takeWhile_append_of_pos hw,
    List.takeWhile_cons_of_neg (by decide), List.append_nil]

lemma numbersIn_toDigits (n : Nat) : numbersIn (Nat.toDigits 10 n) = [n] := by
  have hone : (Nat.toDigits 10 n).splitOnP (fun c => !c.isDigit) = [Nat.toDigits 10 n] :=
    List.splitOnP_eq_singleton fun c hc => by
      rw [Decimal.isDigit_of_mem_toDigits hc]
      rfl
  rw [numbersIn, hone, List.filter_cons_of_pos (by simp)]
  simp [Nat.ofDigitChars_ten_toDigits]

lemma numbersIn_append {c : Char} (h : c.isDigit = false) (s t : List Char) :
    numbersIn (s ++ c :: t) = numbersIn s ++ numbersIn t := by
  rw [numbersIn, List.splitOnP_append_cons _ _ (by simp [h]), List.filter_append, List.map_append]
  rfl

end Reading

end Report

end ContractAtlas
