import ContractAtlas.Text.Blank
import Mathlib.Data.List.TakeWhile
import Mathlib.Tactic.Lemma

namespace ContractAtlas.Text

def Trims (text inner : List Char) : Prop :=
  ∃ before after, text = before ++ inner ++ after ∧
    (∀ c ∈ before, isBlank c = true) ∧ (∀ c ∈ after, isBlank c = true) ∧
    (∀ c ∈ inner.head?, isBlank c = false) ∧ ∀ c ∈ inner.getLast?, isBlank c = false

lemma trimStart_append {before : List Char} (h : ∀ c ∈ before, isBlank c = true) (t : List Char) :
    trimStart (before ++ t) = trimStart t :=
  List.dropWhile_append_of_pos h

lemma trimEnd_append {after : List Char} (h : ∀ c ∈ after, isBlank c = true) (t : List Char) :
    trimEnd (t ++ after) = trimEnd t := by
  rw [trimEnd, trimEnd, List.reverse_append, trimStart_append (by simpa using h)]

lemma trimEnd_of_getLast {t : List Char} (h : ∀ c ∈ t.getLast?, isBlank c = false) : trimEnd t = t := by
  rw [trimEnd, trimStart_of_head (by rwa [List.head?_reverse]), List.reverse_reverse]

lemma exists_blank_append_trimStart (t : List Char) :
    ∃ before, t = before ++ trimStart t ∧ ∀ c ∈ before, isBlank c = true :=
  ⟨t.takeWhile isBlank, List.takeWhile_append_dropWhile.symm, fun _ hc => List.mem_takeWhile_imp hc⟩

lemma exists_trimEnd_append_blank (t : List Char) :
    ∃ after, t = trimEnd t ++ after ∧ ∀ c ∈ after, isBlank c = true := by
  obtain ⟨before, hsplit, hblank⟩ := exists_blank_append_trimStart t.reverse
  refine ⟨before.reverse, ?_, by simpa using hblank⟩
  rw [trimEnd, ← List.reverse_append, ← hsplit, List.reverse_reverse]

lemma getLast?_trimEnd {t : List Char} : ∀ c ∈ (trimEnd t).getLast?, isBlank c = false := by
  rw [trimEnd, List.getLast?_reverse]
  exact head?_trimStart

lemma trims_trim (t : List Char) : Trims t (trim t) := by
  obtain ⟨before, hstart, hbefore⟩ := exists_blank_append_trimStart t
  obtain ⟨after, hend, hafter⟩ := exists_trimEnd_append_blank (trimStart t)
  refine ⟨before, after, ?_, hbefore, hafter, head?_trimEnd head?_trimStart, getLast?_trimEnd⟩
  rw [trim, List.append_assoc, ← hend, ← hstart]

lemma Trims.eq_trim {t inner : List Char} (h : Trims t inner) : inner = trim t := by
  obtain ⟨before, after, rfl, hbefore, hafter, hhead, hlast⟩ := h
  rw [List.append_assoc, trim, trimStart_append hbefore]
  cases inner with
  | nil =>
    rw [List.nil_append, trimStart, List.dropWhile_eq_nil_iff.mpr hafter]
    rfl
  | cons c inner =>
    rw [trimStart_of_head (by simpa using hhead), trimEnd_append hafter, trimEnd_of_getLast hlast]

end ContractAtlas.Text
