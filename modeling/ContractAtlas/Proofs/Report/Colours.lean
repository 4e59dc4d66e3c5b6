import ContractAtlas.Proofs.Report.Text

/-! Colours add escape codes to a report and change nothing else: what is left when the codes are taken out is
the report without colours, column by column. -/

namespace ContractAtlas

def isAttribute (c : Char) : Bool := c.isDigit || c = ';'

def behindCode? : List Char → Option (List Char)
  | '\x1b' :: '[' :: s =>
    match s.dropWhile isAttribute with
    | 'm' :: rest => some rest
    | _ => none
  | _ => none

lemma length_behindCode? {s rest : List Char} (h : behindCode? s = some rest) :
    rest.length < s.length := by
  rw [behindCode?.eq_def] at h
  split at h
  · rename_i s
    split at h
    · rename_i heq
      obtain rfl := Option.some.inj h
      have hle := (List.dropWhile_suffix (l := s) isAttribute).length_le
      rw [heq] at hle
      simp only [List.length_cons] at hle ⊢
      omega
    · cases h
  · cases h

def dropCodes : List Char → List Char
  | [] => []
  | c :: s =>
    match _h : behindCode? (c :: s) with
    | some rest => dropCodes rest
    | none => c :: dropCodes s
termination_by s => s.length
decreasing_by
  · exact length_behindCode? _h
  · exact Nat.lt_succ_self _

lemma dropCodes_of_behindCode? {s rest : List Char} (h : behindCode? s = some rest) :
    dropCodes s = dropCodes rest := by
  cases s with
  | nil => cases h
  | cons c s =>
    rw [dropCodes]
    split
    · rename_i r hr
      obtain rfl := Option.some.inj (hr.symm.trans h)
      rfl
    · rename_i hn
      rw [h] at hn
      cases hn

lemma dropCodes_cons {c : Char} (h : c ≠ '\x1b') (s : List Char) :
    dropCodes (c :: s) = c :: dropCodes s := by
  have hnone : behindCode? (c :: s) = none := by
    rw [behindCode?.eq_def]
    split
    · rename_i hc
      exact absurd (List.cons.inj hc).1 h
    · rfl
  rw [dropCodes]
  split
  · rename_i hsome
    rw [hnone] at hsome
    cases hsome
  · rfl

lemma dropCodes_append {s : List Char} (h : '\x1b' ∉ s) (t : List Char) :
    dropCodes (s ++ t) = s ++ dropCodes t := by
  induction s with
  | nil => rfl
  | cons c s ih =>
    rw [List.mem_cons, not_or] at h
    rw [List.cons_append, dropCodes_cons (Ne.symm h.1), ih h.2, List.cons_append]

lemma dropCodes_code {attributes : List Char} (h : ∀ c ∈ attributes, isAttribute c = true) (t : List Char) :
    dropCodes ('\x1b' :: '[' :: (attributes ++ 'm' :: t)) = dropCodes t := by
  have hdrop : (attributes ++ 'm' :: t).dropWhile isAttribute = 'm' :: t := by
    rw [List.dropWhile_append_of_pos h, List.dropWhile_cons_of_neg (by decide)]
  apply dropCodes_of_behindCode?
  simp only [behindCode?, hdrop]

lemma dropCodes_opening (style : Style) (t : List Char) :
    dropCodes (style.opening ++ t) = dropCodes t := by
  have h : style.attributes.all isAttribute = true := by cases style <;> rfl
  have hopening : style.opening ++ t = '\x1b' :: '[' :: (style.attributes ++ 'm' :: t) := by
    simp [Style.opening]
  rw [hopening, dropCodes_code (List.all_eq_true.mp h)]

lemma dropCodes_resetCode (t : List Char) : dropCodes (resetCode ++ t) = dropCodes t :=
  dropCodes_code (List.forall_mem_singleton.mpr (rfl : isAttribute '0' = true)) t

lemma reopen_of_not_mem {code s : List Char} (h : '\x1b' ∉ s) : reopen code s = s := by
  induction s with
  | nil => rfl
  | cons c s ih =>
    rw [List.mem_cons, not_or] at h
    rw [reopen.eq_def]
    split
    · rename_i heq
      cases heq
    · rename_i heq
      exact absurd (List.cons.inj heq).1.symm h.1
    · rename_i heq
      obtain ⟨rfl, rfl⟩ := List.cons.inj heq
      rw [ih h.2]

namespace Report

lemma dropCodes_span {s : Span} (h : Lacks '\x1b' s.text) (t : List Char) :
    dropCodes (s.render true ++ t) = s.render false ++ dropCodes t := by
  -- what follows stays general: a code could end in it if the text had an escape character
  obtain ⟨style, text⟩ := s
  cases style with
  | none => exact dropCodes_append h t
  | some style =>
    have hrender : Span.render true ⟨some style, text⟩ ++ t =
        style.opening ++ (text.toList ++ (resetCode ++ t)) := by
      simp [Span.render, reopen_of_not_mem h]
    rw [hrender, dropCodes_opening, dropCodes_append h, dropCodes_resetCode]
    rfl

lemma dropCodes_spans {l : Line} (h : ∀ s ∈ l, Lacks '\x1b' s.text) (t : List Char) :
    dropCodes (l.flatMap (Span.render true) ++ t) = l.flatMap (Span.render false) ++ dropCodes t := by
  induction l with
  | nil => rfl
  | cons s l ih =>
    obtain ⟨hs, hl⟩ := List.forall_mem_cons.mp h
    rw [List.flatMap_cons, List.flatMap_cons, List.append_assoc, dropCodes_span hs, ih hl, List.append_assoc]

lemma dropCodes_line {l : Line} (h : ∀ s ∈ l, Lacks '\x1b' s.text) (t : List Char) :
    dropCodes (l.render true ++ t) = l.render false ++ dropCodes t := by
  rw [Line.render, Line.render, List.append_assoc, dropCodes_spans h, List.append_assoc]
  exact congrArg (_ ++ ·) (dropCodes_append (s := ['\n']) (by decide) t)

lemma dropCodes_lines {ls : List Line} (h : ∀ l ∈ ls, ∀ s ∈ l, Lacks '\x1b' s.text) :
    dropCodes (ls.flatMap (Line.render true)) = ls.flatMap (Line.render false) := by
  induction ls with
  | nil => rw [List.flatMap_nil, List.flatMap_nil, dropCodes]
  | cons l ls ih =>
    obtain ⟨hl, hls⟩ := List.forall_mem_cons.mp h
    rw [List.flatMap_cons, dropCodes_line hl, ih hls, List.flatMap_cons]

def SameWithoutCodes (r : Report) : Prop := dropCodes (r.render true).toList = (r.render false).toList

lemma sameWithoutCodes {r : Report} (h : r.Without '\x1b') : r.SameWithoutCodes := by
  rw [SameWithoutCodes, render, render, String.toList_ofList, String.toList_ofList, dropCodes_lines h]

section Texts

@[simp] lemma lacks_escape_repr (n : Nat) : Lacks '\x1b' n.repr := lacks_repr rfl n

@[simp] lemma lacks_escape_size (n : Nat) : Lacks '\x1b' (size n) := by
  rw [size]
  split <;> simp +decide

@[simp] lemma lacks_escape_version (v : Version) : Lacks '\x1b' v.text := by
  rw [v.text_eq]
  simp +decide

lemma exists_digitChar_of_mem_encode {bytes : List UInt8} {c : Char} (h : c ∈ Hex.encode bytes) :
    ∃ n < 16, c = Nat.digitChar n := by
  obtain ⟨b, -, hc⟩ := List.mem_flatMap.mp h
  have hb := b.toNat_lt
  simp only [List.mem_cons, List.not_mem_nil, or_false] at hc
  rcases hc with rfl | rfl
  · exact ⟨b.toNat / 16, by omega, rfl⟩
  · exact ⟨b.toNat % 16, by omega, rfl⟩

lemma lacks_escape_marked {cs : List Char} (h : '\x1b' ∉ cs) :
    Lacks '\x1b' (String.ofList ('0' :: 'x' :: cs)) := by
  simp [Lacks, h]

@[simp] lemma lacks_escape_prefixed (bytes : List UInt8) : Lacks '\x1b' (Hex.prefixed bytes) := by
  have hdigit : ∀ n < 16, '\x1b' ≠ Nat.digitChar n := by decide
  apply lacks_escape_marked
  intro h
  obtain ⟨n, hn, hc⟩ := exists_digitChar_of_mem_encode h
  exact hdigit n hn hc

@[simp] lemma lacks_escape_address (a : Address) : Lacks '\x1b' a.text := by
  have hdigit : ∀ n < 16, '\x1b' ≠ Nat.digitChar n ∧ '\x1b' ≠ (Nat.digitChar n).toUpper := by decide
  apply lacks_escape_marked
  rw [← List.map_uncurry_zip_eq_zipWith, List.mem_map]
  rintro ⟨⟨c, k⟩, hmem, hc⟩
  obtain ⟨n, hn, rfl⟩ := exists_digitChar_of_mem_encode (List.of_mem_zip hmem).1
  simp only [Function.uncurry_apply_pair] at hc
  split at hc
  · exact (hdigit n hn).2 hc.symm
  · exact (hdigit n hn).1 hc.symm

end Texts

section Reports

variable {name reason : String}

lemma without_contractsHeader (count : Nat) : (contractsHeader count).Without '\x1b' := by
  simp +decide [Without, contractsHeader, plain, styled]

lemma without_contract (hname : Lacks '\x1b' name) (count : Nat) (c : Code)
    (predeploy : Option Address) : (contract name count c predeploy).Without '\x1b' := by
  cases predeploy <;> simp +decide [Without, contract, detail, plain, styled, hname]

lemma without_code (hname : Lacks '\x1b' name) (c : Code) : (code name c).Without '\x1b' := by
  rw [code]
  cases c.splitMetadata <;> cases c.version <;> simp +decide [Without, fact, plain, styled, hname]

lemma without_checkPassed (hname : Lacks '\x1b' name) : (checkPassed name).Without '\x1b' := by
  simp +decide [Without, checkPassed, plain, styled, hname]

lemma without_checkFailed (hname : Lacks '\x1b' name) (hreason : Lacks '\x1b' reason) :
    (checkFailed name reason).Without '\x1b' := by
  simp +decide [Without, checkFailed, plain, styled, hname, hreason]

lemma without_checkSummary (checked failed : Nat) : (checkSummary checked failed).Without '\x1b' := by
  rw [checkSummary]
  split <;> simp +decide [Without, plain, styled]

theorem colours_add_codes :
    (∀ count, (contractsHeader count).SameWithoutCodes) ∧
    (∀ name, Lacks '\x1b' name →
      (∀ count c predeploy, (contract name count c predeploy).SameWithoutCodes) ∧
      (∀ l : Layout, l.LabelsLack '\x1b' → (∀ v ∈ l.vars, Lacks '\x1b' v.type) →
        (layout name l).SameWithoutCodes) ∧
      (∀ c, (code name c).SameWithoutCodes) ∧
      (checkPassed name).SameWithoutCodes ∧
      ∀ reason, Lacks '\x1b' reason → (checkFailed name reason).SameWithoutCodes) ∧
    ∀ checked failed, (checkSummary checked failed).SameWithoutCodes := by
  refine ⟨?_, fun name hname => ⟨?_, ?_, ?_, ?_, ?_⟩, ?_⟩
  · exact fun count => sameWithoutCodes (without_contractsHeader count)
  · exact fun count c predeploy => sameWithoutCodes (without_contract hname count c predeploy)
  · intro l hl ht
    exact sameWithoutCodes (without_layout (.inr rfl) hl hname fun v hv _ => ht v hv)
  · exact fun c => sameWithoutCodes (without_code hname c)
  · exact sameWithoutCodes (without_checkPassed hname)
  · exact fun reason hreason => sameWithoutCodes (without_checkFailed hname hreason)
  · exact fun checked failed => sameWithoutCodes (without_checkSummary checked failed)

example : (checkPassed "Vault").render true = "  \x1b[1;32mOK\x1b[0m \x1b[36mVault\x1b[0m\n" := by
  decide +kernel

/-- The type of its second variable is not described. -/
def halfDescribed : Layout where
  vars := [⟨1, "Vault", "owner", 0, 0, "t_address"⟩, ⟨2, "Vault", "total", 0, 1, "t_uint256"⟩]
  types :=
    { entries := [("t_address", ⟨.inplace, "address", 20, none, none, none, none⟩)]
      sorted := by simp }

theorem colours_add_codes_halfDescribed : Lacks '\x1b' "Vault" ∧ halfDescribed.LabelsLack '\x1b' ∧
    (layout "Vault" halfDescribed).SameWithoutCodes ∧
    (checkFailed "Vault" (Fault.unknownType "t_uint256").message).SameWithoutCodes := by
  have hname : Lacks '\x1b' "Vault" := by decide
  have hlabels : halfDescribed.LabelsLack '\x1b' := ⟨by decide, by decide⟩
  obtain ⟨-, hnamed, -⟩ := colours_add_codes
  obtain ⟨-, hlayout, -, -, hfailed⟩ := hnamed "Vault" hname
  exact ⟨hname, hlabels, hlayout _ hlabels (by decide), hfailed _ (by decide)⟩

end Reports

end Report

end ContractAtlas
