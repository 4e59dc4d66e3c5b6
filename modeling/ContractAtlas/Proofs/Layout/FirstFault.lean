import ContractAtlas.Proofs.Layout.SlotView
import ContractAtlas.Proofs.Text.Utf8

/-! Which of its faults a layout is blamed for: the least type that is not described, else what is wrong
with the first variable that the walk cannot place. -/

namespace ContractAtlas.Layout

variable {l : Layout} {previous : Option (String × Word)} {v : Variable} {vs : List Variable}

lemma check_of_missing {type : String} (h : l.Missing type) : ∃ least, l.Missing least ∧
    (∀ other, l.Missing other → least ≤ other) ∧ l.check = .error (.unknownType least) := by
  cases hm : l.missingType? with
  | none => exact absurd ⟨type, h⟩ (closed_iff_no_missing.mp (missingType?_eq_none_iff.mp hm))
  | some least =>
    obtain ⟨hmem, hle⟩ := least_mem hm
    refine ⟨least, mem_missing_iff.mp hmem, fun other ho => hle other (mem_missing_iff.mpr ho), ?_⟩
    rw [check, hm]

lemma check_of_closed (h : l.Closed) : l.check = l.placeAll none l.vars := by
  rw [check, missingType?_eq_none_iff.mpr h]

lemma placeAll_withVars (us : List Variable) :
    (l.withVars us).placeAll previous vs = l.placeAll previous vs := by
  induction vs generalizing previous with
  | nil => rfl
  | cons v vs ih =>
    simp only [placeAll, ih]
    rfl

section Blame

variable {α β : Type} {x : Except Fault α}

def BlamesPacking (x : Except Fault α) : Prop :=
  ∀ f, x = .error f → ∃ violation, f = .invalidLayout violation

lemma blamesPacking_ok (a : α) : BlamesPacking (.ok a) := nofun

lemma blamesPacking_error (violation : Violation) :
    BlamesPacking (.error (.invalidLayout violation) : Except Fault α) := by
  rintro _ ⟨⟩
  exact ⟨violation, rfl⟩

lemma BlamesPacking.bind (h : BlamesPacking x) {f : α → Except Fault β}
    (hf : ∀ a, x = .ok a → BlamesPacking (f a)) : BlamesPacking (x >>= f) := by
  cases x with
  | error e =>
    rintro _ ⟨⟩
    exact h e rfl
  | ok a => exact hf a rfl

end Blame

lemma blamesPacking_checkPacked (v : Variable) (d : Descriptor) : BlamesPacking (checkPacked v d) := by
  rw [checkPacked]
  split
  · split
    · exact blamesPacking_ok _
    · exact blamesPacking_error _
  · exact blamesPacking_error _

lemma blamesPacking_checkAligned (v : Variable) (d : Descriptor) : BlamesPacking (checkAligned v d) := by
  rw [checkAligned]
  split
  · exact blamesPacking_checkPacked v d
  · split
    · exact blamesPacking_ok _
    · exact blamesPacking_error _

lemma blamesPacking_checkBehind (start : Word) : BlamesPacking (checkBehind previous v start) := by
  cases previous with
  | none => exact blamesPacking_ok ()
  | some p =>
    rw [checkBehind]
    split
    · exact blamesPacking_error _
    · exact blamesPacking_ok _

lemma blamesPacking_startOf (v : Variable) : BlamesPacking (startOf v) := by
  rcases startOf_cases v with ⟨start, h⟩ | h
  · exact h ▸ blamesPacking_ok start
  · exact h ▸ blamesPacking_error _

lemma blamesPacking_stopOf (v : Variable) (d : Descriptor) (start : Word) :
    BlamesPacking (stopOf v d start) := by
  rcases stopOf_cases v d start with ⟨stop, h⟩ | h
  · exact h ▸ blamesPacking_ok stop
  · exact h ▸ blamesPacking_error _

lemma blamesPacking_place (h : v.type ∈ l.types.names) : BlamesPacking (l.place previous v) := by
  -- the look-up cannot fail, since all types have been looked for before the walk
  obtain ⟨d, hd⟩ := mem_names_iff.mp h
  rw [place, descriptor_eq_ok_iff.mpr hd]
  apply (blamesPacking_checkAligned v d).bind
  intro _ _
  apply (blamesPacking_startOf v).bind
  intro start _
  apply (blamesPacking_checkBehind start).bind
  intro _ _
  exact blamesPacking_stopOf v d start

lemma blamesPacking_placeAll (h : ∀ v ∈ vs, v.type ∈ l.types.names) :
    BlamesPacking (l.placeAll previous vs) := by
  induction vs generalizing previous with
  | nil => exact blamesPacking_ok ()
  | cons v vs ih =>
    apply (blamesPacking_place (h v (.head _))).bind
    intro stop _
    exact ih fun w hw => h w (.tail _ hw)

lemma exists_stop_of_placeAll {f : Fault} (h : l.placeAll previous vs = .error f) :
    ∃ before v after, vs = before ++ v :: after ∧ l.placeAll previous before = .ok () ∧
      ∀ rest, l.placeAll previous (before ++ v :: rest) = .error f := by
  induction vs generalizing previous with
  | nil => cases h
  | cons v vs ih =>
    rw [placeAll] at h
    cases hv : l.place previous v with
    | error e =>
      rw [hv] at h
      cases h
      refine ⟨[], v, vs, rfl, rfl, fun rest => ?_⟩
      rw [List.nil_append, placeAll, hv]
      rfl
    | ok stop =>
      rw [hv] at h
      obtain ⟨before, w, after, rfl, hbefore, hrest⟩ := ih h
      refine ⟨v :: before, w, after, rfl, ?_, fun rest => ?_⟩
      · rw [placeAll, hv]
        exact hbefore
      · rw [List.cons_append, placeAll, hv]
        exact hrest rest

def FailsAt (l : Layout) (k : Nat) (f : Fault) : Prop :=
  (l.withVars (l.vars.take k)).check = .ok () ∧ (l.withVars (l.vars.take (k + 1))).check = .error f

lemma check_take (h : l.Closed) (k : Nat) :
    (l.withVars (l.vars.take k)).check = l.placeAll none (l.vars.take k) := by
  rw [check_of_closed (h.withVars fun v hv => h.ofVars v (List.mem_of_mem_take hv)), placeAll_withVars]
  rfl

lemma FailsAt.le {j k : Nat} {e f : Fault} (hj : l.FailsAt j e) (hk : l.FailsAt k f) : k ≤ j := by
  by_contra hlt
  -- what has a fault at `j` is a beginning of what is accepted up to `k`
  have hsub : (l.vars.take (j + 1)).Sublist (l.vars.take k) :=
    (List.take_prefix_take_left (by omega)).sublist
  have hok : (l.withVars (l.vars.take (j + 1))).check = .ok () :=
    check_of_packed ((packed_of_check hk.1).withVars hsub)
  rw [hj.2] at hok
  cases hok

lemma exists_failsAt {f : Fault} (hc : l.Closed) (h : l.check = .error f) :
    ∃ k, (∀ j, l.FailsAt j f ↔ j = k) ∧
      ∀ after, (l.withVars (l.vars.take (k + 1) ++ after)).Closed →
        (l.withVars (l.vars.take (k + 1) ++ after)).check = l.check := by
  rw [h]
  rw [check_of_closed hc] at h
  obtain ⟨before, v, after, hvars, hbefore, hrest⟩ := exists_stop_of_placeAll h
  have htake : l.vars.take before.length = before := by rw [hvars, List.take_left]
  have htake' : l.vars.take (before.length + 1) = before ++ [v] := by
    rw [hvars, List.append_cons]
    exact List.take_left' List.length_append
  have hat : l.FailsAt before.length f := by
    rw [FailsAt, check_take hc, check_take hc, htake, htake']
    exact ⟨hbefore, hrest []⟩
  refine ⟨before.length, fun j => ⟨fun hj => ?_, ?_⟩, fun rest hrc => ?_⟩
  · exact Nat.le_antisymm (hat.le hj) (hj.le hat)
  · rintro rfl
    exact hat
  · rw [check_of_closed hrc, placeAll_withVars, withVars, htake', List.append_assoc]
    exact hrest rest

theorem check_blames (l : Layout) :
    ((∃ type, l.Missing type) → ∃ least, l.Missing least ∧
      (∀ type, l.Missing type → type = least ∨
        Text.BytesBefore (Text.utf8 least.toList) (Text.utf8 type.toList)) ∧
      l.check = .error (.unknownType least)) ∧
    ((¬ ∃ type, l.Missing type) →
      (∀ type, l.check ≠ .error (.unknownType type)) ∧
      ∀ violation, l.check = .error (.invalidLayout violation) →
        ∃ k, (∀ j, l.FailsAt j (.invalidLayout violation) ↔ j = k) ∧
          ∀ after, (¬ ∃ type, (l.withVars (l.vars.take (k + 1) ++ after)).Missing type) →
            (l.withVars (l.vars.take (k + 1) ++ after)).check = l.check) := by
  constructor
  · rintro ⟨type, h⟩
    obtain ⟨least, hl, hle, hcheck⟩ := check_of_missing h
    refine ⟨least, hl, fun other ho => ?_, hcheck⟩
    by_cases heq : other = least
    · exact .inl heq
    · exact .inr (Text.bytesBefore_of_lt (Std.lt_of_le_of_ne (hle other ho) (Ne.symm heq)))
  · intro h
    have hc := closed_iff_no_missing.mpr h
    refine ⟨fun type ht => ?_, fun violation hv => ?_⟩
    · rw [check_of_closed hc] at ht
      obtain ⟨violation, hf⟩ := blamesPacking_placeAll hc.ofVars _ ht
      cases hf
    · obtain ⟨k, hk, hafter⟩ := exists_failsAt hc hv
      exact ⟨k, hk, fun after ha => hafter after (closed_iff_no_missing.mpr ha)⟩

/-- The second variable lies on the first, and the third reaches past its word. -/
def tangled : Layout where
  vars := [⟨1, "Vault", "total", 0, 0, "t_uint256"⟩, ⟨2, "Vault", "limit", 0, 0, "t_uint256"⟩,
    ⟨3, "Vault", "owner", 16, 1, "t_address_payable"⟩]
  types :=
    { entries := [("t_address_payable", ⟨.inplace, "address payable", 20, none, none, none, none⟩),
        ("t_uint256", ⟨.inplace, "uint256", 32, none, none, none, none⟩)]
      sorted := by decide }

/-- The third variable is in its place, so that the second is the only fault. -/
def retied : Layout :=
  tangled.withVars (tangled.vars.take 2 ++ [⟨3, "Vault", "owner", 0, 1, "t_address_payable"⟩])

def untyped : Layout := ⟨tangled.vars, .empty⟩

lemma missing_untyped_iff {type : String} :
    untyped.Missing type ↔ type = "t_uint256" ∨ type = "t_address_payable" := by
  have hmissing : untyped.references.filter (fun type => !untyped.types.contains type) =
      ["t_uint256", "t_uint256", "t_address_payable"] := rfl
  rw [← mem_missing_iff, hmissing]
  simp

theorem check_blames_tangled :
    (∀ j, tangled.FailsAt j (.invalidLayout (.overlaps "limit" "total")) ↔ j = 1) ∧
      retied.check = tangled.check ∧ untyped.check = .error (.unknownType "t_address_payable") := by
  have hclosed : tangled.Closed := missingType?_eq_none_iff.mp rfl
  have hretied : retied.Closed := missingType?_eq_none_iff.mp rfl
  have hfault : tangled.check = .error (.invalidLayout (.overlaps "limit" "total")) := rfl
  obtain ⟨k, hk, hafter⟩ := ((check_blames tangled).2 (closed_iff_no_missing.mp hclosed)).2 _ hfault
  obtain rfl : 1 = k := (hk 1).mp ⟨rfl, rfl⟩
  have hpayable : untyped.Missing "t_address_payable" := missing_untyped_iff.mpr (.inr rfl)
  obtain ⟨least, hmissing, hleast, hcheck⟩ := (check_blames untyped).1 ⟨_, hpayable⟩
  refine ⟨hk, hafter _ (closed_iff_no_missing.mp hretied), ?_⟩
  rcases missing_untyped_iff.mp hmissing with rfl | rfl
  · rcases hleast _ hpayable with heq | hbefore
    · exact absurd heq (by decide)
    · exact absurd hbefore (by rw [Text.BytesBefore]; decide)
  · exact hcheck

end ContractAtlas.Layout
