import ContractAtlas.Proofs.Layout.Packing
import ContractAtlas.Proofs.Table
import ContractAtlas.Registry
import Mathlib.Data.List.Induction
import Mathlib.Data.List.Nodup
import Mathlib.Order.Bounds.Basic

/-! Registration of a list of artifacts. The two tables record what has been gone through so far, and a
record determines its tables; so the order of the list matters only to the fault. -/

namespace ContractAtlas

def Artifact.trimmed (a : Artifact) : String := String.ofList (Text.trim a.code.toList)

lemma Artifact.ofHex_trimmed (a : Artifact) : Code.ofHex a.trimmed = Code.ofHex a.code := by
  simp only [Code.ofHex, Code.digitsOf, trimmed, String.toList_ofList, Text.trim_trim]

structure Registrable (as : List Artifact) : Prop where
  readable : ∀ a ∈ as, ∃ l, Layout.ofText a.layout = .ok l
  distinct : (as.map Artifact.name).Nodup

def Offends (as : List Artifact) (i : Nat) : Prop :=
  ∃ a, as[i]? = some a ∧ ((∃ e, Layout.ofText a.layout = .error e) ∨
    ∃ j < i, ∃ b, as[j]? = some b ∧ b.name = a.name)

namespace Registrable

variable {as bs : List Artifact}

lemma perm (h : Registrable as) (hp : as.Perm bs) : Registrable bs :=
  ⟨fun a ha => h.readable a (hp.mem_iff.mpr ha), (hp.map _).nodup_iff.mp h.distinct⟩

lemma nil : Registrable [] := ⟨by simp, .nil⟩

lemma concat_iff {a : Artifact} : Registrable (as ++ [a]) ↔
    Registrable as ∧ (∃ l, Layout.ofText a.layout = .ok l) ∧ a.name ∉ as.map Artifact.name := by
  constructor
  · rintro ⟨hr, hd⟩
    rw [List.map_append, List.map_singleton, List.nodup_append_comm] at hd
    obtain ⟨hn, hd⟩ := List.nodup_cons.mp hd
    exact ⟨⟨fun b hb => hr b (List.mem_append_left _ hb), hd⟩, hr a (by simp), hn⟩
  · rintro ⟨⟨hr, hd⟩, ha, hn⟩
    refine ⟨fun b hb => ?_, ?_⟩
    · rcases List.mem_append.mp hb with hb | hb
      · exact hr b hb
      · exact List.mem_singleton.mp hb ▸ ha
    · rw [List.map_append, List.map_singleton, List.nodup_append_comm]
      exact List.nodup_cons.mpr ⟨hn, hd⟩

lemma not_offends (h : Registrable as) (cs : List Artifact) {i : Nat} (hi : i < as.length) :
    ¬ Offends (as ++ cs) i := by
  rintro ⟨a, ha, ⟨e, he⟩ | ⟨j, hj, b, hb, hname⟩⟩
  · rw [List.getElem?_append_left hi] at ha
    obtain ⟨l, hl⟩ := h.readable a (List.mem_of_getElem? ha)
    rw [he] at hl
    cases hl
  · rw [List.getElem?_append_left hi] at ha
    rw [List.getElem?_append_left (hj.trans hi)] at hb
    apply List.nodup_iff_getElem?_ne_getElem?.mp h.distinct j i hj
    · rwa [List.length_map]
    · rw [List.getElem?_map, List.getElem?_map, ha, hb, Option.map_some, Option.map_some, hname]

end Registrable

namespace Registry

variable {r q : Registry} {as bs : List Artifact} {a : Artifact}

structure Records (r : Registry) (as : List Artifact) : Prop where
  layouts : r.layouts.Collects Artifact.name (fun a l => Layout.ofText a.layout = .ok l) as
  codes : r.codes.Collects Artifact.name (fun a s => s = a.trimmed) as

lemma records_empty : empty.Records [] := ⟨Table.collects_nil, Table.collects_nil⟩

lemma Records.perm (h : r.Records as) (hp : as.Perm bs) : r.Records bs :=
  ⟨h.layouts.perm hp, h.codes.perm hp⟩

lemma Records.unique (hr : r.Records as) (hq : q.Records as) : r = q := by
  obtain ⟨layouts, codes⟩ := r
  obtain ⟨layouts', codes'⟩ := q
  congr
  · exact hr.layouts.unique hq.layouts
  · exact hr.codes.unique hq.codes

def extended (r : Registry) (a : Artifact) (l : Layout) : Registry :=
  ⟨r.layouts.insert a.name l, r.codes.insert a.name a.trimmed⟩

lemma register_eq_ok_iff : r.register a = .ok q ↔
    ∃ l, Layout.ofText a.layout = .ok l ∧ a.name ∉ r.layouts.names ∧ q = r.extended a l := by
  rw [register, ← Table.contains_iff]
  cases Layout.ofText a.layout with
  | error e => simp
  | ok l => cases r.layouts.contains a.name <;> simp [extended, Artifact.trimmed, eq_comm]

lemma register_eq_error_iff {f : RegistrationFault} : r.register a = .error f ↔
    (∃ e, Layout.ofText a.layout = .error e ∧ f = .malformedLayout a.name e) ∨
      (∃ l, Layout.ofText a.layout = .ok l) ∧ a.name ∈ r.layouts.names ∧ f = .registeredTwice a.name := by
  rw [register, ← Table.contains_iff]
  cases Layout.ofText a.layout with
  | error e => simp [eq_comm (a := f)]
  | ok l => cases r.layouts.contains a.name <;> simp [eq_comm (a := f)]

lemma Records.extended (h : r.Records as) {l : Layout} (hl : Layout.ofText a.layout = .ok l)
    (hn : a.name ∉ as.map Artifact.name) : (r.extended a l).Records (as ++ [a]) := by
  refine ⟨h.layouts.insert (fun m => ?_) hn, h.codes.insert (fun s => Iff.rfl) hn⟩
  rw [hl, Except.ok.injEq, eq_comm]

lemma ofArtifacts_concat (as : List Artifact) (a : Artifact) :
    ofArtifacts (as ++ [a]) = ofArtifacts as >>= fun r => r.register a := by
  rw [ofArtifacts, List.foldlM_append]
  congr
  funext r
  cases h : r.register a <;> simp [List.foldlM_cons, h]

lemma records_of_ofArtifacts (h : ofArtifacts as = .ok r) : r.Records as ∧ Registrable as := by
  -- from the end: the last artifact meets tables that record all before it
  induction as using List.reverseRecOn generalizing r with
  | nil =>
    cases h
    exact ⟨records_empty, .nil⟩
  | append_singleton as a ih =>
    rw [ofArtifacts_concat, bind_eq_ok_iff] at h
    obtain ⟨q, hq, hr⟩ := h
    obtain ⟨hrec, hreg⟩ := ih hq
    obtain ⟨l, hl, hn, rfl⟩ := register_eq_ok_iff.mp hr
    rw [hrec.layouts.mem_names_iff hreg.readable] at hn
    exact ⟨hrec.extended hl hn, Registrable.concat_iff.mpr ⟨hreg, ⟨l, hl⟩, hn⟩⟩

lemma ofArtifacts_of_registrable (h : Registrable as) : ∃ r, ofArtifacts as = .ok r := by
  induction as using List.reverseRecOn with
  | nil => exact ⟨empty, rfl⟩
  | append_singleton as a ih =>
    obtain ⟨hreg, ⟨l, hl⟩, hn⟩ := Registrable.concat_iff.mp h
    obtain ⟨r, hr⟩ := ih hreg
    rw [← (records_of_ofArtifacts hr).1.layouts.mem_names_iff hreg.readable] at hn
    refine ⟨r.extended a l, ?_⟩
    rw [ofArtifacts_concat, bind_eq_ok_iff]
    exact ⟨r, hr, register_eq_ok_iff.mpr ⟨l, hl, hn, rfl⟩⟩

lemma exists_register_of_error {f : RegistrationFault} (h : ofArtifacts as = .error f) :
    ∃ before a after r, as = before ++ a :: after ∧ ofArtifacts before = .ok r ∧ r.register a = .error f := by
  induction as using List.reverseRecOn with
  | nil => cases h
  | append_singleton as a ih =>
    rw [ofArtifacts_concat] at h
    cases hr : ofArtifacts as with
    | error e =>
      rw [hr] at h
      cases h
      obtain ⟨before, b, after, r, rfl, hbefore, hb⟩ := ih hr
      exact ⟨before, b, after ++ [a], r, by simp, hbefore, hb⟩
    | ok r =>
      rw [hr] at h
      exact ⟨as, a, [], r, rfl, hr, h⟩

lemma ofArtifacts_of_malformed (h : ofArtifacts as = .ok r) {e : Json.Fault}
    (ha : Layout.ofText a.layout = .error e) (bs : List Artifact) :
    ofArtifacts (as ++ a :: bs) = .error (.malformedLayout a.name e) := by
  have hr : as.foldlM register empty = .ok r := h
  have hfault : r.register a = .error (.malformedLayout a.name e) := register_eq_error_iff.mpr (.inl ⟨e, ha, rfl⟩)
  rw [ofArtifacts, List.foldlM_append, hr]
  change (a :: bs).foldlM register r = _
  rw [List.foldlM_cons, hfault]
  rfl

lemma exists_fault_of_malformed {e : Json.Fault} (h : a ∈ as) (ha : Layout.ofText a.layout = .error e) :
    ∃ f, ofArtifacts as = .error f := by
  cases hr : ofArtifacts as with
  | error f => exact ⟨f, rfl⟩
  | ok r =>
    obtain ⟨l, hl⟩ := (records_of_ofArtifacts hr).2.readable a h
    rw [ha] at hl
    cases hl

lemma ofArtifacts_perm (h : ofArtifacts as = .ok r) (hp : as.Perm bs) : ofArtifacts bs = .ok r := by
  obtain ⟨hrec, hreg⟩ := records_of_ofArtifacts h
  obtain ⟨q, hq⟩ := ofArtifacts_of_registrable (hreg.perm hp)
  rw [hq, (records_of_ofArtifacts hq).1.unique (hrec.perm hp)]

lemma isLeast_offends_of_error {f : RegistrationFault} (h : ofArtifacts as = .error f) :
    ∃ i a, IsLeast {i | Offends as i} i ∧ as[i]? = some a ∧
      ((∃ e, Layout.ofText a.layout = .error e ∧ f = .malformedLayout a.name e) ∨
        (∃ l, Layout.ofText a.layout = .ok l) ∧ f = .registeredTwice a.name) := by
  obtain ⟨before, a, after, r, rfl, hbefore, ha⟩ := exists_register_of_error h
  obtain ⟨hrec, hreg⟩ := records_of_ofArtifacts hbefore
  have hat : (before ++ a :: after)[before.length]? = some a := by simp
  have hlower : before.length ∈ lowerBounds {i | Offends (before ++ a :: after) i} := fun i hi =>
    Nat.le_of_not_lt fun hlt => hreg.not_offends _ hlt hi
  rcases register_eq_error_iff.mp ha with ⟨e, he, hf⟩ | ⟨hl, hn, hf⟩
  · exact ⟨before.length, a, ⟨⟨a, hat, .inl ⟨e, he⟩⟩, hlower⟩, hat, .inl ⟨e, he, hf⟩⟩
  · rw [hrec.layouts.mem_names_iff hreg.readable, List.mem_map] at hn
    obtain ⟨b, hb, hname⟩ := hn
    obtain ⟨j, hj, rfl⟩ := List.mem_iff_getElem.mp hb
    have hoffends : Offends (before ++ a :: after) before.length := by
      refine ⟨a, hat, .inr ⟨j, hj, before[j], ?_, hname⟩⟩
      rw [List.getElem?_append_left hj, List.getElem?_eq_getElem hj]
    exact ⟨before.length, a, ⟨hoffends, hlower⟩, hat, .inr ⟨hl, hf⟩⟩

theorem ofArtifacts_outcome (as : List Artifact) :
    ((∃ r, ofArtifacts as = .ok r) ↔
      (∀ a ∈ as, ∃ l, Layout.ofText a.layout = .ok l) ∧ (as.map Artifact.name).Nodup) ∧
    (∀ r, ofArtifacts as = .ok r →
      (∀ name, (name ∈ r.layouts.names ↔ name ∈ as.map Artifact.name) ∧
        (name ∈ r.codes.names ↔ name ∈ as.map Artifact.name)) ∧
      (∀ a ∈ as, (∃ l, Layout.ofText a.layout = .ok l ∧ r.layouts.get? a.name = some l) ∧
        r.codes.get? a.name = some a.trimmed ∧ Code.ofHex a.trimmed = Code.ofHex a.code) ∧
      ∀ bs, as.Perm bs → ofArtifacts bs = .ok r) ∧
    ∀ f, ofArtifacts as = .error f → ∃ i a, IsLeast {i | Offends as i} i ∧ as[i]? = some a ∧
      ((∃ e, Layout.ofText a.layout = .error e ∧ f = .malformedLayout a.name e ∧
          f.message = s!"embedded storage layout of {a.name} is malformed: {e.message}") ∨
        (∃ l, Layout.ofText a.layout = .ok l) ∧ f = .registeredTwice a.name ∧
          f.message = s!"contract {a.name} is registered twice") := by
  refine ⟨⟨?_, fun ⟨hr, hd⟩ => ofArtifacts_of_registrable ⟨hr, hd⟩⟩, fun r h => ?_, fun f h => ?_⟩
  · rintro ⟨r, h⟩
    obtain ⟨hr, hd⟩ := (records_of_ofArtifacts h).2
    exact ⟨hr, hd⟩
  · obtain ⟨hrec, hreg⟩ := records_of_ofArtifacts h
    refine ⟨fun name => ⟨?_, ?_⟩, fun a ha => ⟨?_, ?_, a.ofHex_trimmed⟩, fun bs => ofArtifacts_perm h⟩
    · exact hrec.layouts.mem_names_iff hreg.readable
    · exact hrec.codes.mem_names_iff fun a _ => ⟨_, rfl⟩
    · obtain ⟨l, hl⟩ := hreg.readable a ha
      exact ⟨l, hl, (hrec.layouts _ _).mpr ⟨a, ha, rfl, hl⟩⟩
    · exact (hrec.codes _ _).mpr ⟨a, ha, rfl, rfl⟩
  · obtain ⟨i, a, hi, ha, hf⟩ := isLeast_offends_of_error h
    refine ⟨i, a, hi, ha, ?_⟩
    rcases hf with ⟨e, he, rfl⟩ | ⟨hl, rfl⟩
    · exact .inl ⟨e, he, rfl, rfl⟩
    · exact .inr ⟨hl, rfl, rfl⟩

def vault : Artifact := ⟨"Vault", "\x7b\"storage\": [], \"types\": \x7b\x7d\x7d", "\n0x6000 "⟩

def token : Artifact := ⟨"Token", "\x7b\"storage\": []\x7d", "0x"⟩

/-- Its text ends inside the list of variables, and its name is that of `vault`. -/
def torn : Artifact := ⟨"Vault", "\x7b\"storage\": [", "0x"⟩

theorem ofArtifacts_outcome_vault :
    (∃ r, ofArtifacts [vault, token] = .ok r ∧ r.codes.get? "Vault" = some "0x6000" ∧
      ofArtifacts [token, vault] = .ok r) ∧
    ofArtifacts [vault, token, torn] = .error (.malformedLayout "Vault" (.endOfText .inList)) ∧
    ∃ i, IsLeast {i | Offends [vault, token, torn] i} i := by
  have hvault : Layout.ofText vault.layout = .ok ⟨[], .empty⟩ := by rfl
  have htoken : Layout.ofText token.layout = .ok ⟨[], .empty⟩ := by rfl
  have hread : ∀ a ∈ [vault, token], ∃ l, Layout.ofText a.layout = .ok l := by simp [hvault, htoken]
  obtain ⟨hiff, hok, -⟩ := ofArtifacts_outcome [vault, token]
  obtain ⟨r, hr⟩ := hiff.mpr ⟨hread, by decide⟩
  obtain ⟨-, heach, hperm⟩ := hok r hr
  have htrim : vault.trimmed = "0x6000" := by rfl
  have hcode := (heach vault (.head _)).2.1
  have hfault : ofArtifacts [vault, token, torn] = .error (.malformedLayout "Vault" (.endOfText .inList)) := by
    rfl
  obtain ⟨i, _, hi, -⟩ := (ofArtifacts_outcome [vault, token, torn]).2.2 _ hfault
  exact ⟨⟨r, hr, htrim ▸ hcode, hperm _ (.swap _ _ _)⟩, hfault, i, hi⟩

end Registry

end ContractAtlas
