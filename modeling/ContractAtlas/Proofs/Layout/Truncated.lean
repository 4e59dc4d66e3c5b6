import ContractAtlas.Proofs.Json.TruncatedShapes
import ContractAtlas.Proofs.Layout.Members
import ContractAtlas.Proofs.Layout.RoundTrip
import ContractAtlas.Proofs.Registration

/-! Written layouts that are cut off. Wherever the cut is, the reader finds that the text ends too early; it
neither reads a smaller layout nor blames what it has of the text. -/

namespace ContractAtlas

open Json

variable {t u rest : List Char} {v : Value} {ms : List (String × Value)}

lemma Decimal.follows_slot (v : Value) : Follows slot slot? v :=
  follows_behind_text (fun s t => by cases readSlot s <;> rfl) v

lemma Decimal.follows_byteCount (v : Value) : Follows byteCount byteCount? v :=
  follows_behind_text (fun s t => by cases readCount s <;> rfl) v

lemma Encoding.follows_reader (s : String) : Follows reader ofValue? (.string s) := by
  intro t u rest e hg hs he
  obtain ⟨u, rfl, h⟩ := hs.of_string
  exact (((Literal.takes_read h).bind (takes_of_run? (run?_named s) he rest)).of_head hg rfl
    (fun p hp => ⟨.inValue, by simp only [reader, hp]⟩)
    fun p left hp => by simp only [reader, hp]).reaches

namespace Variable

lemma Draft.follows_step {key : String} (hk : key ∈ fields) (d : Draft) (v : Value) :
    FollowsMember (d.step key) (d.put key) v := by
  unfold step
  split
  · exact ((follows_number64 v).once _ _).map fun a => { d with astId := a }
  · exact ((follows_text v).once _ _).map fun a => { d with contract := a }
  · exact ((follows_text v).once _ _).map fun a => { d with label := a }
  · exact ((follows_number64 v).once _ _).map fun a => { d with offset := a }
  · exact ((Decimal.follows_slot v).once _ _).map fun a => { d with slot := a }
  · exact ((follows_text v).once _ _).map fun a => { d with type := a }
  · simp only [fields, List.mem_cons, List.not_mem_nil, or_false] at hk
    tauto

lemma follows_reader (hk : ∀ m ∈ ms, m.1 ∈ fields) : Follows reader ofValue? (.object ms) :=
  fun _ _ _ _ hg hs hx =>
    (takes_record (fun m hm d => d.follows_step (hk m hm) m.2) Draft.run?_finish expected hg hs hx).reaches

lemma follows_toValue (x : Variable) : Follows reader ofValue? x.toValue :=
  follows_reader (by simp [fields])

lemma follows_all (xs : List Variable) : Follows (list reader) all? (.list (xs.map toValue)) :=
  fun _ _ _ _ hg hs ha => (takes_list (List.forall_mem_map.mpr fun x _ => x.follows_toValue) hg hs ha).reaches

end Variable

namespace Descriptor

def textFields : List String := ["label", "numberOfBytes", "base", "key", "value"]

inductive Written : String × Value → Prop
  | encoding (s : String) : Written ("encoding", .string s)
  | text {name : String} (s : String) : name ∈ textFields → Written (name, .string s)
  | members (xs : List Variable) : Written ("members", .list (xs.map Variable.toValue))

lemma Draft.follows_step {m : String × Value} (h : Written m) (d : Draft) :
    FollowsMember (d.step m.1) (d.put m.1) m.2 := by
  cases h with
  | encoding s => exact ((Encoding.follows_reader s).once _ _).map fun a => { d with encoding := a }
  | @text name s hname =>
    have hoptional : Follows (optional Json.text) (Value.optional? Value.string?) (.string s) :=
      follows_optional (follows_text _) ⟨.inValue, rfl⟩
    simp only [textFields, List.mem_cons, List.not_mem_nil, or_false] at hname
    rcases hname with rfl | rfl | rfl | rfl | rfl
    · exact ((follows_text _).once _ _).map fun a => { d with label := a }
    · exact ((Decimal.follows_byteCount _).once _ _).map fun a => { d with width := a }
    · exact (hoptional.once _ _).map fun a => { d with base := a }
    · exact (hoptional.once _ _).map fun a => { d with key := a }
    · exact (hoptional.once _ _).map fun a => { d with value := a }
  | members xs =>
    exact ((follows_optional (Variable.follows_all xs) ⟨.inValue, rfl⟩).once _ _).map
      fun a => { d with members := a }

lemma written_of_mem_optionalMember {α : Type} {name : String} {f : α → Value} {a : Option α}
    (h : ∀ x, Written (name, f x)) : ∀ m ∈ optionalMember name f a, Written m := by
  intro m hm
  obtain ⟨x, rfl⟩ := exists_of_mem_optionalMember hm
  exact h x

lemma follows_toValue (x : Descriptor) : Follows reader ofValue? x.toValue := by
  intro t u rest y hg hs hy
  refine (takes_record (fun m hm d => d.follows_step ?_) Draft.run?_finish expected hg hs hy).reaches
  revert m
  simp only [List.forall_mem_append, List.forall_mem_cons, List.not_mem_nil, false_imp_iff, implies_true,
    and_true]
  refine ⟨⟨⟨⟨⟨.encoding _, .text _ ?_, .text _ ?_⟩, ?_⟩, ?_⟩, ?_⟩, ?_⟩
  · decide
  · decide
  · exact written_of_mem_optionalMember fun s => .text s (by decide)
  · exact written_of_mem_optionalMember fun s => .text s (by decide)
  · exact written_of_mem_optionalMember fun s => .text s (by decide)
  · exact written_of_mem_optionalMember .members

end Descriptor

namespace Layout

lemma follows_types (es : List (String × Descriptor)) :
    Follows types.reader types? (.object (es.map fun e => (e.1, e.2.toValue))) :=
  fun _ _ _ _ hg hs ha =>
    (takes_dictionary (List.forall_mem_map.mpr fun e _ => e.2.follows_toValue) hg hs ha).reaches

lemma takes_reader (l : Layout) (hg : Gap t u) (hs : Spells u l.toValue rest) : Takes reader t l rest := by
  refine takes_record ?_ Draft.run?_finish expected hg hs l.ofValue?_toValue
  simp only [List.forall_mem_cons, List.not_mem_nil, false_imp_iff, implies_true, and_true]
  constructor
  · exact fun d => ((Variable.follows_all l.vars).once _ _).map fun a => { d with vars := a }
  · exact fun d => ((follows_types l.types.entries).once _ _).map fun a => { d with types := a }

lemma exists_ofText_of_prefix {l : Layout} {s t : String} (hs : Spells (s ++ t).toList l.toValue [])
    (ht : t ≠ "") : ∃ e, ofText s = .error (.endOfText e) := by
  rw [String.toList_append] at hs
  have htaken := l.takes_reader .none hs s.toList t.toList rfl
  rw [ofText, whole]
  generalize reader.run s.toList = x at htaken ⊢
  cases htaken with
  | read hleft => exact absurd (String.toList_eq_nil_iff.mp (List.append_eq_nil_iff.mp hleft.symm).2) ht
  | @cut e => exact ⟨e, rfl⟩

lemma spells_compact (l : Layout) : Spells l.compact.toList l.toValue [] := by
  rw [compact, String.toList_ofList, ← List.append_nil l.toValue.compact]
  exact Value.spells_compact Number.ends_nil l.proper_toValue

lemma spells_indented (l : Layout) : Spells l.indented.toList l.toValue [] := by
  rw [indented, String.toList_ofList, ← List.append_nil (l.toValue.indented 0)]
  exact Value.spells_indented Number.ends_nil 0 l.proper_toValue

theorem ofText_truncated (l : Layout) {s t : String} (h : s ++ t = l.compact ∨ s ++ t = l.indented)
    (ht : t ≠ "") : ∃ e, ofText s = .error (.endOfText e) ∧
      (∀ as : List Artifact, (∃ a ∈ as, a.layout = s) → ∃ f, Registry.ofArtifacts as = .error f) ∧
      ∀ before a after r, a.layout = s → Registry.ofArtifacts before = .ok r →
        Registry.ofArtifacts (before ++ a :: after) = .error (.malformedLayout a.name (.endOfText e)) := by
  have hs : Spells (s ++ t).toList l.toValue [] := by
    rcases h with h | h
    · exact h ▸ l.spells_compact
    · exact h ▸ l.spells_indented
  obtain ⟨e, he⟩ := exists_ofText_of_prefix hs ht
  refine ⟨e, he, ?_, ?_⟩
  · rintro as ⟨a, ha, rfl⟩
    exact Registry.exists_fault_of_malformed ha he
  · rintro before a after r rfl hr
    exact Registry.ofArtifacts_of_malformed hr he after

def safe : Layout where
  vars := [⟨12, "Safe", "owner", 0, 3, "t_address"⟩]
  types := .empty

def broken : Artifact := ⟨"Broken", "\x7b\"storage\":[\x7b\"astId\":1", "0x00"⟩

/-- Cut off inside a number, the text goes on as that of another layout might. -/
theorem ofText_truncated_safe : ∃ e, ofText broken.layout = .error (.endOfText e) ∧
    Registry.ofArtifacts [broken] = .error (.malformedLayout "Broken" (.endOfText e)) := by
  have hcompact : broken.layout ++
      ("2,\"contract\":\"Safe\",\"label\":\"owner\",\"offset\":0,\"slot\":\"3\"," ++
        "\"type\":\"t_address\"\x7d],\"types\":\x7b\x7d\x7d") = safe.compact := by
    decide
  obtain ⟨e, he, -, hfault⟩ := ofText_truncated safe (.inl hcompact) (by decide)
  exact ⟨e, he, hfault [] broken [] .empty rfl rfl⟩

end Layout

end ContractAtlas
