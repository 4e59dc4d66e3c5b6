import ContractAtlas.Proofs.Json.Records
import ContractAtlas.Table
import Mathlib.Data.List.Forall2
import Mathlib.Data.List.Induction

/-! The members of an object by name. What is gathered member by member, each name once, is what the one
member of each name holds; neither the order nor the members of other names matter. -/

namespace ContractAtlas.Json

variable {α β : Type} {name : String} {ms ns : List (String × Value)}

def named (name : String) (ms : List (String × Value)) : List Value :=
  ms.filterMap fun m => if m.1 = name then some m.2 else none

def Once (name : String) (ms : List (String × Value)) (P : Value → Prop) : Prop :=
  ∃ v, named name ms = [v] ∧ P v

def AtMostOnce (name : String) (ms : List (String × Value)) (P : Value → Prop) : Prop :=
  named name ms = [] ∨ Once name ms P

def Held (name : String) (ms : List (String × Value)) (R : Value → α → Prop) (a : Option α) : Prop :=
  (named name ms = [] ∧ a = none) ∨
    Once name ms fun v => (v = .null ∧ a = none) ∨ ∃ x, R v x ∧ a = some x

namespace Value

def IsRecord (R : List (String × Value) → α → Prop) (v : Value) (a : α) : Prop :=
  ∃ ms, v = .object ms ∧ R ms a

def IsList (R : Value → α → Prop) (v : Value) (as : List α) : Prop :=
  ∃ vs, v = .list vs ∧ List.Forall₂ R vs as

def IsTable (R : Value → α → Prop) (v : Value) (t : Table α) : Prop :=
  ∃ ms, v = .object ms ∧ (∀ m ∈ ms, ∃ a, R m.2 a) ∧
    ∀ name a, t.get? name = some a ↔ ∃ w, (named name ms).getLast? = some w ∧ R w a

def IsObjectOf (P : List (String × Value) → Prop) (v : Value) : Prop := ∃ ms, v = .object ms ∧ P ms

def IsListOf (P : Value → Prop) (v : Value) : Prop := ∃ vs, v = .list vs ∧ ∀ w ∈ vs, P w

def IsTableOf (P : Value → Prop) (v : Value) : Prop := ∃ ms, v = .object ms ∧ ∀ m ∈ ms, P m.2

end Value

@[simp] lemma named_nil (name : String) : named name [] = [] := rfl

lemma named_cons (name : String) (m : String × Value) (ms : List (String × Value)) :
    named name (m :: ms) = if m.1 = name then m.2 :: named name ms else named name ms := by
  rw [named, List.filterMap_cons]
  by_cases h : m.1 = name
  · rw [if_pos h, if_pos h]
    rfl
  · rw [if_neg h, if_neg h]
    rfl

lemma named_concat (name : String) (ms : List (String × Value)) (m : String × Value) :
    named name (ms ++ [m]) = if m.1 = name then named name ms ++ [m.2] else named name ms := by
  rw [named, List.filterMap_append]
  by_cases h : m.1 = name <;> simp [h, named]

lemma mem_of_mem_named {v : Value} (h : v ∈ named name ms) : (name, v) ∈ ms := by
  obtain ⟨⟨k, w⟩, hm, hw⟩ := List.mem_filterMap.mp h
  obtain ⟨rfl, hv⟩ := Option.ite_none_right_eq_some.mp hw
  cases hv
  exact hm

lemma Once.congr {P Q : Value → Prop} (h : ∀ v ∈ named name ms, P v ↔ Q v) :
    Once name ms P ↔ Once name ms Q := by
  constructor
  · rintro ⟨v, hv, hp⟩
    exact ⟨v, hv, (h v (hv ▸ .head _)).mp hp⟩
  · rintro ⟨v, hv, hq⟩
    exact ⟨v, hv, (h v (hv ▸ .head _)).mpr hq⟩

lemma Held.congr {R S : Value → α → Prop} {a : Option α} (h : ∀ v ∈ named name ms, ∀ x, R v x ↔ S v x) :
    Held name ms R a ↔ Held name ms S a := by
  unfold Held
  rw [Once.congr]
  intro v hv
  simp only [h v hv]

lemma exists_once {R : Value → α → Prop} :
    (∃ a, Once name ms (R · a)) ↔ Once name ms fun v => ∃ a, R v a := by
  constructor
  · rintro ⟨a, v, hv, ha⟩
    exact ⟨v, hv, a, ha⟩
  · rintro ⟨v, hv, a, ha⟩
    exact ⟨a, v, hv, ha⟩

lemma exists_once_iff {R : Value → α → Prop} {P : Value → Prop} (h : ∀ v, (∃ a, R v a) ↔ P v) :
    (∃ a, Once name ms (R · a)) ↔ Once name ms P :=
  exists_once.trans (Once.congr fun v _ => h v)

lemma exists_held {R : Value → α → Prop} :
    (∃ a, Held name ms R a) ↔ AtMostOnce name ms fun v => v = .null ∨ ∃ x, R v x := by
  constructor
  · rintro ⟨a, ⟨hn, _⟩ | ⟨v, hv, ⟨h, _⟩ | ⟨x, hx, _⟩⟩⟩
    · exact .inl hn
    · exact .inr ⟨v, hv, .inl h⟩
    · exact .inr ⟨v, hv, .inr ⟨x, hx⟩⟩
  · rintro (hn | ⟨v, hv, h | ⟨x, hx⟩⟩)
    · exact ⟨none, .inl ⟨hn, rfl⟩⟩
    · exact ⟨none, .inr ⟨v, hv, .inl ⟨h, rfl⟩⟩⟩
    · exact ⟨some x, .inr ⟨v, hv, .inr ⟨x, hx, rfl⟩⟩⟩

lemma exists_forall₂ {R : Value → α → Prop} {vs : List Value} :
    (∃ as, List.Forall₂ R vs as) ↔ ∀ v ∈ vs, ∃ a, R v a := by
  induction vs with
  | nil => simp
  | cons v vs ih =>
    rw [List.forall_mem_cons, ← ih]
    constructor
    · rintro ⟨_, hs⟩
      cases hs with
      | cons h hs => exact ⟨⟨_, h⟩, _, hs⟩
    · rintro ⟨⟨a, h⟩, as, hs⟩
      exact ⟨a :: as, .cons h hs⟩

lemma forall₂_congr_of_mem {R S : Value → α → Prop} {vs : List Value} {as : List α}
    (h : ∀ w ∈ vs, ∀ a, R w a ↔ S w a) : List.Forall₂ R vs as ↔ List.Forall₂ S vs as := by
  induction vs generalizing as with
  | nil => rw [List.forall₂_nil_left_iff, List.forall₂_nil_left_iff]
  | cons v vs ih =>
    obtain ⟨hv, hvs⟩ := List.forall_mem_cons.mp h
    simp only [List.forall₂_cons_left_iff, hv, ih hvs]

lemma Value.exists_isRecord {R : List (String × Value) → α → Prop} {v : Value} :
    (∃ a, v.IsRecord R a) ↔ v.IsObjectOf fun ms => ∃ a, R ms a := by
  constructor
  · rintro ⟨a, ms, hv, ha⟩
    exact ⟨ms, hv, a, ha⟩
  · rintro ⟨ms, hv, a, ha⟩
    exact ⟨a, ms, hv, ha⟩

lemma Value.exists_isList {R : Value → α → Prop} {v : Value} :
    (∃ as, v.IsList R as) ↔ v.IsListOf fun w => ∃ a, R w a := by
  constructor
  · rintro ⟨as, vs, hv, h⟩
    exact ⟨vs, hv, exists_forall₂.mp ⟨as, h⟩⟩
  · rintro ⟨vs, hv, h⟩
    obtain ⟨as, has⟩ := exists_forall₂.mpr h
    exact ⟨as, vs, hv, has⟩

lemma Value.IsList.congr {R S : Value → α → Prop} {v : Value} {as : List α}
    (h : ∀ vs, v = .list vs → ∀ w ∈ vs, ∀ a, R w a ↔ S w a) : v.IsList R as ↔ v.IsList S as := by
  refine exists_congr fun vs => and_congr_right fun hv => ?_
  exact forall₂_congr_of_mem (h vs hv)

lemma Value.IsTable.congr {R S : Value → α → Prop} {v : Value} {t : Table α}
    (h : ∀ ms, v = .object ms → ∀ m ∈ ms, ∀ a, R m.2 a ↔ S m.2 a) : v.IsTable R t ↔ v.IsTable S t := by
  refine exists_congr fun ms => and_congr_right fun hv => and_congr ?_ ?_
  · exact forall₂_congr fun m hm => exists_congr (h ms hv m hm)
  · refine forall₂_congr fun name a => iff_congr Iff.rfl (exists_congr fun w => and_congr_right fun hw => ?_)
    exact h ms hv _ (mem_of_mem_named (List.mem_of_getLast? hw)) a

def takeOne (decode : Value → Option α) (name : String) (old : Option α) (m : String × Value) :
    Option (Option α) :=
  if m.1 = name then Value.once? decode old m.2 else some old

def gather (decode : Value → Option α) (name : String) (old : Option α) (ms : List (String × Value)) :
    Option (Option α) :=
  ms.foldlM (takeOne decode name) old

variable {decode : Value → Option α}

lemma gather_cons_eq_some_iff {old new : Option α} {m : String × Value} :
    gather decode name old (m :: ms) = some new ↔
      ∃ mid, takeOne decode name old m = some mid ∧ gather decode name mid ms = some new := by
  rw [gather, List.foldlM_cons, Option.bind_eq_bind, Option.bind_eq_some_iff]
  rfl

lemma gather_some_iff {a : α} {new : Option α} :
    gather decode name (some a) ms = some new ↔ named name ms = [] ∧ new = some a := by
  induction ms with
  | nil => simp [gather, eq_comm]
  | cons m ms ih =>
    rw [gather_cons_eq_some_iff, named_cons, takeOne]
    by_cases h : m.1 = name
    · simp [h, Value.once?]
    · simp [h, ih]

lemma gather_none_iff {new : Option α} : gather decode name none ms = some new ↔
    (named name ms = [] ∧ new = none) ∨ Once name ms fun v => ∃ a, decode v = some a ∧ new = some a := by
  induction ms with
  | nil => simp [gather, Once, eq_comm]
  | cons m ms ih =>
    rw [gather_cons_eq_some_iff, Once, named_cons, takeOne]
    by_cases h : m.1 = name
    · simp only [if_pos h, Value.once?, Option.map_eq_some_iff, reduceCtorEq, false_and, false_or,
        List.cons.injEq]
      constructor
      · rintro ⟨_, ⟨a, ha, rfl⟩, hg⟩
        obtain ⟨hn, hnew⟩ := gather_some_iff.mp hg
        exact ⟨m.2, ⟨rfl, hn⟩, a, ha, hnew⟩
      · rintro ⟨_, ⟨rfl, hn⟩, a, ha, hnew⟩
        exact ⟨some a, ⟨a, ha, rfl⟩, gather_some_iff.mpr ⟨hn, hnew⟩⟩
    · simpa [h, Once] using ih

lemma gather_eq_some_some_iff {a : α} :
    gather decode name none ms = some (some a) ↔ Once name ms (decode · = some a) := by
  simp [gather_none_iff]

lemma exists_gather_getD {default a : α} :
    (∃ new, gather decode name none ms = some new ∧ new.getD default = a) ↔
      (named name ms = [] ∧ a = default) ∨ Once name ms (decode · = some a) := by
  simp only [gather_none_iff]
  constructor
  · rintro ⟨_, ⟨hn, rfl⟩ | ⟨v, hv, x, hx, rfl⟩, rfl⟩
    · exact .inl ⟨hn, rfl⟩
    · exact .inr ⟨v, hv, hx⟩
  · rintro (⟨hn, rfl⟩ | ⟨v, hv, ha⟩)
    · exact ⟨none, .inl ⟨hn, rfl⟩, rfl⟩
    · exact ⟨some a, .inr ⟨v, hv, a, ha, rfl⟩, rfl⟩

lemma optional?_eq_some_iff (hnull : decode .null = none) {v : Value} {a : Option α} :
    Value.optional? decode v = some a ↔ (v = .null ∧ a = none) ∨ ∃ x, decode v = some x ∧ a = some x := by
  cases v with
  | null => simp [Value.optional?, hnull, eq_comm]
  | _ => simp [Value.optional?, eq_comm (a := a)]

lemma exists_gather_join (hnull : decode .null = none) {a : Option α} :
    (∃ new, gather (Value.optional? decode) name none ms = some new ∧ new.join = a) ↔
      Held name ms (decode · = some ·) a := by
  have hjoin (new : Option (Option α)) : new.join = new.getD none := by cases new <;> rfl
  simp only [hjoin, exists_gather_getD, optional?_eq_some_iff hnull, Held]

lemma get?_of_foldlM_insert {t : Table α}
    (h : ms.foldlM (fun t m => (decode m.2).map (t.insert m.1)) Table.empty = some t) :
    (∀ m ∈ ms, ∃ a, decode m.2 = some a) ∧
      ∀ name a, t.get? name = some a ↔ ∃ v, (named name ms).getLast? = some v ∧ decode v = some a := by
  induction ms using List.reverseRecOn generalizing t with
  | nil =>
    cases h
    simp
  | append_singleton ms m ih =>
    rw [List.foldlM_append] at h
    obtain ⟨u, hu, h⟩ := Option.bind_eq_some_iff.mp h
    obtain ⟨hall, hget⟩ := ih hu
    simp only [List.foldlM_cons, List.foldlM_nil, Option.bind_eq_bind, Option.bind_eq_some_iff,
      Option.map_eq_some_iff, Option.pure_def, Option.some.injEq, exists_eq_right] at h
    obtain ⟨a, ha, rfl⟩ := h
    refine ⟨?_, fun name b => ?_⟩
    · simpa [or_imp, forall_and, ha] using hall
    · rw [Table.get?_insert, named_concat]
      by_cases hname : m.1 = name
      · simp [hname, ha]
      · simpa [hname] using hget name b

lemma exists_foldlM_insert (h : ∀ m ∈ ms, ∃ a, decode m.2 = some a) (start : Table α) :
    ∃ t, ms.foldlM (fun t m => (decode m.2).map (t.insert m.1)) start = some t := by
  induction ms generalizing start with
  | nil => exact ⟨start, rfl⟩
  | cons m ms ih =>
    obtain ⟨⟨a, ha⟩, hms⟩ := List.forall_mem_cons.mp h
    obtain ⟨t, ht⟩ := ih hms (start.insert m.1 a)
    exact ⟨t, by rw [List.foldlM_cons, ha]; exact ht⟩

lemma dictionary?_eq_some_iff {v : Value} {t : Table α} :
    Value.dictionary? decode Table.insert Table.empty v = some t ↔ v.IsTable (decode · = some ·) t := by
  cases v with
  | object ms =>
    simp only [Value.dictionary?, Value.IsTable, Value.object.injEq, exists_eq_left']
    constructor
    · exact get?_of_foldlM_insert
    · rintro ⟨hall, hget⟩
      obtain ⟨u, hu⟩ := exists_foldlM_insert hall Table.empty
      have hsame : u = t := by
        apply Table.ext_get?
        intro name
        apply Option.ext
        intro a
        exact ((get?_of_foldlM_insert hu).2 name a).trans (hget name a).symm
      rw [hu, hsame]
  | _ => simp [Value.dictionary?, Value.IsTable]

lemma exists_isTable {v : Value} : (∃ t, v.IsTable (decode · = some ·) t) ↔
    v.IsTableOf fun w => ∃ a, decode w = some a := by
  constructor
  · rintro ⟨t, ms, hv, hall, _⟩
    exact ⟨ms, hv, hall⟩
  · rintro ⟨ms, rfl, hall⟩
    obtain ⟨t, ht⟩ := exists_foldlM_insert hall Table.empty
    exact ⟨t, dictionary?_eq_some_iff.mp ht⟩

lemma list?_eq_some_iff {v : Value} {as : List α} :
    Value.list? decode v = some as ↔ v.IsList (decode · = some ·) as := by
  cases v with
  | list vs =>
    simp only [Value.list?, Value.IsList, Value.list.injEq, exists_eq_left']
    induction vs generalizing as with
    | nil =>
      rw [List.mapM_nil, List.forall₂_nil_left_iff, Option.pure_def, Option.some.injEq]
      exact eq_comm
    | cons v vs ih =>
      rw [List.mapM_cons]
      simp only [Option.bind_eq_bind, Option.bind_eq_some_iff, Option.pure_def, Option.some.injEq, ih,
        List.forall₂_cons_left_iff]
      constructor
      · rintro ⟨a, ha, as, has, rfl⟩
        exact ⟨a, as, ha, has, rfl⟩
      · rintro ⟨a, as, ha, has, rfl⟩
        exact ⟨a, ha, as, has, rfl⟩
  | _ => simp [Value.list?, Value.IsList]

end ContractAtlas.Json
