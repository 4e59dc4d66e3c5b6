import ContractAtlas.Proofs.Code.Trailer
import Mathlib.Algebra.Group.Nat.Defs
import Mathlib.Data.List.Infix
import Mathlib.Data.List.TakeWhile

/-! The compiler's version in the metadata. It is looked for as a run of bytes, not as an entry of the
map; it is the one that the map records unless an earlier entry has these bytes in it. -/

namespace ContractAtlas

namespace Cbor

/-- The head of an item: its kind in three bits, then its argument in as few bytes as it takes. -/
def head (kind argument : Nat) : List UInt8 :=
  if argument < 24 then [UInt8.ofNat (32 * kind + argument)]
  else if argument < 2 ^ 8 then UInt8.ofNat (32 * kind + 24) :: toBigEndian 1 argument
  else if argument < 2 ^ 16 then UInt8.ofNat (32 * kind + 25) :: toBigEndian 2 argument
  else if argument < 2 ^ 32 then UInt8.ofNat (32 * kind + 26) :: toBigEndian 4 argument
  else UInt8.ofNat (32 * kind + 27) :: toBigEndian 8 argument

structure Entry where
  key : String
  value : List UInt8
  deriving DecidableEq, Repr

def Entry.bytes (e : Entry) : List UInt8 :=
  let key := Text.utf8 e.key.toList
  head 3 key.length ++ key ++ head 2 e.value.length ++ e.value

structure Map where
  entries : List Entry
  length_le : entries.length ≤ 23
  nodup : (entries.map Entry.key).Nodup

namespace Map

def body (map : Map) : List UInt8 := map.entries.flatMap Entry.bytes

def bytes (map : Map) : List UInt8 := head 5 map.entries.length ++ map.body

def bytesBefore (map : Map) (key : String) : List UInt8 :=
  (map.entries.takeWhile fun e => e.key ≠ key).flatMap Entry.bytes

lemma bytes_eq_cons (map : Map) :
    map.bytes = UInt8.ofNat (160 + map.entries.length) :: map.body := by
  have hlt : map.entries.length < 24 := Nat.lt_succ_of_le map.length_le
  rw [bytes, head, if_pos hlt]
  rfl

lemma body_of_mem (map : Map) {e : Entry} (h : e ∈ map.entries) :
    ∃ after, map.body = map.bytesBefore e.key ++ e.bytes ++ after := by
  obtain ⟨before, after, hsplit⟩ := List.append_of_mem h
  have hbefore : ∀ d ∈ before, d.key ≠ e.key := by
    have hnodup := map.nodup
    rw [hsplit, List.map_append, List.map_cons, List.nodup_append] at hnodup
    intro d hd
    exact hnodup.2.2 _ (List.mem_map_of_mem hd) _ (.head _)
  have htake : map.entries.takeWhile (fun d => d.key ≠ e.key) = before := by
    rw [hsplit, List.takeWhile_append_of_pos (by simpa using hbefore)]
    simp
  refine ⟨after.flatMap Entry.bytes, ?_⟩
  rw [body, bytesBefore, htake, hsplit, List.flatMap_append, List.flatMap_cons, List.append_assoc]

lemma bytesBefore_of_forall_ne (map : Map) {key : String} (h : ∀ e ∈ map.entries, e.key ≠ key) :
    map.bytesBefore key = map.body := by
  rw [bytesBefore, body, List.takeWhile_eq_self_iff.mpr (by simpa using h)]

end Map

end Cbor

namespace Code

lemma behindKey_eq_none_iff {bytes : List UInt8} :
    behindKey bytes = none ↔ ¬ versionKey <:+: bytes := by
  induction bytes with
  | nil => simp [behindKey, versionKey]
  | cons b bs ih =>
    rw [behindKey, List.infix_cons_iff, ← List.isPrefixOf_iff_prefix]
    split
    · rename_i h
      simp [h]
    · rename_i h
      rw [ih]
      simp [h]

/-- The key does not overlap itself: the byte that begins it stands nowhere else in it. -/
lemma not_prefix_of_drop {n : Nat} (hpos : 0 < n) (hlt : n < versionKey.length) :
    ¬ versionKey.drop n <+: versionKey := by
  have h : ∀ n < versionKey.length, 0 < n → ¬ versionKey.drop n <+: versionKey := by decide
  exact h n hlt hpos

lemma not_prefix_append {before : List UInt8} (hne : before ≠ []) (h : ¬ versionKey <:+: before)
    (rest : List UInt8) : ¬ versionKey <+: before ++ (versionKey ++ rest) := by
  intro hp
  rcases Nat.lt_or_ge before.length versionKey.length with hlt | hle
  · -- the end of the key would lie at the start of the key behind `before`
    obtain ⟨tail, htail⟩ := List.prefix_of_prefix_length_le (List.prefix_append _ _) hp hlt.le
    have hdrop : versionKey.drop before.length = tail := by rw [← htail, List.drop_left]
    have hrest : versionKey.drop before.length <+: versionKey ++ rest := by
      nth_rewrite 1 [← htail] at hp
      rw [hdrop]
      exact (List.prefix_append_right_inj before).mp hp
    apply not_prefix_of_drop (List.length_pos_iff.mpr hne) hlt
    apply List.prefix_of_prefix_length_le hrest (List.prefix_append _ _)
    exact (List.drop_suffix _ _).length_le
  · exact h (List.prefix_of_prefix_length_le hp (List.prefix_append _ _) hle).isInfix

lemma behindKey_append {before : List UInt8} (h : ¬ versionKey <:+: before) (rest : List UInt8) :
    behindKey (before ++ (versionKey ++ rest)) = some rest := by
  induction before with
  | nil => rfl
  | cons b bs ih =>
    have hp := not_prefix_append (List.cons_ne_nil b bs) h rest
    rw [List.cons_append, ← List.isPrefixOf_iff_prefix] at hp
    rw [List.cons_append, behindKey, if_neg hp]
    apply ih
    exact fun hi => h (List.infix_cons hi)

lemma versionIn_cons {b : UInt8} (h : b ≠ 0x64) (bs : List UInt8) : versionIn (b :: bs) = versionIn bs := by
  have hp : ¬ versionKey <+: b :: bs := fun hp => h (List.cons_prefix_cons.mp hp).1.symm
  rw [versionIn, behindKey, if_neg (mt List.isPrefixOf_iff_prefix.mp hp), versionIn]

lemma fitsTrailer_of_map (map : Cbor.Map) (h : map.bytes.length ≤ 65535) : FitsTrailer map.bytes := by
  refine ⟨⟨_, _, map.bytes_eq_cons, ?_, ?_⟩, h⟩
  all_goals
    have hle := map.length_le
    rw [UInt8.le_iff_toNat_le, UInt8.toNat_ofNat']
    simp only [UInt8.reduceToNat]
    omega

lemma version_withTrailer_map {map : Cbor.Map} (h : map.bytes.length ≤ 65535) (runtime : List UInt8) :
    (withTrailer runtime map.bytes).version = versionIn map.body := by
  have hle := map.length_le
  have hne : UInt8.ofNat (160 + map.entries.length) ≠ 0x64 := by
    rw [← UInt8.toNat_inj.ne, UInt8.toNat_ofNat']
    simp only [UInt8.reduceToNat]
    omega
  rw [version, splitMetadata_withTrailer (fitsTrailer_of_map map h)]
  change versionIn map.bytes = _
  rw [map.bytes_eq_cons, versionIn_cons hne]

lemma versionIn_of_clear {before rest : List UInt8} (h : ¬ versionKey <:+: before)
    (major minor patch : UInt8) :
    versionIn (before ++ (versionKey ++ major :: minor :: patch :: rest)) =
      some ⟨major, minor, patch⟩ := by
  rw [versionIn, behindKey_append h]

lemma versionIn_eq_none {bytes : List UInt8} (h : ¬ versionKey <:+: bytes) : versionIn bytes = none := by
  rw [versionIn, behindKey_eq_none_iff.mpr h]

theorem version_of_map (map : Cbor.Map) (hfits : map.bytes.length ≤ 65535)
    (hclear : ¬ versionKey <:+: map.bytesBefore "solc") (runtime : List UInt8) :
    (∀ major minor patch, ⟨"solc", [major, minor, patch]⟩ ∈ map.entries →
      (withTrailer runtime map.bytes).version.map Version.text = some s!"{major}.{minor}.{patch}") ∧
    ((∀ e ∈ map.entries, e.key ≠ "solc") → (withTrailer runtime map.bytes).version = none) := by
  rw [version_withTrailer_map hfits]
  constructor
  · intro major minor patch h
    obtain ⟨after, hbody⟩ := map.body_of_mem h
    have hkey : Text.utf8 "solc".toList = [0x73, 0x6f, 0x6c, 0x63] := by decide
    have hentry : (⟨"solc", [major, minor, patch]⟩ : Cbor.Entry).bytes =
        versionKey ++ [major, minor, patch] := by
      rw [Cbor.Entry.bytes, hkey]
      rfl
    rw [hbody, hentry, List.append_assoc, List.append_assoc]
    simp only [List.cons_append, List.nil_append]
    rw [versionIn_of_clear hclear]
    rfl
  · intro h
    rw [map.bytesBefore_of_forall_ne h] at hclear
    exact versionIn_eq_none hclear

def published (digest : List UInt8) : Cbor.Map where
  entries := [⟨"ipfs", 0x12 :: 0x20 :: digest⟩, ⟨"solc", [0, 8, 15]⟩]
  length_le := by simp
  nodup := by simp

def plainDigest : List UInt8 := (List.range 32).map UInt8.ofNat

theorem version_of_map_published :
    (published plainDigest).bytes.length ≤ 65535 ∧
      ¬ versionKey <:+: (published plainDigest).bytesBefore "solc" ∧
      (withTrailer [0x60, 0x80] (published plainDigest).bytes).version.map Version.text = some "0.8.15" := by
  have hfits : (published plainDigest).bytes.length ≤ 65535 := by decide
  have hclear : ¬ versionKey <:+: (published plainDigest).bytesBefore "solc" :=
    behindKey_eq_none_iff.mp (by decide)
  exact ⟨hfits, hclear, (version_of_map _ hfits hclear [0x60, 0x80]).1 0 8 15 (by decide)⟩

def spellingDigest : List UInt8 := versionKey ++ [0, 5, 16] ++ plainDigest.take 23

theorem not_version_of_map : ¬ ∀ map : Cbor.Map, map.bytes.length ≤ 65535 → ∀ runtime,
    (∀ major minor patch, ⟨"solc", [major, minor, patch]⟩ ∈ map.entries →
      (withTrailer runtime map.bytes).version.map Version.text = some s!"{major}.{minor}.{patch}") ∧
    ((∀ e ∈ map.entries, e.key ≠ "solc") → (withTrailer runtime map.bytes).version = none) := by
  intro h
  have htext := (h (published spellingDigest) (by decide) [0x60, 0x80]).1 0 8 15 (by decide)
  have hread : (withTrailer [0x60, 0x80] (published spellingDigest).bytes).version = some ⟨0, 5, 16⟩ := by
    decide
  rw [hread] at htext
  exact absurd htext (by decide)

end Code

end ContractAtlas
