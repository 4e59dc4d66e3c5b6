import ContractAtlas.Proofs.Code.Version

/-! Where the version is looked for. It stands behind the leftmost place of the key in the metadata; neither
the code in front of them nor the two bytes of their length are looked at. -/

namespace ContractAtlas

namespace Code

structure FirstKey (bytes before rest : List UInt8) : Prop where
  split : bytes = before ++ (versionKey ++ rest)
  leftmost : ∀ n < before.length, ¬ versionKey <+: bytes.drop n

section Key

variable {b : UInt8} {bytes before rest : List UInt8}

lemma FirstKey.head (h : bytes = versionKey ++ rest) : FirstKey bytes [] rest :=
  ⟨h, fun _ hn => absurd hn (Nat.not_lt_zero _)⟩

lemma FirstKey.cons (h : FirstKey bytes before rest) (hb : ¬ versionKey <+: b :: bytes) :
    FirstKey (b :: bytes) (b :: before) rest := by
  refine ⟨congrArg (b :: ·) h.split, fun n hn => ?_⟩
  cases n with
  | zero => exact hb
  | succ n => exact h.leftmost n (Nat.lt_of_succ_lt_succ hn)

lemma FirstKey.tail (h : FirstKey (b :: bytes) before rest) (hb : ¬ versionKey <+: b :: bytes) :
    ∃ before', FirstKey bytes before' rest := by
  cases before with
  | nil => exact absurd ⟨rest, h.split.symm⟩ hb
  | cons c before =>
    obtain ⟨-, hsplit⟩ := List.cons.inj h.split
    exact ⟨before, hsplit, fun n hn => h.leftmost (n + 1) (Nat.succ_lt_succ hn)⟩

lemma behindKey_eq_some_iff : behindKey bytes = some rest ↔ ∃ before, FirstKey bytes before rest := by
  induction bytes with
  | nil =>
    simp only [behindKey, reduceCtorEq, false_iff]
    rintro ⟨before, hsplit, -⟩
    simp [versionKey] at hsplit
  | cons b bytes ih =>
    rw [behindKey]
    by_cases hb : versionKey <+: b :: bytes
    · rw [if_pos (List.isPrefixOf_iff_prefix.mpr hb), Option.some.injEq]
      obtain ⟨tail, htail⟩ := hb
      rw [← htail, List.drop_left]
      constructor
      · rintro rfl
        exact ⟨[], .head rfl⟩
      · rintro ⟨before, hsplit, hleftmost⟩
        cases before with
        | nil => exact List.append_cancel_left hsplit
        | cons c before => exact absurd (List.prefix_append _ _) (hleftmost 0 (Nat.succ_pos _))
    · rw [if_neg (mt List.isPrefixOf_iff_prefix.mp hb), ih]
      constructor
      · rintro ⟨before, h⟩
        exact ⟨b :: before, h.cons hb⟩
      · rintro ⟨before, h⟩
        exact h.tail hb

lemma exists_firstKey (h : bytes = before ++ (versionKey ++ rest)) :
    ∃ before' rest', FirstKey bytes before' rest' ∧ rest.length ≤ rest'.length := by
  have hinfix : versionKey <:+: bytes := ⟨before, rest, by rw [h, List.append_assoc]⟩
  obtain ⟨rest', hrest⟩ := Option.ne_none_iff_exists'.mp (mt behindKey_eq_none_iff.mp (not_not.mpr hinfix))
  obtain ⟨before', hfirst⟩ := behindKey_eq_some_iff.mp hrest
  refine ⟨before', rest', hfirst, ?_⟩
  have hle : before'.length ≤ before.length := by
    -- otherwise the given place is one in front of the leftmost
    by_contra hlt
    apply hfirst.leftmost before.length (Nat.lt_of_not_le hlt)
    rw [h, List.drop_left]
    exact List.prefix_append _ _
  have hlength := congrArg List.length (h.symm.trans hfirst.split)
  simp only [List.length_append] at hlength
  omega

lemma versionIn_eq_some_iff {v : Version} : versionIn bytes = some v ↔
    ∃ before rest, FirstKey bytes before (v.major :: v.minor :: v.patch :: rest) := by
  rw [versionIn]
  constructor
  · intro h
    split at h
    · rename_i major minor patch rest hbehind
      obtain ⟨before, hfirst⟩ := behindKey_eq_some_iff.mp hbehind
      obtain rfl := Option.some.inj h
      exact ⟨before, rest, hfirst⟩
    · cases h
  · rintro ⟨before, rest, hfirst⟩
    rw [behindKey_eq_some_iff.mpr ⟨before, hfirst⟩]

lemma isSome_versionIn_iff : (versionIn bytes).isSome ↔
    ∃ before major minor patch rest, bytes = before ++ (versionKey ++ major :: minor :: patch :: rest) := by
  rw [Option.isSome_iff_exists]
  constructor
  · rintro ⟨v, hv⟩
    obtain ⟨before, rest, hfirst⟩ := versionIn_eq_some_iff.mp hv
    exact ⟨before, _, _, _, rest, hfirst.split⟩
  · rintro ⟨before, major, minor, patch, rest, h⟩
    obtain ⟨before', rest', hfirst, hle⟩ := exists_firstKey h
    -- three bytes behind any place are three bytes behind the leftmost, so giving up there loses nothing
    match rest', hle with
    | x :: y :: z :: rest', _ => exact ⟨⟨x, y, z⟩, versionIn_eq_some_iff.mpr ⟨before', rest', hfirst⟩⟩
    | [_, _], hle => simp at hle
    | [_], hle => simp at hle
    | [], hle => simp at hle

end Key

lemma version_withTrailer {metadata : List UInt8} (h : FitsTrailer metadata) (runtime : List UInt8) :
    (withTrailer runtime metadata).version = versionIn metadata := by
  rw [version, splitMetadata_withTrailer h]
  rfl

lemma version_eq_none_of_not_withTrailer {c : Code}
    (h : ∀ runtime metadata, FitsTrailer metadata → c ≠ withTrailer runtime metadata) :
    c.version = none := by
  have hsplit : c.splitMetadata = none := by
    rw [Option.eq_none_iff_forall_ne_some]
    rintro ⟨runtime, metadata⟩ hs
    obtain ⟨hc, hfits⟩ := splitMetadata_eq_some_iff.mp hs
    exact h runtime metadata hfits hc
  rw [version, hsplit]
  rfl

theorem version_within_metadata :
    (∀ metadata, FitsTrailer metadata →
      (∀ runtime runtime',
        (withTrailer runtime metadata).version = (withTrailer runtime' metadata).version) ∧
      (∀ runtime, (withTrailer runtime metadata).version.isSome ↔
        ∃ before major minor patch after,
          metadata = before ++ (versionKey ++ major :: minor :: patch :: after)) ∧
      ∀ runtime text, (withTrailer runtime metadata).version.map Version.text = some text ↔
        ∃ before major minor patch after, FirstKey metadata before (major :: minor :: patch :: after) ∧
          text = s!"{major.toNat}.{minor.toNat}.{patch.toNat}") ∧
    ∀ c : Code, (∀ runtime metadata, FitsTrailer metadata → c ≠ withTrailer runtime metadata) →
      c.version = none := by
  refine ⟨fun metadata h => ⟨?_, ?_, ?_⟩, fun c => version_eq_none_of_not_withTrailer⟩
  · intro runtime runtime'
    rw [version_withTrailer h, version_withTrailer h]
  · intro runtime
    rw [version_withTrailer h, isSome_versionIn_iff]
  · intro runtime text
    rw [version_withTrailer h, Option.map_eq_some_iff]
    constructor
    · rintro ⟨v, hv, rfl⟩
      obtain ⟨before, after, hfirst⟩ := versionIn_eq_some_iff.mp hv
      exact ⟨before, v.major, v.minor, v.patch, after, hfirst, v.text_eq⟩
    · rintro ⟨before, major, minor, patch, after, hfirst, rfl⟩
      exact ⟨⟨major, minor, patch⟩, versionIn_eq_some_iff.mpr ⟨before, after, hfirst⟩, rfl⟩

/-- The key stands twice in it. The second one has but one byte behind it, and the length would be the rest
of a version. -/
def twiceKeyed : List UInt8 := [0xa1] ++ versionKey ++ [0, 8, 15] ++ versionKey ++ [1]

theorem version_within_metadata_twiceKeyed : FitsTrailer twiceKeyed ∧
    (withTrailer versionKey twiceKeyed).version.map Version.text = some "0.8.15" ∧
    version ⟨twiceKeyed⟩ = none := by
  have hfits : FitsTrailer twiceKeyed := ⟨⟨0xa1, _, rfl, by decide, by decide⟩, by decide⟩
  have hfirst : FirstKey twiceKeyed [0xa1] (0 :: 8 :: 15 :: (versionKey ++ [1])) := ⟨rfl, by decide⟩
  have hsplit : splitMetadata ⟨twiceKeyed⟩ = none := by decide
  obtain ⟨hwithin, hwithout⟩ := version_within_metadata
  refine ⟨hfits, ((hwithin _ hfits).2.2 versionKey "0.8.15").mpr ⟨_, _, _, _, _, hfirst, by rfl⟩, ?_⟩
  apply hwithout
  rintro runtime metadata h hc
  rw [hc, splitMetadata_withTrailer h] at hsplit
  cases hsplit

end Code

end ContractAtlas
