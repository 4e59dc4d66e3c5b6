import ContractAtlas.Code
import ContractAtlas.Proofs.BigEndian

/-! The trailer of deployed code: a map of metadata and the length of that map. What is split off is
what was appended, and no cut of the split leaves the bounds of the code. -/

namespace ContractAtlas

def difference? (x y : Nat) : Option Nat := if y ≤ x then some (x - y) else none

def slice? (bytes : List UInt8) (start stop : Nat) : Option (List UInt8) :=
  if start ≤ stop ∧ stop ≤ bytes.length then some ((bytes.drop start).take (stop - start))
  else none

lemma difference?_of_le {x y : Nat} (h : y ≤ x) : difference? x y = some (x - y) := if_pos h

lemma slice?_of_le {bytes : List UInt8} {start stop : Nat} (h : start ≤ stop)
    (hstop : stop ≤ bytes.length) : slice? bytes start stop = some ((bytes.drop start).take (stop - start)) :=
  if_pos ⟨h, hstop⟩

namespace Code

structure FitsTrailer (metadata : List UInt8) : Prop where
  opens : ∃ b bs, metadata = b :: bs ∧ 0xa0 ≤ b ∧ b ≤ 0xbf
  length_le : metadata.length ≤ 65535

def withTrailer (runtime metadata : List UInt8) : Code :=
  ⟨runtime ++ metadata ++ toBigEndian 2 metadata.length⟩

/-- `splitMetadata` by steps that have no result where a difference is negative or a bound lies
outside of the code. -/
def splitBounded (c : Code) : Option (Option (List UInt8 × List UInt8)) :=
  if c.size < 2 then some none
  else do
    let stop ← difference? c.size 2
    let length := ofBigEndian (← slice? c.bytes stop c.size)
    if length = 0 || c.size < length + 2 then return none
    else
      let start ← difference? stop length
      let metadata ← slice? c.bytes start stop
      let first ← metadata[0]?
      if first &&& 0xe0 == 0xa0 then return some (← slice? c.bytes 0 start, metadata)
      else return none

lemma opens_iff (b : UInt8) : (b &&& 0xe0 == 0xa0) = true ↔ 0xa0 ≤ b ∧ b ≤ 0xbf := by
  have h : ∀ n < 256, (UInt8.ofNat n &&& 0xe0 == 0xa0) = true ↔
      0xa0 ≤ UInt8.ofNat n ∧ UInt8.ofNat n ≤ 0xbf := by decide +kernel
  simpa using h b.toNat b.toNat_lt

lemma opensMap_iff {metadata : List UInt8} :
    opensMap metadata = true ↔ ∃ b bs, metadata = b :: bs ∧ 0xa0 ≤ b ∧ b ≤ 0xbf := by
  cases metadata with
  | nil => simp [opensMap]
  | cons b bs =>
    rw [opensMap, opens_iff]
    simp

lemma FitsTrailer.length_pos {metadata : List UInt8} (h : FitsTrailer metadata) :
    0 < metadata.length := by
  obtain ⟨b, bs, rfl, _⟩ := h.opens
  exact Nat.succ_pos _

lemma size_withTrailer (runtime metadata : List UInt8) :
    (withTrailer runtime metadata).size = runtime.length + metadata.length + 2 := by
  simp [withTrailer, size, Nat.add_assoc]

lemma not_misfits_iff {length size : Nat} :
    ¬ (length = 0 || size < length + 2) = true ↔ 0 < length ∧ length + 2 ≤ size := by
  simp only [Bool.or_eq_true, decide_eq_true_eq]
  omega

lemma splitMetadata_withTrailer {metadata : List UInt8} (h : FitsTrailer metadata)
    (runtime : List UInt8) : (withTrailer runtime metadata).splitMetadata = some (runtime, metadata) := by
  have hle := h.length_le
  have htrailer : (withTrailer runtime metadata).bytes.drop (runtime.length + metadata.length) =
      toBigEndian 2 metadata.length := by
    rw [withTrailer, ← List.length_append, List.drop_left]
  have hlength : ofBigEndian (toBigEndian 2 metadata.length) = metadata.length := by
    rw [ofBigEndian_toBigEndian, Nat.mod_eq_of_lt]
    omega
  have hruntime : (withTrailer runtime metadata).bytes.take runtime.length = runtime := by
    rw [withTrailer, List.append_assoc, List.take_left]
  have hmetadata : ((withTrailer runtime metadata).bytes.drop runtime.length).take metadata.length =
      metadata := by
    rw [withTrailer, List.append_assoc, List.drop_left, List.take_left]
  have hfits := not_misfits_iff.mpr
    ⟨h.length_pos, (by omega : metadata.length + 2 ≤ runtime.length + metadata.length + 2)⟩
  simp only [splitMetadata, size_withTrailer, Nat.add_sub_cancel, htrailer, hlength, hmetadata, hruntime]
  rw [if_neg (by omega), if_neg hfits, if_pos (opensMap_iff.mpr h.opens)]

lemma toBigEndian_two {bytes : List UInt8} (h : bytes.length = 2) :
    toBigEndian 2 (ofBigEndian bytes) = bytes := by
  rw [← h, toBigEndian_ofBigEndian]

lemma ofBigEndian_le_of_length {bytes : List UInt8} (h : bytes.length = 2) :
    ofBigEndian bytes ≤ 65535 := by
  have hmod := ofBigEndian_toBigEndian 2 (ofBigEndian bytes)
  rw [toBigEndian_two h] at hmod
  rw [hmod]
  exact Nat.le_of_lt_succ (Nat.mod_lt _ (by decide))

lemma length_trailer {b : Code} (h : ¬ b.size < 2) : (b.bytes.drop (b.size - 2)).length = 2 := by
  rw [List.length_drop, ← size]
  omega

lemma length_metadata {b : Code} {length : Nat} (hle : length + 2 ≤ b.size) :
    ((b.bytes.drop (b.size - 2 - length)).take length).length = length := by
  rw [List.length_take, List.length_drop, ← size]
  omega

lemma eq_withTrailer_of_length {b : Code} {length : Nat} (hle : length + 2 ≤ b.size)
    (hlength : ofBigEndian (b.bytes.drop (b.size - 2)) = length) :
    b = withTrailer (b.bytes.take (b.size - 2 - length))
      ((b.bytes.drop (b.size - 2 - length)).take length) := by
  have htrailer : toBigEndian 2 length = b.bytes.drop (b.size - 2) := by
    rw [← hlength]
    exact toBigEndian_two (length_trailer (by omega))
  have hbytes : b.bytes = b.bytes.take (b.size - 2 - length) ++
      (b.bytes.drop (b.size - 2 - length)).take length ++ toBigEndian 2 length := by
    calc b.bytes
        = b.bytes.take (b.size - 2 - length) ++ b.bytes.drop (b.size - 2 - length) :=
          (List.take_append_drop _ _).symm
      _ = b.bytes.take (b.size - 2 - length) ++ ((b.bytes.drop (b.size - 2 - length)).take length ++
            (b.bytes.drop (b.size - 2 - length)).drop length) := by rw [List.take_append_drop length]
      _ = _ := by
          rw [List.drop_drop, Nat.sub_add_cancel (by omega), htrailer, List.append_assoc]
  rw [withTrailer, length_metadata hle, ← hbytes]

lemma eq_withTrailer_of_splitMetadata {b : Code} {runtime metadata : List UInt8}
    (h : b.splitMetadata = some (runtime, metadata)) :
    b = withTrailer runtime metadata ∧ FitsTrailer metadata := by
  simp only [splitMetadata] at h
  split at h
  · cases h
  rename_i hsize
  split at h
  · cases h
  rename_i hfits
  split at h
  · rename_i hopens
    simp only [Option.some.injEq, Prod.mk.injEq] at h
    obtain ⟨rfl, rfl⟩ := h
    refine ⟨eq_withTrailer_of_length (not_misfits_iff.mp hfits).2 rfl, opensMap_iff.mp hopens, ?_⟩
    apply Nat.le_trans (List.length_take_le _ _)
    exact ofBigEndian_le_of_length (length_trailer hsize)
  · cases h

lemma splitMetadata_eq_some_iff {b : Code} {runtime metadata : List UInt8} :
    b.splitMetadata = some (runtime, metadata) ↔
      b = withTrailer runtime metadata ∧ FitsTrailer metadata := by
  constructor
  · exact eq_withTrailer_of_splitMetadata
  · rintro ⟨rfl, h⟩
    exact splitMetadata_withTrailer h runtime

lemma slice?_metadata {b : Code} {length : Nat} (hle : length + 2 ≤ b.size) :
    slice? b.bytes (b.size - 2 - length) (b.size - 2) =
      some ((b.bytes.drop (b.size - 2 - length)).take length) := by
  rw [slice?_of_le (by omega) (by rw [← size]; omega)]
  congr 2
  omega

lemma splitBounded_eq (b : Code) : b.splitBounded = some b.splitMetadata := by
  rw [splitBounded, splitMetadata]
  by_cases hsize : b.size < 2
  · rw [if_pos hsize, if_pos hsize]
  · have hall : b.size ≤ b.bytes.length := Nat.le_refl _
    have htrailer : slice? b.bytes (b.size - 2) b.size = some (b.bytes.drop (b.size - 2)) := by
      rw [slice?_of_le (Nat.sub_le _ _) hall, List.take_of_length_le]
      exact Nat.le_of_eq List.length_drop
    rw [if_neg hsize, if_neg hsize, difference?_of_le (by omega)]
    simp only [Option.bind_eq_bind, Option.bind_some, htrailer]
    set length := ofBigEndian (b.bytes.drop (b.size - 2))
    by_cases hfits : (length = 0 || b.size < length + 2) = true
    · rw [if_pos hfits, if_pos hfits]
      rfl
    · obtain ⟨hpos, hle⟩ := not_misfits_iff.mp hfits
      obtain ⟨first, rest, hmetadata⟩ : ∃ first rest,
          (b.bytes.drop (b.size - 2 - length)).take length = first :: rest := by
        apply List.exists_cons_of_length_pos
        rw [length_metadata hle]
        exact hpos
      have hruntime : slice? b.bytes 0 (b.size - 2 - length) =
          some (b.bytes.take (b.size - 2 - length)) := by
        rw [slice?_of_le (Nat.zero_le _) (by rw [← size]; omega)]
        rfl
      rw [if_neg hfits, if_neg hfits, difference?_of_le (by omega), Option.bind_some,
        slice?_metadata hle, Option.bind_some, hmetadata, hruntime]
      have hopens : opensMap (first :: rest) = (first &&& 0xe0 == 0xa0) := rfl
      rw [hopens, List.getElem?_cons_zero, Option.bind_some]
      cases first &&& 0xe0 == 0xa0 <;> rfl

theorem splitMetadata_inverts_withTrailer (b : Code) :
    (∀ runtime metadata, b.splitMetadata = some (runtime, metadata) ↔
      b = withTrailer runtime metadata ∧ FitsTrailer metadata) ∧
    (∀ runtime metadata runtime' metadata', FitsTrailer metadata → FitsTrailer metadata' →
      b = withTrailer runtime metadata → b = withTrailer runtime' metadata' →
        runtime = runtime' ∧ metadata = metadata') ∧
    (∀ runtime metadata, FitsTrailer metadata →
      (withTrailer runtime metadata).splitMetadata = some (runtime, metadata)) ∧
    (∀ parts, b.splitMetadata = some parts → withTrailer parts.1 parts.2 = b) ∧
    b.splitBounded = some b.splitMetadata := by
  refine ⟨fun _ _ => splitMetadata_eq_some_iff, ?_, ?_, ?_, splitBounded_eq b⟩
  · intro runtime metadata runtime' metadata' h h' hb hb'
    have hsplit := splitMetadata_withTrailer h runtime
    rw [← hb, hb', splitMetadata_withTrailer h' runtime'] at hsplit
    simpa [eq_comm] using hsplit
  · intro runtime metadata h
    exact splitMetadata_withTrailer h runtime
  · rintro ⟨runtime, metadata⟩ h
    exact (splitMetadata_eq_some_iff.mp h).1.symm

/-- The map may fill the whole code, but its length may not go beyond it. -/
example : splitMetadata ⟨[0xa0, 0, 1]⟩ = some ([], [0xa0]) ∧ splitMetadata ⟨[0xa0, 0, 2]⟩ = none := by
  decide

end Code

end ContractAtlas
