import ContractAtlas.Proofs.Storage.Field
import ContractAtlas.Proofs.Storage.Reading
import Mathlib.Data.List.Induction
import Mathlib.Data.List.Nodup
import Mathlib.Data.Set.Function

/-! The values of mappings behave as a nested map, from accounts to slots to keys, as long as no two of
the texts that are hashed for them have one hash. -/

namespace ContractAtlas

namespace Layout

structure MapsToWords (l : Layout) (label : String) (v : Variable) (value : Descriptor) : Prop where
  found : l.find? label = some v
  mapping : ∃ d type, l.types.get? v.type = some d ∧ d.isMapping = true ∧ d.value = some type ∧
    l.types.get? type = some value
  fits : value.fitsInWord = true

lemma MapsToWords.readMapping_eq {l : Layout} {label : String} {v : Variable} {value : Descriptor}
    (h : l.MapsToWords label v value) (source : Source) (address : Address) (key : Word) :
    source.readMapping address l label key =
      .ok (Word.field (source.word address (mappingSlot key v.slot)) 0 value.width) := by
  obtain ⟨d, type, hd, hm, ht, hvalue⟩ := h.mapping
  rw [Source.readMapping_of_mapping h.found hd hm ht hvalue, if_pos h.fits]

end Layout

def keyed (key slot : Word) : List UInt8 := key.bytes ++ slot.bytes

lemma keyed_inj {key slot key' slot' : Word} :
    keyed key slot = keyed key' slot' ↔ key = key' ∧ slot = slot' := by
  constructor
  · intro h
    have hlength : key.bytes.length = key'.bytes.length := by
      rw [Word.length_bytes, Word.length_bytes]
    obtain ⟨hkey, hslot⟩ := List.append_inj h hlength
    exact ⟨Word.bytes_inj.mp hkey, Word.bytes_inj.mp hslot⟩
  · rintro ⟨rfl, rfl⟩
    rfl

def CollisionFree (inputs : List (List UInt8)) : Prop := Set.InjOn Keccak.hash {x | x ∈ inputs}

lemma CollisionFree.subset {inputs others : List (List UInt8)} (h : CollisionFree inputs)
    (hs : others ⊆ inputs) : CollisionFree others :=
  Set.InjOn.mono hs h

structure Put where
  address : Address
  slot : Word
  key : Word
  word : Word

namespace Put

variable {address : Address} {slot key : Word} {ps : List Put}

def input (p : Put) : List UInt8 := keyed p.key p.slot

def apply (m : Memory) (p : Put) : Memory := m.set p.address (mappingSlot p.key p.slot) p.word

def run (ps : List Put) : Memory := ps.foldl apply .empty

def isAt (address : Address) (slot key : Word) (p : Put) : Bool :=
  p.address == address && (p.key == key && p.slot == slot)

def latest? (ps : List Put) (address : Address) (slot key : Word) : Option Word :=
  (ps.filter (isAt address slot key)).getLast?.map word

lemma run_concat (ps : List Put) (p : Put) : run (ps ++ [p]) = apply (run ps) p := by
  rw [run, List.foldl_append, List.foldl_cons, List.foldl_nil, run]

lemma latest?_concat (ps : List Put) (p : Put) : latest? (ps ++ [p]) address slot key =
    if isAt address slot key p then some p.word else latest? ps address slot key := by
  rw [latest?, List.filter_append]
  cases h : isAt address slot key p <;> simp [h, latest?]

lemma read_apply {p : Put} (h : CollisionFree [keyed key slot, p.input]) (m : Memory) :
    (apply m p).read address (mappingSlot key slot) =
      if isAt address slot key p then some p.word else m.read address (mappingSlot key slot) := by
  have hslot : mappingSlot p.key p.slot = mappingSlot key slot ↔ p.key = key ∧ p.slot = slot :=
    (h.eq_iff (.tail _ (.head _)) (.head _)).trans keyed_inj
  rw [apply, Memory.read_set]
  simp only [hslot, isAt, Bool.and_eq_true, beq_iff_eq]

lemma read_run (h : CollisionFree (keyed key slot :: ps.map input)) :
    (run ps).read address (mappingSlot key slot) = latest? ps address slot key := by
  induction ps using List.reverseRecOn with
  | nil => rfl
  | append_singleton ps p ih =>
    rw [List.map_append, List.map_singleton] at h
    have hinit : CollisionFree (keyed key slot :: ps.map input) :=
      h.subset (List.cons_subset_cons _ (List.subset_append_left _ _))
    have hlast : CollisionFree [keyed key slot, p.input] :=
      h.subset (List.cons_subset_cons _ (List.subset_append_right _ _))
    rw [run_concat, read_apply hlast, ih hinit, latest?_concat]

lemma latest?_filter {keep : Put → Bool} (h : ∀ p ∈ ps, isAt address slot key p = true → keep p = true) :
    latest? (ps.filter keep) address slot key = latest? ps address slot key := by
  rw [latest?, List.filter_filter, latest?]
  -- A put at the key is kept, so that both filters agree on each put.
  congr 2
  apply List.filter_congr
  intro p hp
  cases hat : isAt address slot key p with
  | false => rfl
  | true => exact h p hp hat

end Put

namespace Layout

open Put

lemma readMapping_filter {l : Layout} {label : String} {v : Variable} {value : Descriptor}
    {address : Address} {key : Word} {ps : List Put} (h : l.MapsToWords label v value)
    (hfree : CollisionFree (keyed key v.slot :: ps.map input)) {keep : Put → Bool}
    (hkeep : ∀ p ∈ ps, isAt address v.slot key p = true → keep p = true) :
    (run (ps.filter keep)).read.readMapping address l label key =
      (run ps).read.readMapping address l label key := by
  have hfilter : CollisionFree (keyed key v.slot :: (ps.filter keep).map input) :=
    hfree.subset (List.cons_subset_cons _ (List.map_subset _ List.filter_sublist.subset))
  rw [h.readMapping_eq, h.readMapping_eq, Source.word, Source.word, read_run hfree, read_run hfilter,
    latest?_filter hkeep]

theorem readMapping_run {l : Layout} {label : String} {v : Variable} {value : Descriptor}
    (h : l.MapsToWords label v value) (ps : List Put) (address : Address) (key : Word)
    (hfree : CollisionFree (keyed key v.slot :: ps.map input)) :
    (∃ x, (run ps).read.readMapping address l label key = .ok x ∧
      x.toNat = ((latest? ps address v.slot key).getD 0).toNat % 256 ^ value.width.toNat) ∧
    (∀ keep : Put → Bool, (∀ p ∈ ps, isAt address v.slot key p = true → keep p = true) →
      (run (ps.filter keep)).read.readMapping address l label key =
        (run ps).read.readMapping address l label key) ∧
    ∀ holder other : Address, key = holder.toWord → other ≠ holder →
      (run (ps.filter fun p => p.key ≠ other.toWord)).read.readMapping address l label key =
        (run ps).read.readMapping address l label key := by
  refine ⟨⟨_, h.readMapping_eq _ address key, ?_⟩, fun keep hkeep => readMapping_filter h hfree hkeep, ?_⟩
  · rw [Word.toNat_field, Source.word, read_run hfree]
    simp
  · rintro holder other rfl hne
    apply readMapping_filter h hfree
    intro p _ hat
    simp only [isAt, Bool.and_eq_true, beq_iff_eq] at hat
    rw [hat.2.1]
    simpa [Address.toWord_inj] using hne.symm

def balances (offset : UInt64) : Variable := ⟨1, "Token", "balances", offset, 3, "t_balances"⟩

def stakes : Variable := ⟨2, "Token", "stakes", 0, 4, "t_balances"⟩

def uint128 : Descriptor := ⟨.inplace, "uint128", 16, none, none, none, none⟩

def uint128Map : Descriptor :=
  ⟨.mapping, "mapping(address => uint128)", 32, none, some "t_address", some "t_uint128", none⟩

def token (offset : UInt64) : Layout where
  vars := [balances offset, stakes]
  types :=
    { entries := [("t_address", ⟨.inplace, "address", 20, none, none, none, none⟩),
        ("t_balances", uint128Map), ("t_uint128", uint128)]
      sorted := by decide }

lemma mapsToWords_token {offset : UInt64} {label : String} {v : Variable}
    (hv : (token offset).find? label = some v) (ht : v.type = "t_balances") :
    (token offset).MapsToWords label v uint128 where
  found := hv
  mapping := ⟨uint128Map, "t_uint128", by rw [ht]; rfl, rfl, rfl, rfl⟩
  fits := rfl

def holder : Address := 0xbeef

def spender : Address := 0xcafe

/-- Balances of both, a stake of the holder, and a balance of the holder in another account. -/
def deposits : List Put :=
  [⟨7, 3, holder.toWord, 5⟩, ⟨7, 4, holder.toWord, 13⟩, ⟨7, 3, holder.toWord, BitVec.twoPow 256 128 + 9⟩,
    ⟨7, 3, spender.toWord, 11⟩, ⟨8, 3, holder.toWord, BitVec.allOnes 256⟩]

def depositInputs : List (List UInt8) :=
  [keyed holder.toWord 3, keyed spender.toWord 3, keyed holder.toWord 4]

-- the three hashes are computed once here
lemma nodup_hash_depositInputs : (depositInputs.map Keccak.hash).Nodup := by
  decide +kernel

lemma collisionFree_deposits {input : List UInt8} (h : input ∈ depositInputs) :
    CollisionFree (input :: deposits.map Put.input) := by
  have hfree : CollisionFree depositInputs := List.inj_on_of_nodup_map nodup_hash_depositInputs
  apply hfree.subset
  refine List.cons_subset.mpr ⟨h, ?_⟩
  simp [deposits, depositInputs, Put.input]

theorem readMapping_run_token :
    (token 0).MapsToWords "balances" (balances 0) uint128 ∧ (token 0).MapsToWords "stakes" stakes uint128 ∧
      CollisionFree (keyed holder.toWord 3 :: deposits.map input) ∧
      CollisionFree (keyed holder.toWord 4 :: deposits.map input) ∧
      (∃ x, (run deposits).read.readMapping 7 (token 0) "balances" holder.toWord = .ok x ∧ x.toNat = 9) ∧
      (∃ x, (run deposits).read.readMapping 7 (token 0) "stakes" holder.toWord = .ok x ∧ x.toNat = 13) ∧
      (run (deposits.filter fun p => p.slot = 3)).read.readMapping 7 (token 0) "balances" holder.toWord =
        (run deposits).read.readMapping 7 (token 0) "balances" holder.toWord ∧
      spender ≠ holder ∧
      (run (deposits.filter fun p => p.key ≠ spender.toWord)).read.readMapping 7 (token 0) "balances"
          holder.toWord =
        (run deposits).read.readMapping 7 (token 0) "balances" holder.toWord := by
  have hfree : CollisionFree (keyed holder.toWord 3 :: deposits.map input) :=
    collisionFree_deposits (.head _)
  have hstakes : CollisionFree (keyed holder.toWord 4 :: deposits.map input) :=
    collisionFree_deposits (.tail _ (.tail _ (.head _)))
  have hne : spender ≠ holder := by decide
  have hfirst : (token 0).MapsToWords "balances" (balances 0) uint128 := mapsToWords_token rfl rfl
  have hsecond : (token 0).MapsToWords "stakes" stakes uint128 := mapsToWords_token rfl rfl
  obtain ⟨⟨x, hx, hnine⟩, hkeep, hkeys⟩ := readMapping_run hfirst deposits 7 holder.toWord hfree
  obtain ⟨⟨y, hy, hthirteen⟩, -⟩ := readMapping_run hsecond deposits 7 holder.toWord hstakes
  refine ⟨hfirst, hsecond, hfree, hstakes, ⟨x, hx, hnine.trans (by decide)⟩,
    ⟨y, hy, hthirteen.trans (by decide)⟩, ?_, hne, hkeys holder spender rfl hne⟩
  apply hkeep
  intro p _ hat
  simp only [isAt, Bool.and_eq_true, beq_iff_eq] at hat
  exact decide_eq_true hat.2.2

end Layout

end ContractAtlas
