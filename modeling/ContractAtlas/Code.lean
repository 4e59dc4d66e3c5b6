import ContractAtlas.Fault
import ContractAtlas.Keccak

/-!
The code that an account runs, and the metadata that the compiler appends to it: a map, then the length of
the map in two bytes.
-/

namespace ContractAtlas

structure Code where
  bytes : List UInt8
  deriving DecidableEq, Repr

structure Version where
  major : UInt8
  minor : UInt8
  patch : UInt8
  deriving DecidableEq, Repr

def Version.text (v : Version) : String := s!"{v.major}.{v.minor}.{v.patch}"

theorem Version.text_eq (v : Version) :
    v.text = s!"{v.major.toNat}.{v.minor.toNat}.{v.patch.toNat}" := rfl

namespace Code

def digitsOf (text : List Char) : List Char :=
  match Text.trim text with
  | '0' :: 'x' :: ds => ds
  | ds => ds

def ofHex (text : String) : Except Fault Code :=
  match Hex.decode (Text.utf8 (digitsOf text.toList)) with
  | .ok bytes => .ok ⟨bytes⟩
  | .error e => .error (.invalidCode e)

def toHex (c : Code) : String := Hex.prefixed c.bytes

def size (c : Code) : Nat := c.bytes.length

def isEmpty (c : Code) : Bool := c.bytes.isEmpty

def hash (c : Code) : Word := Keccak.hash c.bytes

def opensMap (metadata : List UInt8) : Bool :=
  match metadata with
  | b :: _ => b &&& 0xe0 == 0xa0
  | [] => false

def splitMetadata (c : Code) : Option (List UInt8 × List UInt8) :=
  if c.size < 2 then none
  else
    let length := ofBigEndian (c.bytes.drop (c.size - 2))
    if length = 0 || c.size < length + 2 then none
    else
      let start := c.size - 2 - length
      let metadata := (c.bytes.drop start).take length
      if opensMap metadata then some (c.bytes.take start, metadata) else none

/-- The text `solc` in a map, and the head of a string of three bytes. -/
def versionKey : List UInt8 := [0x64, 0x73, 0x6f, 0x6c, 0x63, 0x43]

def behindKey : List UInt8 → Option (List UInt8)
  | [] => none
  | b :: bs =>
    if versionKey.isPrefixOf (b :: bs) then some ((b :: bs).drop versionKey.length)
    else behindKey bs

def versionIn (metadata : List UInt8) : Option Version :=
  match behindKey metadata with
  | some (major :: minor :: patch :: _) => some ⟨major, minor, patch⟩
  | _ => none

def version (c : Code) : Option Version := do
  let (_, metadata) ← c.splitMetadata
  versionIn metadata

theorem digitsOf_prefixed (bytes : List UInt8) :
    digitsOf (Hex.prefixed bytes).toList = Hex.encode bytes := by
  have hdigit : ∀ n < 16, Text.isBlank (Nat.digitChar n) = false := by decide
  have hblank : ∀ c ∈ (Hex.prefixed bytes).toList, Text.isBlank c = false := by
    intro c hc
    simp only [Hex.prefixed, Hex.encode, String.toList_ofList, List.mem_cons, List.mem_flatMap,
      List.not_mem_nil, or_false] at hc
    rcases hc with rfl | rfl | ⟨b, _, rfl | rfl⟩
    · rfl
    · rfl
    · exact hdigit _ (by have := b.toNat_lt; omega)
    · exact hdigit _ (by have := b.toNat_lt; omega)
  have htrim : Text.trim (Hex.prefixed bytes).toList = (Hex.prefixed bytes).toList := by
    have hstart : ∀ t : List Char, (∀ c ∈ t, Text.isBlank c = false) → Text.trimStart t = t :=
      fun t ht => Text.trimStart_of_head fun c hc => ht c (List.mem_of_mem_head? hc)
    rw [Text.trim, hstart _ hblank, Text.trimEnd, hstart _ (by simpa using hblank),
      List.reverse_reverse]
  rw [digitsOf, htrim]
  simp [Hex.prefixed]

@[simp] theorem ofHex_toHex (c : Code) : ofHex c.toHex = .ok c := by
  simp [ofHex, toHex, digitsOf_prefixed]

end Code

end ContractAtlas
