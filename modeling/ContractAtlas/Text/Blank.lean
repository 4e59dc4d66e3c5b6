namespace ContractAtlas.Text

/-- The 25 characters of the property `White_Space`. -/
def isBlank (c : Char) : Bool :=
  let n := c.toNat
  (0x09 ≤ n && n ≤ 0x0d) || n == 0x20 || n == 0x85 || n == 0xa0 || n == 0x1680 ||
    (0x2000 ≤ n && n ≤ 0x200a) || n == 0x2028 || n == 0x2029 || n == 0x202f || n == 0x205f ||
    n == 0x3000

def trimStart (t : List Char) : List Char := t.dropWhile isBlank

def trimEnd (t : List Char) : List Char := (trimStart t.reverse).reverse

def trim (t : List Char) : List Char := trimEnd (trimStart t)

def utf8 (t : List Char) : List UInt8 := t.flatMap String.utf8EncodeChar

theorem trimStart_of_head {t : List Char} (h : ∀ c ∈ t.head?, isBlank c = false) :
    trimStart t = t := by
  cases t with
  | nil => rfl
  | cons c t => simp [trimStart, h c rfl]

theorem head?_trimStart {t : List Char} : ∀ c ∈ (trimStart t).head?, isBlank c = false := by
  intro c hc
  have := List.head?_dropWhile_not isBlank t
  rw [trimStart] at hc
  rw [Option.mem_def.mp hc] at this
  simpa using this

@[simp] theorem trimStart_trimStart (t : List Char) : trimStart (trimStart t) = trimStart t :=
  trimStart_of_head head?_trimStart

@[simp] theorem trimEnd_trimEnd (t : List Char) : trimEnd (trimEnd t) = trimEnd t := by
  simp [trimEnd]

theorem trimEnd_prefix (t : List Char) : trimEnd t <+: t := by
  obtain ⟨s, hs⟩ := List.dropWhile_suffix (l := t.reverse) isBlank
  refine ⟨s.reverse, ?_⟩
  rw [trimEnd, trimStart, ← List.reverse_append, hs, List.reverse_reverse]

theorem head?_trimEnd {t : List Char} (h : ∀ c ∈ t.head?, isBlank c = false) :
    ∀ c ∈ (trimEnd t).head?, isBlank c = false := by
  obtain ⟨s, hs⟩ := trimEnd_prefix t
  intro c hc
  apply h c
  rw [← hs]
  cases ht : trimEnd t with
  | nil => simp [ht] at hc
  | cons d u => simpa [ht] using hc

@[simp] theorem trim_trim (t : List Char) : trim (trim t) = trim t := by
  have h : trimStart (trim t) = trim t := trimStart_of_head (head?_trimEnd head?_trimStart)
  rw [trim, h, trim, trimEnd_trimEnd]

end ContractAtlas.Text
