namespace ContractAtlas.Decimal

def nearest (n d : Nat) : Nat :=
  let q := n / d
  let twice := 2 * (n % d)
  if twice < d then q
  else if d < twice then q + 1
  else if q % 2 = 0 then q else q + 1

/-- The double nearest to a natural number: 53 binary places. -/
def double (n : Nat) : Nat :=
  let unit := 1 <<< (n.log2 - 52)
  nearest n unit * unit

theorem nearest_le (n : Nat) {d : Nat} (h : 0 < d) : 2 * d * nearest n d ≤ 2 * n + d := by
  have hq := Nat.div_add_mod n d
  have hr := Nat.mod_lt n h
  have hs : d * (n / d + 1) = d * (n / d) + d := by rw [Nat.mul_add, Nat.mul_one]
  rw [nearest, Nat.mul_assoc]
  split
  · omega
  · split
    · omega
    · split <;> omega

theorem le_nearest (n : Nat) {d : Nat} (h : 0 < d) : 2 * n ≤ 2 * d * nearest n d + d := by
  have hq := Nat.div_add_mod n d
  have hr := Nat.mod_lt n h
  have hs : d * (n / d + 1) = d * (n / d) + d := by rw [Nat.mul_add, Nat.mul_one]
  rw [nearest, Nat.mul_assoc]
  split
  · omega
  · split
    · omega
    · split <;> omega

end ContractAtlas.Decimal
