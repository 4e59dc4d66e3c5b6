/-!
The fewest decimal digits that read back as a given double, and the text that is made of them.
-/

namespace ContractAtlas.Decimal

/-- The size of a finite double, `mantissa * 2 ^ exponent`. It is `narrow` if the double below is nearer
than the double above. -/
structure Magnitude where
  mantissa : Nat
  exponent : Int
  narrow : Bool
  deriving DecidableEq, Repr

/-- The number of fractions of a double, and the bit in front of them that its bits leave out. -/
def hiddenBit : Nat := 0x10000000000000

def signBit : Nat := 0x8000000000000000

def Magnitude.ofBits (bits : UInt64) : Magnitude :=
  let n := bits.toNat % signBit
  let biased := n / hiddenBit
  let fraction := n % hiddenBit
  if biased = 0 then ⟨fraction, -1074, false⟩
  else ⟨hiddenBit + fraction, Int.ofNat biased - 1075, fraction == 0 && biased != 1⟩

structure Scaled where
  digits : Nat
  power : Int
  deriving DecidableEq, Repr

namespace Magnitude

/-- The point of the grid of multiples of `10 ^ power` that is nearest to the double, if it reads back as
it. In units of a quarter of the last place, the numbers that read back reach from `4 * mantissa - 2`, or
`- 1` if the double is narrow, to `4 * mantissa + 2`; both ends belong to them if the mantissa is even. -/
def onGrid (x : Magnitude) (power : Int) : Option Scaled :=
  let point := Nat.pow 10 power.toNat <<< (2 - x.exponent).toNat
  let unit := Nat.pow 10 (-power).toNat <<< (x.exponent - 2).toNat
  let value := 4 * x.mantissa * unit
  let low := (4 * x.mantissa - if x.narrow then 1 else 2) * unit
  let high := (4 * x.mantissa + 2) * unit
  let readsBack (d : Nat) : Bool :=
    if x.mantissa % 2 = 0 then low ≤ d * point && d * point ≤ high
    else low < d * point && d * point < high
  let below := value / point
  let rest := value % point
  let above := below + 1
  let nearest :=
    if 2 * rest < point then below
    else if point < 2 * rest then above
    else if below % 2 = 0 then below else above
  let other := if nearest = below then above else below
  if nearest ≠ 0 && readsBack nearest then some ⟨nearest, power⟩
  else if other ≠ 0 && readsBack other then some ⟨other, power⟩
  else none

/-- The coarsest grid comes first, so that no shorter number reads back. -/
def shortest (x : Magnitude) : Scaled :=
  if x.mantissa = 0 then ⟨0, 0⟩
  else ((List.range 660).findSome? fun i => x.onGrid (320 - Int.ofNat i)).getD ⟨0, 0⟩

end Magnitude

def zeros (n : Nat) : List Char := List.replicate n '0'

/-- Positional while the first digit stands at a power of ten from -5 to 15, with a point in any case;
else one digit before the point and a signed exponent of at least two digits. -/
def Scaled.text (x : Scaled) : List Char :=
  let ds := Nat.toDigits 10 x.digits
  let leading : Int := x.power + ds.length - 1
  if -5 ≤ leading ∧ leading ≤ 15 then
    if 0 ≤ x.power then ds ++ zeros x.power.toNat ++ ['.', '0']
    else if 0 ≤ leading then ds.take (leading + 1).toNat ++ '.' :: ds.drop (leading + 1).toNat
    else '0' :: '.' :: zeros (-leading - 1).toNat ++ ds
  else
    let point := if ds.length = 1 then [] else '.' :: ds.tail
    let sign := if leading < 0 then '-' else '+'
    let e := Nat.toDigits 10 leading.natAbs
    ds.take 1 ++ point ++ 'e' :: sign :: zeros (2 - e.length) ++ e

def text (bits : UInt64) : String :=
  let sign := if signBit ≤ bits.toNat then ['-'] else []
  String.ofList (sign ++ (Magnitude.ofBits bits).shortest.text)

end ContractAtlas.Decimal
