import ContractAtlas.Json.Reader

namespace ContractAtlas.Json

/-- A `decimal` is given by the bits of its double. -/
inductive Number where
  | integer (n : Int)
  | decimal (bits : UInt64)
  deriving DecidableEq, Repr

def Number.found : Number → Found
  | integer n => .integer n
  | decimal bits => .decimal bits

namespace Number

def digit (c : Char) : Nat := c.toNat - '0'.toNat

def startsWithDigit : List Char → Bool
  | c :: _ => c.isDigit
  | [] => false

def skipDigits (s : List Char) : List Char := s.dropWhile Char.isDigit

def accumulate (limit n : Nat) : List Char → Nat × List Char
  | [] => (n, [])
  | c :: s =>
    if c.isDigit && 10 * n + digit c < limit then accumulate limit (10 * n + digit c) s
    else (n, c :: s)

def powerOfTen (n : Nat) : Float := Float.ofScientific 1 false n

def shrink (x : Float) (n : Nat) : Float :=
  if n ≤ 308 then x / powerOfTen n
  else if x == 0 then x
  else shrink (x / powerOfTen 308) (n - 308)
termination_by n

def signed (negative : Bool) (x : Float) : Number :=
  .decimal (if negative then -x else x).toBits

def scaled (negative : Bool) (n : Nat) (power : Int) : Except Fault Number :=
  let x := (UInt64.ofNat n).toFloat
  if power < 0 then .ok (signed negative (shrink x power.natAbs))
  else if 308 < power then
    if n = 0 then .ok (signed negative x) else malformed .numberOutOfRange
  else
    let y := x * powerOfTen power.natAbs
    if y.isInf then malformed .numberOutOfRange else .ok (signed negative y)

def ending (negative : Bool) (n : Nat) (power : Int) : Reader Number where
  run s := (scaled negative n power).map fun x => (x, s)

def exponentLimit : Nat := 0x80000000

def sign : List Char → Bool × List Char
  | '+' :: s => (false, s)
  | '-' :: s => (true, s)
  | s => (false, s)

def exponent (negative : Bool) (n : Nat) (power : Int) : Reader Number where
  run s :=
    let (down, s) := sign s
    match s with
    | [] => cut .inValue
    | c :: s =>
      if !c.isDigit then malformed .badNumber
      else
        let (e, rest) := accumulate exponentLimit (digit c) s
        if startsWithDigit rest then
          if n ≠ 0 && !down then malformed .numberOutOfRange
          else .ok (signed negative 0, skipDigits rest)
        else (ending negative n (if down then power - e else power + e)).run rest

def exponentOrEnd (negative : Bool) (n : Nat) (power : Int) : Reader Number where
  run
    | 'e' :: s => (exponent negative n power).run s
    | 'E' :: s => (exponent negative n power).run s
    | s => (ending negative n power).run s

def fraction (negative : Bool) (n : Nat) (power : Int) : Reader Number where
  run s :=
    let (m, rest) := accumulate UInt64.size n s
    if startsWithDigit rest || rest.length < s.length then
      (exponentOrEnd negative m (power - (s.length - rest.length : Nat))).run (skipDigits rest)
    else if rest.isEmpty then cut .inValue
    else malformed .badNumber

def long (negative : Bool) (n : Nat) : Reader Number where
  run s :=
    let rest := skipDigits s
    let power : Int := (s.length - rest.length : Nat)
    match rest with
    | '.' :: rest => (fraction negative n power).run rest
    | rest => (exponentOrEnd negative n power).run rest

/-- Zero with a sign, and what is below `-2 ^ 63`, are doubles. -/
def whole (negative : Bool) (n : Nat) : Number :=
  if !negative then .integer n
  else if n = 0 || 0x8000000000000000 < n then signed true (UInt64.ofNat n).toFloat
  else .integer (-n)

def afterWhole (negative : Bool) (n : Nat) : Reader Number where
  run
    | '.' :: s => (fraction negative n 0).run s
    | 'e' :: s => (exponent negative n 0).run s
    | 'E' :: s => (exponent negative n 0).run s
    | s => .ok (whole negative n, s)

def unsigned (negative : Bool) : Reader Number where
  run
    | [] => cut .inValue
    | c :: s =>
      if c = '0' then
        if startsWithDigit s then malformed .badNumber else (afterWhole negative 0).run s
      else if c.isDigit then
        let (n, rest) := accumulate UInt64.size (digit c) s
        if startsWithDigit rest then (long negative n).run rest
        else (afterWhole negative n).run rest
      else malformed .badNumber

def read : Reader Number where
  run
    | '-' :: s => (unsigned true).run s
    | s => (unsigned false).run s

def behindPower (s : List Char) : Except Fault (List Char) :=
  let s := (sign s).2
  if startsWithDigit s then .ok (skipDigits s) else malformed .badNumber

def behindExponent : List Char → Except Fault (List Char)
  | 'e' :: s => behindPower s
  | 'E' :: s => behindPower s
  | s => .ok s

def behindFraction : List Char → Except Fault (List Char)
  | '.' :: s => if startsWithDigit s then behindExponent (skipDigits s) else malformed .badNumber
  | s => behindExponent s

def behindUnsigned : List Char → Except Fault (List Char)
  | [] => malformed .badNumber
  | c :: s =>
    if !c.isDigit || (c = '0' && startsWithDigit s) then malformed .badNumber
    else behindFraction (skipDigits s)

/-- What stands behind a number, whatever its size; a text that ends inside it is malformed. -/
def behind : List Char → Except Fault (List Char)
  | '-' :: s => behindUnsigned s
  | s => behindUnsigned s

def skip : Reader Unit where
  run s := (behind s).map fun rest => ((), rest)

end Number

end ContractAtlas.Json
