import ContractAtlas.Json.Reader
import ContractAtlas.Text.Blank

namespace ContractAtlas.Json.Literal

def hexValue? (c : Char) : Option Nat :=
  if '0' ≤ c ∧ c ≤ '9' then some (c.toNat - 48)
  else if 'a' ≤ c ∧ c ≤ 'f' then some (c.toNat - 87)
  else if 'A' ≤ c ∧ c ≤ 'F' then some (c.toNat - 55)
  else none

def quad? (a b c d : Char) : Option Nat := do
  return 4096 * (← hexValue? a) + 256 * (← hexValue? b) + 16 * (← hexValue? c) + (← hexValue? d)

/-- Fewer than four characters stand where four digits should; four bytes are enough to see a wrong one. -/
def shortQuad (s : List Char) : Fault :=
  if (Text.utf8 s).length < 4 then .endOfText .inString else .malformed .badEscape

def isLeading (n : Nat) : Bool := 0xd800 ≤ n && n ≤ 0xdbff

def isTrailing (n : Nat) : Bool := 0xdc00 ≤ n && n ≤ 0xdfff

def paired (leading trailing : Nat) : Char :=
  Char.ofNat (0x10000 + 1024 * (leading - 0xd800) + (trailing - 0xdc00))

def unpaired : List Char → Fault
  | [] => .endOfText .inString
  | ['\\'] => .endOfText .inString
  | '\\' :: 'u' :: s => shortQuad s
  | _ => .malformed .halfPair

def unescape? : Char → Option Char
  | '"' => some '"'
  | '\\' => some '\\'
  | '/' => some '/'
  | 'b' => some '\x08'
  | 'f' => some '\x0c'
  | 'n' => some '\n'
  | 'r' => some '\r'
  | 't' => some '\t'
  | _ => none

def put (c : Char) : Except Fault (List Char × List Char) → Except Fault (List Char × List Char) :=
  Except.map fun r => (c :: r.1, r.2)

def body : List Char → Except Fault (List Char × List Char)
  | [] => cut .inString
  | '"' :: s => .ok ([], s)
  | '\\' :: s =>
    match s with
    | [] => cut .inString
    | 'u' :: a :: b :: c :: d :: s =>
      match quad? a b c d with
      | none => malformed .badEscape
      | some n =>
        if isTrailing n then malformed .loneSurrogate
        else if isLeading n then
          match s with
          | '\\' :: 'u' :: e :: f :: g :: h :: s =>
            match quad? e f g h with
            | none => malformed .badEscape
            | some m =>
              if isTrailing m then put (paired n m) (body s) else malformed .loneSurrogate
          | s => .error (unpaired s)
        else put (Char.ofNat n) (body s)
    | 'u' :: s => .error (shortQuad s)
    | c :: s =>
      match unescape? c with
      | some d => put d (body s)
      | none => malformed .badEscape
  | c :: s => if c.toNat < 0x20 then malformed .controlCharacter else put c (body s)

def read : Reader String where
  run s := (body s).map fun r => (String.ofList r.1, r.2)

/-- What stands behind the closing quote; surrogates are not looked at. -/
def behind : List Char → Except Fault (List Char)
  | [] => cut .inString
  | '"' :: s => .ok s
  | '\\' :: s =>
    match s with
    | [] => cut .inString
    | 'u' :: a :: b :: c :: d :: s =>
      if (quad? a b c d).isSome then behind s else malformed .badEscape
    | 'u' :: s => .error (shortQuad s)
    | c :: s => if (unescape? c).isSome then behind s else malformed .badEscape
  | c :: s => if c.toNat < 0x20 then malformed .controlCharacter else behind s

def skip : Reader Unit where
  run s := (behind s).map fun rest => ((), rest)

def hexDigits (n : Nat) : List Char := [Nat.digitChar (n / 16), Nat.digitChar (n % 16)]

def escape (c : Char) : List Char :=
  match c with
  | '"' => ['\\', '"']
  | '\\' => ['\\', '\\']
  | '\x08' => ['\\', 'b']
  | '\x0c' => ['\\', 'f']
  | '\n' => ['\\', 'n']
  | '\r' => ['\\', 'r']
  | '\t' => ['\\', 't']
  | _ => if c.toNat < 0x20 then '\\' :: 'u' :: '0' :: '0' :: hexDigits c.toNat else [c]

def write (s : String) : List Char := '"' :: s.toList.flatMap escape ++ ['"']

theorem quad?_hexDigits {n : Nat} (h : n < 0x20) :
    quad? '0' '0' (Nat.digitChar (n / 16)) (Nat.digitChar (n % 16)) = some n := by
  revert n
  decide

end ContractAtlas.Json.Literal
