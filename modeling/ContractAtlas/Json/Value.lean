import ContractAtlas.Json.Literal

namespace ContractAtlas.Json

inductive Value where
  | null
  | boolean (b : Bool)
  | number (digits : List Char)
  | string (s : String)
  | list (vs : List Value)
  | object (ms : List (String × Value))
  deriving Repr

namespace Value

def ofNat (n : Nat) : Value := number (Nat.toDigits 10 n)

def wordOf : Bool → List Char
  | true => ['t', 'r', 'u', 'e']
  | false => ['f', 'a', 'l', 's', 'e']

mutual

def compact : Value → List Char
  | null => ['n', 'u', 'l', 'l']
  | boolean b => wordOf b
  | number digits => digits
  | string s => Literal.write s
  | list [] => ['[', ']']
  | list (v :: vs) => '[' :: compact v ++ compactElements vs
  | object [] => ['\x7b', '\x7d']
  | object ((k, v) :: ms) => '\x7b' :: Literal.write k ++ ':' :: compact v ++ compactMembers ms

def compactElements : List Value → List Char
  | [] => [']']
  | v :: vs => ',' :: compact v ++ compactElements vs

def compactMembers : List (String × Value) → List Char
  | [] => ['\x7d']
  | (k, v) :: ms => ',' :: Literal.write k ++ ':' :: compact v ++ compactMembers ms

end

def newLine (level : Nat) : List Char := '\n' :: List.replicate (2 * level) ' '

mutual

def indented (level : Nat) : Value → List Char
  | null => ['n', 'u', 'l', 'l']
  | boolean b => wordOf b
  | number digits => digits
  | string s => Literal.write s
  | list [] => ['[', ']']
  | list (v :: vs) =>
    '[' :: newLine (level + 1) ++ indented (level + 1) v ++ indentedElements level vs
  | object [] => ['\x7b', '\x7d']
  | object ((k, v) :: ms) =>
    '\x7b' :: newLine (level + 1) ++ Literal.write k ++ ':' :: ' ' :: indented (level + 1) v ++
      indentedMembers level ms

def indentedElements (level : Nat) : List Value → List Char
  | [] => newLine level ++ [']']
  | v :: vs =>
    ',' :: newLine (level + 1) ++ indented (level + 1) v ++ indentedElements level vs

def indentedMembers (level : Nat) : List (String × Value) → List Char
  | [] => newLine level ++ ['\x7d']
  | (k, v) :: ms =>
    ',' :: newLine (level + 1) ++ Literal.write k ++ ':' :: ' ' :: indented (level + 1) v ++
      indentedMembers level ms

end

end Value

end ContractAtlas.Json
