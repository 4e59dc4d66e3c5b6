import ContractAtlas.Text.Printable

/-!
A text in quotes, for messages. The quote and the backslash take a backslash, four controls have short
names, and a character that does not stand alone is written by its code.
-/

namespace ContractAtlas.Text

def byCode (c : Char) : List Char :=
  ['\\', 'u', '\x7b'] ++ Nat.toDigits 16 c.toNat ++ ['\x7d']

def escape (quote c : Char) : List Char :=
  match c with
  | '\x00' => ['\\', '0']
  | '\t' => ['\\', 't']
  | '\r' => ['\\', 'r']
  | '\n' => ['\\', 'n']
  | '\\' => ['\\', '\\']
  | _ => if c = quote then ['\\', c] else if standsAlone c then [c] else byCode c

def quoted (s : String) : String :=
  String.ofList ('"' :: s.toList.flatMap (escape '"') ++ ['"'])

def quotedChar (c : Char) : String :=
  String.ofList ('\'' :: escape '\'' c ++ ['\''])

end ContractAtlas.Text
