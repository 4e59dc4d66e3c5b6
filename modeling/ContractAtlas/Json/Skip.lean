import ContractAtlas.Json.Literal
import ContractAtlas.Json.Number

/-!
Passing over a value of any kind. The scopes that are open are kept in a list, so that the depth of the
text does not matter.
-/

namespace ContractAtlas.Json

inductive Scope where
  | list
  | object
  deriving DecidableEq, Repr

def Scope.closing : Scope → Char
  | list => ']'
  | object => '\x7d'

def Scope.endOfText : Scope → EndOfText
  | list => .inList
  | object => .inObject

def Scope.unclosed : Scope → Malformation
  | list => .expectedListEnd
  | object => .expectedObjectEnd

def skipHead : Reader (Option Scope) where
  run s :=
    match skipSpace s with
    | [] => cut .inValue
    | c :: s =>
      if c = 'n' then (constant ['u', 'l', 'l'] none).run s
      else if c = 't' then (constant ['r', 'u', 'e'] none).run s
      else if c = 'f' then (constant ['a', 'l', 's', 'e'] none).run s
      else if c = '-' || c.isDigit then (Number.skip >>= fun _ => pure none).run (c :: s)
      else if c = '"' then (Literal.skip >>= fun _ => pure none).run s
      else if c = '[' then .ok (some .list, s)
      else if c = '\x7b' then .ok (some .object, s)
      else malformed .expectedValue

/-- Closes the scopes that end here, the innermost first, and gives those in which a value comes next.
It is `separated` if a value has just ended, so that a comma may follow. -/
def settle (separated : Bool) : List Scope → Reader (List Scope)
  | [] => pure []
  | scope :: outer => ⟨fun s =>
    match skipSpace s with
    | [] => cut scope.endOfText
    | c :: s =>
      if separated && c = ',' then .ok (scope :: outer, s)
      else if c = scope.closing then (settle true outer).run s
      else if separated then malformed scope.unclosed
      else .ok (scope :: outer, c :: s)⟩

def colon : Reader Unit where
  run s :=
    match skipSpace s with
    | [] => cut .inObject
    | ':' :: s => .ok ((), s)
    | _ => malformed .expectedColon

def skipKey : Reader Unit where
  run s :=
    match skipSpace s with
    | [] => cut .inObject
    | '"' :: s => (Literal.skip >>= fun _ => colon).run s
    | _ => malformed .keyNotString

/-- Passes over a value and the rest of the open scopes. Every round takes at least one character, so that
`fuel` never runs out if it is more than the length of the text. -/
def skipWithin : Nat → List Scope → Reader Unit
  | 0, _ => .fail (.endOfText .inValue)
  | fuel + 1, scopes => do
    let opened ← skipHead
    let scopes ← match opened with
      | some scope => settle false (scope :: scopes)
      | none => settle true scopes
    match scopes with
    | [] => pure ()
    | .list :: _ => skipWithin fuel scopes
    | .object :: _ => do
      skipKey
      skipWithin fuel scopes

def skipValue : Reader Unit where
  run s := (skipWithin (s.length + 1) []).run s

end ContractAtlas.Json
