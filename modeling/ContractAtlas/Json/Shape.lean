import ContractAtlas.Json.Skip

namespace ContractAtlas.Json

variable {α σ : Type}

def found : Reader Found where
  run
    | [] => malformed .expectedValue
    | c :: s =>
      if c = 'n' then (constant ['u', 'l', 'l'] .null).run s
      else if c = 't' then (constant ['r', 'u', 'e'] (.boolean true)).run s
      else if c = 'f' then (constant ['a', 'l', 's', 'e'] (.boolean false)).run s
      else if c = '-' || c.isDigit then (Number.found <$> Number.read).run (c :: s)
      else if c = '"' then (Found.string <$> Literal.read).run s
      else if c = '[' then .ok (.list, s)
      else if c = '\x7b' then .ok (.object, s)
      else malformed .expectedValue

def mismatch (m : Mismatch) : Reader α := .fail (.mismatch m)

def wrongKind (expected : String) : Reader α := do
  mismatch (.wrongKind (← found) expected)

def text : Reader String where
  run s :=
    match skipSpace s with
    | [] => cut .inValue
    | '"' :: s => Literal.read.run s
    | s => (wrongKind "a string").run s

def Number.toUInt64 : Number → Reader UInt64
  | .integer n =>
    if 0 ≤ n then pure (UInt64.ofNat n.toNat)
    else mismatch (.wrongValue (.integer n) "u64")
  | .decimal bits => mismatch (.wrongKind (.decimal bits) "u64")

def number64 : Reader UInt64 where
  run s :=
    match skipSpace s with
    | [] => cut .inValue
    | c :: s =>
      if c = '-' || c.isDigit then (Number.read >>= Number.toUInt64).run (c :: s)
      else (wrongKind "u64").run (c :: s)

def optional (r : Reader α) : Reader (Option α) where
  run s :=
    match skipSpace s with
    | 'n' :: s => (constant ['u', 'l', 'l'] none).run s
    | s => (some <$> r).run s

/-- Whether an element comes next; passes the comma before it, but not the bracket behind the last. -/
def nextElement (first : Bool) : Reader Bool where
  run s :=
    match skipSpace s with
    | [] => cut .inList
    | ']' :: s => .ok (false, ']' :: s)
    | c :: s =>
      if first then .ok (true, c :: s)
      else if c = ',' then
        match skipSpace s with
        | [] => cut .inValue
        | ']' :: _ => malformed .trailingComma
        | s => .ok (true, s)
      else malformed .expectedListEnd

def closeList : Reader Unit where
  run s :=
    match skipSpace s with
    | [] => cut .inList
    | ']' :: s => .ok ((), s)
    | ',' :: s =>
      match skipSpace s with
      | ']' :: _ => malformed .trailingComma
      | _ => malformed .trailingText
    | _ => malformed .trailingText

/-- Every element takes at least one character, so that `fuel` never runs out if it is more than the
length of the text. -/
def elements (r : Reader α) : Nat → Bool → Reader (List α)
  | 0, _ => .fail (.endOfText .inList)
  | fuel + 1, first => do
    match ← nextElement first with
    | false => pure []
    | true => do
      let a ← r
      return a :: (← elements r fuel false)

def listBody (r : Reader α) (fuel : Nat) : Reader (List α) := do
  let as ← elements r fuel true
  closeList
  return as

def list (r : Reader α) : Reader (List α) where
  run s :=
    match skipSpace s with
    | [] => cut .inValue
    | '[' :: s => (listBody r (s.length + 1)).run s
    | s => (wrongKind "a sequence").run s

def nextKey (first : Bool) : Reader (Option String) where
  run s :=
    match skipSpace s with
    | [] => cut .inObject
    | '\x7d' :: s => .ok (none, s)
    | c :: s =>
      if first then
        if c = '"' then (some <$> Literal.read).run s else malformed .keyNotString
      else if c = ',' then
        match skipSpace s with
        | [] => cut .inValue
        | '"' :: s => (some <$> Literal.read).run s
        | '\x7d' :: _ => malformed .trailingComma
        | _ => malformed .keyNotString
      else malformed .expectedObjectEnd

def members (step : String → σ → Reader σ) : Nat → Bool → σ → Reader σ
  | 0, _, _ => .fail (.endOfText .inObject)
  | fuel + 1, first, acc => do
    match ← nextKey first with
    | none => pure acc
    | some key => do
      let acc ← step key acc
      members step fuel false acc

def object (step : String → σ → Reader σ) (start : σ) : Reader σ where
  run s := (members step (s.length + 1) true start).run s

def entry (r : Reader α) (add : σ → String → α → σ) (key : String) (acc : σ) : Reader σ := do
  colon
  return add acc key (← r)

def dictionary (r : Reader α) (add : σ → String → α → σ) (start : σ) : Reader σ where
  run s :=
    match skipSpace s with
    | [] => cut .inValue
    | '\x7b' :: s => (object (entry r add) start).run s
    | s => (wrongKind "a map").run s

def record (expected : String) (inOrder byName : Reader α) : Reader α where
  run s :=
    match skipSpace s with
    | [] => cut .inValue
    | '[' :: s => (inOrder <* closeList).run s
    | '\x7b' :: s => byName.run s
    | s => (wrongKind expected).run s

def required (expected : String) (position : Nat) (r : Reader α) : Reader α := do
  match ← nextElement (position == 0) with
  | true => r
  | false => mismatch (.tooShort position expected)

def defaulted (default : α) (r : Reader α) : Reader α := do
  match ← nextElement false with
  | true => r
  | false => pure default

def once (name : String) (old : Option α) (r : Reader α) : Reader (Option α) := do
  match old with
  | some _ => mismatch (.duplicateMember name)
  | none => do
    colon
    return some (← r)

def unknownMember : Reader Unit := do
  colon
  skipValue

def present (name : String) : Option α → Reader α
  | some a => pure a
  | none => mismatch (.missingMember name)

def whole (r : Reader α) (s : List Char) : Except Fault α := do
  let (a, rest) ← r.run s
  if (skipSpace rest).isEmpty then .ok a else malformed .trailingText

end ContractAtlas.Json
