import ContractAtlas.Decimal.Shortest
import ContractAtlas.Text.Quoted

namespace ContractAtlas.Json

inductive EndOfText where
  | inList
  | inObject
  | inString
  | inValue
  deriving DecidableEq, Repr

def EndOfText.message : EndOfText → String
  | inList => "EOF while parsing a list"
  | inObject => "EOF while parsing an object"
  | inString => "EOF while parsing a string"
  | inValue => "EOF while parsing a value"

inductive Malformation where
  | expectedColon
  | expectedListEnd
  | expectedObjectEnd
  | expectedWord
  | expectedValue
  | badEscape
  | badNumber
  | numberOutOfRange
  | controlCharacter
  | keyNotString
  | loneSurrogate
  | halfPair
  | trailingComma
  | trailingText
  deriving DecidableEq, Repr

def Malformation.message : Malformation → String
  | expectedColon => "expected `:`"
  | expectedListEnd => "expected `,` or `]`"
  | expectedObjectEnd => "expected `,` or `\x7d`"
  | expectedWord => "expected ident"
  | expectedValue => "expected value"
  | badEscape => "invalid escape"
  | badNumber => "invalid number"
  | numberOutOfRange => "number out of range"
  | controlCharacter => "control character (\\u0000-\\u001F) found while parsing a string"
  | keyNotString => "key must be a string"
  | loneSurrogate => "lone leading surrogate in hex escape"
  | halfPair => "unexpected end of hex escape"
  | trailingComma => "trailing comma"
  | trailingText => "trailing characters"

inductive Found where
  | null
  | boolean (b : Bool)
  | integer (n : Int)
  | decimal (bits : UInt64)
  | string (s : String)
  | list
  | object
  deriving DecidableEq, Repr

def Found.describe : Found → String
  | null => "null"
  | boolean b => s!"boolean `{b}`"
  | integer n => s!"integer `{n}`"
  | decimal bits => s!"floating point `{Decimal.text bits}`"
  | string s => s!"string {Text.quoted s}"
  | list => "sequence"
  | object => "map"

inductive Mismatch where
  | wrongKind (found : Found) (expected : String)
  | wrongValue (found : Found) (expected : String)
  | tooShort (length : Nat) (expected : String)
  | duplicateMember (name : String)
  | missingMember (name : String)
  | unknownVariant (name : String) (variants : List String)
  | unreadable (what text reason : String)
  deriving DecidableEq, Repr

def Mismatch.message : Mismatch → String
  | wrongKind found expected => s!"invalid type: {found.describe}, expected {expected}"
  | wrongValue found expected => s!"invalid value: {found.describe}, expected {expected}"
  | tooShort length expected => s!"invalid length {length}, expected {expected}"
  | duplicateMember name => s!"duplicate field `{name}`"
  | missingMember name => s!"missing field `{name}`"
  | unknownVariant name variants =>
    s!"unknown variant `{name}`, expected one of " ++
      ", ".intercalate (variants.map fun v => s!"`{v}`")
  | unreadable what text reason => s!"invalid {what} `{text}`: {reason}"

inductive Fault where
  | endOfText (e : EndOfText)
  | malformed (m : Malformation)
  | mismatch (m : Mismatch)
  deriving DecidableEq, Repr

def Fault.message : Fault → String
  | endOfText e => e.message
  | malformed m => m.message
  | mismatch m => m.message

end ContractAtlas.Json
