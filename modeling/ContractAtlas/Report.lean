import ContractAtlas.Checksum
import ContractAtlas.Code
import ContractAtlas.Decimal.Rounding
import ContractAtlas.Layout.Query

namespace ContractAtlas

inductive Style where
  | heading
  | name
  | figure
  | faint
  | success
  | failure
  | alarm
  deriving DecidableEq, Repr

def Style.attributes : Style → List Char
  | heading => ['1', ';', '3', '4']
  | name => ['1', ';', '3', '6']
  | figure => ['3', '6']
  | faint => ['2']
  | success => ['1', ';', '3', '2']
  | failure => ['1', ';', '3', '1']
  | alarm => ['3', '1']

def Style.opening (s : Style) : List Char := '\x1b' :: '[' :: s.attributes ++ ['m']

def resetCode : List Char := ['\x1b', '[', '0', 'm']

def reopen (code : List Char) : List Char → List Char
  | [] => []
  | '\x1b' :: '[' :: '0' :: 'm' :: s => resetCode ++ code ++ reopen code s
  | c :: s => c :: reopen code s

structure Span where
  style : Option Style
  text : String
  deriving DecidableEq, Repr

def Span.render (colours : Bool) (s : Span) : List Char :=
  match colours, s.style with
  | true, some style => style.opening ++ reopen style.opening s.text.toList ++ resetCode
  | _, _ => s.text.toList

abbrev Line := List Span

def Line.render (colours : Bool) (l : Line) : List Char :=
  l.flatMap (Span.render colours) ++ ['\n']

structure Report where
  lines : List Line
  deriving DecidableEq, Repr

namespace Report

def render (colours : Bool) (r : Report) : String :=
  String.ofList (r.lines.flatMap (Line.render colours))

instance : Append Report := ⟨fun r s => ⟨r.lines ++ s.lines⟩⟩

def join (rs : List Report) : Report := ⟨rs.flatMap Report.lines⟩

def plain (s : String) : Span := ⟨none, s⟩

def styled (style : Style) (s : String) : Span := ⟨some style, s⟩

def padEnd (width : Nat) (s : String) : String :=
  String.ofList (s.toList ++ List.replicate (width - s.length) ' ')

def padStart (width : Nat) (s : String) : String :=
  String.ofList (List.replicate (width - s.length) ' ' ++ s.toList)

def size (bytes : Nat) : String :=
  if bytes < 1024 then s!"{bytes} B"
  else
    let tenths := Decimal.nearest (10 * Decimal.double bytes) 1024
    s!"{bytes} B ({tenths / 10}.{tenths % 10} KiB)"

def slotSpan (slot : Word) (spanned : UInt64) : String :=
  if spanned ≤ 1 then slot.decimal
  else
    let last := slot.addClamped (Word.ofUInt64 (spanned - 1))
    s!"{slot.decimal}..={last.decimal}"

def contractsHeader (count : Nat) : Report :=
  ⟨[[], [styled .heading "Registered contracts", plain " (", styled .figure (toString count),
    plain ")"]]⟩

def detail (label : String) (value : Span) : Line :=
  [plain "    ", styled .faint label, plain " ", value]

def contract (name : String) (count : Nat) (c : Code) (predeploy : Option Address) : Report :=
  ⟨[[plain "  ", styled .name name],
    detail "Variables:" (styled .figure (toString count)),
    detail "Code size:" (styled .figure (size c.size)),
    detail "Predeploy:" (match predeploy with
      | some address => styled .figure address.text
      | none => styled .faint "-")]⟩

def row (v : Variable) (slots : String) (type : Span) : Line :=
  [plain "  ", styled .figure (padEnd 10 slots), plain " ",
    plain (padStart 6 (toString v.offset.toNat)), plain "  ", plain (padEnd 24 v.label), plain " ",
    type]

def variableRow (l : Layout) (v : Variable) : Line :=
  match l.types.get? v.type with
  | some d => row v (slotSpan v.slot d.slotsSpanned) (plain d.label)
  | none => row v v.slot.decimal (styled .alarm v.type)

def layoutHeader (name : String) : List Line :=
  [[], [styled .heading "Storage layout of", plain " ", styled .name name],
    [plain "  ", styled .faint (padEnd 10 "slot"), plain " ", styled .faint (padStart 6 "offset"),
      plain "  ", styled .faint (padEnd 24 "label"), plain " ", styled .faint "type"]]

def layout (name : String) (l : Layout) : Report :=
  ⟨layoutHeader name ++ l.vars.map (variableRow l)⟩

def fact (label : String) (value : Span) : Line :=
  [plain "  ", styled .faint label, plain " ", value]

def code (name : String) (c : Code) : Report :=
  ⟨[[], [styled .heading "Deployed bytecode of", plain " ", styled .name name],
    fact "Size:     " (styled .figure (size c.size)),
    fact "Code hash:" (styled .figure (Hex.prefixed c.hash.bytes)),
    fact "Metadata: " (match c.splitMetadata with
      | some (_, metadata) => styled .figure (size metadata.length)
      | none => styled .faint "none"),
    fact "Compiler: " (match c.version with
      | some version => styled .figure s!"solc {version.text}"
      | none => styled .faint "unknown")]⟩

def checkPassed (name : String) : Report :=
  ⟨[[plain "  ", styled .success "OK", plain " ", styled .figure name]]⟩

def checkFailed (name reason : String) : Report :=
  ⟨[[plain "  ", styled .failure "FAIL", plain " ", styled .figure name, plain ": ",
    plain reason]]⟩

def checkSummary (checked failed : Nat) : Report :=
  if failed = 0 then
    ⟨[[], [styled .success "OK", plain " ", styled .figure (toString checked),
      plain " contracts valid"]]⟩
  else
    ⟨[[], [styled .failure "FAIL", plain " ", styled .alarm (toString failed), plain " of ",
      styled .figure (toString checked), plain " contracts invalid"]]⟩

end Report

end ContractAtlas
