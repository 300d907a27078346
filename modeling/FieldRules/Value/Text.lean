import FieldRules.Value.Basic
import FieldRules.Value.Fault
import FieldRules.Number.FloatText
import FieldRules.Text.Quote

/-! # The text of host values

Every value has two texts: its *display* text, meant for reading, and its *source* text,
which writes it the way it would be constructed. Text is shown as itself and written quoted;
containers write their items in source form. Quoted text uses single quotes unless the text
holds a single quote and no double quote; a backslash, the chosen quote, tab, line feed and
carriage return are escaped, and other characters that are not printable are written as
`\xhh`, `\uhhhh` or `\Uhhhhhhhh`. A container met again while it is being written is written
as an ellipsis (`[...]` for a list, `{...}` for a dictionary, `...` for a record). Writing an
integer of more than 4300 decimal digits is refused, and so is every text that would hold
one. -/

namespace FieldRules

open Text

/-- Which text of a value is wanted. -/
inductive TextForm where
  | display
  | source
deriving Inhabited, BEq

/-- The escape of one byte inside quoted bytes with quote `q`; a single quote is escaped
  also inside double quotes when `apostrophe` is set. -/
def escapeByte (q : Char) (apostrophe : Bool) (b : UInt8) : String :=
  let n := b.toNat
  if n == 92 then "\\\\"
  else if n == q.toNat then "\\" ++ String.singleton q
  else if apostrophe && n == 39 then "\\'"
  else if n == 9 then "\\t"
  else if n == 10 then "\\n"
  else if n == 13 then "\\r"
  else if n < 32 || n ≥ 127 then "\\x" ++ hexDigits 2 n
  else String.singleton (Char.ofNat n)

/-- Bytes written as a `b`-prefixed quoted literal. A byte array's literal escapes every
  single quote, whichever quote encloses it. -/
def quoteBytes (data : List UInt8) (apostrophe : Bool) : String :=
  let q := chooseQuote (data.contains 39) (data.contains 34)
  "b" ++ String.singleton q ++ String.join (data.map (escapeByte q apostrophe)) ++
    String.singleton q

/-- The layout of float parts inside complex numbers: as floats, without a trailing `.0`. -/
def complexPartLayout : Number.FloatLayout := { Number.FloatLayout.standard with pointZero := false }

/-- The text of a complex number: the imaginary part alone when the real part is `+0.0`,
  otherwise both in parentheses with the imaginary part signed. -/
def complexText (re im : Float) : String :=
  let imText := complexPartLayout.render im
  if Number.Binary64.ofFloat re == .finite false 0 (-1074) then imText ++ "j"
  else
    let signed := if Number.signBit im || imText.startsWith "-" then imText
      else "+" ++ imText
    "(" ++ complexPartLayout.render re ++ signed ++ "j)"

/-- The most decimal digits that the text of an integer may have. -/
def maxIntDigits : Nat := 4300

/-- The fault of writing an integer with too many digits. -/
def Fault.intTooLong : Fault :=
  .valueError ("Exceeds the limit (" ++ toString maxIntDigits ++
    " digits) for integer string conversion; use sys.set_int_max_str_digits() to increase the limit")

/-- The decimal text of an integer, refused when it has more than `maxIntDigits` digits. An
  integer below `2 ^ 14000` has fewer digits than that, which spares the power of ten. -/
def intTextWithin (n : Int) : Except Fault String :=
  if n.natAbs < Nat.pow 2 14000 || n.natAbs < Nat.pow 10 maxIntDigits then .ok (Number.intText n)
  else .error .intTooLong

/-- The text of a truth value. -/
def boolText (b : Bool) : String := if b then "True" else "False"

/-- Joins texts with a comma and a space. -/
def commaJoin (xs : List String) : String := ", ".intercalate xs

mutual

/-- The text of a value in a given form. `budget` bounds how many shared containers may be
  entered on one path, and `path` holds those being written. -/
def Store.textOf (s : Store) (budget : Nat) (path : List Nat) (form : TextForm) :
    Value → Except Fault String
  | .none => .ok "None"
  | .bool b => .ok (boolText b)
  | .int n => intTextWithin n
  | .textInt n t => if form == .display then .ok t else intTextWithin n
  | .float x => .ok (Number.floatText x)
  | .decimal d => .ok (if form == .display then d.toText else "Decimal('" ++ d.toText ++ "')")
  | .fraction q =>
    if form == .display then do
      let _ ← intTextWithin q.num
      let _ ← intTextWithin q.den
      return q.toText
    else do
      return "Fraction(" ++ (← intTextWithin q.num) ++ ", " ++ (← intTextWithin q.den) ++ ")"
  | .complex re im => .ok (complexText re im)
  | .str t => .ok (if form == .display then t else quoteText t)
  | .bytes data => .ok (quoteBytes data false)
  | .byteArray data => .ok ("bytearray(" ++ quoteBytes data true ++ ")")
  | .list items => do return "[" ++ commaJoin (← s.itemTexts budget path items) ++ "]"
  | .tuple [x] => do return "(" ++ (← s.textOf budget path .source x) ++ ",)"
  | .tuple items => do return "(" ++ commaJoin (← s.itemTexts budget path items) ++ ")"
  | .set items =>
    if items.isEmpty then .ok "set()"
    else do return "\x7b" ++ commaJoin (← s.itemTexts budget path items) ++ "\x7d"
  | .frozenSet items =>
    if items.isEmpty then .ok "frozenset()"
    else do return "frozenset(\x7b" ++ commaJoin (← s.itemTexts budget path items) ++ "\x7d)"
  | .deque items => do return "deque([" ++ commaJoin (← s.itemTexts budget path items) ++ "])"
  | .dict entries => do return "\x7b" ++ commaJoin (← s.entryTexts budget path entries) ++ "\x7d"
  | .date d => .ok (if form == .display then d.iso else d.repr)
  | .dateTime t => .ok (if form == .display then t.isoWith " " else t.repr)
  | .time t => .ok (if form == .display then t.iso else t.repr)
  | .duration d => .ok (if form == .display then d.text else d.repr)
  | .record cls slots => do
    let parts ← s.fieldTexts budget path cls.slotNames cls.fields.length slots
    if cls.kind == .model && form == .display then return " ".intercalate parts
    else return cls.name ++ "(" ++ commaJoin parts ++ ")"
  | .proxy v => do return "Proxy(" ++ (← s.textOf budget path .source v) ++ ")"
  | .weakRef v =>
    match v with
    | some _ => .ok "<weakref>"
    | none => .ok "<weakref; dead>"
  | .handle v => do return "addressable(" ++ (← s.textOf budget path .source v) ++ ")"
  | .object t _ => .ok (if form == .display then t else "Obj(" ++ quoteText t ++ ")")
  | .enumMember c n v _ =>
    if form == .display then .ok (c ++ "." ++ n)
    else do return "<" ++ c ++ "." ++ n ++ ": " ++ (← s.textOf budget path .source v) ++ ">"
  | .attribute owner name kind =>
    .ok (if kind == "type" then "<class '" ++ owner ++ "'>"
      else if kind == "builtin_function_or_method" then
        "<built-in method " ++ name ++ " of " ++ owner ++ " object>"
      else if kind == "method-wrapper" then
        "<method-wrapper '" ++ name ++ "' of " ++ owner ++ " object>"
      else if kind == "method" then "<bound method " ++ owner ++ "." ++ name ++ ">"
      else "<" ++ kind ++ " object>")
  | .shared l =>
    match budget, s.get? l with
    | b + 1, some v =>
      if path.contains l then
        match v with
        | .list _ => .ok "[...]"
        | .dict _ => .ok "\x7b...\x7d"
        | _ => .ok "..."
      else s.textOf b (l :: path) form v
    | _, _ => .ok "..."
termination_by v => (budget, sizeOf v)

/-- The source texts of items. -/
def Store.itemTexts (s : Store) (budget : Nat) (path : List Nat) :
    List Value → Except Fault (List String)
  | [] => .ok []
  | x :: xs => do
    let t ← s.textOf budget path .source x
    return t :: (← s.itemTexts budget path xs)
termination_by xs => (budget, sizeOf xs)

/-- The source texts of dictionary entries, as `key: value`. -/
def Store.entryTexts (s : Store) (budget : Nat) (path : List Nat) :
    List (Value × Value) → Except Fault (List String)
  | [] => .ok []
  | (k, v) :: rest => do
    let kt ← s.textOf budget path .source k
    let vt ← s.textOf budget path .source v
    return (kt ++ ": " ++ vt) :: (← s.entryTexts budget path rest)
termination_by xs => (budget, sizeOf xs)

/-- The texts of the first `limit` record slots, as `name=value`. -/
def Store.fieldTexts (s : Store) (budget : Nat) (path : List Nat) (names : List String)
    (limit : Nat) : List Value → Except Fault (List String)
  | [] => .ok []
  | v :: rest =>
    match names, limit with
    | n :: ns, k + 1 => do
      let t ← s.textOf budget path .source v
      return (n ++ "=" ++ t) :: (← s.fieldTexts budget path ns k rest)
    | _, _ => .ok []
termination_by xs => (budget, sizeOf xs)

end

/-- The display text of a value. -/
def Store.display (s : Store) (v : Value) : Except Fault String :=
  s.textOf (s.cells.size + 1) [] .display v

/-- The source text of a value. -/
def Store.source (s : Store) (v : Value) : Except Fault String :=
  s.textOf (s.cells.size + 1) [] .source v

end FieldRules
