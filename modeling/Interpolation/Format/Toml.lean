import Interpolation.Decimal.Nearest
import Interpolation.Format.Json

/-!
# TOML documents

A document is a list of lines: key and value, or the header of a table. Every table is defined once.
A table that was only passed through on the way to another may still get its header, and a table
that dotted keys have opened may get further dotted keys, but nothing else reopens a table.
-/

namespace Interpolation.Toml

/-- How a table came to be: from its own header, on the way to another header, or from dotted
keys. -/
inductive Origin where
  | header
  | passage
  | dotted
  deriving DecidableEq

/-- A part of a document: a finished value, a table, or a list of tables of which the last one is
open. -/
inductive Node where
  | value (v : Value)
  | table (origin : Origin) (entries : List (Text × Node))
  | rows (tables : List (List (Text × Node)))

abbrev Entries := List (Text × Node)

namespace Entries

/-- Put a node under a key: in the place of the one that is there, or at the end. -/
def put (key : Text) (node : Node) : Entries → Entries
  | [] => [(key, node)]
  | (k, n) :: rest => if k = key then (key, node) :: rest else (k, n) :: put key node rest

/-- Change the table at the end of a path. Tables that are missing are opened with the given origin;
dotted keys do not enter a table that has its own header. -/
def alter (opened : Origin) (change : Origin → Entries → Option Entries) (origin : Origin) :
    List Text → Entries → Option Entries
  | [], entries => change origin entries
  | key :: path, entries =>
    match entries.lookup key with
    | none =>
      (alter opened change opened path []).map fun inner => put key (.table opened inner) entries
    | some (.value _) => none
    | some (.table origin inner) =>
      if opened = .dotted && origin = .header then none
      else (alter opened change origin path inner).map fun inner =>
        put key (.table origin inner) entries
    | some (.rows tables) =>
      (alter opened change .header path (tables.getLast?.getD [])).map fun inner =>
        put key (.rows (tables.dropLast ++ [inner])) entries

/-- Define a new entry. Behind dotted keys the table has to be one that dotted keys have opened. -/
def define (key : Text) (v : Value) (isDotted : Bool) (origin : Origin) (entries : Entries) :
    Option Entries :=
  if (entries.lookup key).isSome || (isDotted != (origin == .dotted)) then none
  else some (put key (.value v) entries)

def assign (path : List Text) (v : Value) (origin : Origin) (entries : Entries) : Option Entries :=
  match path.getLast? with
  | none => none
  | some key =>
    let inner := path.dropLast
    alter .dotted (define key v (!inner.isEmpty)) origin inner entries

def openTable (key : Text) (_ : Origin) (entries : Entries) : Option Entries :=
  match entries.lookup key with
  | none => some (put key (.table .header []) entries)
  | some (.table .passage inner) => some (put key (.table .header inner) entries)
  | some _ => none

def openRow (key : Text) (_ : Origin) (entries : Entries) : Option Entries :=
  match entries.lookup key with
  | none => some (put key (.rows [[]]) entries)
  | some (.rows tables) => some (put key (.rows (tables ++ [[]])) entries)
  | some _ => none

end Entries

mutual

def Node.toValue : Node → Value
  | .value v => v
  | .table _ entries => .table (Table.ofList (entriesToValues entries))
  | .rows tables => .list (rowsToValues tables)

def entriesToValues : List (Text × Node) → List (Text × Value)
  | [] => []
  | (key, node) :: rest => (key, node.toValue) :: entriesToValues rest

def rowsToValues : List (List (Text × Node)) → List Value
  | [] => []
  | entries :: rest => .table (Table.ofList (entriesToValues entries)) :: rowsToValues rest

end

def space : Reader Unit :=
  Reader.skipWhile fun c => c == ' ' || c == '\t'

def isPlain (c : Char) : Bool :=
  c == '\t' || (0x20 ≤ c.toNat && c.toNat != 0x7F)

def lineEnd : Reader Unit :=
  Reader.word "\n" <|> Reader.word "\r\n"

def comment : Reader Unit := do
  Reader.char '#'
  Reader.skipWhile isPlain

def gap : Reader Unit := do
  space
  let _ ← Reader.many do
    let _ ← optional comment
    lineEnd
    space

def escape : Reader Char := do
  Reader.char '\\'
  match ← Reader.satisfy fun _ => true with
  | 'b' => pure (Char.ofNat 8)
  | 't' => pure '\t'
  | 'n' => pure '\n'
  | 'f' => pure (Char.ofNat 12)
  | 'r' => pure '\r'
  | '"' => pure '"'
  | '\\' => pure '\\'
  | 'u' => scalar 4
  | 'U' => scalar 8
  | _ => failure
where
  scalar (digits : Nat) : Reader Char := do
    let n ← Json.hexNumber digits
    Reader.ensure (n < 0xD800 || (0xE000 ≤ n && n < 0x110000))
    pure (Char.ofNat n)

def basicText : Reader Text := do
  Reader.char '"'
  let t ← Reader.many (Reader.satisfy (fun c => isPlain c && c != '"' && c != '\\') <|> escape)
  Reader.char '"'
  pure t

def literalText : Reader Text := do
  Reader.char '\''
  let t ← Reader.takeWhile fun c => isPlain c && c != '\''
  Reader.char '\''
  pure t

def loneQuotes (quote : Char) : Reader Text := do
  let run ← Reader.takeWhile (· == quote)
  Reader.ensure (0 < run.length && run.length < 3)
  pure run

def closingQuotes (quote : Char) : Reader Text := do
  let run ← Reader.takeWhile (· == quote)
  Reader.ensure (3 ≤ run.length && run.length ≤ 5)
  pure (run.drop 3)

def textLineEnd : Reader Text := do
  lineEnd
  pure ['\n']

def continuation : Reader Text := do
  Reader.char '\\'
  space
  lineEnd
  let _ ← Reader.many (lineEnd <|> do
    let _ ← Reader.satisfy fun c => c == ' ' || c == '\t')
  pure []

def piece (r : Reader Char) : Reader Text :=
  (fun c => [c]) <$> r

def longText (quote : Char) (part : Reader Text) : Reader Text := do
  Reader.chars [quote, quote, quote]
  let _ ← optional lineEnd
  let parts ← Reader.many (part <|> textLineEnd <|> loneQuotes quote)
  let last ← closingQuotes quote
  pure (parts.flatten ++ last)

def text : Reader Text :=
  longText '"' (piece (Reader.satisfy fun c => isPlain c && c != '"' && c != '\\') <|>
    continuation <|> piece escape) <|>
  longText '\'' (piece (Reader.satisfy fun c => isPlain c && c != '\'')) <|>
  basicText <|> literalText

def simpleKey : Reader Text :=
  Reader.many1 (Reader.satisfy fun c => (c.isAlphanum || c == '_' || c == '-')) <|>
  basicText <|> literalText

def greatestDepth : Nat := 79

def key : Reader (List Text) := do
  let path ← Reader.separated (do space; Reader.char '.'; space) simpleKey
  Reader.ensure (path.length ≤ greatestDepth)
  pure path

def digits (isDigit : Char → Bool) : Reader Text := do
  let first ← Reader.satisfy isDigit
  let rest ← Reader.many do
    let _ ← optional (Reader.char '_')
    Reader.satisfy isDigit
  pure (first :: rest)

def values (t : Text) : List Nat :=
  t.map fun c => (Json.hexValue? c).getD 0

/-- Read a sign: whether it is negative. -/
def sign : Reader Bool := do
  let c ← optional (Reader.satisfy fun c => c == '+' || c == '-')
  pure (c == some '-')

def wholeDigits : Reader Text := do
  let t ← digits Char.isDigit
  Reader.ensure (t.head? != some '0' || t.length == 1)
  pure t

def whole : Reader Value := do
  let n ← based "0x" 16 (fun c => (Json.hexValue? c).isSome) <|>
    based "0o" 8 (fun c => '0' ≤ c && c ≤ '7') <|>
    based "0b" 2 (fun c => c == '0' || c == '1') <|>
    decimal
  Reader.ensure (-(Nat.pow 2 63) ≤ n && n < Nat.pow 2 63)
  pure (.number (.whole n))
where
  based (announced : String) (base : Nat) (isDigit : Char → Bool) : Reader Int := do
    Reader.word announced
    let t ← digits isDigit
    pure ((values t).foldl (fun n d => base * n + d) 0 : Nat)
  decimal : Reader Int := do
    let negative ← sign
    let n := Decimal.valueOfDigits (values (← wholeDigits))
    pure (if negative then -n else n)

def exponent : Reader Int := do
  let _ ← Reader.satisfy fun c => c == 'e' || c == 'E'
  let negative ← sign
  let n := Decimal.valueOfDigits (values (← digits Char.isDigit))
  pure (if negative then -n else n)

/-- Read a double. One that is too large is refused, one that is too small has no number. -/
def real : Reader Value := do
  let negative ← sign
  let x ← decimal negative <|> named "inf" (1 / 0) <|> named "nan" (0 / 0)
  pure (Number.real? (if negative then -x else x))
where
  named (name : String) (x : Float) : Reader Float := do
    Reader.word name
    pure x
  fraction : Reader Text := do
    Reader.char '.'
    digits Char.isDigit
  decimal (negative : Bool) : Reader Float := do
    let whole ← wholeDigits
    let fraction ← optional fraction
    let exponent ← optional exponent
    Reader.ensure (fraction.isSome || exponent.isSome)
    let fraction := fraction.getD []
    let x := Decimal.nearest
      ⟨Decimal.valueOfDigits (values (whole ++ fraction)), exponent.getD 0 - fraction.length⟩
    Reader.ensure (negative || !x.isInf)
    pure x

def field (width least greatest : Nat) : Reader Text := do
  let t ← Reader.takeWhile Char.isDigit
  let n := Decimal.valueOfDigits (values t)
  Reader.ensure (t.length == width && least ≤ n && n ≤ greatest)
  pure t

def daysOf (year month : Nat) : Nat :=
  if month = 2 then
    if year % 4 = 0 && (year % 100 != 0 || year % 400 = 0) then 29 else 28
  else if month = 4 || month = 6 || month = 9 || month = 11 then 30
  else 31

def date : Reader Text := do
  let year ← field 4 0 9999
  Reader.char '-'
  let month ← field 2 1 12
  Reader.char '-'
  let number (t : Text) : Nat := Decimal.valueOfDigits (values t)
  let day ← field 2 1 (daysOf (number year) (number month))
  pure (year ++ '-' :: month ++ '-' :: day)

/-- Read a time of the day; at most nine places of a second are kept. -/
def time : Reader Text := do
  let hour ← field 2 0 23
  Reader.char ':'
  let minute ← field 2 0 59
  Reader.char ':'
  let second ← field 2 0 60
  let places ← optional do
    Reader.char '.'
    Reader.many1 (Reader.satisfy Char.isDigit)
  let places := Text.dropTrailing '0' ((places.getD []).take 9)
  pure (hour ++ ':' :: minute ++ ':' :: second ++ if places.isEmpty then [] else '.' :: places)

/-- Read the offset of a time. No offset is written as a positive one. -/
def offset : Reader Text :=
  (do let _ ← Reader.satisfy (fun c => c == 'Z' || c == 'z'); pure ['Z']) <|> do
    let c ← Reader.satisfy fun c => c == '+' || c == '-'
    let hour ← field 2 0 23
    Reader.char ':'
    let minute ← field 2 0 59
    let isNone := (hour ++ minute).all (· == '0')
    pure ((if isNone then '+' else c) :: hour ++ ':' :: minute)

def moment : Reader Value := do
  let t ← day <|> time
  pure (.table [("$__toml_private_datetime".toList, .text t)])
where
  day : Reader Text := do
    let d ← date
    let t ← optional do
      let _ ← Reader.satisfy fun c => c == 'T' || c == 't' || c == ' '
      let t ← time
      let z ← optional offset
      pure (t ++ z.getD [])
    pure (match t with
      | some t => d ++ 'T' :: t
      | none => d)

def atom : Reader Value := do
  match ← Reader.peek? with
  | some '"' | some '\'' => .text <$> text
  | some 't' => do Reader.word "true"; pure (.boolean true)
  | some 'f' => do Reader.word "false"; pure (.boolean false)
  | _ => moment <|> real <|> whole

def pair (value : Reader Value) : Reader (List Text × Value) := do
  let path ← key
  space
  Reader.char '='
  space
  let v ← value
  pure (path, v)

def inlineTable (pairs : List (List Text × Value)) : Option Value :=
  let entries? : Option Entries :=
    pairs.foldlM (fun entries (path, v) => Entries.assign path v .header entries) []
  entries?.map fun entries => (Node.table .header entries).toValue

def value : Nat → Reader Value
  | 0 => atom
  | depth + 1 => do
    match ← Reader.peek? with
    | some '[' => do
      Reader.char '['
      gap
      let items ← Reader.separated (do gap; Reader.char ','; gap) (value depth) <|> pure []
      gap
      if !items.isEmpty then
        let _ ← optional (Reader.char ',')
        gap
      Reader.char ']'
      pure (.list items)
    | some '{' => do
      Reader.char '{'
      space
      let comma : Reader Unit := do space; Reader.char ','; space
      let pairs ← Reader.separated comma (pair (value depth)) <|> pure []
      space
      Reader.char '}'
      match inlineTable pairs with
      | some v => pure v
      | none => failure
    | _ => atom

inductive Line where
  | assignment (path : List Text) (v : Value)
  | tableHeader (path : List Text)
  | rowHeader (path : List Text)

def headerKey : Reader (List Text) := do
  space
  let path ← key
  space
  pure path

def line : Reader Line :=
  (do Reader.word "[["
      let path ← headerKey
      Reader.word "]]"
      pure (.rowHeader path)) <|>
  (do Reader.char '['
      let path ← headerKey
      Reader.char ']'
      pure (.tableHeader path)) <|>
  (do let (path, v) ← pair (value greatestDepth)
      pure (.assignment path v))

def lines : Reader (List Line) := do
  let _ ← optional (Reader.char (Char.ofNat 0xFEFF))
  let found ← Reader.separated lineEnd do
    space
    let l ← optional line
    space
    let _ ← optional comment
    pure l
  pure (found.filterMap id)

/-- A document in the making: its entries, and the path of the table that is open. -/
structure Draft where
  entries : Entries := []
  path : List Text := []

def Draft.add (d : Draft) : Line → Option Draft
  | .assignment path v => do
    let entries ← Entries.alter .passage (Entries.assign path v) .header d.path d.entries
    some { d with entries }
  | .tableHeader path => do
    let key ← path.getLast?
    let entries ← Entries.alter .passage (Entries.openTable key) .header path.dropLast d.entries
    some ⟨entries, path⟩
  | .rowHeader path => do
    let key ← path.getLast?
    let entries ← Entries.alter .passage (Entries.openRow key) .header path.dropLast d.entries
    some ⟨entries, path⟩

/-- The table that a document describes. -/
def read? (t : Text) : Option (Table Value) := do
  let found ← lines.whole? t
  let draft ← found.foldlM Draft.add {}
  some (Table.ofList (entriesToValues draft.entries))

end Interpolation.Toml
