import Interpolation.Shell.Pattern
import Interpolation.Shell.Utility.Options

/-!
# Exchanging characters

Characters of one set are changed to those of another, deleted, or written once where they are
repeated. A set lists characters, ranges and kinds of characters.
-/

namespace Interpolation.Shell.Utility

inductive SetItem where
  | chars (o : Octets)
  | kind (name : String)
  | times (c : Char) (count : Nat)

abbrev SetChar := Char × Bool

def setChars : Octets → List SetChar
  | '\\' :: a :: rest =>
    let octal (c : Char) : Option Nat := Octets.digit? 8 c
    match octal a, rest with
    | some x, b :: c :: after =>
      match octal b, octal c with
      | some y, some z =>
        if 64 * x + 8 * y + z < 256 then (Char.ofNat (64 * x + 8 * y + z), true) :: setChars after
        else (Char.ofNat (8 * x + y), true) :: (c, false) :: setChars after
      | some y, none => (Char.ofNat (8 * x + y), true) :: setChars (c :: after)
      | none, _ => (Char.ofNat x, true) :: setChars (b :: c :: after)
    | some x, [b] =>
      match octal b with
      | some y => [(Char.ofNat (8 * x + y), true)]
      | none => (Char.ofNat x, true) :: setChars [b]
    | some x, [] => [(Char.ofNat x, true)]
    | none, rest =>
      let named : List (Char × Nat) :=
        [('a', 7), ('b', 8), ('f', 12), ('n', 10), ('r', 13), ('t', 9), ('v', 11)]
      (((named.lookup a).map Char.ofNat).getD a, true) :: setChars rest
  | c :: rest => (c, false) :: setChars rest
  | [] => []

def untilClosed (sign : Char) : List SetChar → Option (Octets × List SetChar)
  | (a, false) :: (']', false) :: rest =>
    if a == sign then some ([], rest)
    else (untilClosed sign ((']', false) :: rest)).map fun (o, rest) => (a :: o, rest)
  | (a, _) :: rest => (untilClosed sign rest).map fun (o, rest) => (a :: o, rest)
  | [] => none

def repetition? (o : List SetChar) : Option (Nat × List SetChar) :=
  let digits := (o.takeWhile fun (c, isEscaped) => c.isDigit && !isEscaped).map Prod.fst
  match o.drop digits.length with
  | (']', false) :: rest =>
    let base := if digits.head? == some '0' then 8 else 10
    some ((Octets.takeDigits base digits).2.1, rest)
  | _ => none

def itemsUpTo : Nat → List SetChar → Except Octets (List SetItem)
  | 0, _ => .ok []
  | _, [] => .ok []
  | n + 1, o => do
    let bracket : Option (Except Octets SetItem × List SetChar) := match o with
      | ('[', false) :: (':', false) :: rest =>
        (untilClosed ':' rest).map fun (name, rest) =>
          let item := match Pattern.kinds.find? (·.toList == name) with
            | some kind => Except.ok (SetItem.kind kind)
            | none => .error ("invalid character class ".toList ++ quote name)
          (item, rest)
      | ('[', false) :: ('=', false) :: rest =>
        (untilClosed '=' rest).map fun (text, rest) =>
          match text with
          | [c] => (.ok (.chars [c]), rest)
          | _ =>
            (.error (text ++ ": equivalence class operand must be a single character".toList), rest)
      | ('[', false) :: (c, _) :: ('*', false) :: rest =>
        (repetition? rest).map fun (count, rest) => (.ok (.times c count), rest)
      | _ => none
    match bracket with
    | some (item, rest) => return (← item) :: (← itemsUpTo n rest)
    | none =>
      match o with
      | (a, _) :: ('-', false) :: (b, _) :: rest =>
        if b.toNat < a.toNat then
          .error ("range-endpoints of '".toList ++ [a, '-', b] ++
            "' are in reverse collating sequence order".toList)
        else
          let range := (List.range (b.toNat - a.toNat + 1)).map fun i => Char.ofNat (a.toNat + i)
          return .chars range :: (← itemsUpTo n rest)
      | (a, _) :: rest => return .chars [a] :: (← itemsUpTo n rest)
      | [] => return []

def setItems (o : Octets) : Except Octets (List SetItem) :=
  let chars := setChars o
  itemsUpTo chars.length chars

def allOctets : Octets :=
  (List.range 256).map Char.ofNat

def SetItem.expand (gap : Nat) : SetItem → Octets
  | chars o => o
  | kind name => allOctets.filter fun c => Pattern.ofKind c name
  | times c 0 => List.replicate gap c
  | times c count => List.replicate count c

def expandItems (gap : Nat) (items : List SetItem) : Octets :=
  items.flatMap (SetItem.expand gap)

def firstSet (isInverted : Bool) (items : List SetItem) : Octets :=
  let chars := expandItems 0 items
  if isInverted then allOctets.filter fun c => !chars.contains c else chars

def SetItem.isCase : SetItem → Bool
  | kind "upper" => true
  | kind "lower" => true
  | _ => false

def secondSet (truncates : Bool) (first : Octets) (items : List SetItem) : Except Octets Octets :=
  let isForbidden : SetItem → Bool := fun item => match item with
    | .kind _ => !item.isCase
    | _ => false
  if items.any isForbidden then
    .error ("when translating, the only character classes that may appear in\n" ++
      "string2 are 'upper' and 'lower'").toList
  else
    let chars := expandItems (first.length - (expandItems 0 items).length) items
    match chars.getLast? with
    | none =>
      if truncates then .ok []
      else .error "when not truncating set1, string2 must be non-empty".toList
    | some last =>
      if truncates then .ok chars
      else if chars.length < first.length && (items.getLast?.any SetItem.isCase) then
        .error ("when translating with string1 longer than string2,\n" ++
          "the latter string must not end with a character class").toList
      else .ok (chars ++ List.replicate (first.length - chars.length) last)

def squeeze (set : Octets) : Octets → Octets
  | a :: b :: rest =>
    if a == b && set.contains a then squeeze set (b :: rest) else a :: squeeze set (b :: rest)
  | o => o

def exchange (found : List (Char × Octets)) (sets : List Octets) :
    Except Octets (Octets → Octets) := do
  let inverts := has found 'c' || has found 'C'
  let first := firstSet inverts (← setItems (sets.headD []))
  match sets with
  | [_, second] =>
    let items ← setItems second
    if has found 'd' then
      let again := expandItems 0 items
      return fun text => squeeze again (text.filter fun c => !first.contains c)
    else
      let targets ← secondSet (has found 't') first items
      let table := (first.zip targets).reverse
      let change (text : Octets) : Octets := text.map fun c => (table.lookup c).getD c
      return fun text => if has found 's' then squeeze targets (change text) else change text
  | _ =>
    return fun text =>
      if has found 'd' then text.filter fun c => !first.contains c else squeeze first text

/-- Exchange, delete or squeeze the characters of the input. -/
def tr : Utility :=
  let known : Known :=
    { name := "tr", letters := "cCdst", anywhere := false, words := [("complement", 'c'),
        ("delete", 'd'), ("squeeze-repeats", 's'), ("truncate-set1", 't')] }
  withOptions known fun _ found operands => do
    let (deletes, squeezes) := (has found 'd', has found 's')
    let least := if deletes == squeezes then 2 else 1
    let most := if deletes && !squeezes then 1 else 2
    let wrong (complaint : Octets) (more : String) : Exec Nat := do
      complain "tr" complaint
      if !more.isEmpty then Exec.complainLine more.toList
      hint "tr"
      return 1
    if operands.isEmpty then wrong "missing operand".toList ""
    else if operands.length < least then
      wrong ("missing operand after ".toList ++ quote (operands.headD []))
        (if deletes then "Two strings must be given when both deleting and squeezing repeats."
          else "Two strings must be given when translating.")
    else if most < operands.length then
      wrong ("extra operand ".toList ++ quote (operands.getD most []))
        (if most = 1 && operands.length = 2 then
          "Only one string may be given when deleting without squeezing repeats." else "")
    else
      match exchange found operands with
      | .error complaint =>
        complain "tr" complaint
        return 1
      | .ok change =>
        match ← content ['-'] with
        | .ok text =>
          Exec.print (change text)
          return 0
        | .error why =>
          complain "tr" ("read error: ".toList ++ why.message)
          return 1

end Interpolation.Shell.Utility
