import Interpolation.Shell.Real
import Interpolation.Shell.Utility.Layout
import Interpolation.Shell.Version

/-!
# Sorting lines

Lines are compared by keys, which are parts of them, and at last by all their bytes. A key has an
order of its own or that of all keys.
-/

namespace Interpolation.Shell.Utility

structure KeyEnd where
  fields : Nat
  chars : Nat := 0
  skipsBlanks : Bool := false

structure SortKey where
  first : KeyEnd
  last : Option KeyEnd := none
  order : List Char := []

def isGap (c : Char) : Bool :=
  c == ' ' || c == '\t' || c == '\n'

def skipFields (separator : Option Char) (keepsLast : Bool) : Nat → Octets → Octets
  | 0, line => line
  | n + 1, line =>
    match separator with
    | some s =>
      let rest := line.dropWhile (· != s)
      skipFields separator keepsLast n (if n = 0 && keepsLast then rest else rest.drop 1)
    | none => skipFields separator keepsLast n ((line.dropWhile isGap).dropWhile (!isGap ·))

def SortKey.part (separator : Option Char) (k : SortKey) (line : Octets) : Octets :=
  let blanks (e : KeyEnd) (o : Octets) : Octets := if e.skipsBlanks then o.dropWhile isGap else o
  let rest := (blanks k.first (skipFields separator false k.first.fields line)).drop k.first.chars
  match k.last with
  | none => rest
  | some e =>
    let behind :=
      if e.chars = 0 then skipFields separator true (e.fields + 1) line
      else (blanks e (skipFields separator false e.fields line)).drop e.chars
    rest.take (rest.length - behind.length)

def frontNumber (o : Octets) : Int × Nat :=
  let o := o.dropWhile isGap
  let (isNegative, o) := match o with
    | '-' :: rest => (true, rest)
    | rest => (false, rest)
  let (_, whole, rest) := Octets.takeDigits 10 o
  let (places, part) := match rest with
    | '.' :: rest =>
      let (count, n, _) := Octets.takeDigits 10 rest
      (count, n)
    | _ => (0, 0)
  let n : Int := whole * Nat.pow 10 places + part
  (if isNegative then -n else n, places)

def unitOf (o : Octets) : Int :=
  let o := o.dropWhile isGap
  let (isNegative, o) := match o with
    | '-' :: rest => (true, rest)
    | rest => (false, rest)
  let number := o.takeWhile fun c => c.isDigit || c == '.'
  if !number.any fun c => c.isDigit && c != '0' then 0
  else
    let place : Nat := match o.drop number.length with
      | c :: _ =>
        (("KMGTPEZY".toList.idxOf? (if c == 'k' then 'K' else c)).map (· + 1)).getD 0
      | [] => 0
    if isNegative then -(place : Int) else place

def monthOf (o : Octets) : Nat :=
  let names := ["JAN", "FEB", "MAR", "APR", "MAY", "JUN", "JUL", "AUG", "SEP", "OCT", "NOV", "DEC"]
  let name := ((o.dropWhile isGap).take 3).map Char.toUpper
  ((names.idxOf? (String.ofList name)).map (· + 1)).getD 0

def compareOctets : Octets → Octets → Ordering
  | [], [] => .eq
  | [], _ :: _ => .lt
  | _ :: _, [] => .gt
  | a :: as, b :: bs => (compare a.toNat b.toNat).then (compareOctets as bs)

def compareNumbers (a b : Int × Nat) : Ordering :=
  compare (a.1 * Nat.pow 10 b.2) (b.1 * Nat.pow 10 a.2)

def compareReals (a b : Octets) : Ordering :=
  let rank (x : Option (Real × Octets)) : Int := match x with
    | none => 0
    | some ({ magnitude := .nan, .. }, _) => 1
    | some ({ isNegative, magnitude := .infinity }, _) => if isNegative then 2 else 4
    | some _ => 3
  let x := Real.take? a
  let y := Real.take? b
  (compare (rank x) (rank y)).then <|
    match x.bind fun x => x.1.value?, y.bind fun y => y.1.value? with
    | some (m, p), some (n, q) => compare (m * q) (n * p)
    | _, _ => .eq

def plainPart (order : List Char) (o : Octets) : Octets :=
  let o := if order.contains 'd' then o.filter fun c => c.isAlphanum || isGap c else o
  let o := if order.contains 'i' then o.filter isShowable else o
  if order.contains 'f' then o.map Char.toUpper else o

def compareKeys (order : List Char) (a b : Octets) : Ordering :=
  let result :=
    if order.contains 'n' then compareNumbers (frontNumber a) (frontNumber b)
    else if order.contains 'g' then compareReals a b
    else if order.contains 'h' then
      (compare (unitOf a) (unitOf b)).then (compareNumbers (frontNumber a) (frontNumber b))
    else if order.contains 'M' then compare (monthOf a) (monthOf b)
    else if order.contains 'V' then Version.compare (plainPart order a) (plainPart order b)
    else compareOctets (plainPart order a) (plainPart order b)
  if order.contains 'r' then result.swap else result

structure SortOrder where
  keys : List SortKey
  separator : Option Char
  isReversed : Bool
  isStable : Bool

def SortOrder.compareByKeys (s : SortOrder) (a b : Octets) : Ordering :=
  s.keys.foldl (fun sofar k =>
    sofar.then (compareKeys k.order (k.part s.separator a) (k.part s.separator b))) .eq

def SortOrder.compare (s : SortOrder) (a b : Octets) : Ordering :=
  let last :=
    if s.isStable && !s.keys.isEmpty then .eq
    else if s.isReversed then (compareOctets a b).swap
    else compareOctets a b
  (s.compareByKeys a b).then last

def orderLetters (o : Octets) : List Char × Octets :=
  o.span "bdfghiMnRrV".toList.contains

def keyCount (place : String) (o : Octets) : Except Octets (Nat × Octets) :=
  let (count, n, rest) := Octets.takeDigits 10 o
  if count = 0 then
    .error (place.toList ++ ": invalid count at start of ".toList ++ quote o)
  else .ok (n, rest)

def sortKey? (whole : Octets) : Except Octets SortKey := do
  let bad {α : Type} (what : String) : Except Octets α :=
    .error (what.toList ++ ": invalid field specification ".toList ++ quote whole)
  let (field, rest) ← keyCount "invalid number at field start" whole
  if field = 0 then bad "field number is zero"
  let (char, rest) ← match rest with
    | '.' :: rest => do
      let (n, rest) ← keyCount "invalid number after '.'" rest
      if n = 0 then bad "character offset is zero"
      else pure (n - 1, rest)
    | rest => pure (0, rest)
  let (letters, rest) := orderLetters rest
  let first : KeyEnd := ⟨field - 1, char, letters.contains 'b'⟩
  match rest with
  | [] => return { first, order := letters.filter (· != 'b') }
  | ',' :: rest =>
    let (field, rest) ← keyCount "invalid number after ','" rest
    if field = 0 then bad "field number is zero"
    let (char, rest) ← match rest with
      | '.' :: rest => keyCount "invalid number after '.'" rest
      | rest => pure (0, rest)
    let (more, rest) := orderLetters rest
    if !rest.isEmpty then bad "stray character in field spec"
    else
      let last : KeyEnd := ⟨field - 1, char, more.contains 'b'⟩
      return { first, last := some last, order := (letters ++ more).filter (· != 'b') }
  | _ => bad "stray character in field spec"

def incompatible? (order : List Char) : Option Octets :=
  let count (letters : String) : Nat := (letters.toList.filter order.contains).length
  let others := if 0 < count "VRdi" then 1 else 0
  if 1 < count "nghM" + others then
    some ("dfghiMnRV".toList.filter fun c =>
      order.contains c && !(c == 'i' && order.contains 'd'))
  else none

def sortOrder (found : Given) : Except Octets SortOrder := do
  let letters := (found.map Prod.fst).filter "dfghiMnRrV".toList.contains
  let blanks := has found 'b'
  let read ← (found.filter fun (c, _) => c == 'k').mapM fun (_, text) => sortKey? text
  let inherit (k : SortKey) : SortKey :=
    if !k.order.isEmpty || k.first.skipsBlanks || k.last.any KeyEnd.skipsBlanks then k
    else
      { first := { k.first with skipsBlanks := blanks }
        last := k.last.map fun e => { e with skipsBlanks := blanks }
        order := letters }
  let whole : SortKey := { first := ⟨0, 0, blanks⟩, order := letters }
  let isPlain := !blanks && letters.all (· == 'r')
  let tabs := (found.filter fun (c, _) => c == 't').map Prod.snd
  let separators ← tabs.mapM fun t =>
    match t with
    | [] => .error "empty tab".toList
    | [c] => pure c
    | ['\\', '0'] => pure (Char.ofNat 0)
    | t => .error ("multi-character tab ".toList ++ quote t)
  if separators.any fun c => separators.head? != some c then .error "incompatible tabs".toList
  let keys := if read.isEmpty then (if isPlain then [] else [whole]) else read.map inherit
  for k in keys do
    if let some letters := incompatible? k.order then
      .error ("options '-".toList ++ letters ++ "' are incompatible".toList)
  return {
    keys, separator := separators.head?
    isReversed := letters.contains 'r'
    isStable := has found 's' || has found 'u' }

def disorder? (s : SortOrder) (isStrict : Bool) : Nat → List Octets → Option (Nat × Octets)
  | n, a :: b :: rest =>
    let isFine := match s.compare a b with
      | .lt => true
      | .eq => !isStrict
      | .gt => false
    if isFine then disorder? s isStrict (n + 1) (b :: rest) else some (n + 1, b)
  | _, _ => none

def sortKnown : Known :=
  { name := "sort", letters := "bcCdfghik:mMno:rRsS:t:T:uVy:z", hidden := "K::W:P:F:", wrong := 2
    words := [("reverse", 'r'), ("numeric-sort", 'n'), ("unique", 'u'), ("key", 'k'),
      ("field-separator", 't'), ("ignore-case", 'f'), ("stable", 's'), ("output", 'o'),
      ("ignore-leading-blanks", 'b'), ("version-sort", 'V'), ("human-numeric-sort", 'h'),
      ("check", 'K'), ("dictionary-order", 'd'), ("month-sort", 'M'), ("merge", 'm'),
      ("general-numeric-sort", 'g'), ("ignore-nonprinting", 'i'), ("random-sort", 'R'),
      ("zero-terminated", 'z'), ("buffer-size", 'S'), ("temporary-directory", 'T'),
      ("parallel", 'P'), ("random-source", 'P'), ("sort", 'W'), ("files0-from", 'F'),
      ("debug", 'y')] }

def sortWords : List (String × Char) :=
  [("general-numeric", 'g'), ("human-numeric", 'h'), ("month", 'M'), ("numeric", 'n'),
    ("random", 'R'), ("version", 'V')]

def sortLetter (option : Char × Octets) : Except (String × Octets × List String) (Char × Octets) :=
  let (c, word) := option
  let choose (name : String) (words : List (String × Char)) :
      Except (String × Octets × List String) (Char × Octets) :=
    match words.filter fun (w, _) => word.isPrefixOf w.toList with
    | [(_, c)] => .ok (c, [])
    | near =>
      match near.find? fun (w, _) => w.toList == word with
      | some (_, c) => .ok (c, [])
      | none => .error (name, word, words.map Prod.fst)
  if c == 'W' then choose "--sort" sortWords
  else if c == 'K' then
    if word.isEmpty then .ok ('c', [])
    else choose "--check" [("quiet", 'C'), ("silent", 'C'), ("diagnose-first", 'c')]
  else .ok option

/-- Sort lines. -/
def sort : Utility :=
  withOptions sortKnown fun _ given operands => do
    let wrong (complaint : Octets) : Exec Nat := do
      complain "sort" complaint
      return 2
    match given.mapM sortLetter with
    | .error (option, word, names) => misuseOf sortKnown option.toList word names
    | .ok found =>
      let operands ← match argument? found 'F' with
        | none => pure operands
        | some list =>
          match ← content list with
          | .ok text => pure (linesBy (Char.ofNat 0) text)
          | .error why => do
            complain "sort" ("open failed: ".toList ++ shown list ++ ": ".toList ++ why.message)
            return 2
      match sortOrder found with
      | .error complaint => wrong complaint
      | .ok s =>
        let checks := has found 'c' || has found 'C'
        if checks then
          if let _ :: extra :: _ := operands then
            let letter := if has found 'c' then 'c' else 'C'
            return ← wrong
              ("extra operand ".toList ++ quote extra ++ " not allowed with -".toList ++ [letter])
          if has found 'c' && has found 'C' then
            return ← wrong "options '-cC' are incompatible".toList
          if has found 'o' then
            return ← wrong ("options '-".toList ++ [if has found 'c' then 'c' else 'C'] ++
              "o' are incompatible".toList)
        let last := lineEnd found
        let files := inputs operands
        for file in files do
          if file != ['-'] then
            if let .error why ← Exec.look true file then
              return ← wrong ("cannot read: ".toList ++ shown file ++ ": ".toList ++ why.message)
        let mut texts : List (List Octets) := []
        for file in files do
          match ← content file with
          | .ok text => texts := texts ++ [linesBy last text]
          | .error why =>
            let what := if why == .isFolder then "read failed: " else "cannot read: "
            return ← wrong (what.toList ++ shown file ++ ": ".toList ++ why.message)
        if checks then
          match disorder? s (has found 'u') 1 texts.flatten with
          | none => return 0
          | some (n, line) =>
            if has found 'c' then
              complain "sort" (files.headD [] ++ ':' :: Text.ofNat n ++ ": disorder: ".toList ++
                line)
            return 1
        let isFine (a b : Octets) : Bool := s.compare a b != .gt
        let sorted :=
          if has found 'm' then texts.foldl (fun all lines => all.merge lines isFine) []
          else texts.flatten.mergeSort isFine
        let chosen :=
          if has found 'u' then
            (groupsOf (fun a b => s.compare a b == .eq) sorted).flatMap fun g => g.take 1
          else sorted
        let output := endedBy last chosen
        match argument? found 'o' with
        | none =>
          Exec.print output
          return 0
        | some name =>
          match ← Exec.save? name false output with
          | none => return 0
          | some why => wrong ("open failed: ".toList ++ shown name ++ ": ".toList ++ why.message)

end Interpolation.Shell.Utility
