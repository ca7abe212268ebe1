import Interpolation.Shell.Utility.Amount
import Interpolation.Shell.Utility.Options

/-!
# Comparing bytes

Two files are compared byte by byte. Either the first difference is told, or all of them; a file
that ends before the other one is complained about.
-/

namespace Interpolation.Shell.Utility

namespace Comparing

structure Difference where
  position : Nat
  first : Char
  second : Char

def differences (position : Nat) : Octets → Octets → List Difference
  | a :: as, b :: bs =>
    if a = b then differences (position + 1) as bs
    else ⟨position, a, b⟩ :: differences (position + 1) as bs
  | _, _ => []

def digits (c : Char) : Octets :=
  Text.padLeft ' ' 3 (Nat.toDigits 8 c.toNat)

def byteText (isShown : Bool) (width : Nat) (c : Char) : Octets :=
  digits c ++ if isShown then ' ' :: Text.padRight width (caret c) else []

def lineAt (text : Octets) (position : Nat) : Nat :=
  (text.take (position - 1)).count '\n' + 1

def ending (isBrief : Bool) (name text : Octets) : Octets :=
  let lead := "EOF on ".toList ++ name
  let count := text.length
  let isLineEnd := text.getLast? == some '\n'
  let lines := text.count '\n'
  if count = 0 then lead ++ " which is empty".toList
  else
    lead ++ " after byte ".toList ++ Text.ofNat count ++
      if isBrief then [] else if isLineEnd then ", line ".toList ++ Text.ofNat lines
      else ", in line ".toList ++ Text.ofNat (lines + 1)

end Comparing

def cmpKnown : Known :=
  { name := "cmp", letters := "bci:ln:sv", wrong := 2, hintIsNamed := true
    words := [("print-bytes", 'b'), ("print-chars", 'c'), ("ignore-initial", 'i'),
      ("verbose", 'l'), ("bytes", 'n'), ("silent", 's'), ("quiet", 's')] }

def byteCount (o : Octets) : Amount :=
  let o := o.dropWhile Octets.isSpace
  let o := if o.head? == some '+' then o.tail else o
  match Octets.takeUnsigned o with
  | (true, n, rest) => amount "kKMGTPEZY0" (Text.ofNat n ++ rest)
  | (false, _, rest) => amount "kKMGTPEZY0" rest

def skips (found : Given) (operands : List Octets) : Except Octets (Nat × Nat) := do
  let read (o : Octets) : Except Octets Nat :=
    match byteCount o with
    | .number n => .ok n
    | .overflow => .ok tooLarge
    | .invalid => .error ("invalid --ignore-initial value ".toList ++ quote o)
  let both (r : Except Octets (Nat × Nat)) (o : Octets) : Except Octets (Nat × Nat) := do
    let (a, b) ← r
    match Text.cutFirst ':' o with
    | some (x, y) =>
      match read x with
      | .ok n => .ok (max a n, max b (← read y))
      | .error _ => .error ("invalid --ignore-initial value ".toList ++ quote o)
    | none =>
      let n ← read o
      .ok (max a n, max b n)
  let given := found.filterMap fun (c, a) => if c == 'i' then some a else none
  let (a, b) ← given.foldl both (.ok (0, 0))
  let a ← match operands[2]? with
    | some o => (read o).map (max a)
    | none => .ok a
  let b ← match operands[3]? with
    | some o => (read o).map (max b)
    | none => .ok b
  return (a, b)

/-- Compare two files. -/
def cmp : Utility :=
  withOptions cmpKnown fun _ found operands => do
    let (tellsAll, isSilent) := (has found 'l', has found 's')
    let showsBytes := has found 'b' || has found 'c'
    let limit : Except Octets (Option Nat) := match argument? found 'n' with
      | none => .ok none
      | some o =>
        match byteCount o with
        | .number n => .ok (some n)
        | .overflow => .ok none
        | .invalid => .error ("invalid --bytes value ".toList ++ quote o)
    match limit with
    | .error complaint => misuse cmpKnown complaint
    | .ok limit =>
      if tellsAll && isSilent then
        return ← misuse cmpKnown "options -l and -s are incompatible".toList
      let first :: _ := operands
        | misuse cmpKnown ("missing operand after ".toList ++ quote (← calledName "cmp"))
      let second := operands.getD 1 ['-']
      match skips found operands with
      | .error complaint => misuse cmpKnown complaint
      | .ok (a, b) =>
        if let some extra := operands[4]? then return ← tooMany cmpKnown extra
        if first == second then return 0
        match ← source first, ← source second with
        | .error why, _ => trouble isSilent first why
        | _, .error why => trouble isSilent second why
        | .ok (one, isOneFile), .ok (two, isTwoFile) =>
          let cut (skip : Nat) (text : Octets) : Octets :=
            let rest := text.drop skip
            match limit with
            | some n => rest.take n
            | none => rest
          let (left, right) := (cut a one, cut b two)
          let found := Comparing.differences 1 left right
          if isSilent then return status (found.isEmpty && left.length = right.length)
          let sizes := (if isOneFile then [left.length] else []) ++
            if isTwoFile then [right.length] else []
          let least := sizes.min?.getD (min tooLarge (limit.getD tooLarge))
          let width := (Text.ofNat least).length
          if (tellsAll || found.isEmpty) && left.length != right.length then
            let (name, text) :=
              if left.length < right.length then (first, left) else (second, right)
            complain "cmp" (Comparing.ending tellsAll name text)
          if tellsAll then
            for d in found do
              Exec.printLine (Text.padLeft ' ' width (Text.ofNat d.position) ++
                ' ' :: Comparing.byteText showsBytes 4 d.first ++
                ' ' :: Comparing.byteText showsBytes 0 d.second)
          else if let some d := found.head? then
            Exec.printLine (first ++ ' ' :: second ++ " differ: ".toList ++
              (if showsBytes then "byte " else "char ").toList ++ Text.ofNat d.position ++
              ", line ".toList ++ Text.ofNat (Comparing.lineAt left d.position) ++
              if showsBytes then
                " is ".toList ++ Comparing.byteText true 0 d.first ++
                  ' ' :: Comparing.byteText true 0 d.second
              else [])
          return status (found.isEmpty && left.length = right.length)
where
  source (name : Octets) : Exec (Except FileError (Octets × Bool)) := do
    match ← openInput name with
    | .error why => return .error why
    | .ok key =>
      let isFile := match (← Exec.opened? key).map Opened.target with
        | some (.file ..) => true
        | _ => false
      return (← Exec.takeKey key Exec.everything).map fun text => (text, isFile)
  trouble (isSilent : Bool) (name : Octets) (why : FileError) : Exec Nat := do
    if !isSilent then complain "cmp" (name ++ ": ".toList ++ why.message)
    return 2

end Interpolation.Shell.Utility
