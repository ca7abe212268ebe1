import Interpolation.Shell.Utility.Amount
import Interpolation.Shell.Utility.Options

/-!
# Parts of files

A file is cut into parts, each of which is put into a file of its own. The names of these go through
the letters; when the names of a length are about to run out, they get longer.
-/

namespace Interpolation.Shell.Utility

namespace Parts

inductive Way where
  | lines (count : Nat)
  | bytes (count : Nat)
  | lineBytes (count : Nat)
  | chunks (count : Nat) (isByLine isInTurn : Bool)

def packed (size : Nat) (lines : List Octets) : List Octets :=
  let pieces := lines.flatMap fun line => Octets.grouped size line.length line
  let (last, done) := pieces.foldl (fun ((part, done) : Octets × List Octets) piece =>
    if part.isEmpty || part.length + piece.length ≤ size then (part ++ piece, done)
    else (piece, part :: done)) ([], [])
  (if last.isEmpty then done else last :: done).reverse

def offsets (lines : List Octets) : List (Nat × Octets) :=
  (lines.foldl (fun ((offset, done) : Nat × List (Nat × Octets)) line =>
    (offset + line.length, (offset, line) :: done)) (0, [])).2.reverse

def Way.cut (o : Octets) : Way → List Octets
  | lines count =>
    (Octets.grouped count o.length (Octets.linesWithEnds o)).map List.flatten
  | bytes count => Octets.grouped count o.length o
  | lineBytes count => packed count (Octets.linesWithEnds o)
  | chunks count isByLine isInTurn =>
    let size := o.length / count
    (List.range count).map fun i =>
      if isInTurn then
        (((Octets.linesWithEnds o).zipIdx.filter fun (_, k) => k % count == i).map
          Prod.fst).flatten
      else if isByLine then
        ((offsets (Octets.linesWithEnds o)).filterMap fun (offset, line) =>
          let chunk := if size = 0 then count - 1 else min (count - 1) (offset / size)
          if chunk = i then some line else none).flatten
      else if i + 1 = count then o.drop (i * size)
      else (o.drop (i * size)).take size

def letters (alphabet : Octets) : Nat → Nat → Octets
  | 0, _ => []
  | width + 1, n =>
    letters alphabet width (n / alphabet.length) ++ [alphabet.getD (n % alphabet.length) 'z']

def longerName (alphabet : Octets) : Nat → Nat → Nat → Octets
  | 0, width, i => letters alphabet width i
  | fuel + 1, width, i =>
    let count := (alphabet.length - 1) * Nat.pow alphabet.length (width - 1)
    if i < count then letters alphabet width i
    else alphabet.getLastD 'z' :: longerName alphabet fuel (width + 1) (i - count)

def known : Known :=
  { name := "split", letters := "a:b:C:del:n:t:ux0123456789", hidden := "S:V"
    words := [("suffix-length", 'a'), ("additional-suffix", 'S'), ("bytes", 'b'),
      ("line-bytes", 'C'), ("elide-empty-files", 'e'), ("lines", 'l'), ("number", 'n'),
      ("separator", 't'), ("unbuffered", 'u'), ("verbose", 'V')] }

def positive (kind : String) (o : Octets) : Except Octets Nat :=
  match amount? "bkKmMGTPEZY" o with
  | some 0 | none => .error (("invalid number of " ++ kind ++ ": ").toList ++ quote o)
  | some n => .ok n

def wayOf (found : Given) : Except (Octets × Bool) Way := do
  let plain {α : Type} (e : Except Octets α) : Except (Octets × Bool) α :=
    e.mapError fun complaint => (complaint, false)
  let digits := (found.filter fun (c, _) => c.isDigit).map Prod.fst
  match found.filter fun (c, _) => "bCln".toList.contains c with
  | [] =>
    if digits.isEmpty then return .lines 1000
    else return .lines (← plain (positive "lines" digits))
  | [('l', o)] => return .lines (← plain (positive "lines" o))
  | [('b', o)] => return .bytes (← plain (positive "bytes" o))
  | [('C', o)] => return .lineBytes (← plain (positive "lines" o))
  | [(_, o)] =>
    match o with
    | 'l' :: '/' :: o => return .chunks (← plain (positive "chunks" o)) true false
    | 'r' :: '/' :: o => return .chunks (← plain (positive "chunks" o)) true true
    | o => return .chunks (← plain (positive "chunks" o)) false false
  | _ => throw ("cannot split in more than one way".toList, true)

end Parts

/-- Cut a file into parts. -/
def split : Utility :=
  withOptions Parts.known fun _ found operands => do
    match Parts.wayOf found, operands with
    | .error (complaint, isMisuse), _ =>
      if isMisuse then misuse Parts.known complaint else refuse "split" complaint
    | _, _ :: _ :: more :: _ => tooMany Parts.known more
    | .ok way, operands =>
      let name := operands.headD ['-']
      let start := (operands[1]?).getD ['x']
      match ← content name with
      | .error why =>
        refuse "split" ("cannot open ".toList ++ quote name ++ " for reading: ".toList ++
          why.message)
      | .ok text =>
        let parts := way.cut text
        let parts := if has found 'e' then parts.filter fun p => !p.isEmpty else parts
        let alphabet := match lastOf found "dx" with
          | some ('d', _) => "0123456789".toList
          | some _ => "0123456789abcdef".toList
          | none => "abcdefghijklmnopqrstuvwxyz".toList
        let width := ((argument? found 'a').bind Octets.natural?).getD 0
        let ending := (argument? found 'S').getD []
        let isFixed := width != 0
        for (part, i) in parts.zipIdx do
          if isFixed && Nat.pow alphabet.length width ≤ i then
            return ← refuse "split" "output file suffixes exhausted".toList
          let letters :=
            if isFixed then Parts.letters alphabet width i
            else Parts.longerName alphabet parts.length 2 i
          let path := start ++ letters ++ ending
          if has found 'V' then
            Exec.printLine ("creating file ".toList ++ quote path)
          if let some why ← Exec.save? path false part then
            return ← refuse "split" (shown path ++ ": ".toList ++ why.message)
        return 0

end Interpolation.Shell.Utility
