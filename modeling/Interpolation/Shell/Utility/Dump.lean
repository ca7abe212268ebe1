import Interpolation.Shell.Utility.Amount
import Interpolation.Shell.Utility.Options

/-!
# Showing bytes

Bytes are shown by their numbers in some base, or as characters.
-/

namespace Interpolation.Shell.Utility

structure Form where
  size : Nat
  width : Nat
  text : Octets → Octets

def inBase (base width : Nat) (n : Nat) : Octets :=
  Text.padLeft '0' width (Nat.toDigits base n)

def numberOf (o : Octets) : Nat :=
  o.foldr (fun c n => c.toNat + 256 * n) 0

def characterText (o : Octets) : Octets :=
  o.flatMap fun c =>
    match [(0, "\\0"), (7, "\\a"), (8, "\\b"), (9, "\\t"), (10, "\\n"), (11, "\\v"), (12, "\\f"),
        (13, "\\r")].lookup c.toNat with
    | some name => name.toList
    | none => if 32 ≤ c.toNat && c.toNat < 127 then [c] else inBase 8 3 c.toNat

def signedOf (size : Nat) (o : Octets) : Int :=
  let n := numberOf o
  if n < Nat.pow 256 size / 2 then n else (n : Int) - Nat.pow 256 size

def form? (kind : Char) (size : Nat) : Option Form :=
  let digits (base : Nat) : Nat := (Nat.toDigits base (Nat.pow 256 size - 1)).length
  match kind with
  | 'c' => some ⟨1, 4, characterText⟩
  | 'o' => some ⟨size, digits 8 + 1, fun o => inBase 8 (digits 8) (numberOf o)⟩
  | 'x' => some ⟨size, digits 16 + 1, fun o => inBase 16 (digits 16) (numberOf o)⟩
  | 'u' => some ⟨size, digits 10 + 1, fun o => Text.ofNat (numberOf o)⟩
  | 'd' => some ⟨size, digits 10 + 2, fun o => Text.ofInt (signedOf size o)⟩
  | _ => none

def formOf? : Octets → Option Form
  | kind :: rest => form? kind ((Octets.natural? rest).getD (if kind == 'c' then 1 else 4))
  | [] => none

/-- Show the bytes of files. -/
def od : Utility :=
  let known : Known :=
    { name := "od", letters := "A:t:cbxodvN:j:w:",
      words := [("address-radix", 'A'), ("format", 't'), ("read-bytes", 'N'), ("skip-bytes", 'j'),
        ("output-duplicates", 'v')] }
  withOptions known fun _ found operands => do
    let (texts, isFine) ← contents "od" operands
    let skipped := ((argument? found 'j').bind (amount? "bkKmMGTPEZY")).getD 0
    let text := (texts.flatMap Prod.snd).drop skipped
    let text := match (argument? found 'N').bind (amount? "bkKmMGTPEZY") with
      | some n => text.take n
      | none => text
    let forms := found.filterMap fun (c, a) => match c with
      | 'c' => form? 'c' 1
      | 'b' => form? 'o' 1
      | 'x' => form? 'x' 2
      | 'o' => form? 'o' 2
      | 'd' => form? 'u' 2
      | 't' => formOf? a
      | _ => none
    let forms := if forms.isEmpty then (form? 'o' 2).toList else forms
    let address (n : Nat) : Octets := match argument? found 'A' with
      | some ['n'] => []
      | some ['d'] => inBase 10 7 n
      | some ['x'] => inBase 16 6 n
      | _ => inBase 8 7 n
    let lead := (address 0).length
    let lines := Octets.grouped 16 text.length text
    let line (o : Octets) (i : Nat) : Octets :=
      (forms.zipIdx.flatMap fun (f, j) =>
        (if j = 0 then address (16 * i) else List.replicate lead ' ') ++
          ((Octets.grouped f.size 16 o).flatMap fun unit => Text.padLeft ' ' f.width (f.text unit)) ++
          ['\n'])
    let mut repeats := false
    for (o, i) in lines.zipIdx do
      let isSame := 0 < i && lines[i - 1]? == some o && o.length = 16 && !has found 'v'
      if isSame then
        if !repeats then Exec.printLine ['*']
      else Exec.print (line o i)
      repeats := isSame
    if lead != 0 then Exec.printLine (address text.length)
    return status isFine

end Interpolation.Shell.Utility
