import Interpolation.Shell.Utility.Options

/-!
# Bytes in letters

Bytes are written with few letters, each of which holds some bits, and are read back. A unit is the
least number of letters that hold whole bytes; the last one is filled up with equals signs.
-/

namespace Interpolation.Shell.Utility

structure Alphabet where
  name : String
  letters : Octets
  bits : Nat
  width : Nat
  readsShort : Bool

namespace Alphabet

def sixty : Alphabet :=
  { name := "base64", bits := 6, width := 4, readsShort := true
    letters := "ABCDEFGHIJKLMNOPQRSTUVWXYZabcdefghijklmnopqrstuvwxyz0123456789+/".toList }

def thirty : Alphabet :=
  { name := "base32", bits := 5, width := 8, readsShort := false
    letters := "ABCDEFGHIJKLMNOPQRSTUVWXYZ234567".toList }

def digits (base : Nat) : Nat → Nat → List Nat
  | 0, _ => []
  | count + 1, n => digits base count (n / base) ++ [n % base]

def value (base : Nat) (digits : List Nat) : Nat :=
  digits.foldl (fun n d => base * n + d) 0

def unitBytes (a : Alphabet) : Nat :=
  a.bits * a.width / 8

def writeUnit (a : Alphabet) (unit : Octets) : Octets :=
  let n := value 256 (unit.map Char.toNat) * Nat.pow 256 (a.unitBytes - unit.length)
  let used := (8 * unit.length + a.bits - 1) / a.bits
  (((digits (Nat.pow 2 a.bits) a.width n).take used).map fun d => a.letters.getD d '=') ++
    List.replicate (a.width - used) '='

def write (a : Alphabet) (o : Octets) : Octets :=
  (Octets.grouped a.unitBytes o.length o).flatMap a.writeUnit

def readUnit (a : Alphabet) (unit : Octets) : Octets × Bool :=
  let found := (unit.map a.letters.idxOf?).takeWhile Option.isSome |>.map fun d => d.getD 0
  let count := a.bits * found.length / 8
  let n := value (Nat.pow 2 a.bits) found * Nat.pow 2 (a.bits * (a.width - found.length))
  let bytes := (digits 256 a.unitBytes n).map Char.ofNat
  let filled := unit.drop found.length
  let isWhole := unit.length = a.width && filled.all (· == '=') && 0 < count &&
    a.bits * found.length < 8 * count + a.bits
  if unit.length < a.width && !a.readsShort then ([], false)
  else (bytes.take count, isWhole)

def readUnits (a : Alphabet) : List Octets → Octets × Bool
  | [] => ([], true)
  | unit :: rest =>
    match a.readUnit unit with
    | (bytes, true) =>
      let (more, isWhole) := readUnits a rest
      (bytes ++ more, isWhole)
    | (bytes, false) => (bytes, false)

def read (a : Alphabet) (o : Octets) : Octets × Bool :=
  a.readUnits (Octets.grouped a.width o.length o)

/-- Write the input in the letters of an alphabet, or read it back. -/
def utility (a : Alphabet) : Utility :=
  let known : Known :=
    { name := a.name, letters := "dw:i"
      words := [("decode", 'd'), ("wrap", 'w'), ("ignore-garbage", 'i')] }
  withOptions known fun _ found operands => do
    let width : Except Octets Nat := match argument? found 'w' with
      | none => .ok 76
      | some w =>
        match Octets.takeInteger (w.dropWhile Octets.isSpace) with
        | (false, _, _) => .error w
        | (true, n, rest) =>
          if !rest.isEmpty || n < 0 then .error w
          else .ok (if n < Nat.pow 2 63 then n.toNat else 0)
    match width, operands with
    | .error w, _ => refuse a.name ("invalid wrap size: ".toList ++ quote w)
    | _, _ :: more :: _ => tooMany known more
    | .ok width, operands =>
      let name := operands.headD ['-']
      match ← content name with
      | .error why =>
        if why == .isFolder then refuse a.name ("read error: ".toList ++ why.message)
        else
          complainOf a.name name why
          return 1
      | .ok text =>
        if has found 'd' then
          let kept := text.filter fun c =>
            c != '\n' && (!has found 'i' || c == '=' || a.letters.contains c)
          let (bytes, isWhole) := a.read kept
          Exec.print bytes
          if isWhole then return 0 else refuse a.name "invalid input".toList
        else
          let written := a.write text
          Exec.print (if width = 0 then written
            else Octets.ofLines (Octets.grouped width written.length written))
          return 0

end Alphabet

end Interpolation.Shell.Utility
