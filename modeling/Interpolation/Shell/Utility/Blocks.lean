import Interpolation.Shell.Utility.Amount
import Interpolation.Shell.Utility.Options

/-!
# Copying by blocks

Bytes are read in blocks of one size and written in blocks of another one. What is asked for stands in
arguments with equals signs, and the blocks are counted: whole ones, and one that is cut short.
-/

namespace Interpolation.Shell.Utility

structure BlockCopy where
  source : Octets := ['-']
  goal : Option Octets := none
  inSize : Nat := 512
  outSize : Nat := 512
  isDirect : Bool := false
  count : Option Nat := none
  skip : Nat := 0
  seek : Nat := 0
  conversions : List String := []
  level : String := ""

namespace BlockCopy

def knownConversions : List String :=
  ["notrunc", "ucase", "lcase", "swab", "sync", "noerror", "excl", "nocreat", "fsync", "fdatasync",
    "sparse"]

def knownFlags : List String :=
  ["append", "binary", "cio", "count_bytes", "direct", "directory", "dsync", "fullblock", "noatime",
    "nocache", "nofollow", "nolinks", "nonblock", "noctty", "seek_bytes", "skip_bytes", "sync", "text"]

def number? (o : Octets) : Option (Nat × Bool) :=
  let factors := o.splitOn 'x'
  let last := factors.getLastD []
  let isBytes := last.getLast? == some 'B' &&
    (last.dropLast.getLast?.any Char.isDigit)
  let factors := if isBytes then factors.dropLast ++ [last.dropLast] else factors
  let numbers := factors.map fun f =>
    if f.head?.any Char.isDigit then amount? "bcwkKMGTPEZY" f else none
  if numbers.all Option.isSome then
    some ((numbers.filterMap id).foldl (fun n m => n * m) 1, isBytes)
  else none

abbrev Settings := List (String × Octets)

def last? (s : Settings) (name : String) : Option Octets :=
  (s.reverse.find? fun (n, _) => n == name).map Prod.snd

def wordsOf (s : Settings) (name : String) : List String :=
  (s.filter fun (n, _) => n == name).flatMap fun (_, o) => (o.splitOn ',').map String.ofList

abbrev Wrong := Octets × Bool

def numberOf (s : Settings) (name : String) (isPositive : Bool) :
    Except Wrong (Option (Nat × Bool)) :=
  match last? s name with
  | none => .ok none
  | some o =>
    let wrong : Except Wrong (Option (Nat × Bool)) :=
      .error ("invalid number: ".toList ++ quote o, false)
    match number? o with
    | none => wrong
    | some (n, isBytes) => if isPositive && n = 0 then wrong else .ok (some (n, isBytes))

def known (words known : List String) (kind : String) : Except Wrong Unit :=
  match words.find? fun w => !(known.contains w) with
  | some w => .error (kind.toList ++ ": ".toList ++ quote w.toList, true)
  | none => .ok ()

def ofSettings (s : Settings) : Except Wrong BlockCopy := do
  let names := ["if", "of", "bs", "ibs", "obs", "cbs", "count", "skip", "iseek", "seek", "oseek",
    "conv", "iflag", "oflag", "status"]
  match s.find? fun (name, _) => !(names.contains name) with
  | some (name, o) =>
    throw ("unrecognized operand ".toList ++ quote (name.toList ++ '=' :: o), true)
  | none => pure ()
  let conversions := wordsOf s "conv"
  known conversions knownConversions "invalid conversion"
  if conversions.contains "lcase" && conversions.contains "ucase" then
    throw ("cannot combine lcase and ucase".toList, false)
  known (wordsOf s "iflag") knownFlags "invalid input flag"
  known (wordsOf s "oflag") knownFlags "invalid output flag"
  known ((last? s "status").map String.ofList).toList ["none", "noxfer", "progress"]
    "invalid status level"
  let both ← numberOf s "bs" true
  let inSize ← numberOf s "ibs" true
  let outSize ← numberOf s "obs" true
  let _ ← numberOf s "cbs" true
  let count ← numberOf s "count" false
  let skip := (← numberOf s "skip" false).or (← numberOf s "iseek" false)
  let seek := (← numberOf s "seek" false).or (← numberOf s "oseek" false)
  let size (n : Option (Nat × Bool)) : Nat := ((both.or n).map Prod.fst).getD 512
  let bytes (unit : Nat) (isBytes : Bool) (n : Nat × Bool) : Nat :=
    if n.2 || isBytes then n.1 else n.1 * unit
  let inFlags := wordsOf s "iflag"
  return {
    source := (last? s "if").getD ['-'], goal := last? s "of"
    inSize := size inSize, outSize := size outSize, isDirect := both.isSome
    count := count.map (bytes (size inSize) (inFlags.contains "count_bytes"))
    skip := (skip.map (bytes (size inSize) (inFlags.contains "skip_bytes"))).getD 0
    seek := (seek.map (bytes (size outSize) ((wordsOf s "oflag").contains "seek_bytes"))).getD 0
    conversions, level := String.ofList ((last? s "status").getD []) }

def swapped : Octets → Octets
  | a :: b :: rest => b :: a :: swapped rest
  | o => o

def converted (b : BlockCopy) (o : Octets) : Octets :=
  let does (name : String) : Bool := b.conversions.contains name
  let o := if does "swab" then swapped o else o
  let o := if does "ucase" then o.map Char.toUpper else if does "lcase" then o.map Char.toLower else o
  let missing := (b.inSize - o.length % b.inSize) % b.inSize
  if does "sync" then o ++ List.replicate missing (Char.ofNat 0) else o

def blocks (size length : Nat) : Octets :=
  Text.ofNat (length / size) ++ '+' :: Text.ofNat (if length % size = 0 then 0 else 1)

def take (b : BlockCopy) : Exec (Except FileError (Octets × Option FileError)) := do
  match ← openInput b.source with
  | .error why => return .error why
  | .ok key =>
    let read ← match b.count with
      | some n => Exec.takeKey key (Exec.upTo (b.skip + n))
      | none => Exec.takeReady key
    match read with
    | .error why => return .ok ([], some why)
    | .ok o =>
      if o.length < b.skip && b.source != ['-'] then
        complain "dd" (shown b.source ++ ": cannot skip to specified offset".toList)
      let o := (o.take (b.skip + (b.count.getD o.length))).drop b.skip
      return .ok (o, none)

def put (b : BlockCopy) (o : Octets) : Exec (Option FileError) := do
  match b.goal with
  | none => Exec.write 1 o
  | some name =>
    if b.seek = 0 && !b.conversions.contains "notrunc" then Exec.save? name false o
    else
      let old := match ← content name with
        | .ok old => old
        | .error _ => []
      let before := old.take b.seek
      let before := before ++ List.replicate (b.seek - before.length) (Char.ofNat 0)
      let after :=
        if b.conversions.contains "notrunc" then old.drop (b.seek + o.length) else []
      Exec.save? name false (before ++ o ++ after)

def run (b : BlockCopy) : Exec Nat := do
  let cannotOpen (name : Octets) (why : FileError) : Exec Nat := do
    refuse "dd" ("failed to open ".toList ++ quote name ++ ": ".toList ++ why.message)
  match ← b.take with
  | .error why => cannotOpen b.source why
  | .ok (o, fault) =>
    if let some why := fault then
      complain "dd" ("error reading ".toList ++ quote b.source ++ ": ".toList ++ why.message)
    let isThere ← match b.goal with
      | some name => do pure (← Exec.find? true name).isOk
      | none => pure false
    if b.conversions.contains "excl" && isThere then
      return ← cannotOpen (b.goal.getD []) .isThere
    if b.conversions.contains "nocreat" && b.goal.isSome && !isThere then
      return ← cannotOpen (b.goal.getD []) .notFound
    let written := b.converted o
    match ← b.put written, b.goal with
    | some why, some name => cannotOpen name why
    | some why, none =>
      refuse "dd" ("error writing 'standard output': ".toList ++ why.message)
    | none, _ =>
      if b.level != "none" then
        let outSize := if b.isDirect then b.inSize else b.outSize
        Exec.complainLine (blocks b.inSize o.length ++ " records in".toList)
        Exec.complainLine (blocks outSize written.length ++ " records out".toList)
        if b.level != "noxfer" then
          Exec.complainLine (Text.ofNat written.length ++
            (if written.length = 1 then " byte" else " bytes").toList ++
            " copied, 0 s, Infinity B/s".toList)
      return status fault.isNone

end BlockCopy

/-- Copy bytes by blocks. -/
def dd : Utility := fun _ arguments => do
  let known : Known := { name := "dd" }
  match arguments.find? fun a => ['-', '-'].isPrefixOf a with
  | some option => misuse known ("unrecognized option ".toList ++ quote option)
  | none =>
    let settings : Except Octets BlockCopy.Settings := arguments.mapM fun a =>
      match Text.cutFirst '=' a with
      | some (name, value) => .ok (String.ofList name, value)
      | none => .error a
    match settings with
    | .error a => misuse known ("unrecognized operand ".toList ++ quote a)
    | .ok settings =>
      match BlockCopy.ofSettings settings with
      | .error (complaint, isMisuse) =>
        if isMisuse then misuse known complaint else refuse "dd" complaint
      | .ok b => b.run

end Interpolation.Shell.Utility
