import Interpolation.Shell.Utility.Digest
import Interpolation.Shell.Utility.Options

/-!
# Checksums of files

A checksum is written beside the name of its file. Written checksums can be compared with those that
the files have now.
-/

namespace Interpolation.Shell.Utility

/-- A way to make checksums. -/
structure Checksum where
  name : String
  label : String
  digest : List Nat → List Nat

namespace Checksum

def all : List Checksum :=
  [⟨"md5", "MD5", Digest.md5⟩, ⟨"sha1", "SHA1", Digest.sha1⟩, ⟨"sha224", "SHA224", Digest.sha224⟩,
    ⟨"sha256", "SHA256", Digest.sha256⟩, ⟨"sha384", "SHA384", Digest.sha384⟩,
    ⟨"sha512", "SHA512", Digest.sha512⟩]

def bytesOf (o : Octets) : List Nat :=
  o.map Char.toNat

def text (k : Checksum) (o : Octets) : Octets :=
  (k.digest (bytesOf o)).flatMap fun b => [Nat.digitChar (b / 16), Nat.digitChar (b % 16)]

def size (k : Checksum) : Nat :=
  (k.text []).length

def written (name : Octets) (isLine : Bool) : Octets × Octets :=
  if isLine && name.any fun c => c == '\\' || c == '\n' || c == '\r' then
    (['\\'], name.flatMap fun c =>
      match c with
      | '\\' => ['\\', '\\']
      | '\n' => ['\\', 'n']
      | '\r' => ['\\', 'r']
      | c => [c])
  else ([], name)

def unwritten : Octets → Option Octets
  | [] => some []
  | '\\' :: c :: rest =>
    match c with
    | '\\' => (unwritten rest).map ('\\' :: ·)
    | 'n' => (unwritten rest).map ('\n' :: ·)
    | 'r' => (unwritten rest).map ('\r' :: ·)
    | _ => none
  | ['\\'] => none
  | c :: rest => (unwritten rest).map (c :: ·)

def line (k : Checksum) (isTagged isBinary isLine : Bool) (name content : Octets) : Octets :=
  let (mark, shown) := written name isLine
  let whole :=
    if isTagged then
      k.label.toList ++ " (".toList ++ shown ++ ") = ".toList ++ k.text content
    else k.text content ++ [' ', if isBinary then '*' else ' '] ++ shown
  mark ++ whole ++ [if isLine then '\n' else Char.ofNat 0]

def isDigits (k : Checksum) (o : Octets) : Bool :=
  o.length = k.size && o.all fun c => (Octets.digit? 16 c).isSome

def readTagged (k : Checksum) (o : Octets) : Option (Octets × Octets) :=
  match k.label.toList.isPrefixOf? o with
  | none => none
  | some rest =>
    let rest := rest.dropWhile Octets.isBlank
    match rest with
    | '(' :: rest =>
      match Text.cutLast ')' rest with
      | none => none
      | some (name, rest) =>
        match rest.dropWhile Octets.isBlank with
        | '=' :: rest =>
          let digits := rest.dropWhile Octets.isBlank
          if k.isDigits digits then some (digits, name) else none
        | _ => none
    | _ => none

def read (k : Checksum) (o : Octets) : Option (Octets × Octets) :=
  let o := o.dropWhile Octets.isBlank
  let (isEscaped, o) := match o with
    | '\\' :: o => (true, o)
    | o => (false, o)
  let found := (k.readTagged o).or <|
    let digits := o.take k.size
    if !k.isDigits digits then none
    else
      match o.drop k.size with
      | ' ' :: ' ' :: name | ' ' :: '*' :: name => some (digits, name)
      | _ => none
  match found with
  | none | some (_, []) => none
  | some (digits, name) =>
    if isEscaped then (unwritten name).map fun name => (digits, name) else some (digits, name)

structure Manner where
  skipsMissing : Bool
  isQuiet : Bool
  isSilent : Bool
  isStrict : Bool
  warns : Bool

structure Tally where
  formatted : Nat := 0
  improper : Nat := 0
  unread : Nat := 0
  different : Nat := 0
  hasSame : Bool := false

def compare (k : Checksum) (m : Manner) (digits name : Octets) (t : Tally) : Exec Tally := do
  let t := { t with formatted := t.formatted + 1 }
  let (mark, shown) := written name true
  let say (verdict : String) : Exec Unit :=
    if m.isSilent then return ()
    else Exec.print (mark ++ shown ++ ": ".toList ++ verdict.toList ++ ['\n'])
  match ← content name with
  | .error why =>
    if m.skipsMissing && why == .notFound then return t
    complainOf (k.name ++ "sum") name why
    say "FAILED open or read"
    return { t with unread := t.unread + 1 }
  | .ok o =>
    if k.text o == digits.map Char.toLower then
      if !m.isQuiet then say "OK"
      return { t with hasSame := true }
    else
      say "FAILED"
      return { t with different := t.different + 1 }

def check (k : Checksum) (m : Manner) (name : Octets) : Exec Bool := do
  let utility := k.name ++ "sum"
  let label := if name == ['-'] then "standard input".toList else name
  match ← content name with
  | .error why =>
    complainOf utility name why
    return false
  | .ok o =>
    let lines := (Octets.lines o).zipIdx 1
    let t ← lines.foldlM (fun (t : Tally) (line, i) => do
      if line.head? == some '#' then return t
      match k.read line with
      | some (digits, name) => k.compare m digits name t
      | none =>
        if m.warns then
          complain utility (shown label ++ ": ".toList ++ Text.ofNat i ++
            ": improperly formatted ".toList ++ k.label.toList ++ " checksum line".toList)
        return { t with improper := t.improper + 1 }) {}
    if t.formatted = 0 then
      complain utility (shown label ++ ": no properly formatted checksum lines found".toList)
      return false
    let warn (count : Nat) (one many : String) : Exec Unit := do
      if count != 0 && !m.isSilent then
        complain utility ("WARNING: ".toList ++ Text.ofNat count ++ [' '] ++
          (if count = 1 then one else many).toList)
    warn t.improper "line is improperly formatted" "lines are improperly formatted"
    warn t.unread "listed file could not be read" "listed files could not be read"
    warn t.different "computed checksum did NOT match" "computed checksums did NOT match"
    if m.skipsMissing && !t.hasSame then
      if !m.isSilent then
        complain utility (shown label ++ ": no file was verified".toList)
      return false
    return t.unread = 0 && t.different = 0 && (!m.isStrict || t.improper = 0)

def conflict? (found : Given) : Option String :=
  let checks := has found 'c'
  let onlyChecking := [('I', "ignore-missing"), ('S', "status"), ('w', "warn"), ('Q', "quiet"),
    ('R', "strict")]
  if has found 'T' && (lastOf found "bt").any fun (c, _) => c == 't' then
    some "--tag does not support --text mode"
  else if has found 'z' && checks then
    some "the --zero option is not supported when verifying checksums"
  else if has found 'T' && checks then
    some "the --tag option is meaningless when verifying checksums"
  else if (has found 'b' || has found 't') && checks then
    some "the --binary and --text options are meaningless when verifying checksums"
  else if checks then none
  else
    (onlyChecking.find? fun (c, _) => has found c).map fun (_, word) =>
      "the --" ++ word ++ " option is meaningful only when verifying checksums"

def utility (k : Checksum) : Utility :=
  let known : Known :=
    { name := k.name ++ "sum", letters := "bctwz", hidden := "TIQSR"
      words := [("binary", 'b'), ("check", 'c'), ("text", 't'), ("warn", 'w'), ("zero", 'z'),
        ("tag", 'T'), ("ignore-missing", 'I'), ("quiet", 'Q'), ("status", 'S'), ("strict", 'R')] }
  withOptions known fun _ found operands => do
    match conflict? found with
    | some complaint => misuse known complaint.toList
    | none =>
      if has found 'c' then
        let m : Manner :=
          { skipsMissing := has found 'I', isQuiet := has found 'Q', isSilent := has found 'S'
            isStrict := has found 'R', warns := has found 'w' }
        forAll (inputs operands) (k.check m)
      else
        let isBinary := (lastOf found "bt").any fun (c, _) => c == 'b'
        forAll (inputs operands) fun name => do
          match ← content name with
          | .error why =>
            complainOf known.name name why
            return false
          | .ok o =>
            Exec.print (k.line (has found 'T') isBinary (!has found 'z') name o)
            return true

end Checksum

def sums (known : Known) (operands : List Octets) (show_ : Octets → Octets)
    (isNamed : Bool) : Exec Nat :=
  forAll (inputs operands) fun name => do
    match ← content name with
    | .error why =>
      complainOf known.name name why
      return false
    | .ok o =>
      Exec.printLine (show_ o ++ if isNamed then ' ' :: name else [])
      return true

def circleSum (o : Octets) : Octets :=
  Text.padLeft '0' 5 (Text.ofNat (Digest.circleSum (Checksum.bytesOf o))) ++ [' '] ++
    Text.padLeft ' ' 5 (Text.ofNat ((o.length + 1023) / 1024))

def plainSum (o : Octets) : Octets :=
  Text.ofNat (Digest.plainSum (Checksum.bytesOf o)) ++ [' '] ++
    Text.ofNat ((o.length + 511) / 512)

def remainderSum (o : Octets) : Octets :=
  Text.ofNat (Digest.remainder (Checksum.bytesOf o)) ++ [' '] ++ Text.ofNat o.length

def sum : Utility :=
  let known : Known := { name := "sum", letters := "rs", words := [("sysv", 's')] }
  withOptions known fun _ found operands =>
    sums known operands
      (if (lastOf found "rs").any fun (c, _) => c == 's' then plainSum else circleSum)
      (!operands.isEmpty)

def cksum : Utility :=
  let known : Known :=
    { name := "cksum", letters := "a:", hidden := "UTD"
      words := [("algorithm", 'a'), ("untagged", 'U'), ("tag", 'T'), ("debug", 'D')] }
  withOptions known fun _ found operands => do
    let isNamed := !operands.isEmpty
    let way := (argument? found 'a').getD "crc".toList
    if way == "crc".toList then sums known operands remainderSum isNamed
    else if way == "bsd".toList then sums known operands circleSum isNamed
    else if way == "sysv".toList then sums known operands plainSum isNamed
    else
      match Checksum.all.find? fun k => k.name.toList == way with
      | none =>
        misuseOf known "--algorithm".toList way
          (["bsd", "sysv", "crc"] ++ Checksum.all.map Checksum.name ++ ["blake2b", "sm3"])
      | some k =>
        forAll (inputs operands) fun name => do
          match ← content name with
          | .error why =>
            complainOf known.name name why
            return false
          | .ok o =>
            Exec.print (k.line (!has found 'U') false true name o)
            return true

end Interpolation.Shell.Utility
