import Interpolation.Shell.Permission
import Interpolation.Shell.Regex.Reading

/-!
# Expressions about files

An expression says what holds of a file and what is done with it. Tests and actions stand beside
each other, with signs for what holds of several of them; the tighter ones are read first.
-/

namespace Interpolation.Shell.Utility

/-- How a number has to compare with another one. -/
inductive Bound where
  | more
  | exactly
  | less
  deriving DecidableEq, Repr

/-- A number that is compared with. -/
structure Amounts where
  bound : Bound
  count : Nat

def Amounts.holds (a : Amounts) (n : Nat) : Bool :=
  match a.bound with
  | .more => a.count < n
  | .exactly => n = a.count
  | .less => n < a.count

/-- One of the times of a file: when it was read, changed in some way, or changed in its content. -/
inductive FileTime where
  | accessed
  | changed
  | modified
  deriving DecidableEq, Repr

/-- How permissions have to compare with others. -/
inductive ModeRule where
  | exactly
  | all
  | any
  deriving DecidableEq, Repr

/-- What may hold of a file. -/
inductive FileTest where
  | always (holds : Bool)
  | name (ignoresCase : Bool) (p : Pattern)
  | path (ignoresCase : Bool) (p : Pattern)
  | target (ignoresCase : Bool) (p : Pattern)
  | regex (ignoresCase : Bool) (r : Regex)
  | kind (isOther : Bool) (letters : Octets)
  | size (a : Amounts) (unit : Nat)
  | isEmpty
  | newer (time : FileTime) (than : Int)
  | age (time : FileTime) (a : Amounts) (seconds : Nat) (isToday : Bool)
  | used (a : Amounts)
  | mode (rule : ModeRule) (bits : Nat)
  | owner (n : Nat)
  | group (n : Nat)
  | ownerNumber (a : Amounts)
  | groupNumber (a : Amounts)
  | links (a : Amounts)
  | number (a : Amounts)
  | isRunnable

/-- A piece of a format. -/
inductive FilePiece where
  | text (o : Octets)
  | field (flags : Octets) (width : Nat) (letters : Octets)
  | stop

/-- A command that is run for files. -/
structure FileCommand where
  number : Nat
  name : Octets
  words : List Octets
  isLocal : Bool := false
  asks : Bool := false
  gathers : Bool := false

/-- What is done with a file. Output goes to the stream of a key, if there is one. -/
inductive FileAction where
  | print (last : Char) (sink : Option Nat)
  | format (pieces : List FilePiece) (sink : Option Nat)
  | list (sink : Option Nat)
  | run (c : FileCommand)
  | delete
  | prune
  | quit

inductive FileExpression where
  | test (t : FileTest)
  | act (a : FileAction)
  | negated (e : FileExpression)
  | both (first second : FileExpression)
  | either (first second : FileExpression)
  | sequence (first second : FileExpression)

def FileExpression.acts : FileExpression → Bool
  | test _ => false
  | act .prune => false
  | act _ => true
  | negated e => e.acts
  | both first second | either first second | sequence first second => first.acts || second.acts

def FileExpression.has (kind : FileAction → Bool) : FileExpression → Bool
  | test _ => false
  | act a => kind a
  | negated e => e.has kind
  | both first second | either first second | sequence first second =>
    first.has kind || second.has kind

/-! ### Signs -/

/-- A sign of an expression, as it is written. -/
inductive FileSign where
  | leaf (e : FileExpression)
  | opening
  | closing
  | negation (word : Octets)
  | conjunction (word : Octets)
  | disjunction (word : Octets)
  | comma

def FileSign.word? : FileSign → Option Octets
  | conjunction word | disjunction word => some word
  | comma => some [',']
  | _ => none

abbrev ReadSigns := StateT (List FileSign) (Except String)

namespace ReadSigns

def fail {α : Type} (complaint : String) : ReadSigns α :=
  throw complaint

def failBehind {α : Type} (word : Octets) : ReadSigns α :=
  fail ("expected an expression after '" ++ String.ofList word ++ "'")

inductive Level where
  | single
  | conjunction
  | disjunction
  | sequence

def expression : Nat → Level → Option Octets → ReadSigns FileExpression
  | 0, _, _ => fail "invalid expression"
  | n + 1, .sequence, behind => do
    let first ← expression n .disjunction behind
    match ← get with
    | .comma :: rest =>
      set rest
      return .sequence first (← expression n .sequence (some [',']))
    | _ => return first
  | n + 1, .disjunction, behind => do
    let first ← expression n .conjunction behind
    match ← get with
    | .disjunction word :: rest =>
      set rest
      return .either first (← expression n .disjunction (some word))
    | _ => return first
  | n + 1, .conjunction, behind => do
    let first ← expression n .single behind
    match ← get with
    | .conjunction word :: rest =>
      set rest
      return .both first (← expression n .conjunction (some word))
    | .leaf _ :: _ | .opening :: _ | .negation _ :: _ =>
      return .both first (← expression n .conjunction none)
    | _ => return first
  | n + 1, .single, behind => do
    match ← get with
    | [] =>
      match behind with
      | some word => failBehind word
      | none => fail "invalid expression"
    | .leaf e :: rest =>
      set rest
      return e
    | .negation word :: rest =>
      set rest
      return .negated (← expression n .single (some word))
    | .opening :: rest =>
      set rest
      match rest with
      | [] =>
        fail ("invalid expression; expected to find a ')' but didn't see one. " ++
          "Perhaps you need an extra predicate after '('")
      | .closing :: _ => fail "invalid expression; empty parentheses are not allowed."
      | _ =>
        let e ← expression n .sequence none
        match ← get with
        | .closing :: rest =>
          set rest
          return e
        | _ =>
          fail ("invalid expression; I was expecting to find a ')' somewhere " ++
            "but did not see one.")
    | .closing :: _ =>
      match behind with
      | some word =>
        fail ("expected an expression between '" ++ String.ofList word ++ "' and ')'")
      | none => fail "invalid expression; you have too many ')'"
    | sign :: _ =>
      fail ("invalid expression; you have used a binary operator '" ++
        String.ofList (sign.word?.getD []) ++ "' with nothing before it.")

end ReadSigns

def readSigns (signs : List FileSign) : Except String FileExpression := do
  if signs.isEmpty then return .test (.always true)
  let (e, rest) ← (ReadSigns.expression (5 * (signs.length + 2)) .sequence none).run signs
  if rest.isEmpty then return e else .error "you have too many ')'"

/-! ### Arguments of tests -/

def amounts? (o : Octets) : Option Amounts :=
  match o with
  | '+' :: digits => (Octets.natural? digits).map (⟨.more, ·⟩)
  | '-' :: digits => (Octets.natural? digits).map (⟨.less, ·⟩)
  | digits => (Octets.natural? digits).map (⟨.exactly, ·⟩)

def namePattern (ignoresCase : Bool) (o : Octets) : Pattern :=
  Pattern.ofOctets (go (if ignoresCase then o.map Char.toLower else o))
where
  go : Octets → Octets
    | '\\' :: c :: rest => '\\' :: c :: go rest
    | '[' :: '^' :: rest => '[' :: '!' :: go rest
    | c :: rest => c :: go rest
    | [] => []

def kindsOf (name o : Octets) : Except Octets Octets :=
  go (o.length + 1) o
where
  go : Nat → Octets → Except Octets Octets
    | 0, _ => .ok []
    | _, [] =>
      .error ("Arguments to ".toList ++ name ++ " should contain at least one letter".toList)
    | n + 1, c :: rest =>
      if !"bcdpflsD".toList.contains c then
        .error ("Unknown argument to ".toList ++ name ++ ": ".toList ++ [c])
      else
        match rest with
        | [] => .ok [c]
        | [','] =>
          .error ("Last file type in list argument to ".toList ++ name ++
            " is missing, i.e., list is ending on: ','".toList)
        | ',' :: rest => do return c :: (← go n rest)
        | _ =>
          .error ("Must separate multiple arguments to ".toList ++ name ++ " using: ','".toList)

def fileSize (o : Octets) : Except Octets (Amounts × Nat) :=
  let wrong (c : Char) : Except Octets (Amounts × Nat) :=
    .error ("invalid -size type ".toList ++ Char.ofNat 96 :: c :: ['\''])
  let unit? : Option (Nat × Octets) := match o.reverse with
    | 'b' :: rest => some (512, rest.reverse)
    | 'c' :: rest => some (1, rest.reverse)
    | 'w' :: rest => some (2, rest.reverse)
    | 'k' :: rest => some (1024, rest.reverse)
    | 'M' :: rest => some (Nat.pow 1024 2, rest.reverse)
    | 'G' :: rest => some (Nat.pow 1024 3, rest.reverse)
    | c :: _ => if c.isDigit then some (512, o) else none
    | [] => none
  match unit? with
  | none =>
    match o.getLast? with
    | some c => wrong c
    | none => .error "invalid null argument to -size".toList
  | some (unit, digits) =>
    match amounts? digits with
    | some a => .ok (a, unit)
    | none =>
      .error ("Invalid argument ".toList ++ Char.ofNat 96 :: o ++ "' to -size".toList)

def filePieces : Nat → Octets → Except Octets (List FilePiece × List Octets)
  | 0, _ => .ok ([], [])
  | _, [] => .ok ([], [])
  | n + 1, '\\' :: rest => do
    let (count, value, _) := Octets.takeDigits 8 (rest.take 3)
    if count != 0 then
      let (pieces, warnings) ← filePieces n (rest.drop count)
      return (.text [Char.ofNat (value % 256)] :: pieces, warnings)
    else
      match rest with
      | 'c' :: _ => return ([.stop], [])
      | c :: behind =>
        let (pieces, warnings) ← filePieces n behind
        match "abfnrtv\\".toList.idxOf? c with
        | some i =>
          let c := [Char.ofNat 7, Char.ofNat 8, Char.ofNat 12, '\n', '\r', '\t', Char.ofNat 11,
            '\\'].getD i c
          return (.text [c] :: pieces, warnings)
        | none =>
          let warning := "unrecognized escape ".toList ++ Char.ofNat 96 :: '\\' :: c :: ['\'']
          return (.text ['\\', c] :: pieces, warning :: warnings)
      | [] => return ([.text ['\\']], ["escape ".toList ++ Char.ofNat 96 ::
          "\\' followed by nothing at all".toList])
  | n + 1, '%' :: rest => do
    let flags := rest.takeWhile "#'+- 0".toList.contains
    let (_, width, behind) := Octets.takeDigits 10 (rest.drop flags.length)
    let behind := match behind with
      | '.' :: rest => (Octets.takeDigits 10 rest).2.2
      | behind => behind
    match behind with
    | [] => .error "error: % at end of format string".toList
    | '%' :: behind =>
      let (pieces, warnings) ← filePieces n behind
      return (.text ['%'] :: pieces, warnings)
    | c :: behind =>
      if "ABCT".toList.contains c then
        match behind with
        | d :: behind =>
          let (pieces, warnings) ← filePieces n behind
          return (.field flags width [c, d] :: pieces, warnings)
        | [] => return ([.text ['%', c]], [])
      else
        let (pieces, warnings) ← filePieces n behind
        if "abcdDfFgGhHiklmMnpPsStuUyYZ".toList.contains c then
          return (.field flags width [c] :: pieces, warnings)
        else
          let directive := Char.ofNat 96 :: '%' :: c :: ['\'']
          let warning := "unrecognized format directive ".toList ++ directive
          return (.text ['%', c] :: pieces, warning :: warnings)
  | n + 1, c :: rest => do
    let (pieces, warnings) ← filePieces n rest
    return (.text [c] :: pieces, warnings)

def regexForms : List (String × Regex.Form) :=
  [("findutils-default", .editor), ("ed", .basic), ("emacs", .editor), ("gnu-awk", .extended),
    ("grep", .basic), ("posix-awk", .extended), ("awk", .extended), ("posix-basic", .basic),
    ("posix-egrep", .extended), ("egrep", .extended), ("posix-extended", .extended),
    ("posix-minimal-basic", .basic), ("sed", .basic)]

def modeRule? (o : Octets) : Option (ModeRule × Nat) :=
  let bits? (o : Octets) : Option Nat :=
    match o with
    | '+' :: c :: _ => if c.isDigit then none else read o
    | _ => read o
  match o with
  | '-' :: rest => (bits? rest).map (.all, ·)
  | '/' :: rest => (bits? rest).map (.any, ·)
  | rest => (bits? rest).map (.exactly, ·)
where
  read (o : Octets) : Option Nat :=
    (Permission.changes? o).map fun changes => Permission.apply changes false 0 0

end Interpolation.Shell.Utility
