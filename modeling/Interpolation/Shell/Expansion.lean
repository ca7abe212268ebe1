import Interpolation.Shell.Arithmetic
import Interpolation.Shell.Fields

/-!
# Expansion of words

When a command runs, its words are expanded: home directories, parameters, the output of commands
and the values of arithmetic expressions are put in. What is put in outside quotes is split.
-/

namespace Interpolation.Shell

structure Manner where
  splits : Bool := false
  hasHome : Bool := false
  hasHomes : Bool := false
  isInner : Bool := false
  isQuoted : Bool := false

namespace Expansion

def homes : List (String × String) :=
  [("root", "/root"), ("daemon", "/usr/sbin"), ("bin", "/bin"), ("sys", "/dev"),
    ("nobody", "/nonexistent"), ("www-data", "/var/www")]

def home? (own : Option Octets) (name : Octets) : Option Octets :=
  if name.isEmpty then own
  else (homes.find? fun (user, _) => user.toList == name).map fun (_, home) => home.toList

def putHomes (own : Option Octets) (many : Bool) : Nat → Bool → Bool → Word → Word
  | _, _, _, [] => []
  | skip + 1, mayBegin, isPast, _ :: rest => putHomes own many skip mayBegin isPast rest
  | 0, mayBegin, isPast, part :: rest =>
    match part with
    | .plain '~' =>
      let name := (Word.cutPlain rest).1.takeWhile fun c => c != '/' && !(many && c == ':')
      let isWhole := match rest.drop name.length with
        | [] | .plain _ :: _ => true
        | _ => false
      match if mayBegin && isWhole then home? own name else none with
      | some home => home.map .quoted ++ putHomes own many name.length false isPast rest
      | none => part :: putHomes own many 0 false isPast rest
    | .plain '=' => part :: putHomes own many 0 (many && !isPast) true rest
    | .plain ':' => part :: putHomes own many 0 many isPast rest
    | _ => part :: putHomes own many 0 false isPast rest

def letters (isQuoted : Bool) (value : Octets) : List Letter :=
  value.map fun c => if isQuoted then .quoted c else .plain c

def options : List (Char × String) :=
  [('e', "errexit"), ('f', "noglob"), ('I', "ignoreeof"), ('i', "interactive"), ('m', "monitor"),
    ('n', "noexec"), ('s', "stdin"), ('x', "xtrace"), ('v', "verbose"), ('V', "vi"),
    ('E', "emacs"), ('C', "noclobber"), ('a', "allexport"), ('b', "notify"), ('u', "nounset")]

def arguments (separator : List Letter) (isQuoted : Bool) (p : Process) : List Letter :=
  separator.intercalate (p.positional.map (letters isQuoted))

def value? (name : Octets) (splits isQuoted : Bool) : Exec (Option (List Letter)) := do
  let p ← Exec.ask id
  let ofText (t : Octets) : Option (List Letter) := some (letters isQuoted t)
  let ifs := Exec.valueOf p "IFS".toList
  let first := match ifs with
    | none => [' ']
    | some t => t.take 1
  match name with
  | ['$'] => return ofText (Text.ofNat p.number)
  | ['?'] => return ofText (Text.ofNat p.status)
  | ['#'] => return ofText (Text.ofNat p.positional.length)
  | ['!'] => return (p.lastJob.map Text.ofNat).bind ofText
  | ['-'] => return ofText ((options.map Prod.fst).reverse.filter p.options.contains)
  | ['@'] | ['*'] =>
    let separator :=
      if splits && isQuoted && name == ['@'] then [.divider]
      else if splits && !isQuoted then if ifs.isNone then letters false [' '] else [.divider]
      else letters isQuoted first
    return some (arguments separator isQuoted p)
  | _ =>
    match Octets.natural? name with
    | some 0 => return ofText p.name
    | some n => return (p.positional[n - 1]?).bind ofText
    | none => return (Exec.valueOf p name).bind ofText

def trim (p : Pattern) (atEnd longest : Bool) (letters : List Letter) : List Letter :=
  let text := letters.filterMap fun
    | .plain c => some c
    | .quoted c => some c
    | .divider => some (Char.ofNat 0)
    | .mark => none
  if atEnd then letters.take (Pattern.trimEnd p longest text).length
  else letters.drop (letters.length - (Pattern.trimFront p longest text).length)

def notSet {α : Type} (name : Octets) (complaint : Octets) : Exec α :=
  Exec.fail (name ++ ": ".toList ++ complaint)

def parameter (inner : Manner → Word → Exec (List Stretch)) (m : Manner) (isQuoted : Bool)
    (name : Octets) (use : Use) (word : Word) : Exec (List Stretch) := do
  let splitting : Exec Splitting := do
    if !isQuoted then return .atBlanks
    let hasArguments ← Exec.ask fun p => !p.positional.isEmpty
    return if name == ['@'] && hasArguments then .atDividers else .never
  let recorded (letters : List Letter) : Exec (List Stretch) := do
    return [⟨letters, ← splitting, false⟩]
  let value ← value? name m.splits isQuoted
  let isSet (orEmpty : Bool) : Bool := value.any fun v => !(orEmpty && v.isEmpty)
  let found := value.getD []
  let substitute : Exec (List Stretch) :=
    inner { m with hasHome := true, isInner := true, isQuoted } word
  let demanded : Exec Unit := do
    if value.isNone && (← Exec.hasOption 'u') then
      notSet name "parameter not set".toList
  match use with
  | .otherwise orEmpty => if isSet orEmpty then recorded found else substitute
  | .instead orEmpty => if isSet orEmpty then substitute else return []
  | .assign orEmpty =>
    if isSet orEmpty then recorded found
    else
      let text := Stretch.text (← inner { hasHome := true } word)
      Exec.setVariable name text
      recorded (((← value? name m.splits isQuoted)).getD [])
  | .demand orEmpty =>
    if isSet orEmpty then recorded found
    else if word.isEmpty then
      notSet name ("parameter not set".toList ++ if orEmpty then " or null".toList else [])
    else notSet name (Stretch.text (← inner { hasHome := true } word))
  | .value =>
    demanded
    if value.isNone then return [] else recorded found
  | .length =>
    demanded
    recorded (letters isQuoted (Text.ofNat found.length))
  | .trim atEnd longest =>
    demanded
    if value.isNone then return []
    let pattern := Stretch.pattern (← inner { hasHome := true } word)
    recorded (trim pattern atEnd longest found)
  | .malformed => Exec.fail "Bad substitution".toList

def outputText (o : Octets) : Octets :=
  ((o.filter (· != Char.ofNat 0)).reverse.dropWhile (· == '\n')).reverse

def arithmetic (expression : Octets) : Exec Octets := do
  let p ← Exec.ask id
  let (result, changes) := Arithmetic.run (Exec.valueOf p) expression
  for (name, value) in changes do
    Exec.setVariable name value
  match result with
  | .ok n => return Text.ofInt n.toInt
  | .error complaint => Exec.fail complaint

def parts (substitute : Command → Exec Octets) (inner : Manner → Word → Exec (List Stretch))
    (m : Manner) : Bool → Word → Exec (List Stretch)
  | _, [] => return []
  | false, .mark :: .parameter ['@'] .value [] :: .mark :: rest => do
    let found ← parameter inner m true ['@'] .value []
    return found ++ (← parts substitute inner m false rest)
  | q, .mark :: rest => do
    return Stretch.cons .mark .never (← parts substitute inner m (!q) rest)
  | q, .plain c :: rest => do
    let splitting := if m.isInner && !m.isQuoted && !q then .atBlanks else .never
    return Stretch.cons (.plain c) splitting (← parts substitute inner m q rest)
  | q, .quoted c :: rest => do
    return Stretch.cons (.quoted c) .never (← parts substitute inner m q rest)
  | q, .parameter name use word :: rest => do
    let found ← parameter inner m (m.isQuoted || q) name use word
    return found ++ (← parts substitute inner m q rest)
  | q, .command body :: rest => do
    let isQuoted := m.isQuoted || q
    let output := outputText (← substitute body)
    let found : Stretch := ⟨letters isQuoted output, if isQuoted then .never else .atBlanks, false⟩
    return found :: (← parts substitute inner m q rest)
  | q, .arithmetic expression :: rest => do
    let isQuoted := m.isQuoted || q
    let value ← arithmetic (Stretch.text (← inner {} expression))
    let found : Stretch := ⟨letters isQuoted value, if isQuoted then .never else .atBlanks, false⟩
    return found :: (← parts substitute inner m q rest)

def stretches (substitute : Command → Exec Octets) : Nat → Manner → Word → Exec (List Stretch)
  | 0, _, _ => throw .endless
  | depth + 1, m, word => do
    let own ← Exec.value? "HOME".toList
    let word :=
      if m.hasHome || m.hasHomes then putHomes own m.hasHomes 0 m.hasHome m.hasHome word else word
    parts substitute (stretches substitute depth) m false word

def depth : Nat :=
  100000

def fields (substitute : Command → Exec Octets) (word : Word) : Exec (List Octets) := do
  let found ← stretches substitute depth { splits := true, hasHome := true } word
  let split := Fields.split (← Exec.separators) none found
  return (← split.mapM Exec.files).flatten

/-- Expand a word into one text. -/
def text (substitute : Command → Exec Octets) (m : Manner) (word : Word) : Exec Octets := do
  return Stretch.text (← stretches substitute depth m word)

def pattern (substitute : Command → Exec Octets) (word : Word) : Exec Pattern := do
  return Stretch.pattern (← stretches substitute depth { hasHome := true } word)

end Expansion

end Interpolation.Shell
