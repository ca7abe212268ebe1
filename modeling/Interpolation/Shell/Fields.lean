import Interpolation.Shell.Access
import Interpolation.Shell.Pattern

/-!
# Fields

What stands for a word is made of letters, which remember whether they were quoted. Stretches that
come from values outside quotes are split into fields where the variable `IFS` says so, and a field
with the signs of a pattern stands for the files that it matches.
-/

namespace Interpolation.Shell

/-- A letter of a field. A mark keeps an empty field in place; a divider stands between
arguments. -/
inductive Letter where
  | plain (c : Char)
  | quoted (c : Char)
  | mark
  | divider
  deriving DecidableEq, Repr

/-- Where a stretch is split. -/
inductive Splitting where
  | never
  | atBlanks
  | atDividers
  deriving DecidableEq, Repr

/-- Letters that are split alike. -/
structure Stretch where
  letters : List Letter
  splitting : Splitting := .never
  isText : Bool := false
  deriving DecidableEq, Repr

namespace Letter

def text (letters : List Letter) : Octets :=
  letters.filterMap fun
    | plain c => some c
    | quoted c => some c
    | _ => none

def pattern : List Letter → Octets
  | [] => []
  | .plain '\\' :: .quoted c :: rest => '\\' :: c :: pattern rest
  | .plain c :: rest => c :: pattern rest
  | .quoted c :: rest => '\\' :: c :: pattern rest
  | _ :: rest => pattern rest

end Letter

namespace Stretch

def text (stretches : List Stretch) : Octets :=
  Letter.text (stretches.flatMap Stretch.letters)

def pattern (stretches : List Stretch) : Pattern :=
  Pattern.ofOctets (Letter.pattern (stretches.flatMap Stretch.letters))

def cons (letter : Letter) (splitting : Splitting) : List Stretch → List Stretch
  | s :: rest =>
    if s.isText && s.splitting = splitting then { s with letters := letter :: s.letters } :: rest
    else ⟨[letter], splitting, true⟩ :: s :: rest
  | [] => [⟨[letter], splitting, true⟩]

end Stretch

structure Fields where
  finished : List (List Letter) := []
  current : List Letter := []
  trimmed : Option (List Letter) := none
  isPastBlank : Bool := false
  splitting : Splitting := .never
  left : Option Nat := none

namespace Fields

def take (ifs : Octets) (atDividers wasAtDividers : Bool) (f : Fields) (letter : Letter) :
    Fields :=
  let (isSeparator, isBlank) := match letter with
    | .divider => (true, true)
    | .plain c => (!atDividers && ifs.contains c, !atDividers && ifs.contains c && Octets.isBlank c)
    | _ => (false, false)
  let longer := { f with current := letter :: f.current }
  if f.left = some 0 then
    if isBlank then { longer with trimmed := some (f.trimmed.getD f.current) }
    else
      { longer with
        trimmed := if isSeparator && f.isPastBlank then f.trimmed else none
        isPastBlank := false }
  else if f.isPastBlank && isBlank then { f with current := [] }
  else if f.isPastBlank && isSeparator then { f with current := [], isPastBlank := false }
  else if f.isPastBlank then { f with current := [letter], isPastBlank := false }
  else if isSeparator then
    let isPastBlank := isBlank && !(atDividers || wasAtDividers)
    if f.current.isEmpty && isPastBlank then f
    else
      match f.left with
      | some 1 => { longer with left := some 0, trimmed := some f.current, isPastBlank }
      | left =>
        { f with
          finished := f.current :: f.finished, current := [], isPastBlank
          left := left.map (· - 1) }
  else longer

def takeStretch (ifs : Octets) (f : Fields) (s : Stretch) : Fields :=
  match s.splitting with
  | .never => { f with current := s.letters.reverse ++ f.current }
  | splitting =>
    let step := take ifs (splitting == .atDividers) (f.splitting == .atDividers)
    let f := s.letters.foldl step { f with isPastBlank := false }
    { f with splitting }

def split (ifs : Octets) (limit : Option Nat) (stretches : List Stretch) : List (List Letter) :=
  let f := stretches.foldl (takeStretch ifs) { left := limit }
  let last := if f.splitting == .atDividers then f.current else f.trimmed.getD f.current
  let keeps := f.splitting == .atDividers || !last.isEmpty
  (if keeps then last :: f.finished else f.finished).reverse.map List.reverse

end Fields

namespace Exec

def separators : Exec Octets := do
  return ((← value? "IFS".toList)).getD " \t\n".toList

def isOpenPattern (p : Pattern) : Bool :=
  p.any fun
    | .char _ => false
    | _ => true

def literal (step : Octets) : Octets :=
  (Pattern.piecesUpTo step.length step).filterMap fun
    | .char c => some c
    | _ => none

def matching (front : Octets) : List Octets → Exec (List Octets)
  | [] => return []
  | step :: rest => do
    let p := Pattern.ofOctets step
    if !isOpenPattern p then
      let path := front ++ literal step
      if rest.isEmpty then
        match ← find? false path with
        | .ok _ => return [path]
        | .error _ => return []
      else matching (path ++ ['/']) rest
    else
      match ← find? true (if front.isEmpty then ['.'] else front) with
      | .error _ => return []
      | .ok folder =>
        if !(← observe World.volume).isFolder folder then return []
        let names ← namesIn folder
        let all := if step.head? == some '.' then ['.'] :: "..".toList :: names else names
        let fits := all.filter fun name =>
          Pattern.isMatch p name && (name.head? != some '.' || step.head? == some '.')
        if rest.isEmpty then return fits.map (front ++ ·)
        else
          let found ← fits.mapM fun name => matching (front ++ name ++ ['/']) rest
          return found.flatten

def files (field : List Letter) : Exec (List Octets) := do
  let isOpen := field.any fun l => l == .plain '*' || l == .plain '?' || l == .plain '['
  if !isOpen || (← hasOption 'f') then return [Letter.text field]
  let steps := (Letter.pattern field).splitOn '/'
  if !steps.any fun step => isOpenPattern (Pattern.ofOctets step) then return [Letter.text field]
  let found ← matching [] steps
  if found.isEmpty then return [Letter.text field]
  return found.mergeSort fun a b => !Octets.before b a

end Exec

end Interpolation.Shell
