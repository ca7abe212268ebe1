import Interpolation.Text

/-!
# Normal paths

Hosts write paths with `/` or with `\` between the components. Inside the library a path has `/`
only, and no separator at its end unless it is a root; it is written with the host's separator when
it leaves the library. A relative path is found by whole components: `/home/u/proj` does not contain
`/home/u/proj2`.
-/

namespace Interpolation

/-- A path with `/` between its components. -/
structure NormalPath where
  text : Text
  deriving DecidableEq, Repr

namespace NormalPath

/-- A drive is an ASCII letter followed by a colon. -/
def isDrive : Text → Bool
  | [letter, ':'] => letter.isAlpha
  | _ => false

/-- Read `\` as `/` and drop the separators at the end, except the one of a root: the empty text and
a drive keep it. -/
def ofText (t : Text) : NormalPath :=
  let slashed := Text.replaceChar '\\' '/' t
  let body := Text.dropTrailing '/' slashed
  if body.length < slashed.length && (body.isEmpty || isDrive body) then ⟨body ++ ['/']⟩ else ⟨body⟩

def isEmpty (p : NormalPath) : Bool :=
  p.text.isEmpty

/-- Write the path with `separator` between its components. -/
def render (separator : Char) (p : NormalPath) : Text :=
  Text.replaceChar '/' separator p.text

/-- Append a segment, which may use either separator. -/
def join (p : NormalPath) (segment : Text) : NormalPath :=
  let segment := Text.replaceChar '\\' '/' segment
  if p.text.isEmpty then ofText segment
  else if p.text.getLast? = some '/' then ofText (p.text ++ segment)
  else ofText (p.text ++ '/' :: segment)

def trimmed (p : NormalPath) : Text :=
  Text.dropTrailing '/' p.text

/-- The containing directory; a bare name has none. A drive keeps its separator: the parent of
`C:/a` is `C:/`. -/
def parent? (p : NormalPath) : Option NormalPath :=
  (Text.cutLast '/' p.trimmed).map fun (head, _) =>
    if head.isEmpty then ⟨['/']⟩
    else if head.getLast? = some ':' && !head.contains '/' then ⟨head ++ ['/']⟩
    else ⟨head⟩

def fileName? (p : NormalPath) : Option Text :=
  let name := match Text.cutLast '/' p.trimmed with
    | some (_, name) => name
    | none => p.trimmed
  if name.isEmpty then none else some name

/-- Split a file name at its last dot, unless the dot comes first: `.env` has no extension. -/
def splitName (name : Text) : Text × Option Text :=
  match Text.cutLast '.' name with
  | some (stem, ext) => if stem.isEmpty then (name, none) else (stem, some ext)
  | none => (name, none)

def extension? (p : NormalPath) : Option Text :=
  p.fileName?.bind fun name => (splitName name).2

def fileStem? (p : NormalPath) : Option Text :=
  p.fileName?.map fun name => (splitName name).1

/-- The path relative to `base`, if `base` is the path itself or one of its ancestors. -/
def relativeTo? (p base : NormalPath) : Option NormalPath :=
  match base.trimmed with
  | [] =>
    match p.text with
    | '/' :: rest => some ⟨rest⟩
    | _ => none
  | start =>
    match start.isPrefixOf? p.text with
    | some [] => some ⟨[]⟩
    | some ('/' :: rest) => some ⟨rest⟩
    | _ => none

/-- Whether `base` is the path itself or one of its ancestors. -/
def isWithin (p base : NormalPath) : Bool :=
  (p.relativeTo? base).isSome

def isAbsolute : Text → Bool
  | '/' :: _ => true
  | _ => false

/-- `path` as seen from the directory `cwd`: an absolute path stays, any other is appended. -/
def absolutize (cwd path : Text) : Text :=
  if isAbsolute path then path
  else if cwd.isEmpty || cwd.getLast? = some '/' then cwd ++ path
  else cwd ++ '/' :: path

end NormalPath

end Interpolation
