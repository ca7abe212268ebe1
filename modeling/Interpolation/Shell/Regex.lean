import Interpolation.Shell.Pattern

/-!
# Regular expressions

A regular expression is searched for in a text: the match that begins first is found. Of those that
begin at one place some look for the longest, some for the one that is tried first.
-/

namespace Interpolation.Shell

inductive Regex where
  | nothing
  | never
  | char (c : Char)
  | set (isInverted : Bool) (members : List Member)
  | atStart
  | atEnd
  | atLineStart
  | atLineEnd
  | atWord (isBegin isEnd : Bool)
  | insideWord
  | group (number : Nat) (r : Regex)
  | again (number : Nat)
  | both (first second : Regex)
  | either (first second : Regex)
  | repeated (r : Regex) (least : Nat) (most : Option Nat) (isShort : Bool)
  | committed (r : Regex)
  | look (isAhead isNegative : Bool) (r : Regex)
  | mark
  | folded (r : Regex)

namespace Regex

/-- A place in a text: how many characters are before it, these in reverse, those behind it, what
groups have matched, and the beginning of the match if it has been marked. -/
structure Place where
  index : Nat
  before : Octets
  after : Octets
  groups : List (Nat × Octets) := []
  marked : Option Nat := none

/-- The place between two texts, the first in reverse. -/
def Place.between (before after : Octets) : Place :=
  { index := before.length, before, after }

def Place.agrees (p q : Place) : Bool :=
  p.index = q.index && p.marked = q.marked && p.groups == q.groups

def isWordChar (c : Char) : Bool :=
  c.isAlphanum || c == '_'

def Place.step (p : Place) (kind : Char → Bool) : List Place :=
  match p.after with
  | c :: after =>
    if kind c then [{ p with index := p.index + 1, before := c :: p.before, after }] else []
  | [] => []

def sameChar (ignoresCase : Bool) (c d : Char) : Bool :=
  c == d || (ignoresCase && c.toLower == d.toLower)

def Place.skip (ignoresCase : Bool) (t : Octets) (p : Place) : List Place :=
  t.foldl (fun places c => places.flatMap fun q => q.step (sameChar ignoresCase c)) [p]

def repeats (step : Place → List Place) (isShort : Bool) :
    Nat → Nat → Option Nat → List Place → Place → List Place
  | 0, least, _, found, p => if least = 0 then p :: found else found
  | n + 1, least, most, found, p =>
    if least = 0 && most.isNone && found.any p.agrees then found
    else
      let further (found : List Place) : List Place :=
        if most = some 0 then found
        else
          ((step p).filter fun q => 0 < least || p.index < q.index).foldl
            (repeats step isShort n (least - 1) (most.map (· - 1))) found
      if 0 < least then further found
      else if isShort then further (p :: found)
      else p :: further found

def ends (ignoresCase : Bool) : Regex → Place → List Place
  | nothing, p => [p]
  | never, _ => []
  | char c, p => p.step (sameChar ignoresCase c)
  | set isInverted members, p =>
    p.step fun c =>
      let holds (c : Char) : Bool := members.any (Pattern.Member.holds c)
      (holds c || (ignoresCase && (holds c.toLower || holds c.toUpper))) != isInverted
  | atStart, p => if p.before.isEmpty then [p] else []
  | atEnd, p => if p.after.isEmpty then [p] else []
  | atLineStart, p => if p.before.head?.all (· == '\n') then [p] else []
  | atLineEnd, p => if p.after.head?.all (· == '\n') then [p] else []
  | atWord isBegin isEnd, p =>
    let before := p.before.head?.any isWordChar
    let after := p.after.head?.any isWordChar
    if (isBegin && !before && after) || (isEnd && before && !after) then [p] else []
  | insideWord, p =>
    if p.before.head?.any isWordChar == p.after.head?.any isWordChar then [p] else []
  | group number r, p =>
    (ends ignoresCase r p).map fun q =>
      let text := p.after.take (q.index - p.index)
      { q with groups := (number, text) :: q.groups.filter fun (n, _) => n != number }
  | again number, p =>
    match p.groups.lookup number with
    | some text => p.skip ignoresCase text
    | none => []
  | both first second, p => (ends ignoresCase first p).flatMap (ends ignoresCase second)
  | either first second, p => ends ignoresCase first p ++ ends ignoresCase second p
  | repeated r least most isShort, p =>
    (repeats (ends ignoresCase r) isShort (least + p.after.length + 1) least most [] p).reverse
  | committed r, p => (ends ignoresCase r p).take 1
  | look isAhead isNegative r, p =>
    let found :=
      if isAhead then ends ignoresCase r p
      else
        (List.range (p.index + 1)).flatMap fun n =>
          (ends ignoresCase r
            { p with
              index := p.index - n
              before := p.before.drop n
              after := (p.before.take n).reverse ++ p.after }).filter fun q => q.index = p.index
    match isNegative, found with
    | false, q :: _ => [{ p with groups := q.groups }]
    | true, [] => [p]
    | _, _ => []
  | mark, p => [{ p with marked := some p.index }]
  | folded r, p => ends true r p

/-- A match: the text before it, its own text, and the place behind it. -/
structure Match where
  before : Octets
  text : Octets
  place : Place

def Match.between (p q : Place) : Match :=
  match q.marked with
  | some n =>
    let all := q.before.reverse
    ⟨all.take n, all.drop n, q⟩
  | none => ⟨p.before.reverse, p.after.take (q.index - p.index), q⟩

/-- The longest match that begins at a place, the one of those that is tried first. -/
def longestAt (ignoresCase : Bool) (r : Regex) (p : Place) : Option Match :=
  let longest := (ends ignoresCase r p).foldl (fun best q =>
    match best with
    | none => some q
    | some b => if b.index < q.index then some q else best) (none : Option Place)
  longest.map (Match.between p)

/-- The first place between two texts where something is found. -/
def scan {α : Type} (found? : Place → Option α) : Octets → Octets → Option α
  | before, [] => found? (.between before [])
  | before, c :: after =>
    match found? (.between before (c :: after)) with
    | some a => some a
    | none => scan found? (c :: before) after

def search (ignoresCase : Bool) (r : Regex) (before after : Octets) : Option Match :=
  scan (longestAt ignoresCase r) before after

/-- The first match in a text. -/
def find? (ignoresCase : Bool) (r : Regex) (t : Octets) : Option Match :=
  search ignoresCase r [] t

def groupCount : Regex → Nat
  | group _ r => groupCount r + 1
  | both first second | either first second => groupCount first + groupCount second
  | repeated r _ _ _ | committed r | look _ _ r | folded r => groupCount r
  | _ => 0

def ofText (t : Octets) : Regex :=
  t.foldr (fun c r => both (char c) r) nothing

end Regex

end Interpolation.Shell
