import Interpolation.Format.Json
import Interpolation.Format.Yaml.Place

/-!
# Scalars of YAML documents

A scalar is written plainly, in quotes, or as a block of lines. Line ends inside a plain or quoted
scalar are folded: one becomes a blank, and of several the first one is dropped. The separators of
Unicode are never folded.
-/

namespace Interpolation.Yaml

/-! ## Blanks and line ends between words -/

/-- What stands between two words of a scalar: blanks, or line ends. -/
structure Gap where
  blanks : Text := []
  isBroken : Bool := false
  firstBreak : Text := []
  moreBreaks : Text := []

namespace Gap

def text (g : Gap) : Text :=
  if !g.isBroken then g.blanks
  else if g.firstBreak = ['\n'] then if g.moreBreaks.isEmpty then [' '] else g.moreBreaks
  else g.firstBreak ++ g.moreBreaks

/-- Go on reading a gap. No tab may stand at the beginning of a line before column `least`. -/
def extend (least : Nat) (g : Gap) (p : Place) : Text → Option (Gap × Remains)
  | [] => some (g, ⟨p, []⟩)
  | c :: t =>
    if isBlank c then
      if g.isBroken then
        if c == '\t' && p.column < least then none else extend least g (p.next c) t
      else extend least { g with blanks := g.blanks ++ [c] } (p.next c) t
    else if isBreak c then
      let g := if g.isBroken then { g with moreBreaks := g.moreBreaks ++ [c] }
        else { g with isBroken := true, firstBreak := [c] }
      extend least g (p.next c) t
    else some (g, ⟨p, c :: t⟩)

end Gap

/-! ## Plain scalars -/

def isFlow (c : Char) : Bool :=
  c == ',' || c == '[' || c == ']' || c == '{' || c == '}'

/-- Read a word of a plain scalar. It ends at a blank, at a colon before a blank, and in brackets at
their separators, before which no colon may stand. -/
def plainWord (inFlow : Bool) (p : Place) : Text → Option (Text × Remains)
  | [] => some ([], ⟨p, []⟩)
  | c :: t =>
    let isFlowNext := (t.head?.map fun d => isFlow d || d == '?').getD false
    if isBlank c || isBreak c then some ([], ⟨p, c :: t⟩)
    else if inFlow && c == ':' && isFlowNext then none
    else if (c == ':' && isSpaced t) || (inFlow && isFlow c) then some ([], ⟨p, c :: t⟩)
    else (plainWord inFlow (p.next c) t).map fun (word, r) => (c :: word, r)

/-- Read the words of a plain scalar behind a gap, at most so many: the text with the gap before it,
and whether line ends follow it. Outside brackets, all of its lines stand at column `least` or
behind it. -/
def plainWords (inFlow : Bool) (least : Nat) : Nat → Gap → Remains → Option (Text × Bool × Remains)
  | 0, _, _ => none
  | count + 1, gap, r =>
    if isBoundary r.place r.text || r.text.head? = some '#' then some ([], gap.isBroken, r)
    else do
      let (word, r) ← plainWord inFlow r.place r.text
      let text := if word.isEmpty then [] else gap.text ++ word
      let gap := if word.isEmpty then gap else {}
      match r.text with
      | [] => some (text, gap.isBroken, r)
      | c :: _ =>
        if !(isBlank c || isBreak c) then some (text, gap.isBroken, r)
        else
          let (gap, r) ← gap.extend least r.place r.text
          if !inFlow && r.place.column < least then some (text, gap.isBroken, r)
          else
            let (more, isBroken, r) ← plainWords inFlow least count gap r
            some (text ++ more, isBroken, r)

/-- Read a plain scalar: its text, and whether line ends follow it. -/
def plainScalar (inFlow : Bool) (least : Nat) (r : Remains) : Option (Text × Bool × Remains) :=
  plainWords inFlow least (r.text.length + 1) {} r

/-! ## Quoted scalars -/

def escapes : List (Char × Nat) :=
  [('0', 0), ('a', 7), ('b', 8), ('t', 9), ('\t', 9), ('n', 10), ('v', 11), ('f', 12), ('r', 13),
    ('e', 27), (' ', 32), ('"', 34), ('/', 47), ('\\', 92), ('N', 0x85), ('_', 0xA0), ('L', 0x2028),
    ('P', 0x2029)]

def codeLengths : List (Char × Nat) :=
  [('x', 2), ('u', 4), ('U', 8)]

def codePoint? (digits : Text) : Option Char := do
  let values ← digits.mapM Json.hexValue?
  let n := values.foldl (fun n d => 16 * n + d) 0
  if n < 0xD800 || (0xE000 ≤ n && n < 0x110000) then some (Char.ofNat n) else none

/-- Read an escape behind its backslash: the character, and how many characters were read. -/
def escape? : Text → Option (Char × Nat)
  | [] => none
  | c :: t =>
    match escapes.lookup c, codeLengths.lookup c with
    | some n, _ => some (Char.ofNat n, 1)
    | none, some length =>
      if t.length < length then none
      else (codePoint? (t.take length)).map fun c => (c, length + 1)
    | none, none => none

/-- Read at most so many characters of a word in quotes: the word, and whether a backslash at the
end of the line follows it. -/
def quotedWord (quote : Char) : Nat → Remains → Option (Text × Bool × Remains)
  | 0, _ => none
  | count + 1, r =>
    let goOn (c : Char) (length : Nat) : Option (Text × Bool × Remains) :=
      (quotedWord quote count (r.drop length)).map fun (word, joins, r) => (c :: word, joins, r)
    match r.text with
    | [] => some ([], false, r)
    | c :: t =>
      if isBlank c || isBreak c then some ([], false, r)
      else if c = quote then
        if quote = '\'' && t.head? = some '\'' then goOn c 2 else some ([], false, r)
      else if c = '\\' && quote = '"' then
        if !t.isEmpty && atLineEnd t then some ([], true, r.drop 2)
        else (escape? t).bind fun (c, length) => goOn c (length + 1)
      else goOn c 1

def quotedWords (quote : Char) : Nat → Remains → Option (Text × Remains)
  | 0, _ => none
  | count + 1, r =>
    if isBoundary r.place r.text || r.text.isEmpty then none
    else do
      let (word, joins, r) ← quotedWord quote (r.text.length + 1) r
      if r.text.head? = some quote then some (word, r.drop 1)
      else
        let (gap, r) ← Gap.extend 0 { isBroken := joins } r.place r.text
        let (more, r) ← quotedWords quote count r
        some (word ++ gap.text ++ more, r)

def quotedScalar (quote : Char) (r : Remains) : Option (Text × Remains) :=
  quotedWords quote (r.text.length + 1) (r.drop 1)

/-! ## Scalars in blocks of lines -/

inductive Chomping where
  | strip
  | clip
  | keep
  deriving DecidableEq

/-- The header of a block: how its end is treated, and how far it is said to be indented. -/
structure BlockHeader where
  chomping : Chomping := .clip
  indentation : Option Nat := none

def Chomping.ofSign? (c : Char) : Option Chomping :=
  if c = '+' then some .keep else if c = '-' then some .strip else none

def indentation? (c : Char) : Option Nat :=
  if c.isDigit then some (c.toNat - '0'.toNat) else none

def BlockHeader.ofText : Text → BlockHeader × Nat
  | c :: t =>
    let next := t.head?
    match Chomping.ofSign? c, indentation? c with
    | some chomping, _ =>
      match next.bind indentation? with
      | some n => ({ chomping, indentation := some n }, 2)
      | none => ({ chomping }, 1)
    | none, some n =>
      match next.bind Chomping.ofSign? with
      | some chomping => ({ chomping, indentation := some n }, 2)
      | none => ({ indentation := some n }, 1)
    | none, none => ({}, 0)
  | [] => ({}, 0)

/-- Read the blanks and the line ends before a line of a block: the line ends, and the greatest
column. As long as the indentation is not known all blanks belong to it. -/
def blockBreaks (indent : Option Nat) (greatest : Nat) (p : Place) :
    Text → Option (Text × Nat × Remains)
  | [] => some ([], max greatest p.column, ⟨p, []⟩)
  | c :: t =>
    let isInside := (indent.map fun n => decide (p.column < n)).getD true
    if isInside && c == ' ' then blockBreaks indent greatest (p.next c) t
    else if isInside && c == '\t' then none
    else if isBreak c then
      (blockBreaks indent (max greatest p.column) (p.next c) t).map fun (breaks, rest) =>
        (c :: breaks, rest)
    else some ([], max greatest p.column, ⟨p, c :: t⟩)

structure Block where
  text : Text := []
  lastBreak : Text := []
  moreBreaks : Text := []
  isIndented : Bool := false

/-- Append a line to a block. In a folded block one line end between two lines at the margin is a
blank. -/
def Block.append (isFolded : Bool) (b : Block) (line : Text) : Block :=
  let isIndented := (line.head?.map isBlank).getD false
  let between :=
    if isFolded && b.lastBreak = ['\n'] && !b.isIndented && !isIndented then
      if b.moreBreaks.isEmpty then [' '] else []
    else b.lastBreak
  { text := b.text ++ between ++ b.moreBreaks ++ line, isIndented }

def blockLines (isFolded : Bool) (indent : Nat) : Nat → Block → Remains → Option (Block × Remains)
  | 0, _, _ => none
  | count + 1, b, r =>
    if r.place.column ≠ indent || r.text.isEmpty then some (b, r)
    else do
      let (line, r) := r.span fun c => !isBreak c
      let lastBreak := r.text.take 1
      let r := r.drop 1
      let (moreBreaks, _, r) ← blockBreaks (some indent) 0 r.place r.text
      blockLines isFolded indent count { b.append isFolded line with lastBreak, moreBreaks } r

def Block.finish (b : Block) : Chomping → Text
  | .strip => b.text
  | .clip => b.text ++ b.lastBreak
  | .keep => b.text ++ b.lastBreak ++ b.moreBreaks

/-- Read a scalar in a block of lines; `outer` is the column of the collection around it. Unless the
header tells the indentation, it is that of the first line. -/
def blockScalar (outer : Option Nat) (r : Remains) : Option (Text × Remains) := do
  let isFolded := r.text.head? = some '>'
  let r := r.drop 1
  let (header, length) := BlockHeader.ofText r.text
  if header.indentation = some 0 then none
  let r ← (r.drop length).skipLine?
  let told := header.indentation.map fun n => outer.getD 0 + n
  let (breaks, greatest, r) ← blockBreaks told 0 r.place r.text
  let indent := told.getD (max greatest (max 1 ((outer.map (· + 1)).getD 0)))
  let (b, r) ← blockLines isFolded indent (r.text.length + 1) { moreBreaks := breaks } r
  some (b.finish header.chomping, r)

end Interpolation.Yaml
