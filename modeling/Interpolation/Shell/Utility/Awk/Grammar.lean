import Interpolation.Shell.Utility.Awk.Search
import Interpolation.Shell.Utility.Awk.Syntax

/-!
# Reading programs for records

Signs bind in the order: fields, counting, powers, signs before a value, products, sums, texts
beside each other, comparisons, matches, keys, conjunctions, disjunctions, choices. A place takes
the value behind an equals sign wherever the place stands.
-/

namespace Interpolation.Shell.Utility.Awk

structure Reading where
  tokens : List Placed
  line : Nat := 1
  lastLine : Nat := 1
  arguments : List String := []
  isFunction : Bool := false
  calls : List String := []
  loops : Nat := 0
  mayGoOn : Bool := true

abbrev Parse := StateT Reading (Except Fault)

namespace Parse

def fault {α : Type} (complaint : String) : Parse α := do
  throw ⟨(← get).line, complaint.toList⟩

def peek : Parse (Option Token) := do
  return (← get).tokens.head?.map Placed.token

def peekSign : Parse String := do
  match ← peek with
  | some (.sign s) => return s
  | _ => return ""

def peekWord : Parse String := do
  match ← peek with
  | some (.keyword s) => return s
  | _ => return ""

def skip : Parse Unit :=
  modify fun s =>
    match s.tokens with
    | t :: tokens => { s with tokens, line := t.line }
    | [] => s

def unexpected {α : Type} : Parse α := do
  match (← get).tokens with
  | [] => throw ⟨(← get).lastLine, "syntax error at or near end of file".toList⟩
  | t :: _ =>
    let shown := match t.token with
      | .newline => "end of line".toList
      | _ => t.text
    throw ⟨t.line, "syntax error at or near ".toList ++ shown⟩

def accept (s : String) : Parse Bool := do
  if (← peekSign) == s then
    skip
    return true
  else return false

def expect (s : String) : Parse Unit := do
  if !(← accept s) then unexpected

def skipLines : Parse Unit :=
  modify fun s =>
    let rest := s.tokens.dropWhile fun t => match t.token with
      | .newline => true
      | _ => false
    { s with tokens := rest }

def skipEnds : Parse Unit :=
  modify fun s =>
    let rest := s.tokens.dropWhile fun t => match t.token with
      | .newline => true
      | .sign ";" => true
      | _ => false
    { s with tokens := rest }

def nameOf (s : String) : Parse Name := do
  match (← get).arguments.idxOf? s with
  | some i => return .own i
  | none => return .shared s

def regexOf (o : Octets) : Parse Regex := do
  match readRegex o with
  | .ok r => return r
  | .error why =>
    throw ⟨(← get).line, ("regular expression compile failed (" ++ why ++ ")\n").toList ++ o⟩

def isPlace : Expr → Bool
  | .variable_ _ | .field _ | .element .. => true
  | _ => false

def assignment? : String → Option (Option Operation)
  | "=" => some none
  | "+=" => some (some .add)
  | "-=" => some (some .subtract)
  | "*=" => some (some .multiply)
  | "/=" => some (some .divide)
  | "%=" => some (some .remainder)
  | "^=" => some (some .power)
  | _ => none

def relation? : String → Option Relation
  | "<" => some .less
  | "<=" => some .atMost
  | "==" => some .equal
  | "!=" => some .different
  | ">" => some .more
  | ">=" => some .atLeast
  | _ => none

def startsValue : Parse Bool := do
  match ← peek with
  | some (.number _) | some (.text _) | some (.regex _) | some (.name _) | some (.functionName _)
  | some (.builtin _) => return true
  | some (.sign s) => return ["$", "!", "(", "-", "+", "++", "--"].contains s
  | _ => return false

def bounds : String → Nat × Nat
  | "length" => (0, 1)
  | "index" | "match" | "atan2" => (2, 2)
  | "substr" | "split" | "sub" | "gsub" => (2, 3)
  | "sprintf" => (1, 1000)
  | "rand" | "systime" => (0, 0)
  | "srand" | "fflush" => (0, 1)
  | "strftime" => (0, 3)
  | _ => (1, 1)

/-! ### Expressions -/

mutual

def expression (depth : Nat) (isPrinted : Bool) : Parse Expr := do
  match depth with
  | 0 => fault "expression too deep"
  | depth + 1 =>
    let condition ← levels depth isPrinted 0
    if ← accept "?" then
      skipLines
      let yes ← expression depth isPrinted
      skipLines
      expect ":"
      skipLines
      let no ← expression depth isPrinted
      return .choose condition yes no
    else return condition

def levels (depth : Nat) (isPrinted : Bool) (level : Nat) : Parse Expr := do
  match depth with
  | 0 => fault "expression too deep"
  | depth + 1 =>
    let first ← if level < 7 then levels depth isPrinted (level + 1) else signed depth isPrinted
    more depth isPrinted level first

def more (depth : Nat) (isPrinted : Bool) (level : Nat) (left : Expr) : Parse Expr := do
  match depth with
  | 0 => fault "expression too deep"
  | depth + 1 =>
    let sign ← peekSign
    let word ← peekWord
    match level with
    | 0 =>
      if sign == "||" then
        skip
        skipLines
        more depth isPrinted 0 (.disjunction left (← levels depth isPrinted 1))
      else return left
    | 1 =>
      if sign == "&&" then
        skip
        skipLines
        more depth isPrinted 1 (.conjunction left (← levels depth isPrinted 2))
      else return left
    | 2 =>
      if word == "in" then
        skip
        match ← peek with
        | some (.name s) =>
          skip
          let keys := match left with
            | .tuple es => es
            | e => [e]
          more depth isPrinted 2 (.isKey keys (← nameOf s))
        | _ => unexpected
      else return left
    | 3 =>
      if sign == "~" || sign == "!~" then
        skip
        more depth isPrinted 3 (.matches_ (sign == "!~") left (← levels depth isPrinted 4))
      else return left
    | 4 =>
      match if isPrinted && sign == ">" then none else relation? sign with
      | some r =>
        skip
        more depth isPrinted 4 (.compare r left (← levels depth isPrinted 5))
      | none => return left
    | 5 =>
      if ← startsValue then
        more depth isPrinted 5 (.concatenate left (← levels depth isPrinted 6))
      else return left
    | 6 =>
      if sign == "+" || sign == "-" then
        skip
        let right ← levels depth isPrinted 7
        more depth isPrinted 6 (.calculate (if sign == "+" then .add else .subtract) left right)
      else return left
    | _ =>
      let operation : Option Operation := match sign with
        | "*" => some .multiply
        | "/" => some .divide
        | "%" => some .remainder
        | _ => none
      match operation with
      | some operation =>
        skip
        more depth isPrinted 7 (.calculate operation left (← signed depth isPrinted))
      | none => return left

def signed (depth : Nat) (isPrinted : Bool) : Parse Expr := do
  match depth with
  | 0 => fault "expression too deep"
  | depth + 1 =>
    let sign ← peekSign
    if sign == "!" then
      skip
      return .negate (← signed depth isPrinted)
    else if sign == "-" then
      skip
      return .minus (← signed depth isPrinted)
    else if sign == "+" then
      skip
      return .plus (← signed depth isPrinted)
    else
      let base ← primary depth isPrinted
      let e ←
        if ← accept "^" then pure (.calculate .power base (← signed depth isPrinted))
        else pure base
      piped depth isPrinted e

def piped (depth : Nat) (isPrinted : Bool) (e : Expr) : Parse Expr := do
  match depth with
  | 0 => fault "expression too deep"
  | depth + 1 =>
    let isGetline := match (← get).tokens with
      | { token := .sign "|", .. } :: { token := .keyword "getline", .. } :: _ => true
      | _ => false
    if isGetline then
      skip
      skip
      let place ← placeOf depth isPrinted
      piped depth isPrinted (.readRecord .command [e] place)
    else return e

def placeOf (depth : Nat) (isPrinted : Bool) : Parse (List Expr) := do
  match depth with
  | 0 => fault "expression too deep"
  | depth + 1 =>
    match ← peek with
    | some (.name s) =>
      skip
      return [← named depth s]
    | some (.sign "$") =>
      skip
      return [.field (← counted depth isPrinted)]
    | _ => return []

def named (depth : Nat) (s : String) : Parse Expr := do
  match depth with
  | 0 => fault "expression too deep"
  | depth + 1 =>
    let name ← nameOf s
    if ← accept "[" then
      let keys ← expressions depth false
      expect "]"
      return .element name keys
    else return .variable_ name

def expressions (depth : Nat) (isPrinted : Bool) : Parse (List Expr) := do
  match depth with
  | 0 => fault "expression too deep"
  | depth + 1 =>
    let first ← expression depth isPrinted
    if ← accept "," then
      skipLines
      return first :: (← expressions depth isPrinted)
    else return [first]

def counted (depth : Nat) (isPrinted : Bool) : Parse Expr := do
  match depth with
  | 0 => fault "expression too deep"
  | depth + 1 =>
    let sign ← peekSign
    if sign == "++" || sign == "--" then
      skip
      let place ← counted depth isPrinted
      if isPlace place then return .count true (sign == "++") place else unexpected
    else if sign == "-" then
      skip
      return .minus (← counted depth isPrinted)
    else if sign == "+" then
      skip
      return .plus (← counted depth isPrinted)
    else if sign == "!" then
      skip
      return .negate (← counted depth isPrinted)
    else atom depth isPrinted

def primary (depth : Nat) (isPrinted : Bool) : Parse Expr := do
  match depth with
  | 0 => fault "expression too deep"
  | depth + 1 =>
    let sign ← peekSign
    if sign == "++" || sign == "--" then
      skip
      let place ← atom depth isPrinted
      if isPlace place then return .count true (sign == "++") place else unexpected
    else
      let e ← atom depth isPrinted
      if !isPlace e then return e
      let sign ← peekSign
      if sign == "++" || sign == "--" then
        skip
        return .count false (sign == "++") e
      match assignment? sign with
      | some operation =>
        skip
        skipLines
        return .assign e operation (← expression depth isPrinted)
      | none => return e

def atom (depth : Nat) (isPrinted : Bool) : Parse Expr := do
  match depth with
  | 0 => fault "expression too deep"
  | depth + 1 =>
    match ← peek with
    | some (.number x) =>
      skip
      return .number x
    | some (.text o) =>
      skip
      return .text o
    | some (.regex o) =>
      skip
      return .regex (← regexOf o)
    | some (.name s) =>
      skip
      named depth s
    | some (.functionName s) =>
      skip
      expect "("
      skipLines
      let arguments ← if (← peekSign) == ")" then pure [] else expressions depth false
      skipLines
      expect ")"
      modify fun st => { st with calls := s :: st.calls }
      return .call s arguments
    | some (.builtin s) =>
      skip
      let (least, most) := bounds s
      let arguments ←
        if ← accept "(" then do
          skipLines
          let arguments ← if (← peekSign) == ")" then pure [] else expressions depth false
          skipLines
          expect ")"
          pure arguments
        else if s == "length" then pure []
        else unexpected
      if arguments.length < least || most < arguments.length then
        throw ⟨(← get).line, ("wrong number of arguments in call to " ++ s).toList⟩
      return .builtin s arguments
    | some (.keyword "getline") =>
      skip
      let place ← placeOf depth isPrinted
      if ← accept "<" then return .readRecord .file [← primary depth isPrinted] place
      else return .readRecord .main [] place
    | some (.sign "$") =>
      skip
      return .field (← counted depth isPrinted)
    | some (.sign "(") =>
      skip
      skipLines
      let es ← expressions depth false
      skipLines
      expect ")"
      match es with
      | [e] => return if isPlace e then .tuple [e] else e
      | es => return .tuple es
    | _ => unexpected

end

/-! ### Statements -/

def finish : Parse Unit := do
  match ← peek with
  | none | some (.sign "\x7d") => return
  | some .newline | some (.sign ";") => skip
  | _ => unexpected

def isFinished : Parse Bool := do
  match ← peek with
  | none | some .newline | some (.sign ";") | some (.sign "\x7d") => return true
  | _ => return false

def sinkOf (depth : Nat) : Parse (Option (Sink × Expr)) := do
  let kind : Option Sink := match ← peekSign with
    | ">" => some (.file false)
    | ">>" => some (.file true)
    | "|" => some .command
    | _ => none
  match kind with
  | none => return none
  | some kind =>
    skip
    return some (kind, ← expression depth false)

def printed (depth : Nat) : Parse (List Expr × Option (Sink × Expr)) := do
  let isEmpty := [">", ">>", "|"].contains (← peekSign) || (← isFinished)
  let es ← if isEmpty then pure [] else expressions depth true
  let es := match es with
    | [.tuple es] => es
    | es => es
  return (es, ← sinkOf depth)

def loopHead? : Parse (Option (String × String)) := do
  match (← get).tokens with
  | { token := .name k, .. } :: { token := .keyword "in", .. } :: { token := .name t, .. } ::
      { token := .sign ")", .. } :: _ =>
    skip
    skip
    skip
    skip
    return some (k, t)
  | _ => return none

def looped {α : Type} (read : Parse α) : Parse α := do
  modify fun s => { s with loops := s.loops + 1 }
  let a ← read
  modify fun s => { s with loops := s.loops - 1 }
  return a

def simple (depth : Nat) : Parse Statement := do
  let optional : Parse (Option Expr) := do
    if ← isFinished then return none else return some (← expression depth false)
  match ← peekWord with
  | "print" =>
    skip
    let (es, sink) ← printed depth
    return .print es sink
  | "printf" =>
    skip
    let (es, sink) ← printed depth
    if es.isEmpty then unexpected
    return .printFormat es sink
  | "break" =>
    skip
    if (← get).loops = 0 then fault "break statement outside of loop"
    return .breakLoop
  | "continue" =>
    skip
    if (← get).loops = 0 then fault "continue statement outside of loop"
    return .continueLoop
  | "next" =>
    skip
    if !(← get).mayGoOn then fault "improper use of next"
    return .nextRecord
  | "nextfile" =>
    skip
    if !(← get).mayGoOn then fault "improper use of nextfile"
    return .nextFile
  | "exit" =>
    skip
    return .exit (← optional)
  | "return" =>
    skip
    if !(← get).isFunction then fault "return outside function body"
    return .result (← optional)
  | "delete" =>
    skip
    match ← peek with
    | some (.name s) =>
      skip
      let name ← nameOf s
      if ← accept "[" then
        let keys ← expressions depth false
        expect "]"
        return .delete name keys
      else return .delete name []
    | _ => unexpected
  | _ => return .expression (← expression depth false)

mutual

def statement (depth : Nat) : Parse Statement := do
  match depth with
  | 0 => fault "statement too deep"
  | depth + 1 =>
    let condition : Parse Expr := do
      expect "("
      skipLines
      let e ← expression depth false
      skipLines
      expect ")"
      return e
    let sign ← peekSign
    if sign == "\x7b" then
      skip
      return .block (← statements depth)
    else if sign == ";" then
      skip
      return .block []
    else
      match ← peekWord with
      | "if" =>
        skip
        let c ← condition
        skipLines
        let yes ← statement depth
        let before ← get
        skipLines
        if (← peekWord) == "else" then
          skip
          skipLines
          return .branch c yes (← statement depth)
        else
          set before
          return .branch c yes (.block [])
      | "while" =>
        skip
        let c ← condition
        skipLines
        return .whileLoop c (← looped (statement depth))
      | "do" =>
        skip
        skipLines
        let body ← looped (statement depth)
        skipEnds
        if (← peekWord) != "while" then unexpected
        skip
        let c ← condition
        finish
        return .doLoop body c
      | "for" =>
        skip
        expect "("
        match ← loopHead? with
        | some (k, t) =>
          skipLines
          return .forEach (← nameOf k) (← nameOf t) (← looped (statement depth))
        | none =>
          let start ← if (← peekSign) == ";" then pure (.block []) else simple depth
          expect ";"
          skipLines
          let c ← if (← peekSign) == ";" then pure none else some <$> expression depth false
          expect ";"
          skipLines
          let step ← if (← peekSign) == ")" then pure (.block []) else simple depth
          expect ")"
          skipLines
          return .forLoop start c step (← looped (statement depth))
      | _ =>
        let s ← simple depth
        finish
        return s

def statements (depth : Nat) : Parse (List Statement) := do
  match depth with
  | 0 => fault "statement too deep"
  | depth + 1 =>
    skipEnds
    match ← peek with
    | none => throw ⟨(← get).lastLine, "missing \x7d near end of file".toList⟩
    | some (.sign "\x7d") =>
      skip
      return []
    | _ =>
      let first ← statement depth
      return first :: (← statements depth)

end

/-! ### Programs -/

def action (depth : Nat) : Parse Statement := do
  expect "\x7b"
  return .block (← statements depth)

def argumentNames : Nat → Parse (List String)
  | 0 => return []
  | n + 1 => do
    skipLines
    match ← peek with
    | some (.name s) =>
      skip
      let _ ← accept ","
      return s :: (← argumentNames n)
    | _ => return []

def function (depth : Nat) : Parse Function := do
  let name ← match ← peek with
    | some (.name s) | some (.functionName s) => pure s
    | _ => unexpected
  skip
  expect "("
  let arguments ← argumentNames (← get).tokens.length
  expect ")"
  skipLines
  modify fun s => { s with arguments, isFunction := true }
  let body ← action depth
  modify fun s => { s with arguments := [], isFunction := false }
  return { name, count := arguments.length, body }

def item (depth : Nat) (p : Program) : Parse Program := do
  let outside : Parse Statement := do
    skip
    modify fun s => { s with mayGoOn := false }
    let a ← action depth
    modify fun s => { s with mayGoOn := true }
    return a
  match ← peekWord with
  | "BEGIN" => return { p with before := p.before ++ [← outside] }
  | "END" => return { p with after := p.after ++ [← outside] }
  | "function" =>
    skip
    return { p with functions := p.functions ++ [← function depth] }
  | _ =>
    let sign ← peekSign
    if sign == "\x7d" then
      skip
      fault "extra '\x7d'"
    let pattern ←
      if sign == "\x7b" then pure .always
      else do
        let first ← expression depth false
        if ← accept "," then
          skipLines
          pure (.range first (← expression depth false))
        else pure (.where_ first)
    let body ← if (← peekSign) == "\x7b" then action depth else do
      match ← peek with
      | none | some .newline | some (.sign ";") => pure (.print [] none)
      | _ => unexpected
    return { p with rules := p.rules ++ [{ pattern, action := body }] }

def items (depth : Nat) : Nat → Program → Parse Program
  | 0, p => return p
  | n + 1, p => do
    skipEnds
    match ← peek with
    | none => return p
    | some _ => items depth n (← item depth p)

end Parse

/-- Read a program. -/
def Program.read (o : Octets) : Except Fault Program := do
  let tokens ← tokens o
  let depth := 20 * tokens.length + 100
  let start : Reading := { tokens, lastLine := o.count '\n' + 1 }
  let (p, s) ← (Parse.items depth (tokens.length + 1) {}).run start
  match s.calls.find? fun name => !(p.functions.any fun f => f.name == name) with
  | some name => .error ⟨s.lastLine, ("function " ++ name ++ " never defined").toList⟩
  | none => return p

end Interpolation.Shell.Utility.Awk
