import Interpolation.Shell.Format

/-!
# Tokens of programs for records

A slash begins a regular expression where a value may stand, and divides behind a value. The end of
a line is a token, as it ends a statement.
-/

namespace Interpolation.Shell.Utility.Awk

inductive Token where
  | number (x : Float)
  | text (o : Octets)
  | regex (o : Octets)
  | name (s : String)
  | functionName (s : String)
  | keyword (s : String)
  | builtin (s : String)
  | sign (s : String)
  | newline
  deriving Inhabited

/-- A token with its line and its text. -/
structure Placed where
  token : Token
  line : Nat
  text : Octets
  deriving Inhabited

/-- What is wrong with a program, and the line. -/
structure Fault where
  line : Nat
  complaint : Octets

def keywords : List String :=
  ["BEGIN", "END", "function", "if", "else", "while", "for", "do", "break", "continue", "next",
    "nextfile", "exit", "return", "delete", "in", "getline", "print", "printf"]

def builtins : List String :=
  ["length", "index", "substr", "split", "match", "sub", "gsub", "sprintf", "toupper", "tolower",
    "sin", "cos", "atan2", "exp", "log", "sqrt", "int", "rand", "srand", "system", "close",
    "fflush", "systime", "mktime", "strftime"]

def signs : List String :=
  ["&&", "||", "!~", "==", "!=", "<=", ">=", ">>", "++", "--", "+=", "-=", "*=", "/=", "%=", "^=",
    "\x7b", "\x7d", "(", ")", "[", "]", ";", ",", "?", ":", "~", "!", "<", ">", "|", "=", "+", "-",
    "*", "/", "%", "^", "$"]

def Token.isValue : Token → Bool
  | .number _ | .text _ | .regex _ | .name _ | .builtin _ => true
  | .keyword s => s == "getline"
  | .sign s => [")", "]", "++", "--"].contains s
  | _ => false

def octalChar (o : Octets) : Char × Octets :=
  let digits := (o.take 3).takeWhile fun c => (Octets.digit? 8 c).isSome
  (Char.ofNat ((Octets.takeDigits 8 digits).2.1 % 256), o.drop digits.length)

def escape? (o : Octets) : Option (Char × Octets) :=
  match o with
  | [] => none
  | c :: rest =>
    if (Octets.digit? 8 c).isSome then some (octalChar o)
    else
      match c with
      | '"' | '\\' => some (c, rest)
      | 'a' => some (Char.ofNat 7, rest)
      | 'b' => some (Char.ofNat 8, rest)
      | 't' => some ('\t', rest)
      | 'n' => some ('\n', rest)
      | 'v' => some (Char.ofNat 11, rest)
      | 'f' => some (Char.ofNat 12, rest)
      | 'r' => some ('\r', rest)
      | 'x' =>
        let digits := (rest.take 2).takeWhile fun d => (Octets.digit? 16 d).isSome
        if digits.isEmpty then none
        else some (Char.ofNat (Octets.takeDigits 16 digits).2.1, rest.drop digits.length)
      | _ => none

def unescape : Nat → Octets → Octets
  | 0, o => o
  | _, [] => []
  | n + 1, '\\' :: rest =>
    match escape? rest with
    | some (c, rest) => c :: unescape n rest
    | none => '\\' :: unescape n rest
  | n + 1, c :: rest => c :: unescape n rest

def takeString : Octets → Octets → Option (Octets × Octets)
  | done, '\\' :: '\n' :: rest => takeString done rest
  | done, '\\' :: c :: rest => takeString (c :: '\\' :: done) rest
  | done, '"' :: rest => some (done.reverse, rest)
  | _, '\n' :: _ => none
  | done, c :: rest => takeString (c :: done) rest
  | _, [] => none

def takeRegex : Bool → Octets → Octets → Option (Octets × Octets)
  | inSet, done, '\\' :: '/' :: rest => takeRegex inSet ('/' :: done) rest
  | inSet, done, '\\' :: c :: rest => takeRegex inSet (c :: '\\' :: done) rest
  | false, done, '[' :: '^' :: ']' :: rest => takeRegex true ("]^[".toList ++ done) rest
  | false, done, '[' :: ']' :: rest => takeRegex true ("][".toList ++ done) rest
  | false, done, '[' :: rest => takeRegex true ('[' :: done) rest
  | true, done, ']' :: rest =>
    let isKind := match done with
      | ':' :: more => (more.dropWhile Char.isAlpha).take 2 == [':', '[']
      | _ => false
    takeRegex isKind (']' :: done) rest
  | false, done, '/' :: rest => some (done.reverse, rest)
  | _, _, '\n' :: _ => none
  | inSet, done, c :: rest => takeRegex inSet (c :: done) rest
  | _, _, [] => none

def beginning (o : Octets) : Octets :=
  o.takeWhile (· != '\n') |>.take 10

def tokensFrom : Nat → Nat → Option Token → Octets → List Placed → Except Fault (List Placed)
  | 0, _, _, _, done => .ok done.reverse
  | n + 1, line, last, o, done =>
    let put (t : Token) (text rest : Octets) : Except Fault (List Placed) :=
      tokensFrom n line (some t) rest (⟨t, line, text⟩ :: done)
    match o with
    | [] => .ok done.reverse
    | '\\' :: '\n' :: rest => tokensFrom n (line + 1) last rest done
    | '\\' :: '\r' :: '\n' :: rest => tokensFrom n (line + 1) last rest done
    | '\n' :: rest => tokensFrom n (line + 1) (some .newline) rest (⟨.newline, line, []⟩ :: done)
    | '#' :: rest => tokensFrom n line last (rest.dropWhile (· != '\n')) done
    | '"' :: rest =>
      match takeString [] rest with
      | some (text, rest) => put (.text (unescape text.length text)) ('"' :: text ++ ['"']) rest
      | none =>
        .error ⟨line, "runaway string constant \"".toList ++ beginning rest ++ " ...".toList⟩
    | c :: rest =>
      if c == ' ' || c == '\t' || c == '\r' || c.toNat = 11 || c.toNat = 12 then
        tokensFrom n line last rest done
      else if c.isDigit || (c == '.' && rest.head?.any Char.isDigit) then
        match Format.takeDecimal o with
        | some (x, rest) => put (.number x) (o.take (o.length - rest.length)) rest
        | none => put (.number 0) [c] rest
      else if Octets.beginsName c then
        let word := o.takeWhile Octets.isNameChar
        let rest := o.drop word.length
        let s := String.ofList word
        if keywords.contains s then put (.keyword s) word rest
        else if builtins.contains s then put (.builtin s) word rest
        else if rest.head? == some '(' then put (.functionName s) word rest
        else put (.name s) word rest
      else if c == '/' && !(last.any Token.isValue) then
        match takeRegex false [] rest with
        | some (text, rest) => put (.regex text) ('/' :: text ++ ['/']) rest
        | none =>
          .error ⟨line, "runaway regular expression /".toList ++ beginning rest ++ " ...".toList⟩
      else
        match signs.find? fun s => s.toList.isPrefixOf o with
        | some s => put (.sign s) s.toList (o.drop s.length)
        | none => .error ⟨line, "unexpected character ".toList ++ quoted c⟩
where
  quoted (c : Char) : Octets :=
    ['\'', c, '\'']

def tokens (o : Octets) : Except Fault (List Placed) :=
  tokensFrom (o.length + 1) 1 none o []

end Interpolation.Shell.Utility.Awk
