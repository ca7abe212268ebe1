import Interpolation.Shell.Lookup
import Interpolation.Shell.Utility.Quoting

/-!
# Options of utilities outside the shell

Options may stand before and behind other arguments. They are letters behind a minus sign or words
behind two of them; two minus signs alone end the options. A complaint begins with the name of the
utility.
-/

namespace Interpolation.Shell

/-- A utility outside the shell: it runs other things by the first argument, and its result is its
status. -/
abbrev Utility := Runner → List Octets → Exec Nat

namespace Utility

/-- The options that a utility knows: letters, each with a colon if it takes an argument and two if
it may take one, and words that stand for letters. -/
structure Known where
  name : String
  letters : String := ""
  hidden : String := ""
  words : List (String × Char) := []
  anywhere : Bool := true
  hasNumbers : Bool := false
  wrong : Nat := 1
  usage : List String := []
  hintIsNamed : Bool := false

/-- The last step of a path. -/
def nameOf (path : Octets) : Octets :=
  let bare := Text.dropTrailing '/' path
  if bare.isEmpty then path.take 1 else (bare.reverse.takeWhile (· != '/')).reverse

def calledName (name : String) : Exec Octets := do
  let p ← Exec.ask id
  return if !p.isShell && nameOf p.name == name.toList then p.name else name.toList

/-- Complain in the name of a utility. -/
def complain (name : String) (complaint : Octets) : Exec Unit := do
  Exec.complainLine ((← calledName name) ++ ": ".toList ++ complaint)

def complainOf (name : String) (path : Octets) (why : FileError) : Exec Unit :=
  complain name (shown path ++ ": ".toList ++ why.message)

def helpPlace (name : Octets) : Octets :=
  "Try '".toList ++ name ++ " --help' for more information.".toList

def hint (name : String) : Exec Unit := do
  Exec.complainLine (helpPlace (← calledName name))

def Known.hint (known : Known) : Exec Unit := do
  if known.hintIsNamed then complain known.name (helpPlace (← calledName known.name))
  else Utility.hint known.name

def tooMany (known : Known) (operand : Octets) : Exec Nat := do
  complain known.name ("extra operand ".toList ++ quote operand)
  known.hint
  return known.wrong

def misuse (known : Known) (complaint : Octets) : Exec Nat := do
  complain known.name complaint
  for line in known.usage do Exec.complainLine line.toList
  known.hint
  return known.wrong

/-- Complain about a word that is none of those that may be given, or begins several of them. -/
def misuseOf (known : Known) (option word : Octets) (names : List String) : Exec Nat := do
  let near := names.filter fun name => word.isPrefixOf name.toList
  let kind := if 1 < near.length then "ambiguous" else "invalid"
  complain known.name
    (kind.toList ++ " argument ".toList ++ quote word ++ " for ".toList ++ quote option)
  Exec.complainLine "Valid arguments are:".toList
  for name in names do Exec.complainLine ("  - ".toList ++ quote name.toList)
  known.hint
  return known.wrong

/-- Options that have been given, in their order, with their arguments. -/
abbrev Given := List (Char × Octets)

inductive Taking where
  | nothing
  | argument
  | maybe
  deriving DecidableEq

def taking? (c : Char) (letters : String) : Option Taking :=
  if c == ':' then none
  else (Text.cutFirst c letters.toList).map fun (_, rest) =>
    match rest with
    | ':' :: ':' :: _ => .maybe
    | ':' :: _ => .argument
    | _ => .nothing

structure Reading where
  found : Given := []
  operands : List Octets := []
  letters : Octets := []
  rest : List Octets

def wordOf (known : Known) (name word : Octets) : Except Octets (String × Char) :=
  let near := known.words.filter fun (w, _) => name.isPrefixOf w.toList
  match near.find? fun (w, _) => w.toList == name with
  | some found => .ok found
  | none =>
    match near with
    | [] => .error ("unrecognized option '--".toList ++ word ++ ['\''])
    | first :: rest =>
      if rest.all fun (_, c) => c == first.2 then .ok first
      else
        .error ("option '--".toList ++ word ++ "' is ambiguous; possibilities:".toList ++
          near.flatMap fun (w, _) => " '--".toList ++ w.toList ++ ['\''])

/-- The options and the other arguments of a call, or a complaint. -/
def read (known : Known) (arguments : List Octets) : Except Octets (Given × List Octets) :=
  let total := Text.total (arguments.map fun a => a.length + 1) + 1
  go total ⟨[], [], [], arguments⟩
where
  go : Nat → Reading → Except Octets (Given × List Octets)
    | 0, r => .ok (r.found.reverse, r.operands.reverse)
    | n + 1, r =>
      match r.letters, r.rest with
      | c :: letters, rest =>
        match taking? c known.letters, letters, rest with
        | none, _, _ => .error ("invalid option -- '".toList ++ [c, '\''])
        | some .nothing, _, _ => go n { r with found := (c, []) :: r.found, letters }
        | some .argument, [], [] =>
          .error ("option requires an argument -- '".toList ++ [c, '\''])
        | some .argument, [], argument :: rest =>
          go n { r with found := (c, argument) :: r.found, letters := [], rest }
        | some _, argument, _ =>
          go n { r with found := (c, argument) :: r.found, letters := [] }
      | [], [] => .ok (r.found.reverse, r.operands.reverse)
      | [], ['-', '-'] :: rest => .ok (r.found.reverse, r.operands.reverse ++ rest)
      | [], ('-' :: '-' :: word) :: rest => do
        let (name, value) := match Text.cutFirst '=' word with
          | some (name, value) => (name, some value)
          | none => (word, none)
        let (w, c) ← wordOf known name word
        match (taking? c (known.letters ++ known.hidden)).getD .nothing, value, rest with
        | .nothing, some _, _ =>
          .error ("option '--".toList ++ w.toList ++ "' doesn't allow an argument".toList)
        | .argument, none, value :: rest =>
          go n { r with found := (c, value) :: r.found, rest }
        | .argument, none, [] =>
          .error ("option '--".toList ++ w.toList ++ "' requires an argument".toList)
        | _, value, rest => go n { r with found := (c, value.getD []) :: r.found, rest }
      | [], ('-' :: c :: letters) :: rest =>
        if known.hasNumbers && (c.isDigit || c == '.') then
          .ok (r.found.reverse, r.operands.reverse ++ ('-' :: c :: letters) :: rest)
        else go n { r with letters := c :: letters, rest }
      | [], operand :: rest =>
        if known.anywhere then go n { r with operands := operand :: r.operands, rest }
        else .ok (r.found.reverse, r.operands.reverse ++ operand :: rest)

/-- A utility that reads its options first. -/
def withOptions (known : Known) (body : Runner → Given → List Octets → Exec Nat) : Utility :=
  fun run arguments => do
    match read known arguments with
    | .error complaint => misuse known complaint
    | .ok (found, operands) => body run found operands

def withOperands (known : Known) (missing : String)
    (body : Runner → Given → List Octets → Exec Nat) : Utility :=
  withOptions known fun run found operands =>
    if operands.isEmpty then misuse known missing.toList else body run found operands

def has (found : Given) (c : Char) : Bool :=
  found.any fun (d, _) => d == c

/-- The argument of an option; of several the last one counts. -/
def argument? (found : Given) (c : Char) : Option Octets :=
  (found.reverse.find? fun (d, _) => d == c).map Prod.snd

/-- The last given one of some options. -/
def lastOf (found : Given) (letters : String) : Option (Char × Octets) :=
  found.reverse.find? fun (c, _) => letters.toList.contains c

def openInput (name : Octets) : Exec (Except FileError Nat) := do
  if name == ['-'] then
    match (← Exec.ask Process.streams).lookup 0 with
    | some key => return .ok key
    | none => return .error .badStream
  else Exec.openPath name .reading

/-- All of a file or of the input. -/
def content (name : Octets) : Exec (Except FileError Octets) := do
  match ← openInput name with
  | .ok key => Exec.takeKey key Exec.everything
  | .error why => return .error why

/-- What is at hand of a file or of the input, for utilities that need not see all of it before they
print. -/
def flow (name : Octets) : Exec (Except FileError Octets) := do
  match ← openInput name with
  | .ok key => Exec.takeReady key
  | .error why => return .error why

/-- The operands, or the input if there are none. -/
def inputs (operands : List Octets) : List Octets :=
  if operands.isEmpty then [['-']] else operands

def gather (name : String) (readOne : Octets → Exec (Except FileError Octets))
    (operands : List Octets) : Exec (List (Octets × Octets) × Bool) :=
  (inputs operands).foldlM (fun (texts, isFine) operand => do
    match ← readOne operand with
    | .ok text => return (texts ++ [(operand, text)], isFine)
    | .error why =>
      complainOf name operand why
      return (texts, false)) ([], true)

def contents (name : String) (operands : List Octets) : Exec (List (Octets × Octets) × Bool) :=
  gather name content operands

/-- The status of a call that went well or not. -/
def status (isFine : Bool) : Nat :=
  if isFine then 0 else 1

def refuse (name : String) (complaint : Octets) : Exec Nat := do
  complain name complaint
  return 1

/-- Do something for each operand; the result says whether all went well. -/
def forAll (operands : List Octets) (act : Octets → Exec Bool) : Exec Nat := do
  let results ← operands.mapM act
  return status (results.all id)

def inside (folder name : Octets) : Octets :=
  if folder.getLast? == some '/' then folder ++ name else folder ++ '/' :: name

def call (run : Runner) (name : String) (about : Octets → Octets) (words : List Octets) :
    Exec Nat := do
  let w := words.headD []
  let fault (status : Nat) (why : FileError) : Exec Nat := do
    complain name (about w ++ ": ".toList ++ why.message)
    return status
  let found ←
    if w.contains '/' then pure (Found.file w)
    else Exec.search ((← Exec.value? "PATH".toList).getD Lookup.defaultPath) w
  let path := match found with
    | .file path => path
    | _ => []
  let isDenied := match found with
    | .nothing "Permission denied" => !w.isEmpty
    | _ => false
  if isDenied then return ← fault 126 .denied
  match ← Exec.refusal? path with
  | some (status, _) => fault status (if status = 126 then .denied else .notFound)
  | none =>
    let here ← Exec.ask id
    let result ← Exec.attempt (run (.utility path words))
    let after ← Exec.ask Process.status
    Exec.change fun _ => here
    Exec.resume result
    return after

end Utility

end Interpolation.Shell
