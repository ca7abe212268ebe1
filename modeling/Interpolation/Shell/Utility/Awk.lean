import Interpolation.Shell.Utility.Awk.Grammar
import Interpolation.Shell.Utility.Awk.Running

/-!
# Programs for records as a utility

The program is an argument, or it is in files. The other arguments are files with records, and names
that get values when it is their turn.
-/

namespace Interpolation.Shell.Utility

namespace Awk

structure Request where
  settings : List (String × Octets) := []
  sources : List Octets := []

def Request.take (r : Request) (option : Char) (argument : Octets) : Except Octets Request :=
  match option with
  | 'F' =>
    let separator := unescape argument.length argument
    match if separator.length < 2 then .ok .nothing else readRegex separator with
    | .ok _ => .ok { r with settings := r.settings ++ [("FS", separator)] }
    | .error why =>
      let complaint := "line 0: regular expression compile failed (" ++ why ++ ")\n"
      .error (complaint.toList ++ separator)
  | 'v' =>
    match Run.assignment? argument with
    | some setting => .ok { r with settings := r.settings ++ [setting] }
    | none => .error ("improper assignment: -v ".toList ++ argument)
  | _ => .ok { r with sources := r.sources ++ [argument] }

def readOptions (r : Request) : List Octets → Except Octets (Request × List Octets)
  | ['-', '-'] :: rest => .ok (r, rest)
  | ('-' :: c :: text) :: rest =>
    if !(['F', 'v', 'f'].contains c) then
      .error ("not an option: ".toList ++ ('-' :: c :: text))
    else
      match text, rest with
      | [], argument :: rest => do readOptions (← r.take c argument) rest
      | [], [] => .error ("option -".toList ++ c :: " lacks argument".toList)
      | text, rest => do readOptions (← r.take c text) rest
  | rest => .ok (r, rest)

def asksVersion (arguments : List Octets) : Bool :=
  ["--version", "-Wversion", "-Wv", "-W"].any fun s => arguments.head? == some s.toList

def version : List String :=
  ["mawk 1.3.4 20200120", "", "random-funcs:       srandom/random", "regex-funcs:        internal",
    "compiled limits:", "sprintf buffer      8192", "maximum-integer     2147483647"]

def usualNames : List (String × Value) :=
  [("FS", .text [' ']), ("OFS", .text [' ']), ("RS", .text ['\n']), ("ORS", .text ['\n']),
    ("NR", .number 0), ("FNR", .number 0), ("SUBSEP", .text [Char.ofNat 28]),
    ("CONVFMT", .text "%.6g".toList), ("OFMT", .text "%.6g".toList), ("RSTART", .number 0),
    ("RLENGTH", .number (-1))]

def State.start (arguments : List Octets) (environment : List (Octets × Octets)) : State :=
  let ofArguments : Table := arguments.zipIdx.foldl (fun t (o, i) =>
    t.insert (.number i) (.input o)) {}
  let ofEnvironment : Table := environment.foldl (fun t (name, o) =>
    t.insert (.name name) (.input o)) {}
  let usual := usualNames.map fun (name, v) => (name, Slot.scalar v)
  let others := [("ARGC", Slot.scalar (.ofNat arguments.length)), ("ARGV", .table 0),
    ("ENVIRON", .table 1)]
  { shared := (usual ++ others).foldl (fun all (name, slot) => all.insert name slot) {}
    tables := #[ofArguments, ofEnvironment] }

def textOfSources : List Octets → Exec (Except Octets Octets)
  | [] => return .ok []
  | name :: rest => do
    match ← content name with
    | .error why =>
      return .error ("cannot open ".toList ++ name ++ " (".toList ++ why.message ++ [')'])
    | .ok text =>
      return (← textOfSources rest).map fun more => text ++ '\n' :: more

def runProgram (run : Runner) (name : String) (p : Program) (settings : List (String × Octets))
    (operands : List Octets) : Exec Nat := do
  let functions := p.functions.foldl (fun all f => all.insert f.name f) {}
  let c : Context := { run, functions, call := Run.callUpTo run functions 1000 }
  let body : Run Unit := do
    for (name, o) in settings do Run.Place.write (.variable_ (.shared name)) (.input o)
    Run.program c p
  let start := State.start (name.toList :: operands) (← Exec.environment)
  let (ending, s) ← (body.run).run start
  let isFine ← match ending with
    | .error (.fault complaint tellsRecord) => do
      let place : Run Octets := do
        return "\n\tFILENAME=\"".toList ++ (← Run.plainText "FILENAME") ++ "\" FNR=".toList ++
          (← Run.plainText "FNR") ++ " NR=".toList ++ (← Run.plainText "NR")
      let about : Octets := match ← (place.run).run s with
        | (.ok o, _) => if tellsRecord then o else []
        | _ => []
      let kind := if tellsRecord then "run time error: " else ""
      Exec.complainLine ((name ++ ": " ++ kind).toList ++ complaint ++ about)
      let _ ← ((Run.closeAll run).run).run s
      pure false
    | _ => pure true
  if s.input.isSome then Exec.change fun here => { here with starving := none }
  return if isFine then s.status else 2

end Awk

/-- Run a program for the records of files. -/
def awk (name : String) : Utility := fun run arguments => do
  let refuse (complaint : Octets) : Exec Nat := do
    Exec.complainLine (name.toList ++ ": ".toList ++ complaint)
    return 2
  if Awk.asksVersion arguments then
    Awk.version.forM fun line => Exec.printLine line.toList
    return 0
  match Awk.readOptions {} arguments with
  | .error complaint => refuse complaint
  | .ok (request, rest) =>
    match request.sources, rest with
    | [], [] => return 0
    | [], program :: operands => start run refuse request (program ++ ['\n']) operands
    | sources, operands =>
      match ← Awk.textOfSources sources with
      | .error complaint => refuse complaint
      | .ok program => start run refuse request program operands
where
  start (run : Runner) (refuse : Octets → Exec Nat) (request : Awk.Request)
      (program : Octets) (operands : List Octets) : Exec Nat :=
    match Awk.Program.read program with
    | .error fault =>
      refuse ("line ".toList ++ Text.ofNat fault.line ++ ": ".toList ++ fault.complaint)
    | .ok p => Awk.runProgram run name p request.settings operands

end Interpolation.Shell.Utility
