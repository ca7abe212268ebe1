import Interpolation.Shell.Calendar.Reading
import Interpolation.Shell.Utility.Files

/-!
# Dates

A time is the present one, that of a file or a written one, and it is printed by a format.
-/

namespace Interpolation.Shell.Utility

namespace Date

def isoFormats : List (String × String) :=
  [("hours", "%Y-%m-%dT%H%:z"), ("minutes", "%Y-%m-%dT%H:%M%:z"), ("date", "%Y-%m-%d"),
    ("seconds", "%Y-%m-%dT%H:%M:%S%:z"), ("ns", "%Y-%m-%dT%H:%M:%S,%N%:z")]

def plainFormats : List (String × String) :=
  [("date", "%Y-%m-%d"), ("seconds", "%Y-%m-%d %H:%M:%S%:z"),
    ("ns", "%Y-%m-%d %H:%M:%S.%N%:z")]

def known : Known :=
  { name := "date", letters := "d:f:I::r:Rs:u", hidden := "P:D"
    words := [("date", 'd'), ("file", 'f'), ("iso-8601", 'I'), ("reference", 'r'),
      ("rfc-email", 'R'), ("rfc-822", 'R'), ("rfc-2822", 'R'), ("rfc-3339", 'P'), ("set", 's'),
      ("utc", 'u'), ("uct", 'u'), ("universal", 'u'), ("resolution", 'D')] }

def formatOf (option : String) (formats : List (String × String)) (word : Octets) :
    Except (Exec Nat) Octets :=
  let near := formats.filter fun (name, _) => word.isPrefixOf name.toList
  match near with
  | [(_, format)] => .ok format.toList
  | _ =>
    match formats.lookup (String.ofList word) with
    | some format => .ok format.toList
    | none => .error (misuseOf known option.toList word (formats.map Prod.fst))

def optionFormat? (found : Given) : Except (Exec Nat) (Option Octets) :=
  match found.filter fun (c, _) => "IRP".toList.contains c with
  | [] => .ok none
  | [('R', _)] => .ok (some "%a, %d %b %Y %H:%M:%S %z".toList)
  | [('I', word)] =>
    if word.isEmpty then .ok (some "%Y-%m-%d".toList)
    else (formatOf "--iso-8601" isoFormats word).map some
  | [(_, word)] => (formatOf "--rfc-3339" plainFormats word).map some
  | _ => .error (refuse "date" "multiple output formats specified".toList)

def say (zone : Zone) (format : Octets) (time : Int) : Exec Unit :=
  Exec.printLine ((Calendar.ofTime zone time).format zone format)

def sayWritten (zone : Zone) (format written : Octets) : Exec Bool := do
  match Calendar.read? zone (← Exec.now) written with
  | some time =>
    say zone format time
    return true
  | none =>
    complain "date" ("invalid date ".toList ++ quote written)
    return false

end Date

/-- Print a date. -/
def date : Utility :=
  withOptions Date.known fun _ found operands => do
    let zone ← if has found 'u' then pure {} else zone
    let sources := found.filter fun (c, _) => "dfrD".toList.contains c
    let kinds := (sources.map Prod.fst).eraseDups
    match Date.optionFormat? found with
    | .error complaint => complaint
    | .ok chosen =>
      if 1 < kinds.length then
        misuse Date.known
          "the options to specify dates for printing are mutually exclusive".toList
      else
        match operands with
        | _ :: more :: _ => tooMany Date.known more
        | operands =>
          let (format, plain) : Option Octets × Option Octets := match operands with
            | ('+' :: format) :: _ => (some format, none)
            | plain :: _ => (none, some plain)
            | [] => (none, none)
          match plain with
          | some plain =>
            if kinds.isEmpty then refuse "date" ("invalid date ".toList ++ quote plain)
            else
              misuse Date.known ("the argument ".toList ++ quote plain ++
                (" lacks a leading '+';\nwhen using an option to specify date(s), any " ++
                "non-option\nargument must be a format string beginning with '+'").toList)
          | none =>
            if chosen.isSome && format.isSome then
              return ← refuse "date" "multiple output formats specified".toList
            let format := (chosen.or format).getD "%a %b %e %H:%M:%S %Z %Y".toList
            match sources.getLast? with
            | none =>
              Date.say zone format (← Exec.now)
              return 0
            | some ('D', _) =>
              Exec.printLine "0.000000001".toList
              return 0
            | some ('d', written) => return status (← Date.sayWritten zone format written)
            | some ('f', name) =>
              match ← content name with
              | .error why =>
                complainOf "date" name why
                return 1
              | .ok text => forAll (Octets.lines text) (Date.sayWritten zone format)
            | some (_, name) =>
              match ← Exec.node? true name with
              | .error why =>
                complainOf "date" name why
                return 1
              | .ok node =>
                Date.say zone format node.modified
                return 0

end Interpolation.Shell.Utility
