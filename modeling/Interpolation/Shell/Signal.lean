import Interpolation.Shell.Octets

/-!
# Signals

Signals have numbers and names. Most of them end the process that they are sent to, unless it has a
trap for them.
-/

namespace Interpolation.Shell

/-- How a process ends. -/
inductive Ending where
  | exit (code : Nat)
  | signal (number : Nat)
  deriving DecidableEq, Repr

namespace Signal

def all : List (String × String) :=
  [("HUP", "Hangup"), ("INT", "Interrupt"), ("QUIT", "Quit"), ("ILL", "Illegal instruction"),
    ("TRAP", "Trace/breakpoint trap"), ("ABRT", "Aborted"), ("BUS", "Bus error"),
    ("FPE", "Floating point exception"), ("KILL", "Killed"), ("USR1", "User defined signal 1"),
    ("SEGV", "Segmentation fault"), ("USR2", "User defined signal 2"), ("PIPE", "Broken pipe"),
    ("ALRM", "Alarm clock"), ("TERM", "Terminated"), ("STKFLT", "Stack fault"),
    ("CHLD", "Child exited"), ("CONT", "Continued"), ("STOP", "Stopped (signal)"),
    ("TSTP", "Stopped"), ("TTIN", "Stopped (tty input)"), ("TTOU", "Stopped (tty output)"),
    ("URG", "Urgent I/O condition"), ("XCPU", "CPU time limit exceeded"),
    ("XFSZ", "File size limit exceeded"), ("VTALRM", "Virtual timer expired"),
    ("PROF", "Profiling timer expired"), ("WINCH", "Window changed"), ("IO", "I/O possible"),
    ("PWR", "Power failure"), ("SYS", "Bad system call")]

def pipe : Nat :=
  13

def last : Nat :=
  64

def name? (number : Nat) : Option Text :=
  (all[number - 1]?).bind fun (name, _) => if number = 0 then none else some name.toList

def description (number : Nat) : Text :=
  match all[number - 1]? with
  | some (_, text) => text.toList
  | none => "Unknown signal ".toList ++ Text.ofNat number

def listed (number : Nat) : Text :=
  if number = 0 then "EXIT".toList
  else if number = 16 then "16".toList
  else if number = 34 then "RTMIN".toList
  else if number = 64 then "RTMAX".toList
  else if 34 < number && number < 50 then "RTMIN+".toList ++ Text.ofNat (number - 34)
  else if 50 ≤ number && number < 64 then "RTMAX-".toList ++ Text.ofNat (64 - number)
  else (name? number).getD (Text.ofNat number)

def number? (t : Text) : Option Nat :=
  match Text.digits? t with
  | some n => if n ≤ last then some n else none
  | none =>
    (List.range (last + 1)).find? fun n =>
      (listed n).map Char.toLower == t.map Char.toLower

def isHarmless (number : Nat) : Bool :=
  [0, 17, 18, 23, 28].contains number

def isFinal (number : Nat) : Bool :=
  number = 9 || number = 19

end Signal

def Ending.toText : Ending → Text
  | exit code => "exit status: ".toList ++ Text.ofNat code
  | signal number =>
    "signal: ".toList ++ Text.ofNat number ++
      match Signal.name? number with
      | some name => " (SIG".toList ++ name ++ [')']
      | none => []

def Ending.status : Ending → Nat
  | exit code => code
  | signal number => 128 + number

end Interpolation.Shell
