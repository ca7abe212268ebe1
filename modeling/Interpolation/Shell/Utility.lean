import Interpolation.Shell.Utility.Awk
import Interpolation.Shell.Utility.Blocks
import Interpolation.Shell.Utility.Calls
import Interpolation.Shell.Utility.Checksum
import Interpolation.Shell.Utility.Compare
import Interpolation.Shell.Utility.Date
import Interpolation.Shell.Utility.Difference
import Interpolation.Shell.Utility.Dump
import Interpolation.Shell.Utility.Edit
import Interpolation.Shell.Utility.Evaluate
import Interpolation.Shell.Utility.Exchange
import Interpolation.Shell.Utility.Find
import Interpolation.Shell.Utility.Join
import Interpolation.Shell.Utility.Letters
import Interpolation.Shell.Utility.Lines
import Interpolation.Shell.Utility.Order
import Interpolation.Shell.Utility.Parts
import Interpolation.Shell.Utility.Paths
import Interpolation.Shell.Utility.Printf
import Interpolation.Shell.Utility.Search
import Interpolation.Shell.Utility.Sort
import Interpolation.Shell.Utility.Transfer
import Interpolation.Shell.Utility.Units

/-!
# The utilities outside the shell

They are files that may be run. What is in such a file names the utility, so that it stays what it
is when the file has another name.
-/

namespace Interpolation.Shell.Utility

def all : List (String × Utility) :=
  [("[", bracketed), ("arch", architecture), ("awk", awk "awk"),
    ("base32", Alphabet.thirty.utility), ("base64", Alphabet.sixty.utility), ("basename", basename),
    ("bash", shell), ("cat", cat), ("chgrp", chgrp), ("chmod", chmod), ("chown", chown),
    ("cksum", cksum), ("cmp", cmp), ("comm", comm), ("cp", cp), ("cut", cut), ("dash", shell),
    ("date", date), ("dd", dd), ("diff", diff), ("dirname", dirname), ("echo", echo),
    ("egrep", egrep), ("env", env), ("expand", expand), ("expr", expr), ("factor", factor),
    ("false", constant 1), ("fgrep", fgrep), ("find", find), ("fold", fold), ("grep", grep),
    ("groups", groups), ("head", head), ("id", identity), ("install", install), ("join", join),
    ("link", link), ("ln", ln), ("logname", logname), ("ls", ls), ("mawk", awk "mawk"),
    ("mkdir", mkdir), ("mkfifo", mkfifo), ("mktemp", mktemp), ("mv", mv), ("nawk", awk "nawk"),
    ("nice", nice), ("nl", nl), ("nohup", nohup), ("numfmt", numfmt), ("od", od), ("paste", paste),
    ("pathchk", pathchk), ("printenv", printenv), ("printf", printf), ("pwd", pwd),
    ("readlink", readlink), ("realpath", realpath), ("rev", rev), ("rm", rm), ("rmdir", rmdir),
    ("sed", sed), ("seq", seq), ("setsid", setsid), ("sh", shell), ("sleep", sleep), ("sort", sort),
    ("split", split), ("stat", stat), ("stdbuf", stdbuf), ("sum", sum), ("sync", constant 0),
    ("tac", tac), ("tail", tail), ("tee", tee), ("test", test), ("timeout", timeout),
    ("touch", touch), ("tr", tr), ("true", constant 0), ("truncate", truncate), ("tsort", tsort),
    ("tty", tty), ("uname", uname), ("unexpand", unexpand), ("uniq", uniq), ("unlink", unlink),
    ("wc", wc), ("which", which), ("whoami", whoami), ("xargs", xargs), ("yes", yes)] ++
    Checksum.all.map fun k => (k.name ++ "sum", k.utility)

def mark : Octets :=
  Char.ofNat 127 :: "ELF ".toList

def ofContent? (content : Octets) : Option Utility :=
  (mark.isPrefixOf? content).bind fun name =>
    (all.find? fun (n, _) => n.toList == name).map Prod.snd

def usualFolders : List String :=
  ["/boot", "/dev", "/etc", "/home", "/media", "/mnt", "/opt", "/proc", "/root", "/run", "/srv",
    "/sys", "/tmp", "/usr", "/usr/bin", "/usr/lib", "/usr/local", "/usr/local/bin", "/usr/sbin",
    "/usr/share", "/var", "/var/tmp"]

def devices : List (String × Device) :=
  [("null", .null), ("zero", .zero), ("full", .full), ("random", .random), ("urandom", .random),
    ("tty", .terminal)]

/-- Put the utilities, the devices and the usual folders onto a volume, at a time. -/
def furnish (now : Int) (v : Volume) : Volume :=
  let steps (path : String) : List Octets := Volume.steps path.toList
  let v := usualFolders.foldl (fun v path => (Volume.makeFolders now v 0 (steps path)).2) v
  let v := ["bin", "sbin", "lib"].foldl (fun v name =>
    v.put now (steps name) 0o777 (.link ("usr/" ++ name).toList)) v
  let v := devices.foldl (fun v (name, d) =>
    v.put now (steps ("/dev/" ++ name)) 0o666 (.device d)) v
  let v := [("stdin", "0"), ("stdout", "1"), ("stderr", "2")].foldl (fun v (name, number) =>
    v.put now (steps ("/dev/" ++ name)) 0o777 (.link ("/proc/self/fd/" ++ number).toList)) v
  all.foldl (fun v (name, _) =>
    v.put now (steps ("/usr/bin/" ++ name)) 0o755 (.file (mark ++ name.toList))) v

end Interpolation.Shell.Utility
