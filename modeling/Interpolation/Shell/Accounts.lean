import Interpolation.Shell.Octets

/-!
# Accounts

The users and the groups of a host, by name and by number.
-/

namespace Interpolation.Shell.Accounts

def users : List (String × Nat × Nat) :=
  [("root", 0, 0), ("daemon", 1, 1), ("bin", 2, 2), ("sys", 3, 3), ("sync", 4, 65534),
    ("games", 5, 60), ("man", 6, 12), ("lp", 7, 7), ("mail", 8, 8), ("news", 9, 9),
    ("uucp", 10, 10), ("proxy", 13, 13), ("www-data", 33, 33), ("backup", 34, 34),
    ("list", 38, 38), ("irc", 39, 39), ("_apt", 42, 65534), ("nobody", 65534, 65534)]

def groups : List (String × Nat) :=
  [("root", 0), ("daemon", 1), ("bin", 2), ("sys", 3), ("adm", 4), ("tty", 5), ("disk", 6),
    ("lp", 7), ("mail", 8), ("news", 9), ("uucp", 10), ("man", 12), ("proxy", 13), ("kmem", 15),
    ("dialout", 20), ("fax", 21), ("voice", 22), ("cdrom", 24), ("floppy", 25), ("tape", 26),
    ("sudo", 27), ("audio", 29), ("dip", 30), ("www-data", 33), ("backup", 34), ("operator", 37),
    ("list", 38), ("irc", 39), ("src", 40), ("shadow", 42), ("utmp", 43), ("video", 44),
    ("sasl", 45), ("plugdev", 46), ("staff", 50), ("games", 60), ("users", 100),
    ("nogroup", 65534)]

def user (n : Nat) : Octets :=
  match users.find? fun (_, m, _) => m == n with
  | some (name, _) => name.toList
  | none => Text.ofNat n

def group (n : Nat) : Octets :=
  match groups.find? fun (_, m) => m == n with
  | some (name, _) => name.toList
  | none => Text.ofNat n

def user? (name : Octets) : Option (Nat × Option Nat) :=
  match users.find? fun (n, _) => n.toList == name with
  | some (_, n, group) => some (n, some group)
  | none => (Octets.natural? name).map (·, none)

/-- The number of a group, by the name or by the number itself. -/
def group? (name : Octets) : Option Nat :=
  match groups.find? fun (n, _) => n.toList == name with
  | some (_, n) => some n
  | none => Octets.natural? name

end Interpolation.Shell.Accounts
