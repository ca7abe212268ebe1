import Interpolation.NormalPath
import Interpolation.Shell.Program

/-!
# Running shell lines

A line is run by a new shell in the directory of the host, with its environment and without input.
What the shell prints and what it complains about are kept apart, and the files stay as it leaves
them.
-/

namespace Interpolation.Shell

/-- What a shell leaves beside the files. -/
structure Finished where
  ending : Ending
  output : Octets
  errors : Octets
  elapsed : Duration

def depth : Nat :=
  40000

def environmentOf (host : Host) : List (Octets × Octets) :=
  host.environment.map fun (name, value) => (Octets.ofText name, Octets.ofBytes value)

def epoch : Int :=
  1767225600 * 1000000000

def volumeOf (tree : FileTree) : Volume :=
  Utility.furnish epoch (Volume.ofTree epoch tree)

def machineOf (host : Host) (volume : Volume) : Machine where
  process :=
    { isShell := false, streams := [(0, 0), (1, 1), (2, 2)]
      directory := Octets.ofText (NormalPath.ofText host.directory).text }
  world :=
    { volume, nextProcess := 100, epoch
      opened := #[{ target := .device .null }, { target := .pipe {} }, { target := .pipe {} }] }

def written (w : World) (key : Nat) : Octets :=
  match w.opened[key]? with
  | some { target := .pipe p, .. } => p.content
  | _ => []

def start (environment : List (Octets × Octets)) (line : Text) : Exec (Except Text Ending) := do
  if line.contains (Char.ofNat 0) then return .error "nul byte found in provided data".toList
  let path := (environment.lookup "PATH".toList).getD Lookup.defaultPath
  match ← Exec.search (some path) "sh".toList with
  | .file _ =>
    Exec.pass 1
    let run := Program.perform depth
    let process := Program.process (← Exec.ask id) "sh".toList environment
    let ending ← Exec.spawned run process do
      Exec.setStatus (← Utility.shell run ["-c".toList, Octets.ofText line])
    return .ok ending
  | .nothing "not found" => return .error (ReadError.message .notFound).toList
  | _ => return .error "Permission denied (os error 13)".toList

def run (host : Host) (line : Text) (volume : Volume) : Except Text Finished × Volume :=
  let (result, m) := start (environmentOf host) line (machineOf host volume)
  let finished (ending : Ending) : Finished :=
    ⟨ending, written m.world 1, written m.world 2, m.world.elapsed⟩
  match result with
  | .ok (.error why) => (.error why, volume)
  | .ok (.ok ending) => (.ok (finished ending), m.world.volume)
  | .error _ => (.ok (finished (.signal 11)), m.world.volume)

end Interpolation.Shell
