import Interpolation.Shell.Machine

/-!
# Streams

The numbers of a process lead to open streams, which processes share. Writing to a pipe is free up
to its allowance; a writer that goes beyond it is stopped, as its reader may not want more. A reader
that wants more of such a pipe is stopped as well, and may be given more another time.
-/

namespace Interpolation.Shell.Exec

/-- The open stream of a key. -/
def opened? (key : Nat) : Exec (Option Opened) := do
  return (← observe World.opened)[key]?

def stream? (number : Nat) : Exec (Option (Nat × Opened)) := do
  let m ← get
  return do
    let key ← m.process.streams.lookup number
    let opened ← m.world.opened[key]?
    some (key, opened)

/-- Change what an open stream leads to. -/
def setTarget (key : Nat) (opened : Opened) (target : Target) : Exec Unit :=
  affect fun w => { w with opened := w.opened.setIfInBounds key { opened with target } }

def openTarget (opened : Opened) : Exec Nat := do
  let key := (← observe World.opened).size
  affect fun w => { w with opened := w.opened.push opened }
  return key

/-- Let a number of the process lead to an open stream. -/
def connect (number key : Nat) : Exec Unit :=
  change fun p =>
    { p with streams := (number, key) :: p.streams.filter fun (n, _) => n != number }

def disconnect (number : Nat) : Exec Unit :=
  change fun p => { p with streams := p.streams.filter fun (n, _) => n != number }

/-! ### Writing -/

def overwrite (content : Octets) (offset : Nat) (bytes : Octets) : Octets :=
  let gap := List.replicate (offset - content.length) (Char.ofNat 0)
  content.take offset ++ gap ++ bytes ++ content.drop (offset + bytes.length)

def contentOf (node : Nat) : Exec Octets := do
  match (← observe World.volume).body? node with
  | some (.file content) | some (.queue content) => return content
  | _ => return []

def setContent (node : Nat) (content : Octets) : Exec Unit := do
  let time ← stamp
  affect fun w =>
    { w with
      volume := w.volume.modify node fun n =>
        { n with body := .file content, modified := time, changed := time } }

def writePipe (key : Nat) (opened : Opened) (p : Pipe) (o : Octets) :
    Exec (Option FileError) := do
  let size := p.size + o.length
  let isCut := p.isCut || p.allowance.any (· < size)
  let back := if p.isCut then p.back else o :: p.back
  setTarget key opened (.pipe { p with back, size, isCut })
  if !isCut then return none
  else if (← ask Process.traps).lookup Signal.pipe == some [] then return some .brokenPipe
  else throw (.unread key)

/-- Write to a stream of a key; the result is why it does not take what is written. -/
def writeKey (key : Nat) (o : Octets) : Exec (Option FileError) := do
  match ← opened? key with
  | none => return some .badStream
  | some opened =>
    if !opened.isWritable then return some .badStream
    if o.isEmpty then return none
    match opened.target with
    | .device .full => return some .noSpace
    | .device _ => return none
    | .folder _ => return some .badStream
    | .pipe p => writePipe key opened p o
    | .queue node =>
      affect fun w =>
        { w with
          volume := w.volume.modify node fun n =>
            match n.body with
            | .queue content => { n with body := .queue (content ++ o) }
            | _ => n }
      return none
    | .file node offset appends =>
      let content ← contentOf node
      let offset := if appends then content.length else offset
      setContent node (if offset = content.length then content ++ o else overwrite content offset o)
      setTarget key opened (.file node (offset + o.length) appends)
      return none

/-- Write to a stream; the result is why it does not take what is written. -/
def write (number : Nat) (o : Octets) : Exec (Option FileError) := do
  match (← ask Process.streams).lookup number with
  | none => return some .badStream
  | some key => writeKey key o

/-! ### Reading -/

/-- How much of what is at hand a reader takes; nothing if that hangs on what follows. -/
abbrev Wanted := Octets → Option Nat

def everything : Wanted :=
  fun _ => none

def upTo (n : Nat) : Wanted :=
  fun at_hand => if n ≤ (at_hand.take n).length then some n else none

def takeDevice (key : Nat) (d : Device) (wanted : Wanted) : Nat → Nat → Exec Octets
  | 0, _ => throw (.starved key)
  | fuel + 1, size => do
    let block := d.bytes size
    match wanted block with
    | some n => return block.take n
    | none => takeDevice key d wanted fuel (8 * size)

/-- Take what is wanted of the stream at a key. -/
def takeKey (key : Nat) (wanted : Wanted) : Exec (Except FileError Octets) := do
  match ← opened? key with
  | none => return .error .badStream
  | some opened =>
    if !opened.isReadable then return .error .badStream
    match opened.target with
    | .device d =>
      if d.isEndless then return .ok (← takeDevice key d wanted 4 4096) else return .ok []
    | .folder _ => return .error .isFolder
    | .pipe p =>
      let content := p.content
      match wanted content with
      | some n =>
        setTarget key opened (.pipe { p with front := content.drop n, back := [] })
        return .ok (content.take n)
      | none =>
        if p.isCut then throw (.starved key)
        setTarget key opened (.pipe { p with front := [], back := [] })
        return .ok content
    | .queue node =>
      let content ← contentOf node
      let n := (wanted content).getD content.length
      affect fun w =>
        { w with
          volume := w.volume.modify node fun m => { m with body := .queue (content.drop n) } }
      return .ok (content.take n)
    | .file node offset appends =>
      let rest := (← contentOf node).drop offset
      let taken := match wanted rest with
        | some n => rest.take n
        | none => rest
      setTarget key opened (.file node (offset + taken.length) appends)
      return .ok taken

/-- Take what is wanted of a stream. -/
def takeFrom (number : Nat) (wanted : Wanted) : Exec (Except FileError Octets) := do
  match (← ask Process.streams).lookup number with
  | none => return .error .badStream
  | some key => takeKey key wanted

def wholeLines (o : Octets) : Octets :=
  let rest := o.reverse.dropWhile (· != '\n')
  if rest.isEmpty then o else rest.reverse

/-- Take what is at hand of the stream at a key. If its writer has more to write, the process cannot
come to its end. -/
def takeReady (key : Nat) : Exec (Except FileError Octets) := do
  match ← opened? key with
  | some { target := .pipe { isCut := true, .. }, .. } =>
    change fun p => { p with starving := some key }
    takeKey key fun at_hand => some (wholeLines at_hand).length
  | some { target := .device d, .. } =>
    if d.isEndless then
      change fun p => { p with starving := some key }
      takeKey key (upTo (← observe World.allowance))
    else return .ok []
  | _ => takeKey key everything

/-! ### Printing -/

def print (o : Octets) : Exec Unit := do
  match ← write 1 o with
  | none => return
  | some why => if !o.isEmpty then change fun p => { p with lost := some why }

def printLine (o : Octets) : Exec Unit :=
  print (o ++ ['\n'])

def complainLine (o : Octets) : Exec Unit := do
  let _ ← write 2 (o ++ ['\n'])

/-- Complain in the name of the shell, with the line and the utility that runs. -/
def complain (o : Octets) : Exec Unit := do
  let p ← ask id
  let utility := match p.utility with
    | some name => name ++ ": ".toList
    | none => []
  complainLine (p.name ++ ": ".toList ++ Text.ofNat p.line ++ ": ".toList ++ utility ++ o)

def fail {α : Type} (o : Octets) : Exec α := do
  complain o
  setStatus 2
  throw .failed

end Interpolation.Shell.Exec
