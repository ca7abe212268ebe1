import Interpolation.Shell.Utility.Files

/-!
# Paths

These utilities cut paths, follow their links, and say where they lead from another path or whether
they could be used elsewhere.
-/

namespace Interpolation.Shell.Utility

/-! ### Steps -/

def dropSlashes (o : Octets) : Octets :=
  Text.dropTrailing '/' o

def lastStep (o : Octets) : Octets :=
  (o.reverse.takeWhile (· != '/')).reverse

def baseOf (path ending : Octets) : Octets :=
  let bare := dropSlashes path
  let name := if bare.isEmpty then path.take 1 else lastStep bare
  if ending.isSuffixOf name && ending != name then name.take (name.length - ending.length)
  else name

def basename : Utility :=
  let known : Known :=
    { name := "basename", letters := "as:z", anywhere := false
      words := [("multiple", 'a'), ("suffix", 's'), ("zero", 'z')] }
  withOptions known fun _ found operands => do
    let last := if has found 'z' then [Char.ofNat 0] else ['\n']
    let say (path ending : Octets) : Exec Unit := Exec.print (baseOf path ending ++ last)
    match operands with
    | [] => misuse known "missing operand".toList
    | path :: rest =>
      if has found 'a' || has found 's' then
        for path in operands do say path ((argument? found 's').getD [])
        return 0
      else
        match rest with
        | [] => do
          say path []
          return 0
        | [ending] => do
          say path ending
          return 0
        | _ :: extra :: _ => misuse known ("extra operand ".toList ++ quote extra)

def folderOf (path : Octets) : Octets :=
  let bare := dropSlashes path
  let front := bare.take (bare.length - (lastStep bare).length)
  if front.isEmpty then if bare.isEmpty && !path.isEmpty then ['/'] else ['.']
  else if (dropSlashes front).isEmpty then ['/']
  else dropSlashes front

def dirname : Utility :=
  let known : Known := { name := "dirname", letters := "z", words := [("zero", 'z')] }
  withOptions known fun _ found operands => do
    if operands.isEmpty then misuse known "missing operand".toList
    else
      let last := if has found 'z' then [Char.ofNat 0] else ['\n']
      for path in operands do Exec.print (folderOf path ++ last)
      return 0

/-! ### Where paths lead -/

inductive Presence where
  | none
  | allButLast
  | all
  deriving DecidableEq

def asksFolder (rest : List Octets) : Bool :=
  match rest with
  | step :: _ => step == ['.'] || step == ['.', '.']
  | [] => false

def canonicalSteps (v : Volume) (presence : Presence) (follows : Bool) :
    Nat → Nat → Octets → List Octets → Except FileError Octets
  | 0, _, done, _ => .ok done
  | _ + 1, _, done, [] => .ok (if done.isEmpty then ['/'] else done)
  | fuel + 1, links, done, step :: rest =>
    if step == ['.'] then canonicalSteps v presence follows fuel links done rest
    else if step == ['.', '.'] then
      canonicalSteps v presence follows fuel links (dropLastStep done) rest
    else
      let path := done ++ '/' :: step
      let isLast := rest.all (· == ['.'])
      let next := canonicalSteps v presence follows fuel links path rest
      let check (found : Except FileError Place) : Except FileError Unit :=
        match found with
        | .ok { node := some n, .. } =>
          if asksFolder rest && !v.isFolder n then .error .notFolder else .ok ()
        | .ok _ => .error .notFound
        | .error why => .error why
      let allowed (result : Except FileError Unit) : Bool :=
        match result with
        | .ok () => true
        | .error why => presence == .none ||
            (presence == .allButLast && why == .notFound && isLast)
      let target : Option Octets := match v.locate false path with
        | .ok { node := some n, .. } =>
          match v.body? n with
          | some (.link target) => if follows then some target else none
          | _ => none
        | _ => none
      match target, links with
      | some _, 0 => if presence == .none then next else .error .endlessLinks
      | some target, links + 1 =>
        let start := if target.head? == some '/' then [] else done
        canonicalSteps v presence follows fuel links start (Volume.steps target ++ rest)
      | none, _ =>
        let result :=
          if follows || asksFolder rest then check (v.locate true path)
          else if rest.isEmpty then check (v.locate true path)
          else .ok ()
        match allowed result, result with
        | false, .error why => .error why
        | _, _ => next
where
  dropLastStep (path : Octets) : Octets :=
    ((path.reverse.dropWhile (· != '/')).drop 1).reverse

def canonical (presence : Presence) (follows : Bool) (path : Octets) :
    Exec (Except FileError Octets) := do
  if path.isEmpty then return .error .notFound
  let whole ← Exec.absolute path
  let v ← Exec.observe World.volume
  let steps := Volume.steps whole
  return canonicalSteps v presence follows (steps.length + 300 * Volume.mostLinks) Volume.mostLinks
    [] steps

def isInside (folder path : Octets) : Bool :=
  (Volume.steps folder).isPrefixOf (Volume.steps path)

def realpathKnown : Known :=
  { name := "realpath", letters := "emqszLP", hidden := "R:B:"
    words := [("canonicalize-existing", 'e'), ("canonicalize-missing", 'm'), ("quiet", 'q'),
      ("strip", 's'), ("no-symlinks", 's'), ("zero", 'z'), ("logical", 'L'), ("physical", 'P'),
      ("relative-to", 'R'), ("relative-base", 'B')] }

def presenceOf (found : Given) (letters : String) : Presence :=
  match lastOf found letters with
  | some ('e', _) => .all
  | some ('m', _) => .none
  | _ => .allButLast

def realpath : Utility :=
  withOperands realpathKnown "missing operand" fun _ found operands => do
    let presence := presenceOf found "em"
    let mode := (lastOf found "sLP").map Prod.fst
    let canon (path : Octets) : Exec (Except FileError Octets) := do
      match mode with
      | some 's' => canonical presence false path
      | some 'L' =>
        match ← canonical presence false path with
        | .ok path => canonical presence true path
        | .error why => return .error why
      | _ => canonical presence true path
    let anchor (path : Octets) : Exec (Option Octets) := do
      match ← canon path with
      | .ok place =>
        if presence == .all && !(← Exec.isFolder place) then
          complainOf "realpath" path .notFolder
          return none
        return some place
      | .error why =>
        complainOf "realpath" path why
        return none
    let base := argument? found 'B'
    let start := (argument? found 'R').or base
    let mut from_ : Option Octets := none
    let mut limit : Option Octets := none
    if let some path := start then
      match ← anchor path with
      | some place => from_ := some place
      | none => return 1
    if let some path := base then
      match ← anchor path with
      | some place =>
        limit := some place
        if !(from_.any fun f => isInside place f) then from_ := none
      | none => return 1
    let last := if has found 'z' then Char.ofNat 0 else '\n'
    forAll operands fun operand => do
      match ← canon operand with
      | .error why =>
        if !has found 'q' then complainOf "realpath" operand why
        return false
      | .ok path =>
        let shownPath := match from_ with
          | some f => if limit.all fun l => isInside l path then pathBetween f path else path
          | none => path
        Exec.print (shownPath ++ [last])
        return true

def readlinkKnown : Known :=
  { name := "readlink", letters := "efmnqsvz"
    words := [("canonicalize", 'f'), ("canonicalize-existing", 'e'), ("canonicalize-missing", 'm'),
      ("no-newline", 'n'), ("quiet", 'q'), ("silent", 's'), ("verbose", 'v'), ("zero", 'z')] }

def readlink : Utility :=
  withOperands readlinkKnown "missing operand" fun _ found operands => do
    let isWordy := (lastOf found "qsv").any fun (c, _) => c == 'v'
    let last :=
      if has found 'n' && operands.length = 1 then []
      else if has found 'z' then [Char.ofNat 0] else ['\n']
    if has found 'n' && 1 < operands.length then
      complain "readlink" "ignoring --no-newline with multiple arguments".toList
    forAll operands fun operand => do
      let result ←
        if (lastOf found "fem").isSome then canonical (presenceOf found "fem") true operand
        else
          match ← Exec.node? false operand with
          | .ok { body := .link target, .. } => pure (.ok target)
          | .ok _ => pure (.error .invalid)
          | .error why => pure (.error why)
      match result with
      | .ok path =>
        Exec.print (path ++ last)
        return true
      | .error why =>
        if isWordy then complainOf "readlink" operand why
        return false

/-! ### Paths for elsewhere -/

def isPortable (c : Char) : Bool :=
  c.isAlphanum || "._-/".toList.contains c

def pathFault? (isBasic isExtra : Bool) (path : Octets) : Exec (Option Octets) := do
  let steps := (path.splitOn '/').filter fun s => !s.isEmpty
  let limit (n length : Nat) (what : String) (name : Octets) : Octets :=
    "limit ".toList ++ Text.ofNat n ++ " exceeded by length ".toList ++ Text.ofNat length ++
      " of file name ".toList ++ what.toList ++ name
  if isExtra && steps.any fun s => s.head? == some '-' then
    return some ("leading '-' in a component of file name ".toList ++ shellQuote path)
  if (isBasic || isExtra) && path.isEmpty then return some "empty file name".toList
  let isThere ←
    if isBasic then pure false
    else
      match ← Exec.find? false path with
      | .ok _ => pure true
      | .error why =>
        if why != .notFound || path.isEmpty then
          return some (shown path ++ ": ".toList ++ why.message)
        pure false
  if isBasic then
    if let some c := path.find? fun c => !isPortable c then
      return some ("nonportable character ".toList ++ quote [c] ++ " in file name ".toList ++
        shellQuote path)
    if 256 ≤ path.length then return some (limit 255 path.length "" (shellQuote path))
  else if !isThere && 4096 ≤ path.length then
    return some (limit 4095 path.length "" (shellQuote path))
  if isBasic || !isThere then
    let most := if isBasic then 14 else 255
    if let some step := steps.find? fun s => most < s.length then
      return some (limit most step.length "component " (quote step))
  return none

/-- Check whether paths can be used. -/
def pathchk : Utility :=
  let known : Known :=
    { name := "pathchk", letters := "pP", hidden := "B", words := [("portability", 'B')] }
  withOperands known "missing operand" fun _ found operands =>
    forAll operands fun path => do
      match ← pathFault? (has found 'p' || has found 'B') (has found 'P' || has found 'B') path with
      | none => return true
      | some why =>
        complain "pathchk" why
        return false

end Interpolation.Shell.Utility
