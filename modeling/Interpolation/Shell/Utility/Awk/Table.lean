import Std.Data.HashMap
import Interpolation.Shell.Utility.Awk.Value

/-!
# Tables

A table has values by keys. Its keys are kept in rows by a number that is made of their characters;
a key that is used moves to the front of its row, and the keys are gone through row by row. Keys
that have been used as whole numbers only have rows of their own until the table is gone through.
-/

namespace Interpolation.Shell.Utility.Awk

structure Table where
  values : Std.HashMap String Value := {}
  names : Array (List Octets) := Array.replicate 64 []
  numbers : Array (List Int) := Array.replicate 64 []
  isNamed : Bool := false
  isRow : Bool := false

namespace Table

def hash (key : Octets) : UInt32 :=
  key.foldl (fun h c => (h ^^^ c.toNat.toUInt32) * 16777619) 2166136261

def size (t : Table) : Nat :=
  t.values.size

def has (t : Table) (key : Octets) : Bool :=
  t.values.contains (String.ofList key)

def valueOf (t : Table) (key : Octets) : Value :=
  (t.values.get? (String.ofList key)).getD .unset

def put (t : Table) (key : Octets) (v : Value) : Table :=
  { t with values := t.values.insert (String.ofList key) v }

def nameRow (t : Table) (key : Octets) : Nat :=
  (hash key).toNat % t.names.size

def numberRow (t : Table) (n : Int) : Nat :=
  (n % t.numbers.size).toNat

def raiseName (t : Table) (key : Octets) : Table :=
  { t with names := t.names.modify (t.nameRow key) fun row => key :: row.erase key }

def raiseNumber (t : Table) (n : Int) : Table :=
  { t with numbers := t.numbers.modify (t.numberRow n) fun row => n :: row.erase n }

def rowsFor (size : Nat) : Nat → Nat → Nat
  | 0, rows => rows
  | n + 1, rows => if 12 * rows < size then rowsFor size n (2 * rows) else rows

def loosen (t : Table) : Table :=
  if t.isRow then
    let rows := rowsFor t.size 60 64
    (List.range t.size).foldl (fun t i => t.raiseNumber (i + 1 : Nat))
      { t with
        names := Array.replicate rows [], numbers := Array.replicate rows [], isRow := false }
  else t

def nameAll (t : Table) : Table :=
  let t := t.loosen
  if t.isNamed then t
  else
    t.numbers.foldl (fun t row => row.foldl (fun t n => t.raiseName (Text.ofInt n)) t)
      { t with isNamed := true }

def grow (t : Table) : Table :=
  let old := t.names.size
  if t.size ≤ 12 * old then t
  else
    let split {α : Type} (rows : Array (List α)) (place : α → Nat) : Array (List α) :=
      let moved (isMoved : Bool) : Array (List α) := rows.mapIdx fun i row =>
        row.filter fun a => (place a != i) == isMoved
      moved false ++ moved true
    { t with
      names := split t.names fun key => (hash key).toNat % (2 * old)
      numbers := split t.numbers fun n => (n % (2 * old : Nat)).toNat }

def useName (t : Table) (key : Octets) (creates : Bool) : Table :=
  let t := t.nameAll
  if t.has key then t.raiseName key
  else if creates then
    (grow (t.put key .unset)).raiseName key
  else t

def useNumber (t : Table) (n : Int) (creates : Bool) : Table :=
  if t.isRow && 1 ≤ n && n ≤ t.size then t
  else
    let t := t.loosen
    if (t.numbers.getD (t.numberRow n) []).contains n then t.raiseNumber n
    else
      let key := Text.ofInt n
      let t :=
        if t.isNamed then t.useName key creates
        else if creates then grow (t.put key .unset)
        else t
      if t.has key then t.raiseNumber n else t

/-- A key by its text, or by its number if it is whole. -/
inductive Key where
  | name (o : Octets)
  | number (n : Int)

def Key.text : Key → Octets
  | name o => o
  | number n => Text.ofInt n

def Key.ofValue (format : Octets) : Value → Key
  | .number x =>
    match whole? x with
    | some n => number n
    | none => name (numberText format x)
  | v => name (v.toText format)

def use (t : Table) (key : Key) (creates : Bool) : Table :=
  if t.size = 0 && !creates then t
  else
    match key with
    | .name o => t.useName o creates
    | .number n => t.useNumber n creates

def get (t : Table) (key : Key) : Value × Table :=
  let t := t.use key true
  (t.valueOf key.text, t)

def insert (t : Table) (key : Key) (v : Value) : Table :=
  (t.use key true).put key.text v

def contains (t : Table) (key : Key) : Bool × Table :=
  let t := t.use key false
  (t.has key.text, t)

def erase (t : Table) (key : Key) : Table :=
  let text := key.text
  if !t.has text then t.use key false
  else
    let t := t.loosen
    let t := match key with
      | .name _ => t.nameAll
      | .number _ => t
    let values := t.values.erase (String.ofList text)
    if values.isEmpty then {}
    else
      let numbers := match Octets.integer? text with
        | some n => t.numbers.modify (t.numberRow n) fun row => row.erase n
        | none => t.numbers
      { t with values, numbers, names := t.names.modify (t.nameRow text) fun row => row.erase text }

def ofList (values : List Value) : Table :=
  if values.isEmpty then {}
  else
    { values := (values.zipIdx 1).foldl (fun all (v, i) => all.insert (Nat.repr i) v) {}
      isRow := true }

def keys (t : Table) : List Octets × Table :=
  if t.size = 0 then ([], t)
  else
    let t := t.nameAll
    (t.names.toList.flatten, t)

end Table

end Interpolation.Shell.Utility.Awk
