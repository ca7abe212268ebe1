import Interpolation.Shell.Regex

/-!
# Programs for records

A program has rules: a pattern selects records, and an action is run for them. Actions may be run
before the first record and behind the last one, and may be given names.
-/

namespace Interpolation.Shell.Utility.Awk

/-- A name: that of the whole program, or an argument of a function by its place. -/
inductive Name where
  | shared (name : String)
  | own (index : Nat)
  deriving DecidableEq, Repr, Inhabited

/-- What is done with two numbers. -/
inductive Operation where
  | add
  | subtract
  | multiply
  | divide
  | remainder
  | power
  deriving DecidableEq, Repr

/-- How two values are compared. -/
inductive Relation where
  | less
  | atMost
  | equal
  | different
  | more
  | atLeast
  deriving DecidableEq, Repr

/-- Where a record is read from. -/
inductive Origin where
  | main
  | file
  | command
  deriving DecidableEq, Repr

inductive Expr where
  | number (x : Float)
  | text (o : Octets)
  | regex (r : Regex)
  | variable_ (name : Name)
  | field (index : Expr)
  | element (table : Name) (keys : List Expr)
  | assign (place : Expr) (operation : Option Operation) (value : Expr)
  | count (isBefore isUp : Bool) (place : Expr)
  | calculate (operation : Operation) (left right : Expr)
  | plus (e : Expr)
  | minus (e : Expr)
  | negate (e : Expr)
  | conjunction (left right : Expr)
  | disjunction (left right : Expr)
  | choose (condition yes no : Expr)
  | compare (relation : Relation) (left right : Expr)
  | matches_ (isNegated : Bool) (left right : Expr)
  | concatenate (left right : Expr)
  | isKey (keys : List Expr) (table : Name)
  | call (function : String) (arguments : List Expr)
  | builtin (name : String) (arguments : List Expr)
  | readRecord (origin : Origin) (source : List Expr) (place : List Expr)
  | tuple (es : List Expr)
  deriving Inhabited

inductive Sink where
  | file (appends : Bool)
  | command
  deriving DecidableEq, Repr

inductive Statement where
  | expression (e : Expr)
  | print (arguments : List Expr) (sink : Option (Sink × Expr))
  | printFormat (arguments : List Expr) (sink : Option (Sink × Expr))
  | block (body : List Statement)
  | branch (condition : Expr) (yes no : Statement)
  | whileLoop (condition : Expr) (body : Statement)
  | doLoop (body : Statement) (condition : Expr)
  | forLoop (start : Statement) (condition : Option Expr) (step body : Statement)
  | forEach (name : Name) (table : Name) (body : Statement)
  | breakLoop
  | continueLoop
  | nextRecord
  | nextFile
  | exit (status : Option Expr)
  | result (value : Option Expr)
  | delete (table : Name) (keys : List Expr)
  deriving Inhabited

inductive Pattern where
  | always
  | where_ (e : Expr)
  | range (first last : Expr)

structure Rule where
  pattern : Pattern
  action : Statement

structure Function where
  name : String
  count : Nat
  body : Statement

structure Program where
  functions : List Function := []
  before : List Statement := []
  rules : List Rule := []
  after : List Statement := []

end Interpolation.Shell.Utility.Awk
