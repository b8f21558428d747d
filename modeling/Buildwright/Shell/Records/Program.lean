-- SUMMARY: Programs on records: rules that tell for which records something is done, statements and expressions.
import Buildwright.Shell.Regex

/-!
# Programs on records

A program reads records, which consist of fields. Its rules say for which records something is done.
Variables hold numbers, texts or tables, and functions have parameters, which are the only local variables.
-/
namespace Buildwright.Shell.Records

/-- A variable of the program, or the parameter of a function with a number. -/
inductive Variable where
  | global (x : String)
  | parameter (n : Nat)
  deriving DecidableEq, Inhabited

/-- An operator on two numbers. -/
inductive Arithmetic where
  | add | subtract | multiply | divide | remainder | power
  deriving DecidableEq

/-- A comparison of two values. -/
inductive Comparison where
  | less | atMost | equal | unequal | atLeast | greater
  deriving DecidableEq

/-- A function that every program has. -/
inductive Function where
  /-- Of texts. -/
  | length | index | substring | split | lower | upper | format
  /-- Of texts and regular expressions. -/
  | find | substitute | substituteAll
  /-- Of numbers. -/
  | sine | cosine | arctangent | exponential | logarithm | root | truncate
  /-- Of chance. -/
  | random | seed
  /-- Of what is outside of the program. -/
  | command | close | flush
  /-- Of times in seconds since the epoch. -/
  | now | timeText | timeOf
  deriving DecidableEq

namespace Function

/-- The names of functions, with the least and the greatest number of their arguments. -/
def names : List (String × Function × Nat × Nat) :=
  [("length", .length, 0, 1), ("index", .index, 2, 2), ("substr", .substring, 2, 3),
    ("split", .split, 2, 3), ("tolower", .lower, 1, 1), ("toupper", .upper, 1, 1),
    ("sprintf", .format, 1, 255), ("match", .find, 2, 2), ("sub", .substitute, 2, 3),
    ("gsub", .substituteAll, 2, 3), ("sin", .sine, 1, 1), ("cos", .cosine, 1, 1),
    ("atan2", .arctangent, 2, 2), ("exp", .exponential, 1, 1), ("log", .logarithm, 1, 1),
    ("sqrt", .root, 1, 1), ("int", .truncate, 1, 1), ("rand", .random, 0, 0), ("srand", .seed, 0, 1),
    ("system", .command, 1, 1), ("close", .close, 1, 1), ("fflush", .flush, 0, 1),
    ("systime", .now, 0, 0), ("strftime", .timeText, 0, 3),
    ("mktime", .timeOf, 1, 2)]

end Function

mutual

/-- What can be given a value. -/
inductive Place where
  | variable (x : Variable)
  /-- What a table holds for subscripts. -/
  | element (x : Variable) (subscripts : List Expr)
  /-- The field with a number; number zero is the record. -/
  | field (n : Expr)

/-- Where records are read from. -/
inductive Source where
  | input
  | file (name : Expr)
  /-- The output of a command. -/
  | command (text : Expr)

/-- An expression. -/
inductive Expr where
  | number (x : Float)
  | text (s : String)
  /-- A regular expression; as a value, it tells whether it describes a part of the record. -/
  | regex (r : Regex)
  | value (p : Place)
  /-- An expression in parentheses, which cannot be given a value. -/
  | grouped (e : Expr)
  | assign (p : Place) (op : Option Arithmetic) (e : Expr)
  /-- Adds one, or takes one away; the value is the one before or after it. -/
  | step (p : Place) (up : Bool) (before : Bool)
  | negate (e : Expr)
  | plus (e : Expr)
  | not (e : Expr)
  | arithmetic (op : Arithmetic) (a b : Expr)
  | join (a b : Expr)
  | compare (op : Comparison) (a b : Expr)
  /-- Whether a regular expression describes a part of a text. -/
  | fits (text pattern : Expr)
  | both (a b : Expr)
  | either (a b : Expr)
  | choice (condition yes no : Expr)
  /-- Whether a table holds anything for subscripts. -/
  | holds (x : Variable) (subscripts : List Expr)
  | apply (f : Function) (arguments : List Expr)
  | call (f : String) (arguments : List Expr)
  /-- Reads a record, into a place if one is given; the value tells whether there was one. -/
  | read (s : Source) (into : Option Place)

end

instance : Inhabited Expr := ⟨.text ""⟩

/-- Where output goes. -/
inductive Target where
  | output
  | file (name : Expr)
  /-- The end of a file. -/
  | append (name : Expr)
  /-- The input of a command. -/
  | command (text : Expr)

/-- A statement. -/
inductive Statement where
  | expression (e : Expr)
  | print (es : List Expr) (target : Target)
  | printFormat (es : List Expr) (target : Target)
  | block (ss : List Statement)
  | choice (condition : Expr) (yes : Statement) (no : Option Statement)
  /-- Does a statement as long as a condition holds, each time with what comes behind it. -/
  | loop (condition : Option Expr) (body : Statement) (behind : Option Statement)
  | loopOnce (body : Statement) (condition : Expr)
  /-- Does a statement for each key of a table. -/
  | each (x table : Variable) (body : Statement)
  | delete (table : Variable) (subscripts : Option (List Expr))
  | leaveLoop
  | nextRound
  | nextRecord
  | nextFile
  | exit (status : Option Expr)
  | back (e : Option Expr)
  deriving Inhabited

/-- When the action of a rule is taken. -/
inductive Occasion where
  | beginning
  | ending
  | always
  | when (condition : Expr)
  /-- From one record to another. -/
  | between (first last : Expr)

/-- A rule; without an action, it writes the record. -/
structure Rule where
  occasion : Occasion
  action : Option (List Statement)

/-- A function of a program. -/
structure Procedure where
  parameters : Nat
  body : List Statement

/-- A program. -/
structure Program where
  rules : List Rule := []
  procedures : List (String × Procedure) := []

end Buildwright.Shell.Records
