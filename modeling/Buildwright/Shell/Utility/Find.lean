-- SUMMARY: Looking for entries below directories, and doing something with those that are found.
import Buildwright.Shell.Regex.Reader
import Buildwright.Shell.Utility.Listing

/-!
# Finding entries

A search is an expression of tests and of things to do, which is evaluated for each entry below some
paths. Without a thing to do, the paths of the entries that pass the tests are written.
-/
namespace Buildwright.Shell.Utility

open Shell.Action

/-- A bound on a number: more than, less than, or just so many. -/
structure Bound where
  sign : Ordering
  n : Nat

namespace Bound

/-- Whether a number keeps to a bound. -/
def admits (b : Bound) (k : Nat) : Bool := compare k b.n == b.sign

/-- The bound that a text writes. -/
def ofText? (s : String) : Option Bound :=
  match s.toList with
  | '+' :: cs => (Text.digits? cs).map (⟨.gt, ·⟩)
  | '-' :: cs => (Text.digits? cs).map (⟨.lt, ·⟩)
  | cs => (Text.digits? cs).map (⟨.eq, ·⟩)

end Bound

/-- What is asked of an entry, or done with it. -/
inductive Search where
  | always (holds : Bool)
  | both (a b : Search)
  | either (a b : Search)
  | inverse (a : Search)
  /-- The first one for what it does, the second one for what it says. -/
  | after (a b : Search)
  | name (p : NamePattern) (ignoresCase : Bool)
  | path (p : NamePattern) (ignoresCase : Bool)
  | linkName (p : NamePattern)
  | pattern (r : Regex) (ignoresCase : Bool)
  | kinds (letters : List Char)
  | size (b : Bound) (unit : Nat)
  | empty
  | newer (time : Int)
  | age (b : Bound) (seconds : Nat)
  | executable
  | mode (text : String)
  | links (b : Bound)
  | print (ending : String)
  | printf (format : String)
  | run (number : Nat) (command : List String) (together : Bool) (inside : Bool)
  | delete
  | prune
  | quit

namespace Search

/-- Whether a search does anything. -/
def acts : Search → Bool
  | both a b | either a b | after a b => a.acts || b.acts
  | inverse a => a.acts
  | print _ | printf _ | run _ _ _ _ | delete | quit => true
  | _ => false

/-- Whether a search removes entries. -/
def deletes : Search → Bool
  | both a b | either a b | after a b => a.deletes || b.deletes
  | inverse a => a.deletes
  | delete => true
  | _ => false

/-- The commands of a search that run once for all entries. -/
def batches : Search → List (Nat × List String)
  | both a b | either a b | after a b => a.batches ++ b.batches
  | inverse a => a.batches
  | run n command true _ => [(n, command)]
  | _ => []

/-! ## Reading -/

/-- A search that is being read: what is left, where to look, and how many commands there are. -/
structure Draft where
  rest : List String
  least : Nat := 0
  most : Option Nat := none
  depthFirst : Bool := false
  commands : Nat := 0

/-- Reads a search; a failure says what is wrong. -/
abbrev Reader := EStateM String Draft

namespace Reader

/-- The next argument, which stays where it is. -/
def peek : Reader (Option String) := do
  return (← get).rest.head?

/-- Takes the next argument. -/
def advance : Reader Unit :=
  modify fun s => { s with rest := s.rest.drop 1 }

/-- Takes the argument of a test. -/
def argument (test : String) : Reader String := do
  match (← get).rest with
  | a :: rest =>
    modify fun s => { s with rest }
    return a
  | [] => throw ("missing argument to \x60" ++ test ++ "'")

/-- Takes a number that is an argument. -/
def count (test : String) : Reader Nat := do
  let a ← argument test
  match number? a with
  | some n => return n
  | none => throw ("Expected a positive decimal integer argument to " ++ test ++ ", but got " ++ quoted a)

/-- Takes a bound that is an argument. -/
def bound (test : String) : Reader Bound := do
  let a ← argument test
  match Bound.ofText? a with
  | some b => return b
  | none => throw ("invalid argument \x60" ++ a ++ "' to \x60" ++ test ++ "'")

/-- Takes the bound on a size, with its unit. -/
def sizeBound (test : String) : Reader Search := do
  let a ← argument test
  let units : List (Char × Nat) :=
    [('c', 1), ('w', 2), ('b', 512), ('k', 1024), ('M', 1048576), ('G', 1073741824)]
  let (digits, unit) :=
    match a.toList.reverse with
    | c :: cs =>
      match units.lookup c with
      | some unit => (String.ofList cs.reverse, unit)
      | none => (a, 512)
    | [] => (a, 512)
  match Bound.ofText? digits with
  | some b => return .size b unit
  | none => throw ("Invalid argument \x60" ++ a ++ "' to " ++ test)

/-- Takes a command up to its end, and tells whether it runs once for all entries. -/
def command (test : String) : Nat → List String → Reader (List String × Bool)
  | 0, _ => throw ("missing argument to \x60" ++ test ++ "'")
  | n + 1, taken => do
    match (← get).rest with
    | [] => throw ("missing argument to \x60" ++ test ++ "'")
    | a :: rest =>
      modify fun s => { s with rest }
      if a == ";" then return (taken.reverse, false)
      else if a == "+" && taken.head? == some "\x7b\x7d" then return (taken.reverse, true)
      else command test n (a :: taken)

/-- Takes a regular expression. -/
def regex (ignoresCase : Bool) (test : String) : Reader Search := do
  match Regex.read { extended := false } (← argument test) with
  | .ok (r, _) => return .pattern r ignoresCase
  | .error message => throw message

/-- Takes the kinds that an argument names. -/
def kindsOf : Reader Search := do
  let a ← argument "-type"
  let letters := a.toList.filter (· != ',')
  match letters.find? fun c => !(['b', 'c', 'd', 'p', 'f', 'l', 's'].contains c) with
  | some c => throw ("Unknown argument to -type: " ++ String.singleton c)
  | none =>
    if letters.isEmpty then throw "Arguments to -type should contain at least one letter"
    return .kinds letters

/-- Takes the number of a new command. -/
def newCommand : Reader Nat := do
  let s ← get
  set { s with commands := s.commands + 1 }
  return s.commands

/-- Takes a test or a thing to do, of which the name has been taken. -/
def test (d : Disk) (name : String) : Reader Search := do
  let pattern : Reader NamePattern := do return NamePattern.ofText (← argument name)
  match name with
  | "-name" => return .name (← pattern) false
  | "-iname" => return .name (← pattern) true
  | "-path" | "-wholename" => return .path (← pattern) false
  | "-ipath" | "-iwholename" => return .path (← pattern) true
  | "-lname" => return .linkName (← pattern)
  | "-regex" => regex false name
  | "-iregex" => regex true name
  | "-type" => kindsOf
  | "-size" => sizeBound name
  | "-empty" => return .empty
  | "-true" => return .always true
  | "-false" => return .always false
  | "-readable" | "-writable" => return .always true
  | "-executable" => return .executable
  | "-perm" => return .mode (← argument name)
  | "-links" => return .links (← bound name)
  | "-user" | "-group" => return .always ((← argument name) == "root")
  | "-newer" =>
    let a ← argument name
    match d.modifiedAt (pathOf a) with
    | .ok t => return .newer t
    | .error e => throw (quoted a ++ ": " ++ wording e)
  | "-mtime" | "-ctime" | "-atime" => return .age (← bound name) 86400
  | "-mmin" | "-cmin" | "-amin" => return .age (← bound name) 60
  | "-maxdepth" =>
    let n ← count name
    modify fun s => { s with most := some n }
    return .always true
  | "-mindepth" =>
    let n ← count name
    modify fun s => { s with least := n }
    return .always true
  | "-depth" | "-d" =>
    modify fun s => { s with depthFirst := true }
    return .always true
  | "-mount" | "-xdev" | "-noleaf" | "-daystart" | "-follow" | "-warn" | "-nowarn"
  | "-ignore_readdir_race" => return .always true
  | "-regextype" =>
    let _ ← argument name
    return .always true
  | "-print" => return .print "\n"
  | "-print0" => return .print "\x00"
  | "-printf" => return .printf (← argument name)
  | "-exec" | "-execdir" | "-ok" | "-okdir" =>
    let (words, together) ← command name ((← get).rest.length + 1) []
    if words.isEmpty then throw ("missing argument to \x60" ++ name ++ "'")
    return .run (← newCommand) words together (name == "-execdir")
  | "-delete" =>
    modify fun s => { s with depthFirst := true }
    return .delete
  | "-prune" => return .prune
  | "-quit" => return .quit
  | _ =>
    if Text.beginsWith "-" name then throw ("unknown predicate \x60" ++ name ++ "'")
    else throw ("paths must precede expression: \x60" ++ name ++ "'")

mutual

/-- Takes searches of which the last one counts. -/
def list (d : Disk) : Nat → Reader Search
  | 0 => throw "invalid expression"
  | n + 1 => do
    let a ← alternatives d n
    if (← peek) == some "," then
      advance
      return .after a (← list d n)
    else return a

/-- Takes searches of which one has to hold. -/
def alternatives (d : Disk) : Nat → Reader Search
  | 0 => throw "invalid expression"
  | n + 1 => do
    let a ← conjunction d n
    match ← peek with
    | some "-o" | some "-or" =>
      advance
      return .either a (← alternatives d n)
    | _ => return a

/-- Takes searches that have to hold together. -/
def conjunction (d : Disk) : Nat → Reader Search
  | 0 => throw "invalid expression"
  | n + 1 => do
    let a ← single d n
    match ← peek with
    | none | some ")" | some "-o" | some "-or" | some "," => return a
    | some "-a" | some "-and" =>
      advance
      return .both a (← conjunction d n)
    | some _ => return .both a (← conjunction d n)

/-- Takes a single search. -/
def single (d : Disk) : Nat → Reader Search
  | 0 => throw "invalid expression"
  | n + 1 => do
    match ← peek with
    | none => throw "invalid expression; you have used a binary operator with nothing before it."
    | some a =>
      advance
      match a with
      | "(" =>
        let s ← list d n
        if (← peek) == some ")" then
          advance
          return s
        else
          throw ("invalid expression; expected to find a ')' but didn't see one. " ++
            "Perhaps you need an extra predicate after '('")
      | "!" | "-not" => return .inverse (← single d n)
      | _ => test d a

end

end Reader

/-- The search that arguments write, and where it looks. -/
def ofArguments (d : Disk) (arguments : List String) : Except String (Search × Draft) :=
  if arguments.isEmpty then .ok (.always true, { rest := [] })
  else
    match Reader.list d (4 * arguments.length + 8) { rest := arguments } with
    | .ok s draft =>
      if draft.rest.isEmpty then .ok (s, draft)
      else .error "invalid expression; you have too many ')'"
    | .error message _ => .error message

/-! ## Evaluating -/

/-- What a search has come to: the entries for the commands that run once, the last first, whether the
    entry at hand is not entered, whether the search has ended, and the exit code. -/
structure Finding where
  batch : List (Nat × String) := []
  pruned : Bool := false
  ended : Bool := false
  status : Nat := 0

/-- A search at work. -/
abbrev Finder := StateT Finding Action

/-- An entry that a search has come to: its path, the path from which the search began, its place, and
    how deep it lies. -/
structure Found where
  path : String
  start : String
  place : Location
  entry : Entry
  depth : Nat

/-- What a letter behind a percent sign shows of an entry that is found. -/
def field (d : Disk) (x : Found) : Char → String
  | 'p' => x.path
  | 'f' => lastName x.path
  | 'h' => if x.path.toList.contains '/' then directoryOf x.path else "."
  | 'P' => if x.depth == 0 then "" else Text.dropLeading '/' ((Text.after? x.start x.path).getD x.path)
  | 'H' => x.start
  | 'd' => toString x.depth
  | 'y' => if kindOfEntry x.entry == '-' then "f" else String.singleton (kindOfEntry x.entry)
  | 'm' => modeOfEntry x.entry
  | 'M' => statField d x.path x.entry 'A'
  | 'l' =>
    match x.entry with
    | .link target => Text.toBytewise target.text
    | _ => ""
  | 'u' | 'g' => "root"
  | 'U' | 'G' => "0"
  | 'n' => "1"
  | c => statField d x.path x.entry c

/-- Runs a command; that it is not there is reported. -/
def runCommand (c : Call) (command : List String) : Action Nat := do
  match ← c.run command with
  | .ok status => return status
  | .error e => c.fail (quoted (command.headD "") ++ ": " ++ e.wording)

/-- Runs a command for an entry. -/
def runFor (c : Call) (command : List String) (path : String) : Action Nat :=
  runCommand c (command.map fun a => a.replace "\x7b\x7d" path)

/-- Whether a mode asks for bits that an entry has. -/
def hasMode (mode : String) (e : Entry) : Bool :=
  let own := modeOfEntry e
  let bits (s : String) : List Nat := s.toList.map fun c => c.toNat - '0'.toNat
  let overlap (all : Bool) (s : String) : Bool :=
    let s := String.ofList (s.toList.reverse.take 3).reverse
    let pairs := (bits s).zip (bits own)
    if all then pairs.all fun (a, b) => a &&& b == a else pairs.any fun (a, b) => a &&& b != 0
  match mode.toList with
  | '-' :: cs =>
    if cs.all Char.isDigit then overlap true (String.ofList cs)
    else !cs.contains 'x' || own.toList.head? == some '7'
  | '/' :: cs =>
    if cs.all Char.isDigit then overlap false (String.ofList cs)
    else !cs.contains 'x' || own.toList.head? == some '7'
  | _ => Text.dropLeading '0' mode == own

/-- Evaluates a search for an entry. -/
def holds (c : Call) (x : Found) : Search → Finder Bool
  | always b => return b
  | both a b => do if ← holds c x a then holds c x b else return false
  | either a b => do if ← holds c x a then return true else holds c x b
  | inverse a => do return !(← holds c x a)
  | after a b => do
    let _ ← holds c x a
    holds c x b
  | name p fold => return describes p fold (lastName x.path)
  | path p fold => return describes p fold x.path
  | linkName p =>
    match x.entry with
    | .link target => return describes p false (Text.toBytewise target.text)
    | _ => return false
  | pattern r ignoresCase =>
    let t : Regex.Subject := { chars := x.path.toList.toArray, ignoresCase }
    return (Regex.matchAt? t r 0).any fun (j, _) => j == t.chars.size
  | kinds letters =>
    let kind := kindOfEntry x.entry
    return letters.contains (if kind == '-' then 'f' else kind)
  | size b unit => return b.admits ((sizeOfEntry x.entry + unit - 1) / unit)
  | empty =>
    match x.entry with
    | .file f => return f.content.size == 0
    | .directory _ => return ((← disk).entriesIn x.place).isEmpty
    | _ => return false
  | newer time => do return decide (time < timeOfEntry (← disk) x.entry)
  | age b seconds => do
    let d ← disk
    return b.admits (((d.now - timeOfEntry d x.entry) / 1000000000).toNat / seconds)
  | executable =>
    match x.entry with
    | .file f => return f.executable
    | _ => return true
  | mode text => return hasMode text x.entry
  | links b => return b.admits 1
  | print ending => do
    say (x.path ++ ending)
    return true
  | printf format => do
    say (statText true (field (← disk) x) format.toList)
    return true
  | run n command together inside => do
    if together then
      modify fun s => { s with batch := (n, x.path) :: s.batch }
      return true
    else
      let path := if inside then "./" ++ lastName x.path else x.path
      return (← runFor c command path) == 0
  | delete => do
    if x.path == "." then return true
    let refuse (e : OsError) : Finder Bool := do
      c.report ("cannot delete " ++ quoted x.path ++ ": " ++ e.wording)
      modify fun s => { s with status := 1 }
      return false
    match x.entry with
    | .directory _ =>
      match ← removeEmpty x.path with
      | .ok () => return true
      | .error e => refuse e
    | _ =>
      setDisk ((← disk).removeAll (pathOf x.path))
      return true
  | prune => do
    modify fun s => { s with pruned := true }
    return true
  | quit => do
    modify fun s => { s with ended := true }
    return true
where
  /-- Whether a pattern describes a text, perhaps in other cases. -/
  describes (p : NamePattern) (fold : Bool) (s : String) : Bool :=
    if fold then
      let small : NamePattern := p.map fun step =>
        match step with
        | .exactly c => .exactly c.toLower
        | step => step
      NamePattern.describes small (s.toList.map Char.toLower)
    else p.describes s.toList

/-- Evaluates a search for an entry and for those below it, at most `n` directories deep. -/
def visit (c : Call) (s : Search) (draft : Draft) : Nat → Found → Finder Unit
  | 0, _ => return ()
  | n + 1, x => do
    if (← get).ended then return ()
    modify fun f => { f with pruned := false }
    let here : Finder Unit := do
      if draft.least ≤ x.depth then
        let _ ← holds c x s
    let inside : Finder Unit := do
      match x.entry with
      | .directory _ =>
        if draft.most.all (x.depth < ·) then
          for (label, e) in (← disk).entriesIn x.place do
            let path := below x.path (Text.toBytewise label)
            visit c s draft n ⟨path, x.start, x.place ++ [label], e, x.depth + 1⟩
      | _ => return ()
    if draft.depthFirst then
      inside
      here
    else
      here
      let f ← get
      unless f.pruned || f.ended do inside

end Search

/-- Whether an argument begins the expression of a search. -/
def beginsSearch (a : String) : Bool :=
  (Text.beginsWith "-" a && a != "-") || a == "(" || a == "!" || a == ")" || a == ","

/-- Looks for entries. -/
def find : Utility := fun c => do
  let follows := c.arguments.takeWhile ["-L", "-H", "-P"].contains
  let arguments := c.arguments.drop follows.length
  let paths := arguments.takeWhile (!beginsSearch ·)
  let d ← disk
  match Search.ofArguments d (arguments.drop paths.length) with
  | .error message => c.fail message
  | .ok (s, draft) =>
    let s := if s.acts then s else .both s (.print "\n")
    let depth := d.depth + 2
    let look (p : String) : Search.Finder Unit := do
      if (← get).ended then return ()
      match (← disk).locate (pathOf p) (follows.getLast? == some "-L" || follows.getLast? == some "-H") with
      | .ok (.present place e) => Search.visit c s draft depth ⟨p, p, place, e, 0⟩
      | .ok (.absent _ _) => missing p OsError.notFound
      | .error e => missing p e
    let start : List String := if paths.isEmpty then ["."] else paths
    let ((), found) ← (start.forM look : Search.Finder Unit).run {}
    let status ← eachOf s.batches fun (n, command) => do
      let all := (found.batch.reverse.filter (·.1 == n)).map (·.2)
      if all.isEmpty then return 0
      return if (← Search.runCommand c (command.dropLast ++ all)) == 0 then 0 else 1
    return max found.status status
where
  /-- Reports that a path leads nowhere. -/
  missing (p : String) (e : OsError) : Search.Finder Unit := do
    complain ("find: " ++ quoted p ++ ": " ++ e.wording ++ "\n")
    modify fun s => { s with status := 1 }

end Buildwright.Shell.Utility
