-- SUMMARY: Programs of the shell for the working directory and for the modes of new files.
import Buildwright.Shell.Builtin.Variables

/-!
# The working directory

The shell remembers the path on which it went to its working directory: two dots lead back on it, even
behind a link.
-/
namespace Buildwright.Shell.Builtin

open Shell.Action

/-- The path to which a path leads from a directory, name by name. -/
def logicalPath (directory p : String) : String :=
  let start := if Text.beginsWith "/" p then [] else (Text.pieces '/' directory).filter (· != "")
  let names := ((Text.pieces '/' p).filter fun name => name != "" && name != ".").foldl
    (fun names name => if name == ".." then names.dropLast else names ++ [name]) start
  "/" ++ Text.joined "/" names

/-- The path of a place. -/
def physicalPath (place : Location) : String :=
  Text.toBytewise ("/" ++ Text.joined "/" place)

/-- Gives a variable that programs see a value. -/
def assignExported (x value : String) : Action Unit := do
  assign x value
  match ← binding? x with
  | some v => setVariable x { v with exported := true }
  | none => pure ()

/-- Goes to a directory, and tells whether that goes well. -/
def enter (physical : Bool) (p : String) : Action Bool := do
  let e ← environment
  let target := if physical then p else logicalPath e.directory p
  let d ← disk
  match d.resolve (pathOf target) with
  | .ok (place, .directory _) =>
    setDisk { d with workingDirectory := place }
    alter fun e => { e with directory := if physical then physicalPath place else target }
    assignExported "OLDPWD" e.directory
    assignExported "PWD" (← environment).directory
    return true
  | _ => return false

/-- The directories in which a directory with a name is looked for. -/
def starts (p : String) : Action (List String) := do
  let isFixed :=
    match p.toList with
    | '/' :: _ | ['.'] | '.' :: '/' :: _ | ['.', '.'] | '.' :: '.' :: '/' :: _ => true
    | _ => false
  if isFixed then return []
  return (← valueOf? "CDPATH").elim [] (Text.pieces ':')

/-- Goes to a directory. -/
def cd : Builtin := plain fun arguments => do
  let (given, others) ← options "LP" arguments
  let physical := (given.getLast?.map (·.1)) == some 'P'
  let (target, shows) ←
    match others with
    | [] => pure ((← valueOf? "HOME").getD "", false)
    | "-" :: _ => pure ((← valueOf? "OLDPWD").getD "", true)
    | p :: _ => pure (p, false)
  let target := if target == "" then "." else target
  let d ← disk
  let found := (← starts target).find? fun directory =>
    d.isDirectory (pathOf (if directory == "" then target else directory ++ "/" ++ target))
  let (p, shows) :=
    match found with
    | some "" | none => (target, shows)
    | some directory => (directory ++ "/" ++ target, true)
  if ← enter physical p then
    if shows then say ((← environment).directory ++ "\n")
    return 0
  else mistake ("can't cd to " ++ target)

/-- Writes the working directory. -/
def pwd : Builtin := plain fun arguments => do
  let (given, _) ← options "LP" arguments
  let e ← environment
  if (given.getLast?.map (·.1)) == some 'P' then
    say (physicalPath (← disk).workingDirectory ++ "\n")
  else say (e.directory ++ "\n")
  return 0

/-! ## Modes of new files -/

/-- The letters of the bits of a mode that are not masked. -/
def maskLetters (mask : Nat) : String :=
  let bits (n : Nat) : String :=
    (if n / 4 % 2 == 0 then "r" else "") ++ (if n / 2 % 2 == 0 then "w" else "") ++
      if n % 2 == 0 then "x" else ""
  "u=" ++ bits (mask / 64) ++ ",g=" ++ bits (mask / 8) ++ ",o=" ++ bits mask

/-- The mask after clauses that say which bits are to be left. -/
def maskAfter? (mask : Nat) (text : String) : Option Nat :=
  (Text.pieces ',' text).foldlM (fun mask clause => do
    let who := clause.toList.takeWhile ['u', 'g', 'o', 'a'].contains
    match clause.toList.drop who.length with
    | sign :: letters =>
      let bitOf : Char → Option Nat := ([('r', 4), ('w', 2), ('x', 1)].lookup ·)
      let bits := (← letters.mapM bitOf).foldl (· ||| ·) 0
      let shifts := [('u', 64), ('g', 8), ('o', 1)].filter fun x =>
        who.isEmpty || who.contains 'a' || who.contains x.1
      let wanted := shifts.foldl (fun n x => n + bits * x.2) 0
      let all := shifts.foldl (fun n x => n + 7 * x.2) 0
      match sign with
      | '=' => some ((mask &&& (511 - all)) ||| (all - wanted))
      | '+' => some (mask &&& (511 - wanted))
      | '-' => some (mask ||| wanted)
      | _ => none
    | [] => none) mask

/-- Sets or writes the mask for the modes of new files. -/
def umask : Builtin := plain fun arguments => do
  let (given, others) ← options "S" arguments
  let mask := (← environment).mask
  match others with
  | [] =>
    if given.isEmpty then
      let digits := Nat.toDigits 8 mask
      say (String.ofList (List.replicate (4 - digits.length) '0' ++ digits) ++ "\n")
    else say (maskLetters mask ++ "\n")
    return 0
  | text :: _ =>
    let isNumber := text.toList.head?.any Char.isDigit
    let new :=
      if isNumber then
        if text.toList.all fun c => '0' ≤ c && c ≤ '7' then
          some (Text.valueOfDigits 8 text.toList % 512) else none
      else maskAfter? mask text
    match new with
    | some mask =>
      alter fun e => { e with mask }
      return 0
    | none =>
      if isNumber then noNumber text else mistake ("Illegal mode: " ++ text)

end Buildwright.Shell.Builtin
