-- SUMMARY: Putting values in place of the parameters, commands and expressions of words.
import Buildwright.Shell.Arithmetic
import Buildwright.Shell.Fields
import Buildwright.Shell.Glob

/-!
# Expansion

A word becomes fields: values that stand outside of quotes are split at separators, and a field that is
a pattern becomes the paths that it describes. Where a single text is wanted, nothing is split.
-/
namespace Buildwright.Shell

open Shell.Action

/-! ## Parameters -/

/-- The options by their names and letters, in the order in which they are shown. -/
def optionNames : List (String × Option Char) :=
  [("errexit", some 'e'), ("noglob", some 'f'), ("ignoreeof", some 'I'), ("interactive", some 'i'),
    ("monitor", some 'm'), ("noexec", some 'n'), ("stdin", some 's'), ("xtrace", some 'x'),
    ("verbose", some 'v'), ("vi", some 'V'), ("emacs", some 'E'), ("noclobber", some 'C'),
    ("allexport", some 'a'), ("notify", some 'b'), ("nounset", some 'u'), ("nolog", none),
    ("debug", none)]

/-- The number of the process that runs a script. -/
def processNumber : Nat := 1000

/-- The value of a parameter that has a single one. -/
def parameter? (x : String) : Action (Option String) := do
  let e ← environment
  match x with
  | "?" => return some (toString e.status)
  | "#" => return some (toString e.arguments.length)
  | "$" => return some (toString processNumber)
  | "!" => return e.lastJob.map toString
  | "-" =>
    return some (String.ofList ((optionNames.filterMap (·.2)).filter e.options.contains))
  | "0" => return some e.name
  | _ =>
    if x.toList.all Char.isDigit then return e.arguments[(x.toNat?.getD 0) - 1]?
    else return (e.bindings.lookup x).bind (·.value)

/-- Whether the name of a parameter stands for all arguments. -/
def isList (x : String) : Bool := x == "@" || x == "*"

/-- What stands between arguments where they form a single text. -/
def joint : Action String := do
  match ← valueOf? "IFS" with
  | some s => return String.ofList (s.toList.take 1)
  | none => return " "

/-- The value of a parameter as a single text. -/
def textOf? (x : String) : Action (Option String) := do
  if isList x then return some (Text.joined (← joint) (← environment).arguments)
  else parameter? x

/-- Reports that a parameter has no value. -/
def missing {α : Type} (x message : String) : Action α :=
  mistake (x ++ ": " ++ message)

/-- Reports that a parameter has no value, if that matters. -/
def checkMissing (x : String) (value : Option String) : Action Unit := do
  if value.isNone then
    if ← isSet 'u' then missing x "parameter not set"

/-! ## Home directories -/

/-- The directory that a text behind a tilde names. -/
def home? (user : String) : Action (Option String) := do
  match user with
  | "" => valueOf? "HOME"
  | "root" => return some "/root"
  | _ => return none

/-- Where tildes stand for home directories. -/
inductive Homes where
  | nowhere
  /-- At the beginning of a text. -/
  | first
  /-- At the beginning of the value of a variable. -/
  | value
  /-- Behind colons. -/
  | afterColons

namespace Homes

/-- Where tildes stand for home directories in the parts of a word behind the first. -/
def later : Homes → Homes
  | nowhere | first => nowhere
  | value | afterColons => afterColons

end Homes

/-- A text in which a home directory stands for a tilde at the beginning, in pieces of which the
    directory is quoted. Behind the text, the word goes on if `more` holds. -/
def withHome (more : Bool) (s : String) : Action (List (String × Bool)) := do
  match s.toList with
  | '~' :: cs =>
    let user := cs.takeWhile (· != '/')
    let path := cs.drop user.length
    if more && path = [] then return [(s, false)]
    match ← home? (String.ofList user) with
    | some directory => return [(directory, true), (String.ofList path, false)]
    | none => return [(s, false)]
  | _ => return [(s, false)]

/-- Texts with home directories in place of tildes, and colons between them. -/
def withHomes (more : Bool) : List String → Action (List (String × Bool))
  | [] => return []
  | [s] => withHome more s
  | s :: rest => do return (← withHome false s) ++ (":", false) :: (← withHomes more rest)

/-- A literal text with home directories in place of tildes. -/
def literalPieces (h : Homes) (more : Bool) (s : String) : Action (List (String × Bool)) := do
  if !s.toList.contains '~' then return [(s, false)]
  match h, Text.pieces ':' s with
  | .nowhere, _ => return [(s, false)]
  | .first, _ => withHome more s
  | .value, pieces => withHomes more pieces
  | .afterColons, first :: rest =>
    if rest.isEmpty then return [(s, false)]
    return (first ++ ":", false) :: (← withHomes more rest)
  | .afterColons, [] => return []

/-! ## Words -/

/-- How parts are put together. -/
structure Mode where
  /-- The separators at which values are split, if they are. -/
  separators : Option (List Char)
  /-- Whether literal texts are split as well. -/
  splitsLiterals : Bool := false
  homes : Homes := .nowhere

/-- Nothing is split. -/
def Mode.whole (homes : Homes) : Mode := { separators := none, homes }

/-- The mode for the word of a parameter. -/
def Mode.within (m : Mode) (quoted : Bool) : Mode :=
  { m with splitsLiterals := !quoted, homes := if quoted then .nowhere else .first }

/-- The text of what a command writes: without the line ends at its end, and without zeros. -/
def outputText (b : Bytes) : String :=
  let kept := b.toList.filter (· != 0)
  let ended := (kept.reverse.dropWhile (· == 10)).reverse
  Text.bytewise ⟨ended.toArray⟩

/-- Adds a value. -/
def addValue (m : Mode) (quoted : Bool) (value : String) (f : Fields) : Fields :=
  match m.separators with
  | some cs => if quoted then f.add (mark true value) else f.addSplit cs value.toList
  | none => f.add (mark quoted value)

/-- Adds a piece of a literal text. -/
def addLiteral (m : Mode) (quoted : Bool) (s : String) (f : Fields) : Fields :=
  match m.splitsLiterals && !quoted, m.separators with
  | true, some cs => f.addSplit cs s.toList
  | _, _ => if s == "" && quoted then f.begin else f.add (mark quoted s)

/-- Adds values that stay apart, unless a single text is wanted. -/
def addList? (m : Mode) (x : String) (quoted : Bool) (values : List String) (f : Fields) :
    Option Fields :=
  match m.separators with
  | some cs =>
    if isList x && !quoted then some (f.addSplitAll cs values)
    else if x == "@" then some (f.addEach values)
    else none
  | none => none

/-- Adds the value of a parameter. -/
def addParameter (m : Mode) (x : String) (quoted : Bool) (f : Fields) : Action Fields := do
  match addList? m x quoted (← environment).arguments f with
  | some f => return f
  | none => return addValue m quoted ((← textOf? x).getD "") f

/-- The rest of a value from which a pattern is taken away. -/
def trimmedBy (change : Change) (p : NamePattern) (value : String) : String :=
  match change with
  | .dropStart longest => String.ofList (p.dropStart longest value.toList)
  | .dropEnd longest => String.ofList (p.dropEnd longest value.toList)
  | _ => value

/-- The rest of a list from which a pattern is taken away. -/
def trimmedListBy (change : Change) (p : NamePattern) (values : List String) : List String :=
  let texts := values.map String.toList
  match change with
  | .dropStart longest => (p.dropListStart longest texts).map String.ofList
  | .dropEnd longest => (p.dropListEnd longest texts).map String.ofList
  | _ => values

mutual

/-- Adds the value of parts to fields; `outputOf` runs commands. -/
def expandParts (outputOf : Command → Action Bytes) (m : Mode) : List Part → Fields → Action Fields
  | [], f => return f
  | p :: rest, f => do
    let f ← expandPart outputOf m (!rest.isEmpty) p f
    expandParts outputOf { m with homes := m.homes.later } rest f

/-- Adds the value of a part to fields; behind it, the word goes on if `more` holds. -/
def expandPart (outputOf : Command → Action Bytes) (m : Mode) (more : Bool) :
    Part → Fields → Action Fields
  | .literal s true, f => return addLiteral m true s f
  | .literal s false, f => do
    let pieces ← literalPieces m.homes more s
    return pieces.foldl (fun f (t, quoted) => addLiteral m quoted t f) f
  | .parameter x quoted, f => do
    unless isList x do checkMissing x (← parameter? x)
    addParameter m x quoted f
  | .size x quoted, f => do
    let value ← textOf? x
    checkMissing x value
    return addValue m quoted (toString (value.getD "").length) f
  | .malformed, _ => mistake "Bad substitution"
  | .output c quoted, f => do return addValue m quoted (outputText (← outputOf c)) f
  | .arithmetic expression quoted, f => do
    let text ← expandParts outputOf (.whole .nowhere) expression {}
    let n ← Arithmetic.value (unmarked text.flat)
    return addValue m quoted (toString n.toInt) f
  | .changed x change emptyToo word quoted, f => do
    let value ← textOf? x
    let isMissing := value.isNone || (emptyToo && value == some "")
    let single : Action (List Marked) := do
      return (← expandParts outputOf (.whole (m.within quoted).homes) word {}).flat
    match change with
    | .whenSet =>
      if isMissing then return f else expandParts outputOf (m.within quoted) word f
    | .orElse =>
      if isMissing then expandParts outputOf (m.within quoted) word f
      else addParameter m x quoted f
    | .orAssign =>
      if isMissing then
        let new := unmarked (← single)
        unless Word.isName x do mistake (x ++ ": bad variable name")
        assign x new
      addParameter m x quoted f
    | .orFail =>
      if isMissing then
        if word.isEmpty then
          missing x (if emptyToo then "parameter not set or null" else "parameter not set")
        else missing x (unmarked (← single))
      addParameter m x quoted f
    | .dropStart _ | .dropEnd _ => do
      checkMissing x value
      let p := NamePattern.ofMarked (← single)
      let joinsAll := !quoted && (← valueOf? "IFS").isNone
      match addList? m x quoted (trimmedListBy change p (← environment).arguments) f with
      | some f => if !joinsAll then return f
      | none => pure ()
      return addValue m quoted (trimmedBy change p (value.getD "")) f
    | .nothing => mistake "Bad substitution"

end

/-- The fields of a word, with paths in place of patterns. -/
def fieldsOf (outputOf : Command → Action Bytes) (w : Word) : Action (List String) := do
  let m : Mode := { separators := some (← separators), homes := .first }
  let f ← expandParts outputOf m w {}
  if ← isSet 'f' then return f.all.map unmarked
  let d ← disk
  return f.all.flatMap (pathsOf d)

/-- The fields of words. -/
def fieldsOfAll (outputOf : Command → Action Bytes) (ws : List Word) : Action (List String) := do
  return (← ws.mapM (fieldsOf outputOf)).flatten

/-- The value of a word as a single text, with its quoted characters marked. -/
def markedOf (outputOf : Command → Action Bytes) (w : Word) : Action (List Marked) := do
  return (← expandParts outputOf (.whole .first) w {}).flat

/-- The value of a word as a single text. -/
def textOf (outputOf : Command → Action Bytes) (w : Word) : Action String := do
  return unmarked (← markedOf outputOf w)

/-- The value of a variable that a word gives. -/
def assignedOf (outputOf : Command → Action Bytes) (w : Word) : Action String := do
  return unmarked (← expandParts outputOf (.whole .value) w {}).flat

end Buildwright.Shell
