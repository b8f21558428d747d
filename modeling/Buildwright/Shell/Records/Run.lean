-- SUMMARY: Running programs on records: the values of expressions, and what statements do.
import Buildwright.Shell.Records.Machine
import Buildwright.Shell.Utility.Calendar

/-!
# Running programs on records

Each record of the input is given to the rules in their order. A program ends after its last record, or when
it says so, and the rules for the end are followed then.
-/
namespace Buildwright.Shell.Records

open Shell.Utility Work

/-- How a program is run: which one, and how it runs commands. -/
structure Plan where
  call : Call
  program : Program

/-- A place that is known. -/
inductive Spot where
  | variable (v : Variable)
  | element (table : Nat) (k : Key)
  | field (n : Nat)

namespace Work

/-! ## Places -/

/-- The value at a place. -/
def readSpot : Spot → Work Value
  | .variable v => read v
  | .element t k => do
    let v := (← tableAt t).value k
    changeTable t (·.used k)
    return v
  | .field n => fieldAt n

/-- Changes the value at a place. -/
def writeSpot (s : Spot) (a : Value) : Work Unit :=
  match s with
  | .variable v => write v a
  | .element t k => changeTable t (·.insert k a)
  | .field n => setField n a

/-- The key that values are together. -/
def keyOf (vs : List Value) : Work Key := do
  match vs with
  | [v] => return Key.ofValue (← written) v
  | _ => return .text (Text.joined (← setting "SUBSEP") (← vs.mapM asText))

/-! ## Functions -/

/-- The output of a format, which has to have a value for each conversion. What has been written before a
    mistake goes where `emit` says. -/
def formatted (name : String) (emit : String → Work Unit) (vs : List Value) : Work Unit := do
  let format ← asText (vs.headD .unset)
  let (text, fault) := Layout.output (← written) format (vs.drop 1)
  emit text
  let place := name ++ "(\x22" ++ format ++ "\x22)"
  match fault with
  | some .tooFew => wrong ("not enough arguments passed to " ++ place)
  | some (.improper n) =>
    wrong ("improper conversion(number " ++ toString n ++ ") in " ++ place)
  | none => pure ()

/-- A part of a text, from a place on and of a length if one is given. A place in front of the text makes
    the part longer, and all is counted in words. -/
def part (s : String) (start : Float) (length : Option Float) : String :=
  let place := wrapped (wordOf start - 1)
  let count := (length.map wordOf).getD s.length
  let count := if place < 0 then wrapped (count - (place + 1)) else count
  String.ofList ((s.toList.drop place.toNat).take count.toNat)

/-- The place of a text in a text, counted from one, or zero. -/
def placeOf (s t : String) : Nat :=
  match Text.cut? t.toList s.toList with
  | some (before, _) => before.length + 1
  | none => 0

/-- The next number of chance, from zero on and below one. -/
def nextChance : Work Value := do
  let m ← get
  let next := (m.chance * 25214903917 + 11) % 281474976710656
  change fun m => { m with chance := next }
  return .number (Float.ofNat next / 281474976710656.0)

/-- The seconds since the epoch. -/
def now : Work Int := do
  return (← act Action.disk).now / 1000000000

/-- Begins the numbers of chance anew, and gives what they began with before. -/
def sow (v : Value) : Work Value := do
  let before := (← get).seed
  change fun m => { m with seed := .number v.toNumber, chance := (truncated v.toNumber).natAbs + 1 }
  return before

/-- The separator that a value writes. -/
def separatorOf (v : Value) : Work Separator := do
  right (Separator.ofText (← asText v))

/-- Replaces parts of a text at a place, and gives their number. -/
def substituteAt (r : Regex) (all : Bool) (new : String) (s : Spot) : Work Value := do
  let text ← asText (← readSpot s)
  let (count, result) := replace r all new text
  if count != 0 then writeSpot s (.text result)
  return .ofNat count

/-- Looks for a regular expression in a text, and notes where it is. -/
def findIn (r : Regex) (text : String) : Work Value := do
  let (start, length) : Float × Float :=
    match Regex.find? ⟨text.toList.toArray, false, false⟩ r 0 with
    | some (a, b, _) => (Float.ofNat (a + 1), Float.ofNat (b - a))
    | none => (0, -1)
  setScalar "RSTART" (.number start)
  setScalar "RLENGTH" (.number length)
  return .number start

/-- Whether a regular expression describes a part of a text. -/
def occurs (r : Regex) (text : String) : Bool :=
  Regex.occursIn ⟨text.toList.toArray, false, false⟩ r

/-- A time as a format writes it. -/
def timeText (vs : List Value) : Work Value := do
  let format ←
    match vs with
    | v :: _ => asText v
    | [] => pure "%c"
  let time ←
    match vs with
    | _ :: v :: _ => pure (truncated v.toNumber)
    | _ => now
  return .text (dateText (time * 1000000000) (format.length + 1) format.toList)

/-- The time that a year, a month, a day and a time of day are. -/
def timeOf (text : String) : Value :=
  match (Separator.blanks.split text.toList).map fun s => truncated (numberIn s) with
  | year :: month :: day :: hour :: minute :: second :: _ =>
    let days := daysOf year month.toNat 1 + day - 1
    .number (Float.ofInt (days * 86400 + hour * 3600 + minute * 60 + second))
  | _ => .number (-1)

/-- The value of a function of values alone. -/
def apply (p : Plan) (f : Function) (vs : List Value) : Work Value := do
  let first := vs.headD .unset
  let x := first.toNumber
  match f with
  | .length => return .ofNat (← asText first).length
  | .index => return .ofNat (placeOf (← asText first) (← asText ((vs[1]?).getD Value.unset)))
  | .substring =>
    let start := ((vs[1]?).getD Value.unset).toNumber
    return .text (part (← asText first) start ((vs[2]?).map Value.toNumber))
  | .lower => return .text (String.ofList ((← asText first).toList.map Char.toLower))
  | .upper => return .text (String.ofList ((← asText first).toList.map Char.toUpper))
  | .format =>
    formatted "sprintf" (fun s => setScalar "" (.text s)) vs
    scalar ""
  | .sine => return .number x.sin
  | .cosine => return .number x.cos
  | .arctangent => return .number (Float.atan2 x ((vs[1]?).getD Value.unset).toNumber)
  | .exponential => return .number x.exp
  | .logarithm => return .number x.log
  | .root => return .number x.sqrt
  | .truncate => return .number (withoutFraction x)
  | .random => nextChance
  | .seed => if vs.isEmpty then sow (.number (Float.ofInt (← now))) else sow first
  | .command => return .ofNat (← shell p.call "sh" (← asText first))
  | .close => close p.call (← asText first)
  | .flush =>
    let name ← asText first
    let known := vs.isEmpty || (← get).streams.any (·.name == name)
    flush
    return .number (if known then 0 else -1)
  | .now => return .number (Float.ofInt (← now))
  | .timeText => timeText vs
  | .timeOf => return timeOf (← asText first)
  | .split | .find | .substitute | .substituteAll => return .unset

/-- The greatest number of functions inside each other. -/
def mostNested : Nat := 1000

/-- Follows a loop's body, and tells whether the loop goes on. -/
def round (body : Work Unit) : Work Bool := do
  tryCatch (do
    body
    return true) fun leave =>
      match leave with
      | .loop => return false
      | .round => return true
      | _ => throw leave

end Work

open Work in
mutual

/-- The value of an expression. -/
def Plan.value (p : Plan) : Nat → Expr → Work Value
  | 0, _ => act (throw .endless)
  | n + 1, e => do
    match e with
    | .number x => return .number x
    | .text s => return .text s
    | .regex r => return .ofBool (occurs r (← recordText))
    | .value place => readSpot (← p.spot n place)
    | .grouped e => p.value n e
    | .assign place op e =>
      let s ← p.spot n place
      let v ← p.value n e
      match op with
      | none =>
        writeSpot s v
        return v
      | some op =>
        let v := Value.number (op.apply (← readSpot s).toNumber v.toNumber)
        writeSpot s v
        return v
    | .step place up before =>
      let s ← p.spot n place
      let x := (← readSpot s).toNumber
      let y := if up then x + 1 else x - 1
      writeSpot s (.number y)
      return .number (if before then y else x)
    | .negate e => return .number (-(← p.value n e).toNumber)
    | .plus e => return .number (← p.value n e).toNumber
    | .not e => return .ofBool !(← p.value n e).holds
    | .arithmetic op a b =>
      let x := (← p.value n a).toNumber
      return .number (op.apply x (← p.value n b).toNumber)
    | .join a b =>
      let s ← asText (← p.value n a)
      return .text (s ++ (← asText (← p.value n b)))
    | .compare op a b =>
      let x ← p.value n a
      let y ← p.value n b
      return .ofBool (op.decides (← written) x y)
    | .fits a b =>
      let s ← asText (← p.value n a)
      return .ofBool (occurs (← p.pattern n b) s)
    | .both a b =>
      if (← p.value n a).holds then return .ofBool (← p.value n b).holds else return .ofBool false
    | .either a b =>
      if (← p.value n a).holds then return .ofBool true else return .ofBool (← p.value n b).holds
    | .choice c yes no => if (← p.value n c).holds then p.value n yes else p.value n no
    | .holds x es =>
      let k ← keyOf (← p.values n es)
      let t ← tableOf x
      let found := (← tableAt t).has k
      changeTable t (·.sought k)
      return .ofBool found
    | .apply f es => p.apply n f es
    | .call f es => p.procedure n f es
    | .read s into => p.read n s into

/-- The values of expressions. -/
def Plan.values (p : Plan) : Nat → List Expr → Work (List Value)
  | 0, _ => act (throw .endless)
  | _ + 1, [] => return []
  | n + 1, e :: es => do
    let v ← p.value n e
    return v :: (← p.values n es)

/-- The place that is meant. -/
def Plan.spot (p : Plan) : Nat → Place → Work Spot
  | 0, _ => act (throw .endless)
  | n + 1, place => do
    match place with
    | .variable v => return .variable v
    | .element v es =>
      let k ← keyOf (← p.values n es)
      return .element (← tableOf v) k
    | .field e => return .field (← fieldNumber (← p.value n e))

/-- The regular expression that an expression stands for. -/
def Plan.pattern (p : Plan) : Nat → Expr → Work Regex
  | 0, _ => act (throw .endless)
  | n + 1, e => do
    match e with
    | .regex r => return r
    | _ => right (regexOf (← asText (← p.value n e)))

/-- The value of a function. -/
def Plan.apply (p : Plan) : Nat → Function → List Expr → Work Value
  | 0, _, _ => act (throw .endless)
  | n + 1, f, es => do
    let target : List Expr → Work (Option Spot) := fun es => do
      match es with
      | [] => return some (.field 0)
      | [.value place] => return some (← p.spot n place)
      | _ => return none
    match f, es with
    | .length, [] => return .ofNat (← recordText).length
    | .length, [.value (.variable v)] =>
      match ← slotOf v with
      | some (.table t) | some (.undecided t) => return .ofNat (← tableAt t).size
      | _ => return .ofNat (← asText (← Work.read v)).length
    | .split, s :: .value (.variable v) :: rest =>
      let text ← asText (← p.value n s)
      let separator ←
        match rest with
        | [.regex r] => pure (.pattern r)
        | [e] => separatorOf (← p.value n e)
        | _ => separatorOf (← scalar "FS")
      let parts := separator.split text.toList
      changeTable (← tableOf v) fun _ => Table.ofParts parts
      return .ofNat parts.length
    | .find, [s, e] =>
      let text ← asText (← p.value n s)
      findIn (← p.pattern n e) text
    | .substitute, e :: new :: rest | .substituteAll, e :: new :: rest =>
      let r ← p.pattern n e
      let new ← asText (← p.value n new)
      let all := f == .substituteAll
      match ← target rest with
      | some s => substituteAt r all new s
      | none =>
        let vs ← p.values n rest
        return .ofNat (replace r all new (← asText (vs.headD .unset))).1
    | _, _ => Work.apply p f (← p.values n es)

/-- The value of a call of a function of the program. -/
def Plan.procedure (p : Plan) : Nat → String → List Expr → Work Value
  | 0, _, _ => act (throw .endless)
  | n + 1, f, es => do
    match p.program.procedures.lookup f with
    | none => return .unset
    | some f =>
      let slots ← p.slots n es
      let missing := f.parameters - slots.length
      let before := (← get).frame
      if mostNested < (← get).depth then
        throw (.mistake "program limit exceeded: eval stack size=1024")
      change fun m => { m with
        frame := (slots ++ List.replicate missing (Slot.value .unset)).toArray, depth := m.depth + 1 }
      let v ← tryCatch (do
        p.statements n f.body
        return Value.unset) fun leave =>
          match leave with
          | .back v => return v
          | _ => throw leave
      change fun m => { m with frame := before, depth := m.depth - 1 }
      return v

/-- What a function gets for its arguments. -/
def Plan.slots (p : Plan) : Nat → List Expr → Work (List Slot)
  | 0, _ => act (throw .endless)
  | _ + 1, [] => return []
  | n + 1, e :: es => do
    let s ←
      match e with
      | .value (.variable v) => lend v
      | _ => pure (.value (← p.value n e))
    return s :: (← p.slots n es)

/-- Reads a record. The value is one, or zero if there is none, or less if it cannot be read. -/
def Plan.read (p : Plan) : Nat → Source → Option Place → Work Value
  | 0, _, _ => act (throw .endless)
  | n + 1, s, into => do
    let spot ←
      match into with
      | some place => some <$> p.spot n place
      | none => pure none
    let found ←
      match s with
      | .input => some <$> nextRecord
      | .file e => recordFrom p.call (← asText (← p.value n e)) false
      | .command e => recordFrom p.call (← asText (← p.value n e)) true
    match found with
    | none => return .number (-1)
    | some none => return .number 0
    | some (some r) =>
      match spot with
      | some spot => writeSpot spot (.input r)
      | none => setRecord (.input r)
      return .number 1

/-- Writes a text where it goes. -/
def Plan.emit (p : Plan) : Nat → Target → Work (String → Work Unit)
  | 0, _ => act (throw .endless)
  | n + 1, target => do
    match target with
    | .output => return say
    | .file e =>
      let name ← asText (← p.value n e)
      return fun s => sayToFile name s .emptied
    | .append e =>
      let name ← asText (← p.value n e)
      return fun s => sayToFile name s .appending
    | .command e => return sayToCommand (← asText (← p.value n e))

/-- Follows a statement. -/
def Plan.statement (p : Plan) : Nat → Statement → Work Unit
  | 0, _ => act (throw .endless)
  | n + 1, s => do
    match s with
    | .expression e =>
      let _ ← p.value n e
    | .print es target =>
      let text ←
        match es with
        | [] => shown (← record)
        | _ => pure (Text.joined (← setting "OFS") (← (← p.values n es).mapM shown))
      let emit ← p.emit n target
      emit (text ++ (← setting "ORS"))
    | .printFormat es target =>
      let vs ← p.values n es
      formatted "printf" (← p.emit n target) vs
    | .block ss => p.statements n ss
    | .choice c yes no =>
      if (← p.value n c).holds then p.statement n yes
      else
        match no with
        | some no => p.statement n no
        | none => pure ()
    | .loop c body behind =>
      let goes ←
        match c with
        | some c => pure (← p.value n c).holds
        | none => pure true
      if goes then
        if ← round (p.statement n body) then
          match behind with
          | some s => p.statement n s
          | none => pure ()
          p.statement n (.loop c body behind)
    | .loopOnce body c =>
      if ← round (p.statement n body) then
        if (← p.value n c).holds then p.statement n (.loopOnce body c)
    | .each x v body =>
      let t ← tableOf v
      changeTable t (·.withNames)
      p.forKeys n x body (← tableAt t).keys
    | .delete v es =>
      let t ← tableOf v
      match es with
      | none => changeTable t fun _ => {}
      | some es =>
        let k ← keyOf (← p.values n es)
        changeTable t (·.erase k)
    | .leaveLoop => throw .loop
    | .nextRound => throw .round
    | .nextRecord => throw .record
    | .nextFile => throw .file
    | .exit e =>
      match e with
      | some e =>
        let status := wordOf (← p.value n e).toNumber % 256
        change fun m => { m with status := status.toNat }
      | none => pure ()
      throw .exit
    | .back e =>
      match e with
      | some e => throw (.back (← p.value n e))
      | none => throw (.back .unset)

/-- Follows a statement for each of some keys. -/
def Plan.forKeys (p : Plan) : Nat → Variable → Statement → List String → Work Unit
  | 0, _, _, _ => act (throw .endless)
  | _ + 1, _, _, [] => pure ()
  | n + 1, x, body, k :: ks => do
    write x (.text k)
    if ← round (p.statement n body) then p.forKeys n x body ks

/-- Follows statements. -/
def Plan.statements (p : Plan) : Nat → List Statement → Work Unit
  | 0, _ => act (throw .endless)
  | _ + 1, [] => pure ()
  | n + 1, s :: ss => do
    p.statement n s
    p.statements n ss

end

namespace Plan

open Work

/-- The number of steps that a program may take at once. -/
def mostSteps : Nat := 4000000

/-- The greatest number of records. -/
def mostRecords : Nat := 10000000

/-- Follows the action of a rule. -/
def act (p : Plan) (r : Rule) : Work Unit := do
  match r.action with
  | some body => p.statements mostSteps body
  | none => say ((← shown (← record)) ++ (← setting "ORS"))

/-- Whether the rule with a number takes action for the record. -/
def applies (p : Plan) (i : Nat) (r : Rule) : Work Bool := do
  match r.occasion with
  | .beginning | .ending => return false
  | .always => return true
  | .when c => return (← p.value mostSteps c).holds
  | .between first last =>
    let isOpen := (← get).openRules.contains i
    let starts ← if isOpen then pure true else pure (← p.value mostSteps first).holds
    if starts then
      let ends := (← p.value mostSteps last).holds
      change fun m => { m with
        openRules := if ends then m.openRules.erase i else if isOpen then m.openRules else i :: m.openRules }
      return true
    else return false

/-- Gives the record to the rules. -/
def treat (p : Plan) : Work Unit := do
  tryCatch (do
    for (r, i) in p.program.rules.zipIdx do
      if ← p.applies i r then p.act r) fun leave =>
        match leave with
        | .record => pure ()
        | .file => change fun m => { m with supply := none }
        | _ => throw leave

/-- Reads at most a number of records and gives them to the rules. -/
def cycles (p : Plan) : Nat → Work Unit
  | 0 => pure ()
  | n + 1 => do
    match ← nextRecord with
    | some r =>
      setRecord (.input r)
      p.treat
      cycles p n
    | none => pure ()

/-- The actions at the beginning, or those at the end. -/
def actionsAt (p : Plan) (atEnd : Bool) : List Rule :=
  p.program.rules.filter fun r =>
    match r.occasion with
    | .beginning => !atEnd
    | .ending => atEnd
    | _ => false

/-- Whether a program looks at its input. -/
def reads (p : Plan) : Bool :=
  p.program.rules.any fun r =>
    match r.occasion with
    | .beginning => false
    | _ => true

/-- Catches that a program ends, and tells whether it goes on. -/
def goesOn (m : Work Unit) : Work Bool := do
  tryCatch (do
    m
    return true) fun leave =>
      match leave with
      | .exit => return false
      | _ => throw leave

/-- The variables at the beginning. -/
def firstValues : List (String × Value) :=
  [("FS", .text " "), ("OFS", .text " "), ("ORS", .text "\n"), ("RS", .text "\n"), ("NF", .number 0),
    ("NR", .number 0), ("FNR", .number 0), ("SUBSEP", .text "\x1c"), ("RSTART", .number 0),
    ("RLENGTH", .number (-1)), ("CONVFMT", .text Layout.usualFormat), ("OFMT", .text Layout.usualFormat),
    ("FILENAME", .text "")]

/-- Gives the variables their first values. -/
def prepare (arguments : List String) (separator : Option String) (given : List (String × String)) :
    Work Unit := do
  for (x, v) in firstValues do setScalar x v
  let t ← tableOf (.global "ARGV")
  for (a, i) in arguments.zipIdx do
    changeTable t (·.insert (.number (Int.ofNat i)) (.input a))
  setScalar "ARGC" (.ofNat arguments.length)
  let t ← tableOf (.global "ENVIRON")
  for (x, v) in (← Work.act Action.environment).bindings do
    match v.exported, v.value with
    | true, some value => changeTable t (·.insert (.text x) (.input value))
    | _, _ => pure ()
  match separator with
  | some s => setScalar "FS" (.text s)
  | none => pure ()
  for (x, value) in given do assign x value

/-- Follows a program from its beginning to its end. -/
def body (p : Plan) : Work Unit := do
  let first ← goesOn do
    for r in p.actionsAt false do p.act r
  let _ ←
    if first && p.reads then goesOn (p.cycles mostRecords) else pure true
  let _ ← goesOn do
    for r in p.actionsAt true do p.act r

/-- Leaves the input at a place where other programs may go on. -/
def release : Work Unit := do
  hold
  change fun m => { m with supply := none }

/-- Runs a program with arguments, a separator of fields, and variables that are given. The result is the
    exit code. -/
def run (p : Plan) (arguments : List String) (separator : Option String)
    (given : List (String × String)) : Action Nat := do
  let work : Work Unit := do
    prepare arguments separator given
    p.body
  let (result, m) ← work.run.run {}
  let status ←
    match result with
    | .error (.mistake message) =>
      p.call.report message
      pure 2
    | _ => pure m.status
  let ending : Work Unit := do
    release
    closeAll p.call
  let _ ← ending.run.run m
  return status

end Plan

end Buildwright.Shell.Records
