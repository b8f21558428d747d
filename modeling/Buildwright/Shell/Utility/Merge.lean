-- SUMMARY: Programs that go through two sorted files side by side.
import Buildwright.Shell.Utility.Sort

/-!
# Merging

Two sorted files are read side by side. The lines that come next are compared, and the file whose line comes
first is read on. That a file is not sorted is noted when a line is read, and only after a line has been found
that the other file lacks.
-/
namespace Buildwright.Shell.Utility

open Shell.Action

/-! ## Reading side by side -/

/-- What is still to be read of a file, beginning with the line that comes next, and the line in front of
    that. -/
structure Side (α : Type) where
  rest : List α
  before : Option α := none
  isDisordered : Bool := false

/-- Whether the order of lines is checked. -/
inductive OrderCheck where
  | never
  | ifUnpaired
  | always
  deriving DecidableEq

/-- Two files that are read side by side, and whether a line has been found that one of them lacks. -/
structure Merging (α : Type) where
  left : Side α
  right : Side α
  isUnpaired : Bool := false

namespace Merging

/-- The sides of two files. -/
def side {α : Type} (m : Merging α) (isRight : Bool) : Side α := if isRight then m.right else m.left

/-- Changes a side. -/
def withSide {α : Type} (m : Merging α) (isRight : Bool) (s : Side α) : Merging α :=
  if isRight then { m with right := s } else { m with left := s }

/-- Whether one of the files is known not to be sorted. -/
def isDisordered {α : Type} (m : Merging α) : Bool := m.left.isDisordered || m.right.isDisordered

/-- Whether the order is looked at. -/
def looks {α : Type} (m : Merging α) : OrderCheck → Bool
  | .never => false
  | .ifUnpaired => m.isUnpaired
  | .always => true

/-- Reads the next line of a file, and gives a line in front of which a greater one stands, if that is to be
    reported. With `again`, the last two lines are compared once more at the end of the file. -/
def advance {α : Type} (check : OrderCheck) (greater : α → α → Bool) (again : Bool) (m : Merging α)
    (isRight : Bool) : Merging α × Option α :=
  let s := m.side isRight
  match s.rest with
  | [] => (m, none)
  | a :: rest =>
    let compared : Option (α × α) :=
      match rest with
      | next :: _ => some (a, next)
      | [] => if again then s.before.map (·, a) else none
    let wrong : Option α :=
      match compared with
      | some (x, y) => if m.looks check && !s.isDisordered && greater x y then some y else none
      | none => none
    (m.withSide isRight ⟨rest, some a, s.isDisordered || wrong.isSome⟩, wrong)

end Merging

/-- The way in which options ask for the order to be checked. -/
def orderCheckOf (o : Options) : OrderCheck :=
  match o.lastOf? ["check", "nocheck"] with
  | some "check" => .always
  | some _ => .never
  | none => .ifUnpaired

/-! ## Common lines -/

/-- Writes the lines of two files, with the number of the kind that each is of: in the first file only, in
    the second one only, or in both. The counts of the kinds are the result. -/
def commonLines (c : Call) (check : OrderCheck) (display : Nat → String → Action Unit) :
    Nat → List Nat → Merging String → Action (Option (List Nat) × Merging String)
  | 0, counts, m => return (some counts, m)
  | fuel + 1, counts, m => do
    let counted (k : Nat) : List Nat := counts.modify k (· + 1)
    let step (m : Merging String) (isRight : Bool) : Action (Option (Merging String)) := do
      let (m, wrong) := m.advance check (fun x y => decide (y < x)) true isRight
      if wrong.isSome then
        c.report ("file " ++ (if isRight then "2" else "1") ++ " is not in sorted order")
        if check == .always then return none
      return some m
    let stepAll (k : Nat) (m : Merging String) (sides : List Bool) :
        Action (Option (List Nat) × Merging String) := do
      match ← sides.foldlM (fun m isRight => do
          match m with
          | some m => step m isRight
          | none => return none) (some m) with
      | some m => commonLines c check display fuel (counted k) m
      | none => return (none, m)
    match m.left.rest, m.right.rest with
    | [], [] => return (some counts, m)
    | a :: _, [] =>
      display 0 a
      stepAll 0 { m with isUnpaired := true } [false]
    | [], b :: _ =>
      display 1 b
      stepAll 1 { m with isUnpaired := true } [true]
    | a :: _, b :: _ =>
      if a < b then
        display 0 a
        stepAll 0 { m with isUnpaired := true } [false]
      else if b < a then
        display 1 b
        stepAll 1 { m with isUnpaired := true } [true]
      else
        display 2 a
        stepAll 2 m [false, true]

/-- Compares the lines of two sorted files. -/
def comm : Utility :=
  withOptions
    [flag "1", flag "2", flag "3", flag "check" ["check-order"], flag "nocheck" ["nocheck-order"],
      valued "delimiter" ["output-delimiter"], flag "total" ["total"], flag "z" ["zero-terminated"]]
    fun c o => do
      match o.operands with
      | [] => c.misused "missing operand"
      | [a] => c.misused ("missing operand after " ++ quoted a)
      | _ :: _ :: extra :: _ => c.misused ("extra operand " ++ quoted extra)
      | [p, q] =>
        match ← content? c p with
        | none => return 1
        | some a =>
          match ← content? c q with
          | none => return 1
          | some b =>
            let ending := if o.has "z" then '\x00' else '\n'
            let lines (b : Bytes) := (piecesUpTo ending (Text.bytewise b).toList).1.map String.ofList
            let m : Merging String := { left := ⟨lines a, none, false⟩, right := ⟨lines b, none, false⟩ }
            let tab := (o.last? "delimiter").getD "\t"
            let hidden (k : Nat) : Bool := o.has (toString (k + 1))
            let indent (k : Nat) : String :=
              String.join (((List.range k).filter fun j => !hidden j).map fun _ => tab)
            let shown (k : Nat) (l : String) : Action Unit := do
              unless hidden k do say ((indent k ++ l).push ending)
            let size := m.left.rest.length + m.right.rest.length + 1
            let (counts, m) ← commonLines c (orderCheckOf o) shown size [0, 0, 0] m
            match counts with
            | none => return 1
            | some counts =>
              if o.has "total" then
                say ((Text.joined tab (counts.map toString ++ ["total"])).push ending)
              if m.isDisordered then c.fail "input is not in sorted order" else return 0

/-! ## Joined lines -/

/-- The fields of a line. -/
def fieldsIn (separator : Option Char) (l : String) : List String :=
  match separator with
  | some s => Text.pieces s l
  | none => ((l.toList.splitBy fun a b => isBlankChar a == isBlankChar b).filter fun cs =>
      !(cs.head?.map isBlankChar).getD true).map String.ofList

/-- A line with its number, its fields and the field by which it is joined. -/
structure JoinRow where
  line : String
  number : Nat
  fields : List String
  key : String

/-- A field of a joined line: the one by which lines are joined, or one of a file. -/
inductive JoinField where
  | key
  | field (isRight : Bool) (n : Nat)

namespace JoinField

/-- The field that a text names. -/
def ofText (s : String) : Except String JoinField :=
  match s.toList with
  | ['0'] => .ok .key
  | side :: '.' :: ds =>
    if side == '1' || side == '2' then
      match Text.digits? ds with
      | some (n + 1) => .ok (.field (side == '2') n)
      | _ => .error ("invalid field number: " ++ quoted (String.ofList ds))
    else .error ("invalid file number in field spec: " ++ quoted s)
  | _ => .error ("invalid field specifier: " ++ quoted s)

end JoinField

/-- How lines are joined: what the fields are separated by, which fields a joined line has, what stands for
    a field that is missing, of which files the lines are written that the other one lacks, whether pairs are
    written, how keys are compared, and what the files are called. -/
structure Joining where
  between : String
  fields : Option (List JoinField)
  empty : String
  columns : Nat × Nat
  shows : Bool → Bool
  writesPairs : Bool
  fold : String → String
  check : OrderCheck
  names : String × String

namespace Joining

/-- The fields of a line but the one by which it is joined. -/
def others (column : Nat) (fields : List String) : List String :=
  fields.take (column - 1) ++ fields.drop column

/-- A joined line. -/
def row (j : Joining) (x y : Option JoinRow) : String :=
  let key := ((x <|> y).map (·.key)).getD ""
  match j.fields with
  | some fs =>
    Text.joined j.between (fs.map fun f =>
      match f with
      | .key => key
      | .field isRight n => ((if isRight then y else x).bind (·.fields[n]?)).getD j.empty)
  | none =>
    Text.joined j.between
      (key :: others j.columns.1 ((x.map (·.fields)).getD []) ++
        others j.columns.2 ((y.map (·.fields)).getD []))

/-- Whether the key of a line is greater than that of another one. -/
def greater (j : Joining) (x y : JoinRow) : Bool := decide (j.fold y.key < j.fold x.key)

/-- Reads the next line of a file, and reports that it is not sorted. There is no result if that ends the
    program. -/
def advance (j : Joining) (c : Call) (m : Merging JoinRow) (isRight : Bool) :
    Action (Option (Merging JoinRow)) := do
  let (m, wrong) := m.advance j.check j.greater false isRight
  match wrong with
  | some r =>
    c.report ((if isRight then j.names.2 else j.names.1) ++ ":" ++ toString r.number ++ ": is not sorted: " ++
      r.line)
    return if j.check == .always then none else some m
  | none => return some m

/-- Reads the lines of a file whose key is that of a line. -/
def takeEqual (j : Joining) (c : Call) (key : String) (isRight : Bool) :
    Nat → Merging JoinRow → Action (Option (List JoinRow × Merging JoinRow))
  | 0, m => return some ([], m)
  | fuel + 1, m => do
    match (m.side isRight).rest with
    | r :: _ =>
      if j.fold r.key == key then
        let some m ← j.advance c m isRight | return none
        let some (rest, m) ← takeEqual j c key isRight fuel m | return none
        return some (r :: rest, m)
      else return some ([], m)
    | [] => return some ([], m)

/-- Joins the lines of two files. There is no result if the program ends before. -/
def run (j : Joining) (c : Call) : Nat → Merging JoinRow → Action (Option (Merging JoinRow))
  | 0, m => return some m
  | fuel + 1, m => do
    let alone (isRight : Bool) (r : JoinRow) (isUnpaired : Bool) : Action (Option (Merging JoinRow)) := do
      if j.shows isRight then
        say (j.row (if isRight then none else some r) (if isRight then some r else none) ++ "\n")
      let some m ← j.advance c m isRight | return none
      run j c fuel { m with isUnpaired }
    match m.left.rest, m.right.rest with
    | [], [] => return some m
    | a :: _, [] => alone false a m.isUnpaired
    | [], b :: _ => alone true b m.isUnpaired
    | a :: as, b :: bs =>
      if j.fold a.key < j.fold b.key then alone false a true
      else if j.fold b.key < j.fold a.key then alone true b true
      else
        let some (xs, m) ← j.takeEqual c (j.fold b.key) false (as.length + 1) m | return none
        let some (ys, m) ← j.takeEqual c (j.fold a.key) true (bs.length + 1) m | return none
        if j.writesPairs then
          sayLines (xs.flatMap fun x => ys.map fun y => j.row (some x) (some y))
        run j c fuel m

end Joining

/-- How options ask for lines to be joined. -/
def joiningOf (o : Options) (p q : String) : Except String Joining := do
  let column (key : String) : Except String Nat :=
    match (o.last? key).orElse fun _ => o.last? "j" with
    | none => .ok 1
    | some s =>
      match number? s with
      | some (n + 1) => .ok (n + 1)
      | _ => .error ("invalid field number: " ++ quoted s)
  let fields ←
    match o.last? "o" with
    | none | some "auto" => .ok none
    | some form => some <$> ((Text.pieces ',' form).flatMap (fieldsIn none)).mapM JoinField.ofText
  let columns := (← column "1", ← column "2")
  let side (isRight : Bool) : String := if isRight then "2" else "1"
  return {
    between := ((o.last? "t").bind fun t => t.toList.head?.map String.singleton).getD " "
    fields, columns
    empty := (o.last? "e").getD ""
    shows := fun isRight => (o.all "a").contains (side isRight) || (o.all "v").contains (side isRight)
    writesPairs := o.all "v" == []
    fold := fun s => if o.has "i" then s.toLower else s
    check := orderCheckOf o
    names := (p, q) }

/-- Joins the lines of two sorted files that have a field in common. -/
def join : Utility :=
  withOptions
    [valued "a", valued "v", valued "e", valued "o", valued "t", valued "1", valued "2", valued "j",
      flag "i" ["ignore-case"], flag "check" ["check-order"], flag "nocheck" ["nocheck-order"],
      flag "header" ["header"]] fun c o => do
    match o.operands with
    | [] => c.misused "missing operand"
    | [a] => c.misused ("missing operand after " ++ quoted a)
    | _ :: _ :: extra :: _ => c.misused ("extra operand " ++ quoted extra)
    | [p, q] =>
      match joiningOf o p q with
      | .error message => c.fail message
      | .ok j =>
        match ← content? c p with
        | none => return 1
        | some a =>
          match ← content? c q with
          | none => return 1
          | some b =>
            let separator := (o.last? "t").bind fun t => t.toList.head?
            let rows (b : Bytes) (column : Nat) : List JoinRow :=
              (linesOf b).1.zipIdx.map fun (line, i) =>
                let fields := fieldsIn separator line
                ⟨line, i + 1, fields, fields.getD (column - 1) ""⟩
            let (as, bs) := (rows a j.columns.1, rows b j.columns.2)
            let headed := o.has "header"
            if headed && !(as.isEmpty && bs.isEmpty) then say (j.row as.head? bs.head? ++ "\n")
            let drop := if headed then 1 else 0
            let m : Merging JoinRow := { left := ⟨as.drop drop, none, false⟩, right := ⟨bs.drop drop, none, false⟩ }
            match ← j.run c (as.length + bs.length + 1) m with
            | none => return 1
            | some m => if m.isDisordered then c.fail "input is not in sorted order" else return 0

end Buildwright.Shell.Utility
