-- SUMMARY: A program that puts names into an order in which each stands in front of those that follow it.
import Buildwright.Shell.Utility.Options

/-!
# Orders of precedence

Pairs of names say which one comes first. Names with nothing in front of them are written, and then those
that only these stood in front of. Where names stand in front of each other in a circle, the circle is
reported and opened.
-/
namespace Buildwright.Shell.Utility

open Shell.Action

/-- A name: how many relations stand in front of it, the names behind it, newest first, and whether it has
    been written. -/
structure Ranked where
  name : String
  before : Nat := 0
  behind : List String := []
  isWritten : Bool := false

/-- The names, in alphabetical order. -/
abbrev Ranking := List Ranked

namespace Ranking

/-- The names with a new one among them. -/
def adding (name : String) : Ranking → Ranking
  | [] => [{ name }]
  | x :: rest =>
    if x.name == name then x :: rest
    else if name < x.name then { name } :: x :: rest
    else x :: adding name rest

/-- Changes what is known of a name. -/
def changing (r : Ranking) (name : String) (f : Ranked → Ranked) : Ranking :=
  r.map fun x => if x.name == name then f x else x

/-- What is known of a name. -/
def find (r : Ranking) (name : String) : Ranked :=
  (r.find? (·.name == name)).getD { name }

/-- The names with those of a pair, of which the first one comes first. -/
def relating (r : Ranking) (pair : String × String) : Ranking :=
  let (a, b) := pair
  let r := (r.adding a).adding b
  if a == b then r
  else (r.changing a fun x => { x with behind := b :: x.behind }).changing b fun x =>
    { x with before := x.before + 1 }

/-- The names that can be written, in alphabetical order. -/
def free (r : Ranking) : List String :=
  (r.filter fun x => x.before == 0 && !x.isWritten).map (·.name)

/-- Takes the relations away that a name which is written has, and gives the names that become free. -/
def release (r : Ranking) (name : String) : Ranking × List String :=
  let r := r.changing name fun x => { x with isWritten := true }
  (r.find name).behind.foldl (fun (acc : Ranking × List String) b =>
    let r := acc.1.changing b fun x => { x with before := x.before - 1 }
    (r, if (r.find b).before == 0 then acc.2 ++ [b] else acc.2)) (r, [])

/-- The names that are written from a queue on, in order, and what is left. -/
def written (r : Ranking) : Nat → List String → List String × Ranking
  | 0, _ | _, [] => ([], r)
  | fuel + 1, name :: queue =>
    let (r, more) := r.release name
    let (rest, r) := written r fuel (queue ++ more)
    (name :: rest, r)

/-- Goes through names and extends a chain by each one that stands in front of its head. If it stands in the
    chain already, it closes a circle, which is given with what is left when the circle is opened. -/
def extendChain (r : Ranking) (chain : List String) : List String → List String × Option (List String × Ranking)
  | [] => (chain, none)
  | name :: rest =>
    let x := r.find name
    if x.before == 0 then extendChain r chain rest
    else
      match chain with
      | [] => extendChain r [name] rest
      | head :: _ =>
        if !x.behind.contains head then extendChain r chain rest
        else if chain.dropLast.contains name then
          let circle := chain.takeWhile (· != name) ++ [name]
          let r := r.changing name fun x => { x with behind := x.behind.erase head }
          (chain, some (circle, r.changing head fun x => { x with before := x.before - 1 }))
        else extendChain r (name :: chain) rest

/-- A circle of names, and what is left when it is opened. -/
def circle? (r : Ranking) : Nat → List String → Option (List String × Ranking)
  | 0, _ => none
  | fuel + 1, chain =>
    match r.extendChain chain (r.map (·.name)) with
    | (_, some found) => some found
    | (chain, none) => circle? r fuel chain

/-- Writes all names and reports circles among them. -/
def writeAll (c : Call) (source : String) : Nat → Nat → Ranking → Action Nat
  | 0, status, _ => return status
  | fuel + 1, status, r => do
    let (names, r) := r.written (r.length + 1) r.free
    sayLines names
    if r.all (·.isWritten) then return status
    else
      c.report (source ++ ": input contains a loop:")
      match r.circle? (2 * r.length + 2) [] with
      | none => return 1
      | some (circle, r) =>
        circle.forM c.report
        writeAll c source fuel 1 r

end Ranking

/-- The pairs of a list of even length. -/
def pairsOf : List String → List (String × String)
  | a :: b :: rest => (a, b) :: pairsOf rest
  | _ => []

/-- Puts names into an order in which each stands in front of those that follow it. -/
def tsort : Utility :=
  withOptions [] fun c o => do
    match o.operands with
    | _ :: extra :: _ => c.misused ("extra operand " ++ quoted extra)
    | files =>
      let file := files.headD "-"
      match ← read file with
      | .error why => c.fail (file ++ ": " ++ why)
      | .ok b =>
        let isBlank (ch : Char) : Bool := ch == ' ' || ch == '\t' || ch == '\n'
        let words := ((Text.bytewise b).splitToList isBlank).filter (· != "")
        if words.length % 2 != 0 then c.fail (file ++ ": input contains an odd number of tokens")
        else
          let r := (pairsOf words).foldl Ranking.relating []
          r.writeAll c file (words.length + 1) 0

end Buildwright.Shell.Utility
