-- SUMMARY: Sets of characters with ranges, classes and repetitions, and the program that exchanges them.
import Buildwright.Shell.CharClass
import Buildwright.Shell.Utility.Lines

/-!
# Sets of characters

A set is written as a text: characters with escapes, ranges, classes of characters, and characters that are
repeated. The order of its members counts when those of one set are exchanged for those of another.
-/
namespace Buildwright.Shell.Utility

open Shell.Action

/-! ## Escapes -/

/-- A character of a set, and whether a backslash stands in front of it. -/
abbrev SetChar := Char × Bool

/-- The characters that letters behind a backslash stand for in sets. -/
def setLetters : List (Char × Char) := controlLetters.map fun (c, letter) => (letter, c)

/-- The character behind a backslash, the rest, and a warning. -/
def setEscape : List Char → SetChar × List Char × Option String
  | [] => (('\x5c', false), [], some "warning: an unescaped backslash at end of string is not portable")
  | c :: cs =>
    let ds := ((c :: cs).take 3).takeWhile Format.isOctal
    let wide := Text.valueOfDigits 8 ds
    if ds.isEmpty then (((setLetters.lookup c).getD c, true), cs, none)
    else if wide < 256 then ((Format.byteChar wide, true), cs.drop (ds.length - 1), none)
    else
      let first := String.ofList (ds.take 2)
      let last := String.ofList (ds.drop 2)
      ((Format.byteChar (Text.valueOfDigits 8 (ds.take 2)), true), cs.drop 1,
        some ("warning: the ambiguous octal escape \x5c" ++ first ++ last ++
          " is being\n\tinterpreted as the 2-byte sequence \x5c0" ++ first ++ ", " ++ last))

/-- The characters of a text of at most `n` with its escapes, and warnings. -/
def setCharsOf : Nat → List Char → List SetChar × List String
  | 0, _ | _, [] => ([], [])
  | n + 1, '\x5c' :: cs =>
    let (c, rest, warning) := setEscape cs
    let (more, warnings) := setCharsOf n rest
    (c :: more, warning.toList ++ warnings)
  | n + 1, c :: cs =>
    let (more, warnings) := setCharsOf n cs
    ((c, false) :: more, warnings)

/-! ## Parts -/

/-- A part of a set. -/
inductive SetPart where
  | char (c : Char)
  | range (low high : Char)
  /-- The members of a class. -/
  | named (name : String) (members : List Char)
  /-- The characters that count as the same as one. -/
  | same (c : Char)
  /-- A character that is repeated, as often as needed if the number is zero. -/
  | repeated (c : Char) (count : Nat)

namespace SetPart

/-- Whether a part is a class. -/
def isClass : SetPart → Bool
  | .named .. => true
  | _ => false

/-- Whether a part is made of characters that count as the same. -/
def isSame : SetPart → Bool
  | .same _ => true
  | _ => false

/-- For a class of letters of one case, whether they are capital. -/
def letterCase? : SetPart → Option Bool
  | .named "upper" _ => some true
  | .named "lower" _ => some false
  | _ => none

/-- Whether a part fills up the set. -/
def isFilling : SetPart → Bool
  | .repeated _ 0 => true
  | _ => false

end SetPart

/-- The characters from one to another. -/
def charsFrom (low high : Char) : List Char :=
  (List.range (high.toNat + 1 - low.toNat)).map fun i => Char.ofNat (low.toNat + i)

/-- All characters of one byte. -/
def byteChars : List Char := charsFrom '\x00' (Char.ofNat 255)

/-- The characters of ranges, in order. -/
def charsOf (ranges : List (Char × Char)) : List Char :=
  byteChars.filter fun c => ranges.any fun (low, high) => low ≤ c && c ≤ high

/-- The members of a part. -/
def SetPart.members : SetPart → List Char
  | .char c | .same c => [c]
  | .range low high => charsFrom low high
  | .named _ members => members
  | .repeated c count => List.replicate count c

/-- The characters up to a delimiter with a closing bracket, and what follows these. -/
def upToDelimiter (d : Char) : List SetChar → Option (List Char × List SetChar)
  | a :: b :: rest =>
    if a == (d, false) && b == (']', false) then some ([], rest)
    else (upToDelimiter d (b :: rest)).map fun (cs, after) => (a.1 :: cs, after)
  | _ => none

/-- Whether a star, digits and a closing bracket come first. -/
def isRepetition : List SetChar → Bool
  | ('*', false) :: rest => (rest.dropWhile (·.1.isDigit)).head? == some (']', false)
  | _ => false

/-- A repetition behind an opening bracket, and what follows it. -/
def repetition? : List SetChar → Option (Except String (SetPart × List SetChar))
  | (c, _) :: ('*', false) :: rest =>
    let inner := rest.takeWhile fun x => !x.2 && x.1 != ']'
    match rest.drop inner.length with
    | (']', false) :: after =>
      let ds := inner.map (·.1)
      let base := if ds.head? == some '0' then 8 else 10
      let isNumber := ds.all fun d => if base == 8 then Format.isOctal d else d.isDigit
      if isNumber then some (.ok (.repeated c (Text.valueOfDigits base ds), after))
      else some (.error ("invalid repeat count " ++ quoted (String.ofList ds) ++ " in [c*n] construct"))
    | _ => none
  | _ => none

/-- A class, or characters that count as the same, behind an opening bracket and a delimiter, and what
    follows them; or nothing if this is something else. -/
def delimited? (d : Char) (more : List SetChar) : Option (Except String (SetPart × List SetChar)) := do
  let (inner, after) ← upToDelimiter d more
  let text := String.ofList inner
  match d, inner with
  | ':', [] => return .error "missing character class name '[::]'"
  | _, [] => return .error "missing equivalence class character '[==]'"
  | '=', [c] => return .ok (.same c, after)
  | _, _ =>
    match (CharClass.named.lookup text).filter fun _ => d == ':' with
    | some ranges => return .ok (.named text (charsOf ranges), after)
    | none =>
      if isRepetition more then none
      else if d == ':' then return .error ("invalid character class " ++ quoted text)
      else return .error (text ++ ": equivalence class operand must be a single character")

/-- What stands behind an opening bracket if it is no character, and what follows it. -/
def bracketed? (cs : List SetChar) : Option (Except String (SetPart × List SetChar)) :=
  match cs with
  | (d, false) :: more =>
    if d == ':' || d == '=' then (delimited? d more).or (repetition? cs) else repetition? cs
  | _ => repetition? cs

/-- The parts of a set of at most `n` characters, or what is wrong with it. -/
def setParts : Nat → List SetChar → Except String (List SetPart)
  | 0, _ => .ok []
  | n + 1, c :: d :: e :: rest =>
    match if c == ('[', false) then bracketed? (d :: e :: rest) else none with
    | some (.ok (part, after)) => (setParts n after).map (part :: ·)
    | some (.error why) => .error why
    | none =>
      if d == ('-', false) then
        if e.1 < c.1 then
          .error ("range-endpoints of " ++ inQuotes (String.ofList [c.1, '-', e.1]) ++
            " are in reverse collating sequence order")
        else (setParts n rest).map (.range c.1 e.1 :: ·)
      else (setParts n (d :: e :: rest)).map (.char c.1 :: ·)
  | _, cs => .ok (cs.map fun c => .char c.1)

/-- The number of members of a set, without those that fill it up. -/
def setSize (parts : List SetPart) : Nat :=
  parts.foldl (fun n p => n + p.members.length) 0

/-- The members of a set. -/
def setMembers (parts : List SetPart) : List Char := parts.flatMap SetPart.members

/-- The set with repetitions that fill it up to a size. -/
def filledUp (size : Nat) (parts : List SetPart) : List SetPart :=
  let missing := size - setSize parts
  parts.map fun p =>
    match p with
    | .repeated c 0 => .repeated c missing
    | p => p

/-- All characters of one byte that are not among some. -/
def complementOf (cs : List Char) : List Char :=
  byteChars.filter (!cs.contains ·)

/-! ## Exchanges -/

/-- The members of a part that are left, and the case of the class of letters that they are. -/
structure SetRun where
  members : List Char
  letterCase : Option Bool

/-- The parts of a set with their members. -/
def setRuns (parts : List SetPart) : List SetRun :=
  (parts.map fun p => ⟨p.members, p.letterCase?⟩).filter (!·.members.isEmpty)

/-- The set without its first member, and whether the next one begins a part. -/
def afterMember : List SetRun → List SetRun × Bool
  | [] => ([], true)
  | r :: rest =>
    match r.members with
    | _ :: c :: cs => (⟨c :: cs, r.letterCase⟩ :: rest, false)
    | _ => (rest, true)

/-- Whether classes of letters in the second set stand where such classes stand in the first one; `old` and
    `new` say whether a part of the sets begins. -/
def isAligned : Nat → Bool → Bool → List SetRun → List SetRun → Bool
  | 0, _, _, _, _ => true
  | n + 1, old, new, first, second =>
    let case1 := first.head?.bind SetRun.letterCase
    let case2 := second.head?.bind SetRun.letterCase
    if new && case2.isSome && !(old && case1.isSome) then false
    else if first.isEmpty || second.isEmpty then true
    else if case2.isSome then isAligned n true true (first.drop 1) (second.drop 1)
    else
      let (rest1, old) := afterMember first
      let (rest2, new) := afterMember second
      isAligned n old new rest1 rest2

/-- The number of places in a set at which something is exchanged: a class of letters is one place if the
    other set has one there too, and counts as `n` places at most. -/
def placesSaved : Nat → List SetRun → List SetRun → Nat
  | 0, _, _ => 0
  | n + 1, first, second =>
    match second.head? with
    | none => 0
    | some r =>
      if first.isEmpty then 0
      else if r.letterCase.isSome then 25 + placesSaved n (first.drop 1) (second.drop 1)
      else placesSaved n (afterMember first).1 (afterMember second).1

/-- The characters that are exchanged, in the order in which this happens. -/
def exchanges : Nat → List SetRun → List SetRun → List (Char × Char)
  | 0, _, _ => []
  | n + 1, first, second =>
    match first, second with
    | r :: rest1, s :: rest2 =>
      match r.letterCase, s.letterCase, r.members, s.members with
      | some false, some true, _, _ =>
        (charsFrom 'a' 'z').map (fun c => (c, c.toUpper)) ++ exchanges n rest1 rest2
      | some true, some false, _, _ =>
        (charsFrom 'A' 'Z').map (fun c => (c, c.toLower)) ++ exchanges n rest1 rest2
      | _, _, c :: _, d :: _ => (c, d) :: exchanges n (afterMember first).1 (afterMember second).1
      | _, _, _, _ => []
    | _, _ => []

/-- The characters of one byte with what stands for each. -/
def exchangeTable (pairs : List (Char × Char)) : Array Char :=
  pairs.foldl (fun a (x, y) => a.setIfInBounds x.toNat y) byteChars.toArray

/-- Which of the characters of one byte are among some. -/
def membership (cs : List Char) : Array Bool :=
  cs.foldl (fun a c => a.setIfInBounds c.toNat true) (Array.replicate 256 false)

/-- A text in which characters that follow one like them are left out, if they are in a set. -/
def squeezed (isIn : Char → Bool) : Option Char → List Char → List Char
  | _, [] => []
  | before, c :: cs =>
    if before == some c && isIn c then squeezed isIn before cs else c :: squeezed isIn (some c) cs

/-- What is done with the characters of a text: some are removed, some are exchanged, and of some only the
    first of several is kept. -/
structure CharacterChange where
  removed : List Char := []
  exchanged : List (Char × Char) := []
  squeezed : List Char := []

/-- The text that a change makes. -/
def CharacterChange.apply (k : CharacterChange) (cs : List Char) : List Char :=
  let isIn (a : Array Bool) (c : Char) : Bool := (a[c.toNat]?).getD false
  let cs := if k.removed.isEmpty then cs else cs.filter (!isIn (membership k.removed) ·)
  let table := exchangeTable k.exchanged
  let cs := if k.exchanged.isEmpty then cs else cs.map fun c => (table[c.toNat]?).getD c
  if k.squeezed.isEmpty then cs else Utility.squeezed (isIn (membership k.squeezed)) none cs

/-! ## `tr` -/

/-- How sets are used. -/
structure SetUse where
  complements : Bool
  removes : Bool
  squeezes : Bool
  truncates : Bool

/-- What the second set lacks to be as long as the first one, or why it cannot be filled up. -/
def extension (parts : List SetPart) (missing : Nat) : Except String (List SetPart) :=
  if missing == 0 then .ok []
  else
    match parts.getLast? with
    | none => .error "when not truncating set1, string2 must be non-empty"
    | some (.named ..) =>
      .error "when translating with string1 longer than string2,\nthe latter string must not end with a character class"
    | some p => .ok ((p.members.getLast?.toList).map (.repeated · missing))

/-- The change by which the members of the first set become those of the second one, or what is wrong with
    the sets. -/
def exchangeOf (u : SetUse) (first second : List SetPart) : Except String CharacterChange := do
  let members := if u.complements then complementOf (setMembers first) else setMembers first
  let second := filledUp members.length second
  let isRestricted (p : SetPart) : Bool := p.isClass && p.letterCase?.isNone
  if second.any SetPart.isSame then
    .error "[=c=] expressions may not appear in string2 when translating"
  if second.any isRestricted then
    .error
      "when translating, the only character classes that may appear in\nstring2 are 'upper' and 'lower'"
  let looks := !u.complements && second.any SetPart.isClass
  let (firstRuns, secondRuns) := (setRuns first, setRuns second)
  let fuel := members.length + setSize second + 1
  if looks && !isAligned fuel true true firstRuns secondRuns then
    .error "misaligned [:upper:] and/or [:lower:] construct"
  let saved := if looks then placesSaved fuel firstRuns secondRuns else 0
  let missing := (members.length - saved) - (setSize second - saved)
  let second ← if u.truncates then .ok second else (extension second missing).map (second ++ ·)
  let becoming := setMembers second
  if u.complements && first.any SetPart.isClass &&
      !(becoming.length == members.length && becoming.eraseDups.length ≤ 1) then
    .error
      "when translating with complemented character classes,\nstring2 must map all characters in the domain to one"
  let firstRuns := if u.complements then [⟨members, none⟩] else firstRuns
  return {
    exchanged := exchanges (fuel + missing) firstRuns (setRuns second)
    squeezed := if u.squeezes then becoming else [] }

/-- The change that one or two sets ask for, or what is wrong with them. -/
def changeOf (u : SetUse) (first : List SetPart) (second : Option (List SetPart)) :
    Except String CharacterChange := do
  if first.any SetPart.isFilling then .error "the [c*] repeat construct may not appear in string1"
  if 1 < (second.getD []).countP SetPart.isFilling then
    .error "only one [c*] repeat construct may appear in string2"
  let members := if u.complements then complementOf (setMembers first) else setMembers first
  match u.removes, second with
  | false, some second => exchangeOf u first second
  | _, _ =>
    if (second.getD []).any SetPart.isFilling then
      .error "the [c*] construct may appear in string2 only when translating"
    let squeezed := if u.removes then setMembers (second.getD []) else members
    return { removed := if u.removes then members else [], squeezed := if u.squeezes then squeezed else [] }

/-- Replaces, removes or squeezes characters. -/
def tr : Utility :=
  withLeadingOptions
    [flag "c" ["complement"], flag "C", flag "d" ["delete"], flag "s" ["squeeze-repeats"],
      flag "t" ["truncate-set1"]] fun c o => do
    let use : SetUse := ⟨o.hasAny ["c", "C"], o.has "d", o.has "s", o.has "t"⟩
    let least := if use.removes == use.squeezes then 2 else 1
    let most := if use.removes && !use.squeezes then 1 else 2
    let twice (message : String) (detail : Option String) : Action Nat := do
      c.report message
      if let some detail := detail then complain (detail ++ "\n")
      c.hint 1
    match o.operands with
    | [] => c.misused "missing operand"
    | a :: rest =>
      match rest.drop (most - 1) with
      | extra :: _ =>
        twice ("extra operand " ++ quoted extra)
          (if rest.length == 1 then
            some "Only one string may be given when deleting without squeezing repeats." else none)
      | [] =>
        if rest.length + 1 < least then
          twice ("missing operand after " ++ quoted a)
            (if use.squeezes then "Two strings must be given when both deleting and squeezing repeats."
              else "Two strings must be given when translating.")
        else go c use a rest.head?
where
  /-- The parts of the set that a text writes; warnings and what is wrong with it are reported. -/
  read? (c : Call) (s : String) : Action (Option (List SetPart)) := do
    let (cs, warnings) := setCharsOf (s.length + 1) s.toList
    for warning in warnings do c.report warning
    match setParts (cs.length + 1) cs with
    | .ok parts => return some parts
    | .error why =>
      c.report why
      return none
  /-- Works on the standard input with one or two sets. -/
  go (c : Call) (use : SetUse) (a : String) (b : Option String) : Action Nat := do
    match ← read? c a with
    | none => return 1
    | some first =>
      let second ←
        match b with
        | none => pure none
        | some b =>
          match ← read? c b with
          | some parts => pure (some parts)
          | none => return 1
      match changeOf use first second with
      | .error why => c.fail why
      | .ok change =>
        match ← drainStream 0 with
        | .error why => c.fail ("read error: " ++ why)
        | .ok b =>
          say (String.ofList (change.apply (Text.bytewise b).toList))
          return 0

end Buildwright.Shell.Utility
