-- SUMMARY: Programs that write what they are told or what the system is, and programs that only end or let time pass.
import Buildwright.Shell.Format
import Buildwright.Shell.Utility.Options

/-!
# Writing

Programs that write their arguments, numbers in a row, the same line without end, or what is known of the user
and the system.
-/
namespace Buildwright.Shell.Utility

open Shell.Action

/-- Ends with an exit code. -/
def ends (status : Nat) : Utility := fun _ => return status

/-! ## Arguments -/

/-- Whether an argument is made of options of `echo`. -/
def isEchoOption (a : String) : Bool :=
  match a.toList with
  | '-' :: c :: cs => (c :: cs).all ['n', 'e', 'E'].contains
  | _ => false

/-- Writes its arguments, with their escapes if it is told so, and a line end unless told otherwise. -/
def echo : Utility := fun c => do
  let given := c.arguments.takeWhile isEchoOption
  let letters := given.flatMap fun a => a.toList.drop 1
  let text := Text.joined " " (c.arguments.drop given.length)
  let escapes := (letters.filter (· != 'n')).getLast? == some 'e'
  let e : Format.Escape := if escapes then Format.unescape ⟨true, false⟩ text else ⟨text.toList, false⟩
  say (String.ofList e.chars ++ if letters.contains 'n' || e.last then "" else "\n")
  return 0

/-- The wording of a fault in a format. -/
def formatFault : Format.Fault → String
  | .notNumeric a => quoted a ++ ": expected a numeric value"
  | .notAllNumeric a => quoted a ++ ": value not completely converted"
  | .outOfRange a => quoted a ++ ": Numerical result out of range"
  | .noConversion t | .unfinished t => t ++ ": invalid conversion specification"

/-- Writes formatted arguments. -/
def printf : Utility := fun c => do
  match (if c.arguments.head? == some "--" then c.arguments.drop 1 else c.arguments) with
  | [] => c.misused "missing operand"
  | format :: rest =>
    let (text, faults) := Format.format ⟨true, true⟩ format rest
    say text
    for f in faults do c.report (formatFault f)
    let used := (format.toList.contains '%') || rest.isEmpty
    unless used do
      c.report ("warning: ignoring excess arguments, starting with " ++ quoted (rest.headD ""))
    return if faults.isEmpty then 0 else 1

/-! ## Lines -/

/-- The number of bytes that are written at once where output has no end. -/
def chunk : Nat := 16384

/-- Writes bytes again and again, until nothing reads them. -/
def repeatedly (b : Bytes) : Nat → Action Nat
  | 0 => throw .endless
  | n + 1 => do
    emit 1 b
    repeatedly b n

/-- Writes its arguments again and again. -/
def yes : Utility := fun c => do
  let arguments := if c.arguments.head? == some "--" then c.arguments.drop 1 else c.arguments
  let line := (if arguments.isEmpty then "y" else Text.joined " " arguments) ++ "\n"
  let lines := List.replicate (chunk / line.length + 1) line
  repeatedly (Text.bytesOf (String.join lines)) 4096

/-! ## Numbers in a row -/

/-- A decimal: a whole number and the number of its last digits that stand behind the point. -/
structure Decimal where
  digits : Int
  places : Nat

namespace Decimal

/-- The decimal that a text is. -/
def ofText? (s : String) : Option Decimal :=
  let (negative, cs) :=
    match s.toList.dropWhile Text.isSpace with
    | '-' :: cs => (true, cs)
    | '+' :: cs => (false, cs)
    | cs => (false, cs)
  let sized (n : Nat) (places : Nat) : Decimal := ⟨if negative then -n else n, places⟩
  match (Text.behindWord? "0x" cs).bind (Text.leadingDigits? 16), Text.leadingDecimal? cs with
  | some (n, []), _ => some (sized n 0)
  | _, some (n, e, []) => some (sized (if e < 0 then n else n * Binary64.tenTo e.toNat) (-e).toNat)
  | _, _ => none

/-- The digits of a decimal with a greater number of places. -/
def withPlaces (d : Decimal) (places : Nat) : Int :=
  d.digits * Binary64.tenTo (places - d.places)

/-- A number with places. -/
def text (places : Nat) (n : Int) : String :=
  (if n < 0 then "-" else "") ++ String.ofList (Text.withPoint places false n.natAbs)

end Decimal

/-- Writes numbers in a row. -/
def seq : Utility := fun c => do
  let isNumber (a : String) : Bool := (Decimal.ofText? a).isSome
  let leading := c.arguments.takeWhile fun a => !isNumber a && Text.beginsWith "-" a && a != "--"
  let valueTaken : Bool := leading.getLast? == some "-s" || leading.getLast? == some "-f"
  let cutAt := leading.length + if valueTaken then 1 else 0
  let behind := c.arguments.drop cutAt
  let numbers := if behind.head? == some "--" then behind.drop 1 else behind
  let forms := [valued "s" ["separator"], valued "f" ["format"], flag "w" ["equal-width"]]
  match Options.parse forms true (c.arguments.take cutAt) with
  | .error m => c.misused m.message
  | .ok o =>
    match numbers with
    | [] => c.misused "missing operand"
    | _ :: _ :: _ :: extra :: _ => c.misused ("extra operand " ++ quoted extra)
    | _ =>
      match numbers.find? (!isNumber ·) with
      | some a => c.misused ("invalid floating point argument: " ++ quoted a)
      | none =>
        let decimals := numbers.filterMap Decimal.ofText?
        let one : Decimal := ⟨1, 0⟩
        let (first, step, last) : Decimal × Decimal × Decimal :=
          match decimals with
          | [last] => (one, one, last)
          | [first, last] => (first, one, last)
          | first :: step :: last :: _ => (first, step, last)
          | [] => (one, one, one)
        if step.digits == 0 then
          c.misused ("invalid Zero increment value: " ++ quoted ((numbers.drop 1).headD ""))
        else
          let places := max first.places step.places
          let all := max places last.places
          let (a, s, z) := (first.withPlaces all, step.withPlaces all, last.withPlaces all)
          let count := if (0 < s && z < a) || (s < 0 && a < z) then 0 else ((z - a) / s).toNat + 1
          let count := if s < 0 && a ≥ z then ((a - z) / (-s)).toNat + 1 else count
          let value (n : Nat) : Int := (a + s * n) / Binary64.tenTo (all - places)
          let shown := (List.range count).map fun n => Decimal.text places (value n)
          let shown :=
            match o.last? "f" with
            | some f => shown.map fun t => (Format.format ⟨true, true⟩ f [t]).1
            | none =>
              if o.has "w" then
                let width := shown.foldl (fun n t => max n t.length) 0
                shown.map fun t =>
                  let zeros := String.ofList (List.replicate (width - t.length) '0')
                  match Text.after? "-" t with
                  | some size => "-" ++ zeros ++ size
                  | none => zeros ++ t
              else shown
          if !shown.isEmpty then say (Text.joined ((o.last? "s").getD "\n") shown ++ "\n")
          return 0

/-! ## Time -/

/-- The milliseconds that a length of time takes. -/
def milliseconds? (a : String) : Option Nat :=
  let (number, unit) :=
    match a.toList.reverse with
    | 's' :: cs => (cs.reverse, 1000)
    | 'm' :: cs => (cs.reverse, 60000)
    | 'h' :: cs => (cs.reverse, 3600000)
    | 'd' :: cs => (cs.reverse, 86400000)
    | _ => (a.toList, 1000)
  match String.ofList number with
  | "inf" | "infinity" => some 1000000000000
  | text =>
    (Decimal.ofText? text).bind fun d =>
      if d.digits < 0 then none else some (d.digits.toNat * unit / Binary64.tenTo d.places)

/-- Lets a number of milliseconds pass; nothing happens after the end of the time. -/
def pass (milliseconds : Nat) : Action Unit := do
  let s ← get
  let elapsed := s.elapsed + milliseconds
  set { s with elapsed, disk := { s.disk with now := s.disk.now + milliseconds * 1000000 } }
  match s.deadline with
  | some d => if d ≤ elapsed then throw .late
  | none => pure ()

/-- Lets time pass. -/
def sleep : Utility := fun c => do
  let times := if c.arguments.head? == some "--" then c.arguments.drop 1 else c.arguments
  match times, times.find? fun a => (milliseconds? a).isNone with
  | [], _ => c.misused "missing operand"
  | _, some a =>
    if Text.beginsWith "-" a then
      c.misused ("invalid option -- " ++ quoted (String.ofList ((a.toList.drop 1).take 1)))
    else c.misused ("invalid time interval " ++ quoted a)
  | _, none => do
    pass ((times.filterMap milliseconds?).foldl (· + ·) 0)
    return 0

/-! ## Divisors -/

/-- The prime factors of a number that has no divisor below `d`, in ascending order. The fuel bounds how many
    divisors are tried; what is left when it ends counts as prime. -/
def primesFrom : Nat → Nat → Nat → List Nat
  | 0, _, n => [n]
  | fuel + 1, d, n =>
    if n < 2 then []
    else if n < d * d then [n]
    else if n % d == 0 then d :: primesFrom fuel d (n / d)
    else primesFrom fuel (d + 1) n

/-- The number of divisors that are tried. -/
def triedDivisors : Nat := 1048576

/-- Writes the prime factors of numbers. -/
def factor : Utility :=
  withOptions [flag "h" ["exponents"]] fun c o => do
    let numbers ←
      if o.operands.isEmpty then
        match ← read "-" with
        | .error why => return ← c.fail ("error reading input: " ++ why)
        | .ok b => pure (((Text.bytewise b).splitToList Text.isSpace).filter (· != ""))
      else pure o.operands
    eachOf numbers fun a => do
      match number? (Text.dropOnce "+" (String.ofList (a.toList.dropWhile (· == ' ')))) with
      | none => c.fail (quoted a ++ " is not a valid positive integer")
      | some n =>
        say (Text.joined " " ((toString n ++ ":") :: (primesFrom triedDivisors 2 n).map toString) ++ "\n")
        return 0

/-! ## Facts about the system -/

/-- Writes a line and ends well. -/
def fact (text : String) : Utility := fun _ => do
  say (text ++ "\n")
  return 0

/-- Writes who the user is. -/
def identify : Utility :=
  withOptions
    [flag "u" ["user"], flag "g" ["group"], flag "G" ["groups"], flag "n" ["name"], flag "r" ["real"],
      flag "z" ["zero"], flag "a"] fun c o => do
    match o.operands with
    | [] | ["root"] | ["0"] =>
      let text :=
        if o.hasAny ["u", "g", "G"] then if o.has "n" then "root" else "0"
        else "uid=0(root) gid=0(root) groups=0(root)"
      say (text ++ "\n")
      return 0
    | user :: _ => c.fail (quoted user ++ ": no such user")

/-- Writes what the system is. -/
def uname : Utility :=
  withOptions
    [flag "a" ["all"], flag "s" ["kernel-name"], flag "n" ["nodename"], flag "r" ["kernel-release"],
      flag "v" ["kernel-version"], flag "m" ["machine"], flag "p" ["processor"],
      flag "i" ["hardware-platform"], flag "o" ["operating-system"]] fun _ o => do
    let all := [("s", "Linux"), ("n", "localhost"), ("r", "6.0.0"), ("v", "#1 SMP"), ("m", "x86_64"),
      ("p", "unknown"), ("i", "unknown"), ("o", "GNU/Linux")]
    let wanted := all.filter fun x => o.has x.1 || (o.has "a" && x.2 != "unknown")
    say (Text.joined " " ((if wanted.isEmpty then all.take 1 else wanted).map (·.2)) ++ "\n")
    return 0

/-- Tells that the input is no terminal. -/
def tty : Utility :=
  withOptions [flag "s" ["silent", "quiet"]] (fun _ o => do
    unless o.has "s" do say "not a tty\n"
    return 1) 2

end Buildwright.Shell.Utility
