-- SUMMARY: Dates and times: how formats show them, how texts name them, and the program `date`.
import Buildwright.Shell.Utility.Listing

/-!
# Dates

A format shows the parts of a time behind percent signs. A text names a time by a date, a time of day, and
what is added to them.
-/
namespace Buildwright.Shell.Utility

open Shell.Action

/-! ## Formats -/

/-- The names of the days of a week. -/
def dayNames : List String :=
  ["Sunday", "Monday", "Tuesday", "Wednesday", "Thursday", "Friday", "Saturday"]

/-- The full names of the months. -/
def longMonthNames : List String :=
  ["January", "February", "March", "April", "May", "June", "July", "August", "September", "October",
    "November", "December"]

/-- The day of the week of a time in seconds since the epoch, Sunday being zero. -/
def weekday (seconds : Int) : Nat := ((seconds / 86400 + 4) % 7).toNat

/-- Three digits of a number. -/
def threeDigits (n : Nat) : String := String.ofList ((Nat.toDigits 10 (1000 + n % 1000)).drop 1)

/-- The days of a year in front of the first day of a month. -/
def daysBefore (m : Moment) : Nat :=
  let leap := m.year % 4 == 0 && (m.year % 100 != 0 || m.year % 400 == 0)
  let lengths := [31, if leap then 29 else 28, 31, 30, 31, 30, 31, 31, 30, 31, 30, 31]
  (lengths.take (m.month - 1)).foldl (· + ·) 0

/-- The year and the number of the week of a time. A week belongs to the year in which its Thursday lies. -/
def weekOf (seconds : Int) : Int × Nat :=
  let thursday := momentOf (seconds + (3 - ((weekday seconds + 6) % 7 : Nat) : Int) * 86400)
  (thursday.year, (daysBefore thursday + thursday.day - 1) / 7 + 1)

/-- What a letter in a format stands for at a time in nanoseconds since the epoch. -/
def dateField (t : Int) (letter : Char) : Option String :=
  let seconds := t / 1000000000
  let nanoseconds := (t % 1000000000).toNat
  let m := momentOf seconds
  let hour := m.second / 3600
  let minute := m.second / 60 % 60
  let second := m.second % 60
  let year := toString m.year
  let day := weekday seconds
  let dayOfYear := daysBefore m + m.day - 1
  let week := weekOf seconds
  let name := dayNames[day]?.getD ""
  let month := longMonthNames[m.month - 1]?.getD ""
  let hour12 := if hour % 12 == 0 then 12 else hour % 12
  let clock := twoDigits hour ++ ":" ++ twoDigits minute ++ ":" ++ twoDigits second
  let short (s : String) : String := String.ofList (s.toList.take 3)
  match letter with
  | 'Y' => some year
  | 'y' => some (twoDigits (m.year % 100).toNat)
  | 'C' => some (twoDigits (m.year / 100).toNat)
  | 'm' => some (twoDigits m.month)
  | 'd' => some (twoDigits m.day)
  | 'e' => some (padLeft 2 (toString m.day))
  | 'H' => some (twoDigits hour)
  | 'I' => some (twoDigits hour12)
  | 'k' => some (padLeft 2 (toString hour))
  | 'l' => some (padLeft 2 (toString hour12))
  | 'M' => some (twoDigits minute)
  | 'S' => some (twoDigits second)
  | 'N' => some (String.ofList ((Nat.toDigits 10 (1000000000 + nanoseconds)).drop 1))
  | 's' => some (toString seconds)
  | 'j' => some (threeDigits (dayOfYear + 1))
  | 'U' => some (twoDigits ((dayOfYear + 7 - day) / 7))
  | 'W' => some (twoDigits ((dayOfYear + 7 - (day + 6) % 7) / 7))
  | 'V' => some (twoDigits week.2)
  | 'G' => some (toString week.1)
  | 'g' => some (twoDigits (week.1 % 100).toNat)
  | 'q' => some (toString ((m.month + 2) / 3))
  | 'a' => some (short name)
  | 'A' => some name
  | 'b' | 'h' => some (short month)
  | 'B' => some month
  | 'p' => some (if hour < 12 then "AM" else "PM")
  | 'P' => some (if hour < 12 then "am" else "pm")
  | 'u' => some (toString (if day == 0 then 7 else day))
  | 'w' => some (toString day)
  | 'D' | 'x' => some (twoDigits m.month ++ "/" ++ twoDigits m.day ++ "/" ++ twoDigits (m.year % 100).toNat)
  | 'F' => some (year ++ "-" ++ twoDigits m.month ++ "-" ++ twoDigits m.day)
  | 'T' | 'X' => some clock
  | 'R' => some (twoDigits hour ++ ":" ++ twoDigits minute)
  | 'r' => some (twoDigits hour12 ++ ":" ++ twoDigits minute ++ ":" ++ twoDigits second ++
      (if hour < 12 then " AM" else " PM"))
  | 'c' => some (short name ++ " " ++ short month ++ " " ++ padLeft 2 (toString m.day) ++ " " ++ clock ++
      " " ++ year)
  | 'z' => some "+0000"
  | 'Z' => some "UTC"
  | 'n' => some "\n"
  | 't' => some "\t"
  | '%' => some "%"
  | _ => none

/-- The letters of a format that stand for numbers. -/
def numberLetters : List Char := "CdeGgHIjklmMNqsSuUVwWyY".toList

/-- What a letter stands for as flags and a width ask for it. The last flag among those for padding counts:
    a dash for none, an underscore for blanks, and a zero. -/
def paddedField (letter : Char) (flags : List Char) (width : Option Nat) (s : String) : String :=
  let isNumber := numberLetters.contains letter
  let usual := if isNumber && letter != 'e' && letter != 'k' && letter != 'l' then '0' else ' '
  let pad := ((flags.filter ['-', '_', '0'].contains).getLast?).getD usual
  let s :=
    if flags.contains '^' then s.toUpper
    else if flags.contains '#' then if letter == 'p' || letter == 'Z' then s.toLower else s.toUpper
    else s
  if letter == 'N' then
    match width with
    | some w => String.ofList (s.toList.take w) ++ String.ofList (List.replicate (w - s.length) '0')
    | none => s
  else
    let bare := if isNumber then s.toList.dropWhile fun c => c == '0' || c == ' ' else s.toList
    let bare := if bare.isEmpty && s != "" then ['0'] else bare
    if pad == '-' then String.ofList bare
    else
      let size := max (width.getD 0) s.length
      String.ofList (List.replicate (size - bare.length) (if pad == '_' then ' ' else pad) ++ bare)

/-- A time as a format shows it, of which at most `n` characters are left. -/
def dateText (t : Int) : Nat → List Char → String
  | 0, _ | _, [] => ""
  | n + 1, '%' :: cs =>
    let flags := cs.takeWhile ['-', '_', '0', '^', '#', '+'].contains
    let behind := cs.drop flags.length
    let digits := behind.takeWhile Char.isDigit
    let rest := behind.drop digits.length
    let rest := if rest.head? == some 'E' || rest.head? == some 'O' then rest.drop 1 else rest
    let colons := rest.takeWhile (· == ':')
    match rest.drop colons.length with
    | c :: more =>
      let field :=
        match colons.length, c with
        | 0, _ => dateField t c
        | 1, 'z' => some "+00:00"
        | 2, 'z' => some "+00:00:00"
        | 3, 'z' => some "+00"
        | _, _ => none
      match field with
      | some s => paddedField c flags (Text.digits? digits) s ++ dateText t n more
      | none => "%" ++ dateText t n cs
    | [] => "%" ++ dateText t n cs
  | n + 1, c :: cs => String.singleton c ++ dateText t n cs

/-! ## Texts -/

/-- The days from the epoch to a date. -/
def daysOf (year : Int) (month day : Nat) : Int :=
  let y := if month ≤ 2 then year - 1 else year
  let era := y / 400
  let ofEra := y - era * 400
  let ofYear := (153 * ((month + 9) % 12 : Nat) + 2) / 5 + day - 1
  era * 146097 + (ofEra * 365 + ofEra / 4 - ofEra / 100 + ofYear) - 719468

/-- What the words of a text say of a time: a date, a time of day, and what is added to them. -/
structure Mention where
  date : Option (Int × Nat × Nat) := none
  clock : Option Nat := none
  months : Int := 0
  seconds : Int := 0

namespace Mention

/-- What some units that are named in a text add. -/
def plus (k : Mention) (count : Int) (word : String) : Option Mention :=
  let word := word.toLower
  let unit := (Text.before? "s" word).getD word
  let lengths : List (String × Int) :=
    [("sec", 1), ("second", 1), ("min", 60), ("minute", 60), ("hour", 3600), ("day", 86400),
      ("week", 604800), ("fortnight", 1209600)]
  match lengths.lookup unit, unit with
  | some n, _ => some { k with seconds := k.seconds + count * n }
  | none, "month" => some { k with months := k.months + count }
  | none, "year" => some { k with months := k.months + 12 * count }
  | none, _ => none

/-- The numbers between separators. -/
def numbers? (sep : Char) (s : String) : Option (List Nat) :=
  (Text.pieces sep s).mapM fun x => Text.digits? x.toList

/-- The mention of a date. -/
def dated? (k : Mention) (year month day : Nat) : Option Mention :=
  let length := daysOf (year + month / 12 : Nat) (month % 12 + 1) 1 - daysOf year month 1
  if k.date.isNone && 1 ≤ month && month ≤ 12 && 1 ≤ day && (day : Int) ≤ length then
    some { k with date := some (year, month, day) }
  else none

/-- The mention of a time of day. -/
def clocked? (k : Mention) (hour minute second : Nat) : Option Mention :=
  if k.clock.isNone && hour < 24 && minute < 60 && second < 61 then
    some { k with clock := some (hour * 3600 + minute * 60 + second) }
  else none

/-- A word that says something alone. -/
def word? (k : Mention) (w : String) : Option Mention :=
  match w.toLower with
  | "now" | "today" | "utc" | "gmt" | "z" => some k
  | "yesterday" => some { k with seconds := k.seconds - 86400 }
  | "tomorrow" => some { k with seconds := k.seconds + 86400 }
  | "ago" => some { k with months := -k.months, seconds := -k.seconds }
  | _ =>
    match numbers? ':' w, numbers? '-' w, numbers? '/' w with
    | some [h, m], _, _ => k.clocked? h m 0
    | some [h, m, s], _, _ => k.clocked? h m s
    | some [n], _, _ =>
      if w.length == 8 then k.dated? (n / 10000) (n / 100 % 100) (n % 100) else none
    | _, some [y, m, d], _ => k.dated? y m d
    | _, _, some [m, d, y] => k.dated? y m d
    | _, _, _ => k.plus 1 w

/-- A count of units at the beginning of a word, and what follows it. -/
def count? (w : String) : Option (Int × String) :=
  let (negative, cs) :=
    match w.toList with
    | '-' :: cs => (true, cs)
    | '+' :: cs => (false, cs)
    | cs => (false, cs)
  let digits := cs.takeWhile Char.isDigit
  (Text.digits? digits).map fun n =>
    (if negative then -Int.ofNat n else n, String.ofList (cs.drop digits.length))

/-- The mention of a zone by its distance from the usual one: hours, or hours and minutes. -/
def zoned? (k : Mention) (negative : Bool) (digits : List Char) : Option Mention :=
  (Text.digits? digits).bind fun n =>
    let (hours, minutes) := if digits.length ≤ 2 then (n, 0) else (n / 100, n % 100)
    let distance : Int := hours * 3600 + minutes * 60
    if 24 < hours || 59 < minutes then none
    else some { k with seconds := if negative then k.seconds + distance else k.seconds - distance }

/-- The words with signs at the beginning of the next words. -/
def withSigns : List String → List String
  | "+" :: w :: rest => ("+" ++ w) :: withSigns rest
  | "-" :: w :: rest => ("-" ++ w) :: withSigns rest
  | w :: rest => w :: withSigns rest
  | [] => []

/-- What words say, in addition to what is known; `timed` tells whether the last of the words before them is a
    time of day, behind which a number with a sign names a zone. -/
def ofWords? (k : Mention) (timed : Bool) : List String → Option Mention
  | [] => some k
  | [w] =>
    match ofWords?.zone? k timed w, k.word? w, count? w with
    | some found, _, _ => found
    | none, some k, _ => some k
    | none, none, some (n, u) => k.plus n u
    | none, none, none => none
  | w :: u :: rest =>
    match ofWords?.zone? k timed w, k.word? w, count? w with
    | some found, _, _ => found.bind (·.ofWords? false (u :: rest))
    | none, some next, _ => next.ofWords? (k.clock.isNone && next.clock.isSome) (u :: rest)
    | none, none, some (n, "") => (k.plus n u).bind (·.ofWords? false rest)
    | none, none, some (n, unit) => (k.plus n unit).bind (·.ofWords? false (u :: rest))
    | none, none, none =>
      if w == "next" then (k.plus 1 u).bind (·.ofWords? false rest)
      else if w == "last" then (k.plus (-1) u).bind (·.ofWords? false rest)
      else none
where
  /-- The mention of a zone, if a word names one. -/
  zone? (k : Mention) (timed : Bool) (w : String) : Option (Option Mention) :=
    match timed, w.toList with
    | true, '+' :: cs => if cs.all Char.isDigit then some (k.zoned? false cs) else none
    | true, '-' :: cs => if cs.all Char.isDigit then some (k.zoned? true cs) else none
    | _, _ => none

/-- The time that is meant, in seconds since the epoch. A day that its month does not have is one of the next
    month. -/
def secondsFrom (k : Mention) (now : Int) : Int :=
  let m := momentOf now
  let base :=
    match k.date, k.clock with
    | some (y, mo, d), clock => (y, mo, d, clock.getD 0)
    | none, clock => (m.year, m.month, m.day, clock.getD m.second)
  let (year, month, day, ofDay) := base
  let months := year * 12 + (month - 1 : Nat) + k.months
  let start := daysOf (months / 12) ((months % 12).toNat + 1) 1
  (start + (day - 1 : Nat)) * 86400 + (ofDay : Nat) + k.seconds

end Mention

/-- The words of a text that names a time. A `T` between digits separates them, and so does a `Z` behind one. -/
def wordsOfTime (s : String) : List String :=
  let cs := s.toList
  let isDigitAt (i : Nat) : Bool := (cs[i]?).any Char.isDigit
  let separated := cs.zipIdx.flatMap fun (c, i) =>
    if c == 'T' && i != 0 && isDigitAt (i - 1) && isDigitAt (i + 1) then [' ']
    else if c == 'Z' && i != 0 && isDigitAt (i - 1) then [' ', 'Z']
    else [c]
  Mention.withSigns ((Text.pieces ' ' (String.ofList separated)).filter (· != ""))

/-- The time in seconds since the epoch that a text names. -/
def secondsOf? (now : Int) (s : String) : Option Int :=
  match s.toList with
  | '@' :: cs => Text.integer? (String.ofList cs)
  | _ =>
    let k : Option Mention :=
      match wordsOfTime s with
      | [] => some { clock := some 0 }
      | words => Mention.ofWords? {} false words
    k.map (·.secondsFrom now)

/-! ## The program -/

/-- Writes a time. -/
def date : Utility :=
  withOptions
    [flag "u" ["utc", "universal"], valued "d" ["date"], valued "r" ["reference"], flag "R" ["rfc-email"],
      ⟨"I", ["iso-8601"], .maybe⟩, valued "rfc" ["rfc-3339"], valued "f" ["file"], valued "s" ["set"]] fun c o => do
    let now := (← disk).now
    let time ←
      match o.last? "d", o.last? "r" with
      | some s, _ =>
        match secondsOf? (now / 1000000000) s with
        | some n => pure (n * 1000000000)
        | none => return ← c.fail ("invalid date " ++ quoted s)
      | none, some p =>
        match (← disk).modifiedAt (pathOf p) with
        | .ok t => pure t
        | .error e => return ← c.fail (shownName p ++ ": " ++ wording e)
      | none, none => pure now
    let usual :=
      if o.has "R" then "%a, %d %b %Y %T %z"
      else if o.has "I" then
        match o.last? "I" with
        | some "seconds" | some "s" => "%Y-%m-%dT%H:%M:%S+00:00"
        | some "minutes" | some "m" => "%Y-%m-%dT%H:%M+00:00"
        | some "hours" | some "h" => "%Y-%m-%dT%H+00:00"
        | _ => "%F"
      else if o.has "rfc" then
        match o.last? "rfc" with
        | some "date" => "%F"
        | some "ns" => "%F %T.%N%:z"
        | _ => "%F %T%:z"
      else "%a %b %e %T %Z %Y"
    match o.operands with
    | [] =>
      say (dateText time usual.length usual.toList ++ "\n")
      return 0
    | f :: rest =>
      match Text.after? "+" f, rest with
      | some format, [] =>
        say (dateText time format.length format.toList ++ "\n")
        return 0
      | some _, extra :: _ => c.misused ("extra operand " ++ quoted extra)
      | none, _ => c.fail ("invalid date " ++ quoted f)

end Buildwright.Shell.Utility
