-- SUMMARY: Readers: functions that take a value from the beginning of a text and leave the rest.

/-!
# Readers

A reader takes a value from the beginning of a text, or fails and takes nothing. Readers are put
together in the usual way of a monad, and `a <|> b` reads with `b` what `a` cannot read.
-/
namespace Buildwright

/-- Takes a value from the beginning of a text. -/
abbrev Reader := StateT (List Char) Option

namespace Reader

variable {α β : Type}

/-- The next character, which stays where it is. -/
def peek? : Reader (Option Char) := fun s => some (s.head?, s)

/-- Takes a character for which `p` holds. -/
def one (p : Char → Bool) : Reader Char
  | [] => none
  | c :: rest => if p c then some (c, rest) else none

/-- Takes the character `c`. -/
def char (c : Char) : Reader Char :=
  one (· == c)

/-- Takes a text. -/
def literal (text : String) : Reader Unit := fun s =>
  (text.toList.isPrefixOf? s).map ((), ·)

/-- Takes the characters up to the first for which `p` does not hold. -/
def takeWhile (p : Char → Bool) : Reader (List Char) := fun s =>
  some (s.takeWhile p, s.dropWhile p)

/-- Takes at least one character, up to the first for which `p` does not hold. -/
def takeWhile1 (p : Char → Bool) : Reader (List Char) := do
  let first ← one p
  return first :: (← takeWhile p)

/-- Takes exactly `n` characters for which `p` holds. -/
def exactly (n : Nat) (p : Char → Bool) : Reader (List Char) := fun s =>
  let taken := s.take n
  if taken.length = n ∧ taken.all p then some (taken, s.drop n) else none

/-- Takes a value if there is one. -/
def maybe (r : Reader α) : Reader (Option α) :=
  (some <$> r) <|> pure none

/-- Takes values as long as there are any. -/
def manyFrom (r : Reader α) (s : List Char) : List α × List Char :=
  match r s with
  | none => ([], s)
  | some (a, rest) =>
    if rest.length < s.length then
      let (as, rest) := manyFrom r rest
      (a :: as, rest)
    else ([], s)
termination_by s.length

/-- Takes values as long as there are any. -/
def many (r : Reader α) : Reader (List α) := fun s => some (manyFrom r s)

/-- Takes at least one value, with separators between them. -/
def separated1 (item : Reader α) (separator : Reader β) : Reader (List α) := do
  let first ← item
  return first :: (← many (separator *> item))

/-- Takes values with separators between them. -/
def separated (item : Reader α) (separator : Reader β) : Reader (List α) :=
  separated1 item separator <|> pure []

/-- Succeeds at the end of the text. -/
def finish : Reader Unit := fun s => if s = [] then some ((), []) else none

/-- Succeeds if `p` holds. -/
def require (p : Bool) : Reader Unit := fun s => if p then some ((), s) else none

/-- Takes the value of an option that has one. -/
def ofOption (a : Option α) : Reader α := fun s => a.map (·, s)

/-- The value of a text that a reader takes as a whole. -/
def parse? (r : Reader α) (s : String) : Option α :=
  ((r <* finish) s.toList).map (·.1)

end Reader
end Buildwright
