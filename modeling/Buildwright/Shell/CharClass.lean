-- SUMMARY: Sets of characters, as brackets in patterns write them.

/-!
# Sets of characters

A set is a list of ranges, or what lies in none of them. The characters of a pattern may be quoted, and
then stand for themselves.
-/
namespace Buildwright.Shell

/-- A character, and whether it is quoted. -/
abbrev Marked := Char × Bool

/-- The characters of a text, all quoted or all not. -/
def mark (quoted : Bool) (s : String) : List Marked :=
  s.toList.map (·, quoted)

/-- Marked characters as a text. -/
def unmarked (cs : List Marked) : String :=
  String.ofList (cs.map (·.1))

/-- A set of characters: those in one of the ranges, or those in none. -/
structure CharClass where
  negated : Bool
  ranges : List (Char × Char)
  deriving DecidableEq

namespace CharClass

/-- All characters. -/
def all : CharClass := ⟨true, []⟩

/-- A single character. -/
def only (c : Char) : CharClass := ⟨false, [(c, c)]⟩

/-- Whether a set has a character. -/
def has (k : CharClass) (c : Char) : Bool :=
  (k.ranges.any fun (low, high) => low ≤ c && c ≤ high) != k.negated

/-- A letter in its other case, or another character itself. -/
def otherCase (c : Char) : Char :=
  if c.isUpper then c.toLower else c.toUpper

/-- A set of which a letter is a member if it is one in one of its cases. -/
def hasEitherCase (k : CharClass) (c : Char) : Bool :=
  let listed (c : Char) := k.ranges.any fun (low, high) => low ≤ c && c ≤ high
  (listed c || listed (otherCase c)) != k.negated

/-- The small letters, the capital letters and the digits. -/
def lower : Char × Char := ('a', 'z')
@[inherit_doc lower] def upper : Char × Char := ('A', 'Z')
@[inherit_doc lower] def digit : Char × Char := ('0', '9')

/-- The characters that classes have by name. -/
def named : List (String × List (Char × Char)) :=
  [("alpha", [upper, lower]), ("digit", [digit]), ("alnum", [upper, lower, digit]),
    ("upper", [upper]), ("lower", [lower]), ("space", [('\t', '\r'), (' ', ' ')]),
    ("blank", [('\t', '\t'), (' ', ' ')]), ("cntrl", [('\x00', '\x1f'), ('\x7f', '\x7f')]),
    ("punct", [('!', '/'), (':', '@'), ('[', '\x60'), ('\x7b', '~')]), ("graph", [('!', '~')]),
    ("print", [(' ', '~')]), ("xdigit", [digit, ('A', 'F'), ('a', 'f')])]

/-- The characters of words. -/
def wordChars : CharClass := ⟨false, [upper, lower, digit, ('_', '_')]⟩

/-- The name of a class between `[:` and `:]`, of which the opening bracket has been taken, and what
    follows. -/
def className? (cs : List Char) : Option (String × List Char) :=
  match cs with
  | ':' :: rest =>
    let name := rest.takeWhile Char.isAlpha
    match rest.drop name.length with
    | ':' :: ']' :: after => some (String.ofList name, after)
    | _ => none
  | _ => none

end CharClass
end Buildwright.Shell
