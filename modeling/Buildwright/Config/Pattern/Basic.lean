-- SUMMARY: Patterns for the values of fields: their parts, and which of them can be used.

/-!
# Patterns

A pattern is a regular expression with groups, sets of characters, alternatives and repetitions. What it
describes is not asked, only whether it can be used.

Of the properties of characters only those of ASCII are at hand. So a pattern cannot be used if it asks
for a kind of character of all scripts, or for both cases of a letter of any script; the flag `u` can be
cleared to ask for bytes instead. Then the pattern must not accept a part of a character's bytes.
`Pattern.isUsable` says so; it also bounds how deep parts stand in one another.
-/
namespace Buildwright.Pattern

/-! ## Flags -/

/-- What a pattern can switch on and off for a part of itself. -/
inductive Flag where
  /-- Capital and small letters are the same. -/
  | anyCase
  /-- Every line has a beginning and an end. -/
  | lines
  /-- A dot stands for a line feed as well. -/
  | wholeText
  /-- A repetition is as short as it can be. -/
  | short
  /-- The pattern is about characters of all scripts, and otherwise about bytes. -/
  | allScripts
  /-- A carriage return is a part of the end of a line. -/
  | returns
  /-- Blanks and comments in the pattern are passed over. -/
  | spaced
  deriving DecidableEq, Repr

/-- The flags with their letters. -/
def Flag.named : List (Char × Flag) :=
  [('i', .anyCase), ('m', .lines), ('s', .wholeText), ('U', .short), ('u', .allScripts),
    ('R', .returns), ('x', .spaced)]

/-- Flags with what they are switched to. -/
abbrev Settings := List (Flag × Bool)

/-- The flags in force that decide on what can be used. -/
structure Mode where
  allScripts : Bool
  anyCase : Bool
  deriving DecidableEq, Repr

namespace Mode

/-- The flags at the beginning of a pattern. -/
def initial : Mode := ⟨true, false⟩

/-- The flags after some are switched. -/
def switched (m : Mode) (s : Settings) : Mode :=
  ⟨(s.lookup .allScripts).getD m.allScripts, (s.lookup .anyCase).getD m.anyCase⟩

end Mode

/-! ## Single characters -/

/-- A character that stands for itself. It may be written as a byte, by two hexadecimal digits. -/
structure Literal where
  char : Char
  isByte : Bool
  deriving DecidableEq, Repr

/-- What stands for one character or for a place between two. -/
inductive Atom where
  | literal (l : Literal)
  /-- Any character. -/
  | anyChar
  /-- A digit, a blank or a character of a word, or one that is not. -/
  | kind (negated : Bool)
  /-- The beginning or the end of a line or of the text. -/
  | edge
  /-- A place at the beginning or the end of a word, or one that is neither. -/
  | wordEdge
  deriving DecidableEq, Repr

/-- Whether a character is an ASCII character. -/
def isAscii (c : Char) : Bool :=
  c.toNat < 0x80

/-- Whether an atom can be used with the flags in force. -/
def Atom.isUsable (m : Mode) : Atom → Bool
  | .literal l => if m.allScripts then !m.anyCase else !l.isByte || isAscii l.char
  | .anyChar => m.allScripts
  | .kind negated => !m.allScripts && !negated
  | .edge => true
  | .wordEdge => !m.allScripts

/-! ## Sets of characters -/

/-- A set of characters, as it stands between brackets. -/
inductive CharSet where
  | literal (l : Literal)
  | range (low high : Literal)
  /-- The characters of an ASCII class, or the others. -/
  | ascii (negated : Bool)
  /-- The characters of a kind, or the others. -/
  | kind (negated : Bool)
  /-- A set with brackets of its own. -/
  | nested (negated : Bool) (inner : CharSet)
  | union (parts : List CharSet)
  /-- What two sets share, or what only one of them has. -/
  | operation (left right : CharSet)

namespace CharSet

/-- The set of what is in one of some sets. -/
def ofParts : List CharSet → CharSet
  | [s] => s
  | parts => union parts

/-- Whether a literal in a set can be used with the flags in force. -/
def isUsableLiteral (m : Mode) (l : Literal) : Bool :=
  if m.allScripts then !m.anyCase else isAscii l.char

mutual
/-- Whether a set can be used with the flags in force. Without characters of all scripts no set may
    have a byte that is not ASCII. -/
def isUsable (m : Mode) : CharSet → Bool
  | .literal l => isUsableLiteral m l
  | .range low high => isUsableLiteral m low && isUsableLiteral m high
  | .ascii negated => if m.allScripts then !m.anyCase else !negated
  | .kind negated => !m.allScripts && !negated
  | .nested negated inner => (m.allScripts || !negated) && isUsable m inner
  | .union parts => areUsable m parts
  | .operation left right => isUsable m left && isUsable m right

/-- Whether each of some sets can be used with the flags in force. -/
def areUsable (m : Mode) : List CharSet → Bool
  | [] => true
  | s :: rest => isUsable m s && areUsable m rest
end

mutual
/-- How deep the parts of a set stand in one another. -/
def depth : CharSet → Nat
  | .nested _ inner => depth inner + 1
  | .union [] => 0
  | .union parts => depths parts + 1
  | .operation left right => max (depth left) (depth right) + 1
  | _ => 0

/-- The greatest depth of some sets. -/
def depths : List CharSet → Nat
  | [] => 0
  | s :: rest => max (depth s) (depths rest)
end

end CharSet
end Pattern

/-! ## Patterns -/

/-- A pattern for texts. -/
inductive Pattern where
  | atom (a : Pattern.Atom)
  | set (negated : Bool) (s : Pattern.CharSet)
  /-- Flags are switched for the rest of the group. -/
  | switch (s : Pattern.Settings)
  /-- A part with flags of its own. -/
  | group (s : Pattern.Settings) (inner : Pattern)
  | repetition (inner : Pattern)
  | sequence (parts : List Pattern)
  | choice (parts : List Pattern)

namespace Pattern

/-- The pattern for texts that some patterns describe one after the other. -/
def ofSequence : List Pattern → Pattern
  | [p] => p
  | parts => sequence parts

/-- The pattern for texts that one of some patterns describes. -/
def ofChoice : List Pattern → Pattern
  | [p] => p
  | parts => choice parts

/-- Whether a pattern can be repeated: not if it only switches flags. -/
def isRepeatable : Pattern → Bool
  | switch _ => false
  | _ => true

mutual
/-- The flags in force behind a pattern that can be used with the flags in force before it. A group keeps
    its flags to itself; alternatives hand theirs on like the parts of a sequence. -/
def modeAfter? (m : Mode) : Pattern → Option Mode
  | .atom a => if a.isUsable m then some m else none
  | .set negated s => if (m.allScripts || !negated) && s.isUsable m then some m else none
  | .switch s => some (m.switched s)
  | .group s inner => (modeAfter? (m.switched s) inner).map fun _ => m
  | .repetition inner => modeAfter? m inner
  | .sequence parts | .choice parts => modeAfterAll? m parts

/-- The flags in force behind patterns that can be used one after the other. -/
def modeAfterAll? (m : Mode) : List Pattern → Option Mode
  | [] => some m
  | p :: rest => (modeAfter? m p).bind fun m => modeAfterAll? m rest
end

mutual
/-- How deep the parts of a pattern stand in one another. -/
def depth : Pattern → Nat
  | .set _ s => s.depth + 1
  | .group _ inner | .repetition inner => depth inner + 1
  | .sequence [] | .choice [] => 0
  | .sequence parts | .choice parts => depths parts + 1
  | .atom _ | .switch _ => 0

/-- The greatest depth of some patterns. -/
def depths : List Pattern → Nat
  | [] => 0
  | p :: rest => max (depth p) (depths rest)
end

/-- The greatest depth of a pattern that can be used. -/
def depthLimit : Nat := 250

/-- Whether a pattern can be used. -/
def isUsable (p : Pattern) : Bool :=
  p.depth ≤ depthLimit && (p.modeAfter? .initial).isSome

end Pattern
end Buildwright
