-- SUMMARY: The words and the commands that shell scripts consist of.

/-!
# Commands

A word is a list of parts, and a command is made of words and of other commands. What parameters,
commands and arithmetic stand for in a word is only known when the word is used.
-/
namespace Buildwright.Shell

/-- What is done with the value of a parameter, with the help of a word. -/
inductive Change where
  /-- The word stands for a value that is missing. -/
  | orElse
  /-- The word becomes the value if that is missing. -/
  | orAssign
  /-- The word says that the value must not be missing. -/
  | orFail
  /-- The word stands for a value that is there. -/
  | whenSet
  /-- The beginning that the word describes is taken away. -/
  | dropStart (longest : Bool)
  /-- The end that the word describes is taken away. -/
  | dropEnd (longest : Bool)
  /-- The word does not count. -/
  | nothing
  deriving DecidableEq

/-- How a stream is redirected. -/
inductive Redirect where
  | read
  | write
  /-- Writes to a file even if files that are there are protected. -/
  | overwrite
  | append
  | readWrite
  /-- Makes one stream read where another reads. -/
  | likeInput
  /-- Makes one stream write where another writes. -/
  | likeOutput
  /-- Reads a document that stands in the script. -/
  | document
  deriving DecidableEq

mutual

/-- A part of a word; `quoted` tells whether it stands in quotes. -/
inductive Part where
  /-- Characters that stand for themselves. -/
  | literal (text : String) (quoted : Bool)
  /-- The value of a parameter. -/
  | parameter (name : String) (quoted : Bool)
  /-- The length of the value of a parameter. -/
  | size (name : String) (quoted : Bool)
  /-- The value of a parameter, changed with the help of a word. With `emptyToo` an empty value counts
      as missing. -/
  | changed (name : String) (change : Change) (emptyToo : Bool) (word : List Part) (quoted : Bool)
  /-- Something in braces that means nothing. -/
  | malformed
  /-- The output of a command. -/
  | output (c : Command) (quoted : Bool)
  /-- The value of an arithmetic expression. -/
  | arithmetic (expression : List Part) (quoted : Bool)

/-- A stream of a command and where it goes. -/
inductive Redirection where
  | mk (stream : Nat) (kind : Redirect) (target : List Part)

/-- A command. -/
inductive Command where
  /-- No command at all. -/
  | none
  /-- A program with arguments and with variables of its own. -/
  | simple (line : Nat) (assignments : List (String × List Part)) (words : List (List Part))
      (redirections : List Redirection)
  | sequence (first second : Command)
  /-- The second command only if the first succeeds. -/
  | both (first second : Command)
  /-- The second command only if the first fails. -/
  | either (first second : Command)
  | negated (c : Command)
  /-- Commands of which each reads what the one before it writes. -/
  | pipeline (cs : List Command)
  | branch (condition yes no : Command)
  /-- Repeats the body as long as the condition succeeds, or fails if `negated` holds. -/
  | loop (negated : Bool) (condition body : Command)
  /-- Repeats the body for each field of some words. -/
  | each (line : Nat) (name : String) (words : List (List Part)) (body : Command)
  /-- The first branch with a pattern that describes the subject. -/
  | select (line : Nat) (subject : List Part) (branches : List (List (List Part) × Command))
  | redirected (line : Nat) (c : Command) (redirections : List Redirection)
  /-- A command whose changes to the shell do not last. -/
  | subshell (line : Nat) (c : Command)
  /-- A command that nothing waits for. -/
  | background (line : Nat) (c : Command)
  | define (line : Nat) (name : String) (body : Command)

end

/-- A word of a command. -/
abbrev Word := List Part

instance : Inhabited Command := ⟨.none⟩

namespace Redirection

/-- The stream that goes elsewhere. -/
def stream : Redirection → Nat
  | mk n _ _ => n

/-- How it goes elsewhere. -/
def kind : Redirection → Redirect
  | mk _ k _ => k

/-- Where it goes. -/
def target : Redirection → Word
  | mk _ _ w => w

end Redirection

namespace Word

/-- Whether a character may begin a name. -/
def beginsName (c : Char) : Bool :=
  c.isAlpha || c == '_'

/-- Whether a character may continue a name. -/
def continuesName (c : Char) : Bool :=
  c.isAlphanum || c == '_'

/-- Whether a text is a name. -/
def isName (s : String) : Bool :=
  match s.toList with
  | c :: cs => beginsName c && cs.all continuesName
  | [] => false

/-- The text of a word in which nothing is quoted and nothing stands for something else. -/
def plain? : Word → Option String
  | [.literal s false] => some s
  | _ => none

/-- Whether anything in a word is quoted. -/
def isQuoted (w : Word) : Bool :=
  w.any fun p =>
    match p with
    | .literal _ quoted => quoted
    | .parameter _ quoted => quoted
    | .size _ quoted => quoted
    | .changed _ _ _ _ quoted => quoted
    | .output _ quoted => quoted
    | .arithmetic _ quoted => quoted
    | .malformed => false

/-- The text of a word in which nothing stands for something else. -/
def bareText (w : Word) : String :=
  String.join (w.filterMap fun p =>
    match p with
    | .literal s _ => some s
    | _ => none)

end Word
end Buildwright.Shell
