-- SUMMARY: Reading diagnostics from the output of the Java compiler.
import Buildwright.Compile.Diagnostic
import Buildwright.Text.Blank
import Buildwright.Text.Number

/-!
# The output of the Java compiler

The compiler writes one header line per diagnostic, with a place or without one, and details below
it. Of the details, those on the symbol and its location belong to the message. All other lines are
passed over.
-/
namespace Buildwright.CompilerOutput

/-- A line number is a number of 32 bits. -/
def lineBound : Nat := UInt32.size

/-- What separates a place from a message of the given severity. -/
def marker (s : Severity) : List Char :=
  (": " ++ s.text ++ ": ").toList

/-- The file and the line that a place names. What stands behind the last colon is a line if it is a
    number, and otherwise belongs to the file. -/
def readPlace (place : List Char) : List Char × Option Nat :=
  match Text.cutLast? ':' place with
  | some (file, number) =>
    match Text.unsigned? lineBound number with
    | some line => (file, some line)
    | none => (place, none)
  | none => (place, none)

/-- Reads a header with a place and the given severity. -/
def placedHeader? (severity : Severity) (line : List Char) : Option Diagnostic :=
  match Text.cut? (marker severity) line with
  | none => none
  | some (place, message) =>
    let (file, number) := readPlace place
    if file = [] then none
    else
      some
        { file := some (String.ofList file)
          line := number
          severity
          message := String.ofList (Text.trimmed message) }

/-- Reads a header without a place and of the given severity. -/
def plainHeader? (severity : Severity) (line : List Char) : Option Diagnostic :=
  ((severity.text ++ ": ").toList.isPrefixOf? line).map fun message =>
    { file := none
      line := none
      severity
      message := String.ofList (Text.trimmed message) }

/-- Reads a header line. Headers with a place come before those without one, and errors before
    warnings. -/
def header? (line : List Char) : Option Diagnostic :=
  placedHeader? .error line <|> placedHeader? .warning line <|>
    plainHeader? .error line <|> plainHeader? .warning line

/-- The text of a detail line: it is indented, and names a symbol or a location. -/
def detail? (line : List Char) : Option (List Char) :=
  let text := Text.trimStart line
  if ("symbol:".toList.isPrefixOf text || "location:".toList.isPrefixOf text) &&
      line.length != text.length then
    some text
  else none

/-- A diagnostic with one more detail below its message. -/
def withDetail (d : Diagnostic) (detail : List Char) : Diagnostic :=
  { d with message := d.message ++ "\n" ++ String.ofList detail }

/-- The diagnostics with one more detail for the last of them. -/
def detailLast (detail : List Char) (ds : List Diagnostic) : List Diagnostic :=
  match ds.getLast? with
  | none => []
  | some d => ds.dropLast ++ [withDetail d detail]

/-- The diagnostics after one more line. -/
def readLine (ds : List Diagnostic) (line : List Char) : List Diagnostic :=
  match header? line with
  | some d => ds ++ [d]
  | none =>
    match detail? line with
    | some detail => detailLast detail ds
    | none => ds

/-- The diagnostics in an output of the compiler. -/
def diagnostics (output : String) : List Diagnostic :=
  (Text.lines output.toList).foldl readLine []

end Buildwright.CompilerOutput
