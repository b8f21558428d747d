-- SUMMARY: The program that edits lines by a script.
import Buildwright.Shell.Edit.Cycle

/-!
# Editing lines

The program reads its script from its arguments and from files, and edits files or its input.
-/
namespace Buildwright.Shell.Utility

open Shell.Action

/-- How the program that edits lines is used. -/
def editUsage (name : String) : List String :=
  ["Usage: " ++ name ++ " [OPTION]... \x7bscript-only-if-no-other-script\x7d [input-file]...",
    "",
    "  -n, --quiet, --silent",
    "                 suppress automatic printing of pattern space",
    "      --debug",
    "                 annotate program execution",
    "  -e script, --expression=script",
    "                 add the script to the commands to be executed",
    "  -f script-file, --file=script-file",
    "                 add the contents of script-file to the commands to be executed",
    "  --follow-symlinks",
    "                 follow symlinks when processing in place",
    "  -i[SUFFIX], --in-place[=SUFFIX]",
    "                 edit files in place (makes backup if SUFFIX supplied)",
    "  -l N, --line-length=N",
    "                 specify the desired line-wrap length for the \x60l' command",
    "  --posix",
    "                 disable all GNU extensions.",
    "  -E, -r, --regexp-extended",
    "                 use extended regular expressions in the script",
    "                 (for portability use POSIX -E).",
    "  -s, --separate",
    "                 consider files as separate rather than as a single,",
    "                 continuous long stream.",
    "      --sandbox",
    "                 operate in sandbox mode (disable e/r/w commands).",
    "  -u, --unbuffered",
    "                 load minimal amounts of data from the input files and flush",
    "                 the output buffers more often",
    "  -z, --null-data",
    "                 separate lines by NUL characters",
    "      --help     display this help and exit",
    "      --version  output version information and exit",
    "",
    "If no -e, --expression, -f, or --file option is given, then the first",
    "non-option argument is taken as the sed script to interpret.  All",
    "remaining arguments are names of input files; if no input files are",
    "specified, then the standard input is read.",
    ""]

/-- The options of the program that edits lines. -/
def editForms : List Form :=
  [flag "n" ["quiet", "silent"], flag "debug" ["debug"], valued "e" ["expression"], valued "f" ["file"],
    flag "follow" ["follow-symlinks"], ⟨"i", ["in-place"], .maybe⟩, valued "l" ["line-length"],
    flag "posix" ["posix"], flag "E" ["regexp-extended"], flag "r", flag "s" ["separate"],
    flag "sandbox" ["sandbox"], flag "u" ["unbuffered"], flag "z" ["null-data"], flag "b" ["binary"],
    flag "help" ["help"]]

/-- Reads the parts of a script that options name, of which the next argument is the `n`th; a file that
    cannot be read is given back. -/
def scriptParts : Nat → List (String × String) → Action (Except String (List (Edit.Origin × String)))
  | _, [] => return .ok []
  | n, ("e", text) :: rest => do
    return (← scriptParts (n + 1) rest).map ((.argument n, text) :: ·)
  | n, ("f", name) :: rest => do
    match ← read name with
    | .ok b => return (← scriptParts n rest).map ((.file name, Text.bytewise b) :: ·)
    | .error why => return .error ("couldn't open file " ++ name ++ ": " ++ why)
  | n, _ :: rest => scriptParts n rest

/-- Edits lines. -/
def sed : Utility := fun c => do
  let usage := ended (editUsage c.name)
  match Options.parse editForms true c.arguments with
  | .error m =>
    c.report m.message
    complain usage
    return 1
  | .ok o =>
    if o.has "help" then
      say usage
      return 0
    let hasScript := o.hasAny ["e", "f"]
    match hasScript, o.operands with
    | false, [] =>
      complain usage
      return 1
    | _, operands =>
      let given := if hasScript then o.given else [("e", operands.headD "")]
      let files := if hasScript then operands else operands.drop 1
      match ← scriptParts 1 given with
      | .error message => c.fail message 4
      | .ok parts =>
        match Edit.read (o.hasAny ["E", "r"]) (o.has "sandbox") parts with
        | .error f => c.fail f.message f.status
        | .ok script =>
          if o.has "i" && files.isEmpty then c.fail "no input files" 4
          else
            let p : Edit.Plan :=
              { call := c, script
                isQuiet := script.isQuiet || o.has "n"
                separates := o.hasAny ["s", "i"]
                inPlace := if o.has "i" then some ((o.last? "i").getD "") else none
                ending := if o.has "z" then '\x00' else '\n'
                isSparing := o.has "u"
                width := ((o.last? "l").map fun s =>
                  Text.valueOfDigits 10 (s.toList.takeWhile Char.isDigit)).getD 70 }
            Edit.run p (if files.isEmpty then ["-"] else files)

end Buildwright.Shell.Utility
