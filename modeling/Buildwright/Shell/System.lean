-- SUMMARY: The programs of the system as files on the disk, and what runs when a file is executed.
import Buildwright.Shell.State

/-!
# Programs of the system

The programs of the system lie on the disk like other files, and a shell finds them along its path. What
runs when a file is executed stands at its beginning: the name of a program of the system, or an
interpreter, which gets the path of the file as an argument.
-/
namespace Buildwright.Shell.System

/-! ## The programs -/

/-- The names of the shells. -/
def shells : List String := ["sh", "dash", "bash"]

/-- The names of the other programs. -/
def utilities : List String :=
  ["[", "arch", "awk", "b2sum", "base32", "base64", "basename", "cat", "chgrp", "chmod", "chown", "cksum",
    "cmp", "comm", "cp", "csplit", "cut", "date", "dd", "df", "diff", "dir", "dirname", "du", "echo",
    "egrep", "env", "expand", "expr", "factor", "false", "fgrep", "find", "fmt", "fold", "grep", "head",
    "hostname", "id", "install", "join", "kill", "link", "ln", "ls", "mawk", "md5sum", "mkdir", "mktemp",
    "mv", "nawk", "nice", "nl", "nohup", "nproc", "od", "paste", "printenv", "printf", "pwd", "readlink",
    "realpath", "rev", "rm", "rmdir", "sed", "seq", "sha1sum", "sha224sum", "sha256sum", "sha384sum",
    "sha512sum", "shuf", "sleep", "sort", "split", "stat", "sum", "sync", "tac", "tail", "tee", "test",
    "timeout", "touch", "tr", "true", "truncate", "tsort", "tty", "uname", "unexpand", "uniq", "unlink",
    "wc", "which", "whoami", "xargs", "yes"]

/-- What the files of programs of the system begin with. -/
def mark : String := "\x7fELF "

/-- The file of a program. -/
def file (name : String) : Entry :=
  .file ⟨Text.encode (mark ++ name), 0, true⟩

/-- A file that takes everything and in which nothing is. -/
def emptyFile : Entry := .file ⟨ByteArray.empty, 0, false⟩

/-- What lies on the disk of every system. -/
def entries : List (Location × Entry) :=
  [["bin"], ["usr"], ["usr", "bin"], ["usr", "sbin"], ["usr", "lib"], ["usr", "local"],
    ["usr", "local", "bin"], ["usr", "local", "sbin"], ["dev"], ["etc"], ["home"], ["opt"], ["root"],
    ["tmp"], ["var"], ["var", "tmp"]].map (·, .directory 0) ++
  [(["sbin"], .link ⟨"usr/sbin"⟩), (["dev", "null"], emptyFile), (["dev", "zero"], emptyFile),
    (["etc", "passwd"], .file ⟨Text.encode "root:x:0:0:root:/root:/bin/bash\n", 0, false⟩)] ++
  (shells ++ utilities).flatMap fun name =>
    [(["usr", "bin", name], file name), (["bin", name], file name)]

/-- The entries of the system that a disk lacks. -/
def missing (d : Disk) : List (Location × Entry) :=
  entries.filter fun x => (d.find? x.1).isNone

/-- The disk with everything that lies on the disk of every system. -/
def install (d : Disk) : Disk :=
  { d with entries := d.entries ++ missing d }

/-- The disk without what was put there from the system when it was `before`. -/
def uninstall (before d : Disk) : Disk :=
  let added := missing before
  { d with entries := d.entries.filter fun x => added.lookup x.1 != some x.2 }

/-! ## Executing files -/

/-- What a file says about how it is run. -/
inductive Image where
  /-- A program of the system. -/
  | program (name : String)
  /-- A script, with its interpreter and an argument for that. -/
  | script (interpreter : String) (argument : Option String)
  /-- Nothing is known of it. -/
  | unknown

namespace Image

/-- The number of bytes that are looked at. -/
def header : Nat := 256

/-- Whether a character stands between the parts of the first line. -/
def isBlank (c : Char) : Bool := c == ' ' || c == '\t'

/-- The line that names an interpreter, from what follows its sign. -/
def ofLine (cs : List Char) : Image :=
  match ((cs.reverse.dropWhile isBlank).reverse).dropWhile isBlank with
  | [] => .unknown
  | line =>
    let ends (c : Char) : Bool := isBlank c || c == '\x00'
    let name := line.takeWhile (!ends ·)
    let argument :=
      match line.drop name.length with
      | ' ' :: cs | '\t' :: cs => (cs.dropWhile isBlank).takeWhile (· != '\x00')
      | _ => []
    .script (String.ofList name) (if argument.isEmpty then none else some (String.ofList argument))

/-- What the content of a file says. -/
def ofContent (b : Bytes) : Image :=
  let start := (Text.bytewise (b.extract 0 header)).toList
  match start with
  | '#' :: '!' :: cs =>
    let line := cs.takeWhile (· != '\n')
    if line.length < cs.length then ofLine line
    else if start.length < header then ofLine (line ++ ['\x00'])
    else
      let cut := cs.take (header - 3)
      let name := (cut.dropWhile isBlank).takeWhile fun c => !isBlank c && c != '\x00'
      if (cut.dropWhile isBlank).length == name.length then .unknown else ofLine cut
  | _ =>
    match Text.after? mark (String.ofList start) with
    | some name => .program name
    | none => .unknown

end Image

/-- A program of the system that is to be run, with its arguments; the first of them is its own name. -/
structure Launch where
  program : String
  arguments : List String

/-- The number of interpreters that may be needed for each other. -/
def mostInterpreters : Nat := 5

/-- What runs when the file at a path is executed with arguments, of which the first is its own name. -/
def launch (d : Disk) : Nat → String → List String → Except OsError Launch
  | n, path, arguments =>
    match d.resolve (Action.pathOf path) with
    | .error e => .error e
    | .ok (_, .file f) =>
      if !f.executable then .error .permissionDenied
      else
        match Image.ofContent f.content, n with
        | .program name, _ => .ok ⟨name, arguments⟩
        | .script interpreter argument, n + 1 =>
          launch d n interpreter (interpreter :: argument.toList ++ path :: arguments.drop 1)
        | .script _ _, 0 => .error .tooManyLinks
        | .unknown, _ => .error .notExecutable
    | .ok _ => .error .permissionDenied

/-- What runs when the file at a path is executed. -/
def launchAt (d : Disk) (path : String) (arguments : List String) : Except OsError Launch :=
  launch d mostInterpreters path arguments

/-! ## Finding programs -/

/-- The directories in which programs are looked for unless something else is said. -/
def usualPath : String := "/usr/local/sbin:/usr/local/bin:/usr/sbin:/usr/bin:/sbin:/bin"

/-- The paths at which a program with a name may lie. -/
def candidates (path name : String) : List String :=
  if name.toList.contains '/' then [name]
  else (Text.pieces ':' path).map fun directory =>
    if directory == "" then name else directory ++ "/" ++ name

/-- Whether a failure only says that nothing is there. -/
def isAbsence (e : OsError) : Bool := e == .notFound || e == .notADirectory

/-- What runs when a program is called, looked for at paths; of the failures, the last one that says
    more than that nothing is there counts. With `trusting`, a file of which nothing is known is a script
    for the shell. -/
def launchFirst (d : Disk) (trusting : Bool) (arguments : List String) :
    OsError → List String → Except OsError Launch
  | e, [] => .error e
  | e, p :: rest =>
    match launchAt d p arguments with
    | .ok l => .ok l
    | .error new =>
      if new != .notExecutable then
        launchFirst d trusting arguments (if isAbsence new then e else new) rest
      else if trusting then .ok ⟨"sh", "/bin/sh" :: p :: arguments.drop 1⟩
      else .error new

/-- What runs when a program is called. -/
def launchNamed (d : Disk) (trusting : Bool) (path : String) (arguments : List String) :
    Except OsError Launch :=
  match arguments with
  | [] => .error .notFound
  | name :: _ => launchFirst d trusting arguments .notFound (candidates path name)

/-- The first file with a name along a path. -/
def find? (d : Disk) (path name : String) : Option String :=
  (candidates path name).find? fun p =>
    match d.resolve (Action.pathOf p) with
    | .ok (_, .file f) => f.executable
    | _ => false

end Buildwright.Shell.System
