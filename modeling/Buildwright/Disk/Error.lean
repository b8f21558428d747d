-- SUMMARY: The ways in which access to files, programs and queues fails, and their wording.

/-!
# Failures of input and output

`OsError` holds what the operating system reports, with its number and wording, and `IoError` adds
what the library itself finds. `IoError.kind` sorts the failures into kinds, which is all that the
rules of the library look at.
-/
namespace Buildwright

/-- What the operating system reports. -/
inductive OsError where
  | notFound
  | notExecutable
  | permissionDenied
  | alreadyExists
  | notADirectory
  | isADirectory
  | nameTooLong
  | directoryNotEmpty
  | tooManyLinks
  deriving DecidableEq, Repr

namespace OsError

/-- The number of a report. -/
def code : OsError → Nat
  | notFound => 2
  | notExecutable => 8
  | permissionDenied => 13
  | alreadyExists => 17
  | notADirectory => 20
  | isADirectory => 21
  | nameTooLong => 36
  | directoryNotEmpty => 39
  | tooManyLinks => 40

/-- The wording of a report, without its number. -/
def wording : OsError → String
  | notFound => "No such file or directory"
  | notExecutable => "Exec format error"
  | permissionDenied => "Permission denied"
  | alreadyExists => "File exists"
  | notADirectory => "Not a directory"
  | isADirectory => "Is a directory"
  | nameTooLong => "File name too long"
  | directoryNotEmpty => "Directory not empty"
  | tooManyLinks => "Too many levels of symbolic links"

/-- A report as a message shows it. -/
def message (e : OsError) : String :=
  e.wording ++ " (os error " ++ toString e.code ++ ")"

end OsError

/-- A kind of failure. -/
inductive ErrorKind where
  | notFound
  | permissionDenied
  | alreadyExists
  | notADirectory
  | isADirectory
  | invalidFilename
  | directoryNotEmpty
  | filesystemLoop
  | invalidData
  | timedOut
  | wouldBlock
  | brokenPipe
  | uncategorized
  | other
  deriving DecidableEq, Repr

/-- A length of time in milliseconds as a message shows it: in seconds from one second on, and none
    in the smallest unit. -/
def showMilliseconds (n : Nat) : String :=
  if n = 0 then "0ns"
  else if n < 1000 then toString n ++ "ms"
  else
    let digits := (toString (1000 + n % 1000)).toList.drop 1
    let kept := (digits.reverse.dropWhile (· == '0')).reverse
    toString (n / 1000) ++ (if kept = [] then "" else "." ++ String.ofList kept) ++ "s"

/-- A failure of input or output. -/
inductive IoError where
  /-- The operating system reports a failure. -/
  | system (e : OsError)
  /-- A file that has to be text is not valid UTF-8. -/
  | invalidText
  /-- No directory of a path can be created. -/
  | noRoot
  /-- A program cannot be started. -/
  | notStarted (command : String) (e : OsError)
  /-- A program runs for longer than the given number of milliseconds. -/
  | timedOut (command : String) (limit : Nat)
  /-- A queue holds as much as it can. -/
  | queueFull
  /-- A queue has no receiver any more. -/
  | queueClosed
  /-- A failure that something outside the library reports in its own words. -/
  | other (message : String)
  deriving DecidableEq, Repr

namespace IoError

instance : Coe OsError IoError := ⟨system⟩

/-- The kind of what the operating system reports. -/
def systemKind : OsError → ErrorKind
  | .notFound => .notFound
  | .notExecutable => .uncategorized
  | .permissionDenied => .permissionDenied
  | .alreadyExists => .alreadyExists
  | .notADirectory => .notADirectory
  | .isADirectory => .isADirectory
  | .nameTooLong => .invalidFilename
  | .directoryNotEmpty => .directoryNotEmpty
  | .tooManyLinks => .filesystemLoop

/-- The kind of a failure. -/
def kind : IoError → ErrorKind
  | system e => systemKind e
  | invalidText => .invalidData
  | noRoot => .uncategorized
  | notStarted _ e => systemKind e
  | timedOut _ _ => .timedOut
  | queueFull => .wouldBlock
  | queueClosed => .brokenPipe
  | other _ => .other

/-- The wording of a failure. -/
def message : IoError → String
  | system e => e.message
  | invalidText => "stream did not contain valid UTF-8"
  | noRoot => "failed to create whole tree"
  | notStarted command e => "failed to spawn `" ++ command ++ "`: " ++ e.message
  | timedOut command limit =>
    "`" ++ command ++ "` did not finish within " ++ showMilliseconds limit
  | queueFull => "watch queue is full"
  | queueClosed => "watch receiver dropped"
  | other text => text

end IoError
end Buildwright
