-- SUMMARY: The programs that every system brings along.
import Buildwright.Shell.Utility.Blocks
import Buildwright.Shell.Utility.Calculate
import Buildwright.Shell.Utility.Calendar
import Buildwright.Shell.Utility.CharacterSet
import Buildwright.Shell.Utility.Columns
import Buildwright.Shell.Utility.Compare
import Buildwright.Shell.Utility.Condition
import Buildwright.Shell.Utility.Delegate
import Buildwright.Shell.Utility.Digest
import Buildwright.Shell.Utility.Dump
import Buildwright.Shell.Utility.Edit
import Buildwright.Shell.Utility.Find
import Buildwright.Shell.Utility.Lines
import Buildwright.Shell.Utility.Merge
import Buildwright.Shell.Utility.Numbering
import Buildwright.Shell.Utility.Precedence
import Buildwright.Shell.Utility.Print
import Buildwright.Shell.Utility.Records
import Buildwright.Shell.Utility.Search
import Buildwright.Shell.Utility.Sort

/-!
# All utilities

The programs of the system with their names.
-/
namespace Buildwright.Shell.Utility

/-- The utilities with their names. -/
def named : List (String × Utility) :=
  [("true", ends 0), ("false", ends 1), ("echo", echo), ("printf", printf), ("yes", yes), ("seq", seq),
    ("sleep", sleep), ("basename", basename), ("dirname", dirname), ("pwd", pwd), ("readlink", readlink),
    ("realpath", realpath), ("mktemp", mktemp), ("mkdir", mkdir), ("rmdir", rmdir), ("rm", rm),
    ("unlink", unlink), ("cp", cp), ("mv", mv), ("ln", ln), ("touch", touch), ("chmod", chmod),
    ("chown", chown), ("chgrp", chown), ("truncate", truncate), ("install", install), ("ls", ls),
    ("stat", stat), ("find", find), ("cat", cat), ("tee", tee), ("head", head), ("tail", tail), ("wc", wc),
    ("tac", tac), ("rev", rev), ("nl", nl), ("fold", fold), ("expand", expand), ("unexpand", unexpand),
    ("sort", sort), ("uniq", uniq), ("comm", comm), ("join", join), ("cut", cut), ("paste", paste),
    ("tr", tr), ("cmp", cmp), ("diff", diff), ("test", test), ("[", test),
    ("grep", grep), ("egrep", egrep), ("fgrep", fgrep), ("env", env), ("printenv", printenv),
    ("timeout", timeout), ("nohup", nohup), ("nice", nice), ("which", which), ("xargs", xargs), ("id", identify),
    ("whoami", fact "root"), ("uname", uname), ("arch", fact "x86_64"), ("hostname", fact "localhost"),
    ("nproc", fact "1"), ("tty", tty), ("date", date), ("sync", ends 0),
    ("sed", sed), ("awk", awk), ("mawk", awk), ("nawk", awk),
    ("expr", expr), ("md5sum", digestProgram digestMd5), ("sha1sum", digestProgram digestSha1),
    ("sha224sum", digestProgram (digestSha .sha224)), ("sha256sum", digestProgram (digestSha .sha256)),
    ("sha384sum", digestProgram (digestSha .sha384)), ("sha512sum", digestProgram (digestSha .sha512)),
    ("b2sum", b2sum), ("sum", sum), ("cksum", cksum), ("base64", alphabetProgram .base64),
    ("base32", alphabetProgram .base32), ("od", od), ("dd", dd), ("split", split),
    ("tsort", tsort), ("factor", factor), ("link", link), ("shuf", shuf), ("dir", dir)]

end Buildwright.Shell.Utility
