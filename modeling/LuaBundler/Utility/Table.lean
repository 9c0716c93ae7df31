import LuaBundler.Utility.Blocks
import LuaBundler.Utility.Characters
import LuaBundler.Utility.Columns
import LuaBundler.Utility.Condition
import LuaBundler.Utility.Copying
import LuaBundler.Utility.Counting
import LuaBundler.Utility.Dates
import LuaBundler.Utility.Differences
import LuaBundler.Utility.Digests
import LuaBundler.Utility.Dump
import LuaBundler.Utility.Edit.Program
import LuaBundler.Utility.Encoding
import LuaBundler.Utility.Expression
import LuaBundler.Utility.Find
import LuaBundler.Utility.Identity
import LuaBundler.Utility.Launching
import LuaBundler.Utility.Lines
import LuaBundler.Utility.Listing
import LuaBundler.Utility.Making
import LuaBundler.Utility.Moving
import LuaBundler.Utility.Pairs
import LuaBundler.Utility.Permissions
import LuaBundler.Utility.Portions
import LuaBundler.Utility.Printing
import LuaBundler.Utility.Records.Program
import LuaBundler.Utility.Removing
import LuaBundler.Utility.Reversal
import LuaBundler.Utility.Search
import LuaBundler.Utility.Sequence
import LuaBundler.Utility.Sorting
import LuaBundler.Utility.Streams
import LuaBundler.Utility.Values

/-!
# The utilities

All utilities by name.
-/

namespace LuaBundler.Utility

/-- The utilities. -/
def programs : List (String × Program) := [
  ("[", testBracketed), ("arch", arch), ("awk", awk), ("base32", base32), ("base64", base64),
  ("basename", basename), ("cat", cat), ("chgrp", chgrp), ("chmod", chmod), ("chown", chown),
  ("cksum", cksum), ("cmp", cmp), ("comm", comm), ("cp", cp), ("cut", cut), ("date", date),
  ("dd", dd), ("diff", diff), ("dirname", dirname), ("echo", echo), ("egrep", egrep),
  ("env", env), ("expand", expand), ("expr", expr), ("false", failAlways), ("fgrep", fgrep),
  ("find", find), ("fold", fold), ("grep", grep), ("groups", groups), ("head", head),
  ("hostname", hostname), ("id", identity), ("join", join), ("kill", kill), ("link", link),
  ("ln", ln), ("logname", logname), ("ls", ls), ("mawk", awk), ("md5sum", md5sum),
  ("mkdir", mkdir), ("mkfifo", mkfifo), ("mktemp", mktemp), ("mv", mv), ("nawk", awk),
  ("nice", nice), ("nl", nl), ("nohup", nohup), ("nproc", nproc), ("od", od), ("paste", paste),
  ("printenv", printenv), ("printf", printf), ("pwd", pwd), ("readlink", readlink),
  ("realpath", realpath), ("rev", rev), ("rm", rm), ("rmdir", rmdir), ("sed", sed), ("seq", seq),
  ("setsid", setsid), ("sha1sum", sha1sum), ("sha224sum", sha224sum), ("sha256sum", sha256sum),
  ("sha384sum", sha384sum), ("sha512sum", sha512sum), ("sleep", sleep), ("sort", sort),
  ("stat", stat), ("sum", sum), ("sync", sync), ("tac", tac), ("tail", tail), ("tee", tee),
  ("test", testCondition), ("timeout", timeout), ("touch", touch), ("tr", tr), ("true", succeed),
  ("truncate", truncate), ("tty", tty), ("uname", uname), ("unexpand", unexpand), ("uniq", uniq),
  ("unlink", unlink), ("wc", wc), ("which", which), ("whoami", whoami), ("xargs", xargs),
  ("yes", yes)]

end LuaBundler.Utility
