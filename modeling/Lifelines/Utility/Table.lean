import Lifelines.Awk.Command
import Lifelines.Editor.Run
import Lifelines.Utility.Blocks
import Lifelines.Utility.Columns
import Lifelines.Utility.Compare
import Lifelines.Utility.Digest
import Lifelines.Utility.Expr
import Lifelines.Utility.Find
import Lifelines.Utility.Listing
import Lifelines.Utility.Numbers
import Lifelines.Utility.Search
import Lifelines.Utility.Sorted
import Lifelines.Utility.Starting
import Lifelines.Utility.Surroundings
import Lifelines.Utility.Test

/-!
# The utilities by name

The names of the utilities, and what they do.

* `Utility.table`: the utilities that need no other program;
* `Utility.starters`: the utilities that start programs.
-/

namespace Lifelines.Utility

/-- Prints its arguments. -/
def echo : Work Nat := do
  Work.say (Printf.echo .program (← read).args)
  return 0

/-- Prints values as a format says. -/
def printf : Work Nat := do
  let args := (← read).args
  let args := if args.head? = some ['-', '-'] then args.drop 1 else args
  match args with
  | [] => misuse 1 "missing operand".toList
  | format :: values =>
    let p := Printf.printf .program format values
    Work.say p.text
    for complaint in p.complaints do
      Work.complain complaint
    return p.status

/-- The utilities that need no other program. -/
def table : List (String × Work Nat) :=
  [("true", return 0), ("false", return 1), ("echo", echo), ("printf", printf),
    ("test", Test.test .program false Work.complain), ("[", Test.test .program true Work.complain),
    ("cat", cat), ("tac", tac), ("rev", rev), ("tee", tee), ("head", head), ("tail", tail), ("wc", wc),
    ("sort", sort), ("uniq", uniq), ("comm", comm), ("join", join),
    ("cut", cut), ("paste", paste), ("nl", nl), ("fold", fold), ("expand", expand), ("tr", tr),
    ("od", od), ("base64", base64), ("cksum", cksum), ("md5sum", digests md5),
    ("sha1sum", digests sha1), ("sha256sum", digests sha256), ("basename", basename),
    ("dirname", dirname), ("realpath", realpath), ("readlink", readlink), ("pwd", pwd),
    ("mktemp", mktemp), ("chmod", chmod), ("mkdir", mkdir), ("rmdir", rmdir), ("touch", touch),
    ("truncate", truncate), ("rm", rm), ("cp", cp), ("mv", mv), ("ln", ln), ("install", install),
    ("ls", ls), ("stat", stat), ("seq", seq), ("factor", factor), ("expr", expr), ("cmp", cmp),
    ("diff", diff), ("dd", dd), ("split", split), ("printenv", printenv), ("which", which),
    ("uname", uname), ("arch", saying "x86_64"), ("whoami", saying "root"), ("groups", saying "root"),
    ("id", userIds), ("tty", tty), ("sync", return 0), ("sleep", sleep), ("yes", yes),
    ("grep", grep), ("egrep", searchWith .extended), ("fgrep", searchWith .fixed),
    ("sed", sed)]

/-- The utilities that start programs. -/
def starters : List (String × Starting) :=
  [("env", env), ("timeout", timeout), ("nice", nice), ("nohup", nohup), ("setsid", setsid),
    ("stdbuf", stdbuf), ("xargs", xargs), ("find", find), ("awk", awk), ("mawk", awk)]

end Lifelines.Utility
