import Regen.Tool.Columns
import Regen.Tool.Compare
import Regen.Tool.Copy
import Regen.Tool.Edit.Stream
import Regen.Tool.Expression
import Regen.Tool.Find.Walk
import Regen.Tool.Gather
import Regen.Tool.Grep
import Regen.Tool.List
import Regen.Tool.Show
import Regen.Tool.Sums
import Regen.Tool.Surround
import Regen.Tool.Test
import Regen.Tool.Translate
import Regen.Tool.Words

/-!
# The programs of the system

The programs by their names. Each gets what starts others for it, and its arguments without its own
name.
-/

namespace Regen.Tool

open Text Posix

/-- A program, with what starts others for it. -/
abbrev Main := Launcher → List Text → Run Nat

/-- The programs that start no others. -/
def plainPrograms : List (String × (List Text → Run Nat)) := [
  ("[", testCondition true), ("arch", showOnly "x86_64"), ("base32", letterFiles fiveBits),
  ("base64", letterFiles sixBits), ("basename", showLastNames), ("cat", showFiles),
  ("chgrp", changeOwners), ("chmod", changeModes), ("chown", changeOwners), ("cksum", checkFiles),
  ("cmp", compareBytes), ("comm", showCommon), ("cp", copyFiles), ("cut", cutLines),
  ("date", showDate), ("diff", compareFiles), ("dirname", showDirectories), ("echo", echoWords),
  ("egrep", searchFilesAs 'E'), ("expand", expandTabs), ("expr", showValue),
  ("false", fun _ => return 1), ("fgrep", searchFilesAs 'F'), ("fold", foldLines),
  ("grep", searchFiles), ("groups", showOnly "root"), ("head", showFront),
  ("hostname", showOnly "localhost"), ("id", showIdentity), ("install", installFiles),
  ("join", joinFiles), ("link", linkFile), ("ln", makeLinks), ("ls", listFiles),
  ("md5sum", digestProgram "md5"), ("mkdir", makeDirectories), ("mkfifo", makeFifos),
  ("mktemp", makeTemporary), ("mv", moveFiles), ("nl", numberLines), ("nproc", showOnly "1"),
  ("od", dumpFiles), ("paste", pasteLines), ("printenv", showEnvironment), ("printf", printFormat),
  ("pwd", showHere), ("readlink", readLinks), ("realpath", realPaths), ("rev", reverseLines),
  ("rm", removeFiles), ("rmdir", removeDirectories), ("seq", countNumbers),
  ("sha1sum", digestProgram "sha1"), ("sha224sum", digestProgram "sha224"),
  ("sha256sum", digestProgram "sha256"), ("sha384sum", digestProgram "sha384"),
  ("sha512sum", digestProgram "sha512"), ("sleep", sleepFor), ("sort", sortLines),
  ("stat", showStatus), ("sum", sumFiles), ("sync", syncFiles), ("tac", showBackwards),
  ("tail", showBack), ("tee", copyInput), ("test", testCondition false), ("touch", touchFiles),
  ("tr", translate), ("true", fun _ => return 0), ("truncate", setLengths), ("uname", showSystem),
  ("unexpand", unexpandTabs), ("uniq", joinRepeats), ("unlink", unlinkFile), ("wc", countFiles),
  ("which", showPlaces), ("whoami", showUser), ("yes", repeatLine)]

/-- The programs that start others. -/
def launchers : List (String × Main) := [
  ("env", runWithVariables), ("find", Find.findFiles), ("nice", runWithWeight),
  ("nohup", runDetached), ("sed", editFiles), ("setsid", runInSession), ("stdbuf", runBuffered),
  ("timeout", runInTime), ("xargs", Gather.gatherWords)]

/-- The programs by their names. -/
def programs : List (String × Main) :=
  plainPrograms.map (fun (name, main) => (name, fun _ => main)) ++ launchers

end Regen.Tool
