import TaskRunner.Shell.Start
import TaskRunner.Tools.Arguments
import TaskRunner.Tools.Arranging
import TaskRunner.Tools.Batches
import TaskRunner.Tools.Blocks
import TaskRunner.Tools.Comparing
import TaskRunner.Tools.Copying.Program
import TaskRunner.Tools.Differences.Merging
import TaskRunner.Tools.Differences.Program
import TaskRunner.Tools.Dumping
import TaskRunner.Tools.Editing
import TaskRunner.Tools.Encoding
import TaskRunner.Tools.Factors
import TaskRunner.Tools.Identity
import TaskRunner.Tools.Joining
import TaskRunner.Tools.Linking
import TaskRunner.Tools.Listing
import TaskRunner.Tools.Making
import TaskRunner.Tools.Matching
import TaskRunner.Tools.Numbering
import TaskRunner.Tools.Pages.Program
import TaskRunner.Tools.Paragraphs
import TaskRunner.Tools.Records.Program
import TaskRunner.Tools.Running
import TaskRunner.Tools.Scaling
import TaskRunner.Tools.Seeking.Program
import TaskRunner.Tools.Sorting.Program
import TaskRunner.Tools.Sums.Program

/-!
# What programs do

Every program that is installed, by its name.
-/

namespace TaskRunner.Tools

open Processes

/-- What the programs do that are no shells, given their arguments, with their status if they cannot write. -/
def mains : List (String × Nat × (List String → Tool Nat)) :=
  [("[", 2, Words.bracket), ("arch", 1, Identity.single "x86_64"), ("awk", 2, Records.awk),
    ("b2sum", 1, Tool.closingInput "standard input" (Sums.sum "blake2b")),
    ("base32", 1, Encoding.recode Encoding.fiveBits), ("base64", 1, Encoding.recode Encoding.sixBits),
    ("basename", 1, Words.basename), ("cat", 1, Tool.closingInput "closing standard input" Streams.cat),
    ("chgrp", 1, Identity.chgrp), ("chmod", 1, Making.chmod), ("chown", 1, Identity.chown),
    ("cksum", 1, Tool.closingInput "standard input" Sums.cksum), ("cmp", 2, Comparing.cmp), ("comm", 1, Joining.comm),
    ("cp", 1, Copying.cp), ("cut", 1, Tool.closingInput "-" Fields.cut), ("date", 1, Dates.date), ("dd", 1, Blocks.dd),
    ("diff", 2, Differences.diff), ("diff3", 2, Differences.diff3), ("dir", 2, Listing.dir),
    ("dirname", 1, Words.dirname), ("du", 1, Listing.du), ("echo", 1, Words.echo), ("egrep", 2, Matching.egrep),
    ("env", 1, Running.env), ("expand", 1, Tool.closingInput "-" Fields.expand), ("expr", 3, Words.expr),
    ("factor", 1, Factors.main), ("false", 1, Words.nay), ("fgrep", 2, Matching.fgrep), ("find", 1, Seeking.find),
    ("fmt", 1, Tool.closingInput "closing standard input" Paragraphs.fmt),
    ("fold", 1, Tool.closingInput "-" Fields.fold), ("getopt", 1, Arguments.getopt), ("grep", 2, Matching.grep),
    ("groups", 1, Identity.groups), ("head", 1, Tool.closingInput "-" Streams.head),
    ("hostid", 1, Identity.single "007f0101"), ("hostname", 1, Identity.hostname), ("id", 1, Identity.id),
    ("install", 1, Copying.install), ("join", 1, Joining.join), ("kill", 1, Identity.kill), ("link", 1, Linking.link),
    ("ln", 1, Linking.ln), ("logname", 1, Identity.logname), ("ls", 2, Listing.ls), ("mawk", 2, Records.awk),
    ("md5sum", 1, Tool.closingInput "standard input" (Sums.sum "md5")), ("mkdir", 1, Making.mkdir),
    ("mkfifo", 1, Making.mkfifo), ("mktemp", 1, Making.mktemp), ("mv", 1, Copying.mv), ("nice", 125, Running.nice),
    ("nl", 1, Tool.closingInput "-" Numbering.nl), ("nohup", 125, Running.nohup), ("nproc", 1, Identity.nproc),
    ("numfmt", 1, Scaling.main), ("od", 1, Tool.closingInput "standard input" Dumping.od),
    ("paste", 1, Tool.closingInput "-" Fields.paste), ("pathchk", 1, Words.pathchk),
    ("pr", 1, Tool.closingInput "standard input" Pages.pr), ("printenv", 2, Running.printenv),
    ("printf", 1, Words.printf), ("pwd", 1, Listing.pwd), ("readlink", 1, Listing.readlink),
    ("realpath", 1, Listing.realpath), ("rev", 1, Streams.rev), ("rm", 1, Making.rm), ("rmdir", 1, Making.rmdir),
    ("sdiff", 2, Differences.sdiff), ("sed", 4, Editing.sed), ("seq", 1, Streams.seq Words.written),
    ("setsid", 1, Running.setsid), ("sha1sum", 1, Tool.closingInput "standard input" (Sums.sum "sha1")),
    ("sha224sum", 1, Tool.closingInput "standard input" (Sums.sum "sha224")),
    ("sha256sum", 1, Tool.closingInput "standard input" (Sums.sum "sha256")),
    ("sha384sum", 1, Tool.closingInput "standard input" (Sums.sum "sha384")),
    ("sha512sum", 1, Tool.closingInput "standard input" (Sums.sum "sha512")), ("shuf", 1, Arranging.shuf),
    ("sleep", 1, Running.sleep), ("sort", 2, Sorting.sort), ("split", 1, Blocks.split), ("stat", 1, Listing.stat),
    ("stdbuf", 125, Running.stdbuf), ("sum", 1, Tool.closingInput "standard input" Sums.plainSums),
    ("sync", 1, Identity.sync), ("tac", 1, Tool.closingInput "-" Streams.tac),
    ("tail", 1, Tool.closingInput "-" Streams.tail), ("tee", 1, Tool.closingInput "standard input" Streams.tee),
    ("test", 2, Words.condition), ("timeout", 125, Running.timeout), ("touch", 1, Making.touch), ("tr", 1, Fields.tr),
    ("true", 1, Words.yea), ("truncate", 1, Making.truncate), ("tsort", 1, Arranging.tsort), ("tty", 3, Identity.tty),
    ("uname", 1, Identity.uname), ("unexpand", 1, Tool.closingInput "-" Fields.unexpand), ("uniq", 1, Fields.uniq),
    ("unlink", 1, Making.unlink), ("users", 1, Identity.present), ("vdir", 2, Listing.vdir),
    ("wc", 1, Tool.closingInput "-" Streams.wc), ("which", 1, Identity.which), ("who", 1, Identity.who),
    ("whoami", 1, Identity.whoami), ("xargs", 1, Tool.closingInput "error closing file" Batches.xargs),
    ("yes", 1, Streams.yes)]

/-- What a program does. -/
def load (image : Image) : Program :=
  match image.program with
  | "dash" => Shell.Start.program .plain image
  | "bash" => Shell.Start.program .extended image
  | name =>
    match mains.find? fun (other, _) => other == name with
    | some (_, failure, main) => Tool.program failure main image
    | none => .ended (.exited 127)

end TaskRunner.Tools
