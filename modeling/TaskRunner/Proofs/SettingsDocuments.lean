import TaskRunner.Proofs.Diagnostics
import TaskRunner.Proofs.NearestRunfile

/-!
# Settings documents of any kind

Whatever stands where the settings document of a directory would be, reading the settings gives settings with a level that the log
knows, or a fault that the runner reports; or it fails in one of the ways of `Settings.Unreported`, which leave an invocation without
a line about them (`Invocation.settings_reported_iff`).
-/

namespace TaskRunner

open Run

/-! ## The entry -/

namespace FileSystem

/-- The bytes of what a path leads to. -/
def bytesOf (fs : FileSystem) : Entry → ByteArray
  | .file node => fs.content node
  | .directory _ | .link _ _ | .program _ | .device _ | .pipe _ => ByteArray.empty

end FileSystem

namespace Machine

variable {m : Machine} {path : String}

end Machine

/-! ## The document -/

namespace Settings

section load

variable {m : Machine} {directory : Path} {f : Failure}

end load

end Settings

/-! ## The invocation -/

namespace Invocation

namespace OneDocument

open TwoSettings

/-- The Runfile beside the document. -/
def beside : Path := (Location.path []).child Runfile.fileName

end OneDocument

end Invocation
end TaskRunner
