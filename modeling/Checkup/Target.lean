import Checkup.Path
import Checkup.Settings

/-!
# Targets

A document to check: its identity, the file behind it and the encoding that its messages fall back
to.
-/

namespace Checkup

structure Target where
  id : String
  /-- A document that was never saved has no file. -/
  path : Option Path
  fallbackEncoding : String
  deriving DecidableEq, Repr

namespace Target

/-- A file is identified by its path as it is written. -/
def ofPath (path : Path) (fallbackEncoding : String) : Target :=
  ⟨path.display, some path, fallbackEncoding⟩

def extension? (target : Target) : Option String :=
  target.path.bind Path.extension?

end Target

/-- Only files with an accepted extension are checked. -/
def Settings.checks (settings : Settings) (target : Target) : Bool :=
  target.extension?.any settings.accepts

end Checkup
