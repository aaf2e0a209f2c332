/-
# Configurations kept in files
-/

import Emend.Config.Parse
import Emend.Host.FileSystem

namespace Emend

/-- The configuration that a file holds. -/
def Configuration.load (files : FileSystem) (path : Path) : Except Failure Configuration :=
  match files.readFile path with
  | .error cause => .error (.configUnreadable path cause)
  | .ok text => parseLabelled path text

end Emend
