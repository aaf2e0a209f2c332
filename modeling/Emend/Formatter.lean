/-
# Formatters

A formatter turns a whole content into another one, or fails in any way that there is to fail.  It
runs after all rules.
-/

import Emend.Failure
import Emend.Text.Bytes

namespace Emend

/-- A formatter. -/
structure Formatter where
  /-- The content that another one becomes. -/
  format : Bytes → Except Failure Bytes
  /-- The program that does it, if one does. -/
  program? : Option String := none

end Emend
