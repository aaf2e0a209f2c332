/-
# Filters by name

The small programs that are found on every system, apart from the shell.
-/

import Emend.Host.Filter.Order
import Emend.Host.Filter.Part
import Emend.Host.Filter.Pass
import Emend.Host.Filter.Print

namespace Emend.Host.Filter

/-- The filters and their names. -/
def all : List (String × Utility) :=
  [("cat", cat), ("echo", echo), ("false", endWith 1), ("head", head), ("printf", printf .program),
    ("rev", rev), ("seq", seq), ("sleep", sleep), ("sort", sort), ("tac", tac), ("tail", tail),
    ("tee", tee), ("tr", tr), ("true", endWith 0), ("uniq", uniq), ("wc", wc)]

/-- The filter with a name. -/
def named? (name : String) : Option Utility := all.lookup name

end Emend.Host.Filter
