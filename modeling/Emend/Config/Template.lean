/-
# The configuration to start from
-/

namespace Emend.Configuration

/-- A configuration with one entry, which explains itself. -/
def template : String := String.join <| List.map (· ++ "\n")
  ["# regen configuration",
    "#",
    "# Each regenerate entry names a file (relative to this file's directory, or",
    "# to --dir) and the rules applied to it. All \x60strings\x60 rules run first, in",
    "# order, then all \x60regexps\x60 rules. Regex replacements may use $1 or $\x7bname\x7d.",
    "packages:",
    "  - regenerates:",
    "      - file: internal/db/query.sql.go",
    "        strings:",
    "          - match: \"// TODO\"",
    "            replacement: \"// DONE\"",
    "        regexps:",
    "          - match: 'func \\(q \\*Queries\\) (\\w+)\\('",
    "            replacement: 'func (q *Queries) Do$1('"]

end Emend.Configuration
