/-
# Complaints

A failure is shown as a message followed by its causes, each one the cause of the one before.
-/

namespace Emend.CommandLine.Complaint

/-- The lines of a text, the first `line` characters, in reverse, having been read. -/
def linesFrom (line : List Char) : List Char → List (List Char)
  | [] => [line.reverse]
  | c :: rest => if c = '\n' then line.reverse :: linesFrom [] rest else linesFrom (c :: line) rest

/-- A text whose first line follows a mark and whose other lines are indented. -/
def hanging (mark indentation text : String) : String :=
  match (linesFrom [] text.toList).map String.ofList with
  | [] => mark
  | first :: others =>
    mark ++ first ++ String.join (others.map fun line => "\n" ++ indentation ++ line)

/-- A number in five columns. -/
def rightAligned (n : Nat) : String :=
  let digits := n.repr
  String.ofList (List.replicate (5 - digits.length) ' ') ++ digits

/-- The causes that come after the one with a number, each with its own. -/
def numberedFrom (n : Nat) : List String → String
  | [] => ""
  | cause :: causes =>
    "\n" ++ hanging (rightAligned n ++ ": ") "       " cause ++ numberedFrom (n + 1) causes

/-- A message with its causes below it; several causes are numbered. -/
def display (message : String) (causes : List String) : String :=
  "error: " ++ message
    ++ (match causes with
      | [] => ""
      | [cause] => "\n\nCaused by:\n" ++ hanging "    " "    " cause
      | causes => "\n\nCaused by:" ++ numberedFrom 0 causes)
    ++ "\n"

/-- A message with its causes behind it. -/
def inLine (message : String) (causes : List String) : String :=
  String.intercalate ": " (message :: causes)

end Emend.CommandLine.Complaint
