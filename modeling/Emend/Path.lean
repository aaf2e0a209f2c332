/-
# Paths

A path is a sequence of bytes, which need not be a text; slashes separate its components.  Empty
components and single dots say nothing, save that a dot at the beginning counts as a component of its
own when a path is taken apart from the end.
-/

import Emend.Text.Utf8

namespace Emend

/-- The path of a file or a directory. -/
abbrev Path := Bytes

namespace Path

/-- A text names the path that is its encoded form. -/
instance : Coe String Path := ⟨Bytes.ofText⟩

/-- A path as it is shown: what is no text in it cannot be. -/
def display (path : Path) : String := Utf8.lossy path

abbrev slash : UInt8 := 0x2F

abbrev dot : UInt8 := 0x2E

/-- The way up. -/
def up : Bytes := [dot, dot]

/-- Whether a path starts at the root. -/
def isAbsolute (path : Path) : Bool := path.head? = some slash

/-- What stands between the slashes, the first `piece` bytes, in reverse, having been read. -/
def piecesFrom (piece : Bytes) : Bytes → List Bytes
  | [] => [piece.reverse]
  | b :: rest =>
    if b = slash then piece.reverse :: piecesFrom [] rest else piecesFrom (b :: piece) rest

/-- All that stands between the slashes of a path. -/
def pieces (path : Path) : List Bytes := piecesFrom [] path

/-- Whether what stands between slashes is a component. -/
def isComponent (piece : Bytes) : Bool := !piece.isEmpty && piece ≠ [dot]

/-- The components of a path; two dots are one. -/
def components (path : Path) : List Bytes :=
  path.pieces.filter isComponent

/-- The path of a file that is declared relative to a directory. -/
def join (directory file : Path) : Path :=
  if isAbsolute file then file
  else if directory.isEmpty || directory.getLast? = some slash then directory ++ file
  else directory ++ slash :: file

/-- A path, in reverse, without slashes and single dots at its end.  A single dot is at the end only
after a slash. -/
def trimFrom : Bytes → Bytes
  | [] => []
  | b :: rest =>
    if b = slash then trimFrom rest
    else if b = dot && rest.head? = some slash then trimFrom rest
    else b :: rest

/-- The path that holds what a path names: the path without its last component.  The root and the
empty path have none. -/
def parent? (path : Path) : Option Path :=
  let body := trimFrom path.reverse
  if body.isEmpty then none
  else
    let outer := trimFrom (body.dropWhile (· ≠ slash))
    if outer.isEmpty then some (if isAbsolute path then [slash] else [])
    else some outer.reverse

end Path

end Emend
