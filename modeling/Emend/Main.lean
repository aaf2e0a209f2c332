/-
# The program

The program takes a picture of what stands at the paths that matter, answers the call on this
picture and then writes back the files that have changed.
-/

import Emend.CommandLine.Answer
import Emend.Host.FileSystem.Tree
import Emend.Host.Installed

namespace Emend.Main

/-- The refusal that an error of the system stands for.  Some errors come with the negative of their
number. -/
def causeOf : IO.Error → SystemError
  | .noFileOrDirectory .. => .notFound
  | .permissionDenied .. => .permissionDenied
  | .inappropriateType _ code _ =>
    if code = 21 || -code = 21 then .isADirectory else .notADirectory
  | .invalidArgument _ code _ =>
    if code = 36 || -code = 36 then .nameTooLong
    else if code = 40 || -code = 40 then .tooManyLinks
    else .invalidArgument
  | _ => .inputOutput

/-- A picture of some files, with the names under which the system knows them. -/
structure Picture where
  files : FileSystem
  /-- The names, each for the file with its index as number. -/
  names : List String

/-- Take what stands at a path into a picture.  Paths that lead to one file show one file. -/
def Picture.take (picture : Picture) (path : Path) : IO Picture := do
  if (picture.files.openFile path).isOk then return picture
  try
    let content ← IO.FS.readBinFile path.display
    let name := (← IO.FS.realPath path.display).toString
    let number := picture.names.idxOf name
    let files := picture.files.makeDirectories ((Path.parent? path).getD [])
    let .ok place := files.placeOf path | return picture
    return {
      files := (files.insert place (.file number)).setContent number content.toList
      names := if picture.names.contains name then picture.names else picture.names ++ [name] }
  catch error =>
    let cause := causeOf error
    if cause = .isADirectory then
      return { picture with files := picture.files.makeDirectories path }
    else if isThere : cause ≠ .notFound then
      let files := picture.files.makeDirectories ((Path.parent? path).getD [])
      let .ok place := files.placeOf path | return picture
      return { picture with files := files.insert place (.device (.closed cause isThere)) }
    else return picture

/-- Write the files at some paths that have changed. -/
def writeBack (before after : FileSystem) (paths : List Path) : IO Unit := do
  for path in paths do
    if let .ok content := after.readFile path then
      let hasChanged := match before.readFile path with
        | .ok earlier => decide (earlier ≠ content)
        | .error _ => true
      if hasChanged then IO.FS.writeBinFile path.display ⟨content.toArray⟩

end Emend.Main

open Emend in
/-- Answer the call of the program. -/
def main (words : List String) : IO UInt32 := do
  let here := Bytes.ofText (← IO.currentDir).toString
  let words := words.map Bytes.ofText
  let files := { FileSystem.initial with here := Path.components here }.makeDirectories here
  let start : Main.Picture := { files, names := [] }
  let first ← (CommandLine.paths words start.files).foldlM Main.Picture.take start
  let paths := CommandLine.paths words first.files
  let picture ← paths.foldlM Main.Picture.take first
  let machine : CommandLine.Machine := { programs := Host.Installed.programs }
  let answer := CommandLine.answer machine words (← IO.getEnv "RUST_LOG") picture.files
  Main.writeBack picture.files answer.files paths
  (← IO.getStdout).putStr answer.output
  (← IO.getStderr).putStr answer.errors
  return UInt32.ofNat answer.exitCode
