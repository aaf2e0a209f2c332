/-
# Making trees of files

The operations with which a file system is set up: directories, links and removal.  Unlike opening,
they do not follow a symbolic link at the end of a path.
-/

import Emend.Host.FileSystem

namespace Emend.FileSystem

/-- A file system with the places that every system has, seen from a directory of its own. -/
def initial : FileSystem where
  nodes :=
    [(["dev"], .directory),
      (["dev", "null"], .device .null),
      (["proc"], .directory),
      (["proc", "self"], .directory),
      (["proc", "self", "mem"], .device .memory),
      (["tmp"], .directory),
      (["tmp", "work"], .directory)]
  contents := fun _ => []
  here := ["tmp", "work"]

/-- The place that a path names, whatever stands there. -/
def placeOf (files : FileSystem) (path : Path) : Except SystemError Place :=
  match path.components.reverse with
  | [] => .error .notFound
  | name :: outer =>
    match files.walk false linkLimit (start files.here path) outer.reverse with
    | .ok (.node directory .directory) => .ok (directory ++ [name])
    | .ok (.node ..) => .error .notADirectory
    | .ok (.vacant _) => .error .notFound
    | .error cause => .error cause

/-- Make a directory if nothing stands where names lead. -/
def makeDirectoryAt (files : FileSystem) (directory : Place) (names : List Name) : FileSystem :=
  match files.walk false linkLimit directory names with
  | .ok (.vacant place) => files.insert place .directory
  | _ => files

/-- Make a directory and those that hold it. -/
def makeDirectories (files : FileSystem) (path : Path) : FileSystem :=
  let names := path.components
  (List.range names.length).foldl
    (fun files n => files.makeDirectoryAt (start files.here path) (names.take (n + 1))) files

/-- Make a symbolic link. -/
def makeLink (files : FileSystem) (path target : Path) : Except SystemError FileSystem := do
  return files.insert (← files.placeOf path) (.link target)

/-- Let a second place show what stands at a first one. -/
def makeHardLink (files : FileSystem) (path target : Path) : Except SystemError FileSystem := do
  match files.node? (← files.placeOf target) with
  | some node => return files.insert (← files.placeOf path) node
  | none => throw .notFound

/-- Remove what stands where a path leads, and all that it holds. -/
def remove (files : FileSystem) (path : Path) : Except SystemError FileSystem := do
  let place ← files.placeOf path
  return { files with nodes := files.nodes.filter fun entry => !place.isPrefixOf entry.1 }

/-- All nodes under a directory, by the names that lead to them from it. -/
def listing (files : FileSystem) (directory : Place) : List (Place × Node) :=
  files.nodes.filterMap fun (place, node) =>
    if directory.isPrefixOf place && directory.length < place.length then
      some (place.drop directory.length, node)
    else none

end Emend.FileSystem
