/-
# File systems

A file system maps places to nodes.  A node for a file holds a number and the contents are kept by
number, so that several places can show one file.  A path is walked name by name; symbolic links are
followed wherever they are met, up to a fixed number of them.
-/

import Emend.Host.SystemError
import Emend.Path

namespace Emend

/-- The name of a node in the directory that holds it. -/
abbrev FileSystem.Name := Bytes

/-- Where a node is: the names that lead to it from the root. -/
abbrev FileSystem.Place := List FileSystem.Name

/-- Something that is opened like a file and keeps no content. -/
inductive FileSystem.Device where
  /-- Empty, and takes whatever is written; its length cannot be set. -/
  | null
  /-- Opens, but can neither be read nor be written from its beginning. -/
  | memory
  /-- Cannot be opened, though it is there. -/
  | closed (cause : SystemError) (isThere : cause ≠ .notFound)
  deriving Repr, DecidableEq

/-- What stands at a place. -/
inductive FileSystem.Node where
  /-- The file with a number. -/
  | file (number : Nat)
  | device (device : FileSystem.Device)
  | directory
  /-- A symbolic link; its target is walked from the directory that holds the link. -/
  | link (target : Path)
  deriving Repr, DecidableEq

/-- Places, what stands at them, and what the files hold. -/
structure FileSystem where
  /-- What stands where.  The root is a directory without being listed. -/
  nodes : List (FileSystem.Place × FileSystem.Node)
  /-- What the file with a number holds. -/
  contents : Nat → Bytes
  /-- The directory from which relative paths are walked. -/
  here : FileSystem.Place

namespace FileSystem

/-- The node at a place. -/
def node? (files : FileSystem) (place : Place) : Option Node :=
  if place.isEmpty then some .directory else files.nodes.lookup place

/-! ## Walking paths -/

/-- The most bytes in a name. -/
def nameLimit : Nat := 255

/-- A path must have fewer bytes than this. -/
def pathLimit : Nat := 4096

/-- The most symbolic links that are followed in one walk. -/
def linkLimit : Nat := 40

/-- Where a walk ends. -/
inductive Target where
  /-- At a node that is no symbolic link. -/
  | node (place : Place) (node : Node)
  /-- At a place in an existing directory where nothing stands. -/
  | vacant (place : Place)
  deriving Repr, DecidableEq

/-- How far names lead before a symbolic link is met. -/
inductive Leg where
  | ended (target : Target)
  /-- At a link in the directory at a place, with names left. -/
  | link (directory : Place) (target : Path) (rest : List Name)

/-- Whether names are slashes alone after the last name of a path, so that it is one of a
directory. -/
def areSlashes (rest : List Name) : Bool := !rest.isEmpty && rest.all (·.isEmpty)

/-- Follow names from a directory, until they end or lead to a symbolic link.  The name of a file
that may have to be made, `creating`, cannot be one of a directory. -/
def leg (files : FileSystem) (creating : Bool) (directory : Place) :
    List Name → Except SystemError Leg
  | [] => .ok (.ended (.node directory .directory))
  | name :: rest =>
    if !Path.isComponent name then leg files creating directory rest
    else if name = Path.up then leg files creating directory.dropLast rest
    else if creating && areSlashes rest then .error .isADirectory
    else if nameLimit < name.length then .error .nameTooLong
    else
      let place := directory ++ [name]
      match files.node? place with
      | none => if rest.isEmpty then .ok (.ended (.vacant place)) else .error .notFound
      | some .directory => leg files creating place rest
      | some (.link target) => .ok (.link directory target rest)
      | some node => if rest.isEmpty then .ok (.ended (.node place node)) else .error .notADirectory

/-- The directory from which a path is walked, if it is met in a directory. -/
def start (directory : Place) (path : Path) : Place :=
  if path.isAbsolute then [] else directory

/-- Follow names from a directory, and at most so many symbolic links. -/
def walk (files : FileSystem) (creating : Bool) (links : Nat) (directory : Place)
    (names : List Name) : Except SystemError Target :=
  match files.leg creating directory names with
  | .error cause => .error cause
  | .ok (.ended target) => .ok target
  | .ok (.link directory target rest) =>
    match links with
    | 0 => .error .tooManyLinks
    | links + 1 => walk files creating links (start directory target) (target.pieces ++ rest)

/-- Where a path leads, perhaps to a file that may have to be made. -/
def resolve (files : FileSystem) (path : Path) (creating : Bool := false) :
    Except SystemError Target :=
  if path.contains 0x00 then .error .pathHoldsNul
  else if path.isEmpty then .error .notFound
  else if pathLimit ≤ path.length then .error .nameTooLong
  else files.walk creating linkLimit (start files.here path) path.pieces

/-- Whether a path leads to a node.  Only "not found" is an answer; any other trouble on the way is
an error. -/
def exists? (files : FileSystem) (path : Path) : Except SystemError Bool :=
  match files.resolve path with
  | .ok (.node ..) => .ok true
  | .ok (.vacant _) => .ok false
  | .error .notFound => .ok false
  | .error cause => .error cause

/-! ## Reading and writing -/

/-- What an opened path gives access to. -/
inductive Handle where
  | file (number : Nat)
  | device (device : Device)
  deriving Repr, DecidableEq

/-- Open what a path leads to, for reading and writing. -/
def openFile (files : FileSystem) (path : Path) : Except SystemError Handle :=
  match files.resolve path with
  | .ok (.node _ (.file number)) => .ok (.file number)
  | .ok (.node _ (.device (.closed cause _))) => .error cause
  | .ok (.node _ (.device device)) => .ok (.device device)
  | .ok (.node _ _) => .error .isADirectory
  | .ok (.vacant _) => .error .notFound
  | .error cause => .error cause

/-- All that can be read, unless reading is refused on the way. -/
def read (files : FileSystem) (handle : Handle) (refusal? : Option SystemError := none) :
    Except SystemError Bytes :=
  match refusal?, handle with
  | some cause, _ => .error cause
  | none, .file number => .ok (files.contents number)
  | none, .device .null => .ok []
  | none, .device .memory => .error .inputOutput
  | none, .device (.closed cause _) => .error cause

/-- The file system with another content in a file. -/
def setContent (files : FileSystem) (number : Nat) (content : Bytes) : FileSystem :=
  { files with contents := fun n => if n = number then content else files.contents n }

/-- Put bytes over the beginning of a content. -/
def overwrite (old new : Bytes) : Bytes := new ++ old.drop new.length

/-- The steps in which the content of an opened file is replaced. -/
inductive WriteStep where
  /-- Going back to the beginning. -/
  | rewind
  /-- Putting the new content over the old one; so many bytes of it get there. -/
  | write (count : Nat)
  /-- Cutting off what is left of the old content. -/
  | cut
  | flush
  deriving Repr, DecidableEq

/-- What a file holds when a step is not done, after all those before it. -/
def WriteStep.leaves (old new : Bytes) : WriteStep → Bytes
  | rewind => old
  | write count => overwrite old (new.take count)
  | cut => overwrite old new
  | flush => (overwrite old new).take new.length

/-- A step that is refused, and why. -/
structure Refusal where
  step : WriteStep
  cause : SystemError
  deriving Repr, DecidableEq

/-- Replace what was read: put the new content over the old one and cut off what is left of it.  What
was done before a step is refused stays done.  No device lets all steps be done. -/
def replace (files : FileSystem) (handle : Handle) (content : Bytes)
    (refusal? : Option Refusal := none) : FileSystem × Except SystemError Unit :=
  match handle, refusal? with
  | .file number, none =>
    (files.setContent number (WriteStep.flush.leaves (files.contents number) content), .ok ())
  | .file number, some refusal =>
    (files.setContent number (refusal.step.leaves (files.contents number) content),
      .error refusal.cause)
  | .device _, some refusal => (files, .error refusal.cause)
  | .device .null, none => (files, .error .invalidArgument)
  | .device .memory, none => (files, .error .inputOutput)
  | .device (.closed cause _), none => (files, .error cause)

/-- The content of what a path leads to. -/
def readFile (files : FileSystem) (path : Path) : Except SystemError Bytes := do
  files.read (← files.openFile path)

/-- The file system with a node at a place. -/
def insert (files : FileSystem) (place : Place) (node : Node) : FileSystem :=
  { files with nodes := files.nodes.filter (·.1 ≠ place) ++ [(place, node)] }

/-- A number that no file has. -/
def freshNumber (files : FileSystem) : Nat :=
  files.nodes.foldl (fun fresh entry =>
    match entry.2 with
    | .file number => max fresh (number + 1)
    | _ => fresh) 0

/-- Put a content where a path leads, in a new file if there is none. -/
def writeFile (files : FileSystem) (path : Path) (content : Bytes) :
    Except SystemError FileSystem :=
  match files.resolve path true with
  | .ok (.node _ (.file number)) => .ok (files.setContent number content)
  | .ok (.node _ (.device .null)) => .ok files
  | .ok (.node _ (.device .memory)) => .error .inputOutput
  | .ok (.node _ (.device (.closed cause _))) => .error cause
  | .ok (.node _ _) => .error .isADirectory
  | .ok (.vacant place) =>
    let number := files.freshNumber
    .ok ((files.insert place (.file number)).setContent number content)
  | .error cause => .error cause

end FileSystem

end Emend
