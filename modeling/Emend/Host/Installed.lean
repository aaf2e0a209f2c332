/-
# The programs of one system

A system with a shell and some filters: how a name or a path leads to one of them, and what is seen
of it when it is called.  Nothing but calls on this system depends on what is installed here.
-/

import Emend.Host.FileSystem.Tree
import Emend.Host.Filter
import Emend.Host.Program
import Emend.Host.Shell

namespace Emend.Host.Installed

open FileSystem (Name Node Place)

/-- The place that some names lead to from the root. -/
def placeOf (names : List String) : Place := names.map Bytes.ofText

/-- The names of all programs. -/
def names : List String := "sh" :: Filter.all.map Prod.fst

/-- Where the programs are. -/
def programPlace : Place := placeOf ["usr", "bin"]

/-- The directories that every system has besides those for devices and for files of no duration. -/
def directories : List Place :=
  [["boot"], ["etc"], ["home"], ["media"], ["mnt"], ["opt"], ["root"], ["run"], ["srv"], ["sys"],
    ["usr"], ["usr", "bin"], ["usr", "include"], ["usr", "lib"], ["usr", "lib64"], ["usr", "local"],
    ["usr", "local", "bin"], ["usr", "local", "sbin"], ["usr", "sbin"], ["usr", "share"],
    ["usr", "src"], ["var"], ["var", "lib"], ["var", "log"], ["var", "tmp"]].map placeOf

/-- Links by which directories have shorter paths too. -/
def links : List (Place × Node) :=
  ["bin", "lib", "lib64", "sbin"].map fun name => (placeOf [name], .link (Bytes.ofText ("usr/" ++ name)))

/-- Files that every system has, besides the programs. -/
def records : List Place :=
  [["etc", "passwd"], ["etc", "group"], ["etc", "hosts"], ["etc", "hostname"]].map placeOf

/-- The files that programs find. -/
def files : FileSystem :=
  let base := FileSystem.initial
  let held := records ++ names.map fun name => programPlace ++ [Bytes.ofText name]
  { base with
    nodes := base.nodes ++ directories.map (·, .directory) ++ links
      ++ held.zipIdx.map fun (place, number) => (place, .file number) }

/-- The program with a name, if `shell` is the one that is called "sh". -/
def named? (shell : Utility) (name : String) : Option Utility :=
  if name = "sh" then some shell else Filter.named? name

/-- The program that a path leads to. -/
def atPath (shell : Utility) (path : Path) : Except SystemError Utility :=
  match files.resolve path with
  | .ok (.node place (.file _)) =>
    if place.dropLast = programPlace then
      match named? shell (Utf8.lossy (place.getLast?.getD [])) with
      | some utility => .ok utility
      | none => .error .notFound
    else .error .permissionDenied
  | .ok (.node _ _) => .error .permissionDenied
  | .ok (.vacant _) => .error .notFound
  | .error cause => .error cause

/-- The program with a name or at a path. -/
def find (shell : Utility) (name : Bytes) : Except SystemError Utility :=
  let text := Utf8.lossy name
  if name.contains Path.slash then atPath shell name
  else if text = "." || text = ".." then .error .permissionDenied
  else if FileSystem.nameLimit < name.length then .error .nameTooLong
  else
    match named? shell text with
    | some utility => .ok utility
    | none => .error .notFound

/-- A shell that finds shells, so many of them inside one another. -/
def nestedShell : (depth : Nat) → Utility
  | 0 => Filter.endWith 1
  | depth + 1 => Shell.shell (find (nestedShell depth))

/-- How many shells may stand inside one another. -/
def shellDepth : Nat := 100

/-- The program with a name or at a path. -/
def program (name : Bytes) : Except SystemError Utility := find (nestedShell shellDepth) name

/-! ## Calls -/

/-- The bytes on one page of a pipe. -/
def pageSize : Nat := 4096

/-- The pages of a pipe. -/
def pageCount : Nat := 16

/-- Whether an input gets into a pipe whole if its reader takes some bytes and then goes away.  A page
is free again only when all of it has been taken. -/
def fitsPipe (size taken : Nat) : Bool := size ≤ (pageCount + taken / pageSize) * pageSize

/-- The most bytes of an argument, with a byte that ends it. -/
def argumentLimit : Nat := 131072

/-- The most bytes of all arguments, each with a byte that ends it and with its address. -/
def argumentsLimit : Nat := 2097152

/-- Whether arguments are too long for a program, the name of which counts as one. -/
def isTooLong (args : List Bytes) : Bool :=
  args.any (fun arg => argumentLimit < arg.length + 1)
    || argumentsLimit < args.foldl (fun length arg => length + arg.length + 9) 0

/-- What is seen of a program with an outcome. -/
def conductOf (input : Bytes) (outcome : Outcome) : Conduct where
  exitCode? := match outcome.status with
    | .exited code => some code
    | .killed _ => none
  output := outcome.writtenTo .output
  report := outcome.writtenTo .report
  refusal? :=
    if fitsPipe input.length (input.length - outcome.unread.length) then none
    else some .brokenPipe

/-- What comes of calling the programs of this system. -/
def programs : Programs := fun name args input => do
  let utility ← program (Bytes.ofText name)
  let args := args.map Bytes.ofText
  if isTooLong (Bytes.ofText name :: args) then throw .argumentsTooLong
  return conductOf input (utility { name, args, input, files })

end Emend.Host.Installed
