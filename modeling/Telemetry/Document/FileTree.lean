import Telemetry.Document.File
import Telemetry.Text.Blank

/-!
# File trees

* `Document.Way`: the names that lead from the root to a place.
* `Document.FileTree`: files with their bytes, and folders.
* `FileTree.read`: the bytes of the file that a path leads to, or the fault of reading it. A path
  without a slash at its start leads on from the working folder.

Paths are followed name by name, and the first name that leads nowhere decides about the fault.
-/

namespace Telemetry.Document

/-- The names from the root to a place. -/
abbrev Way := List String

/-- Files and folders. The folders along the ways are there without being listed. -/
structure FileTree where
  files : List (Way × Bytes) := []
  folders : List Way := []

namespace FileTree

/-- How many bytes a name may have. -/
def maxName : Nat := 255

/-- How many bytes a path may have. -/
def maxPath : Nat := 4095

/-- The bytes of the file at a place. -/
def file? (t : FileTree) (w : Way) : Option Bytes := t.files.lookup w

/-- Whether there is a folder at a place. -/
def isFolder (t : FileTree) (w : Way) : Bool :=
  w.isEmpty || t.folders.any (fun v => w.isPrefixOf v) ||
    t.files.any fun (v, _) => w.isPrefixOf v && w != v

/-- Where a step from a place leads: an empty name and a point stay there, two points lead up, and
anything else leads down. Only folders have steps. -/
def step (t : FileTree) (w : Way) (name : String) : Except FileFault Way :=
  if (t.file? w).isSome then .error .notADirectory
  else if name = "" ∨ name = "." then .ok w
  else if name = ".." then .ok w.dropLast
  else if maxName < name.utf8ByteSize then .error .tooLong
  else if (t.file? (w ++ [name])).isSome || t.isFolder (w ++ [name]) then .ok (w ++ [name])
  else .error .absent

/-- Where steps from a place lead. -/
def walk (t : FileTree) (w : Way) : List String → Except FileFault Way
  | [] => .ok w
  | name :: rest => do walk t (← t.step w name) rest

/-- The names of a path; there is an empty one before, between and behind slashes. -/
def namesOf (path : String) : List String := (splitOnChar '/' path.toList).map String.ofList

/-- The bytes of the file that a path leads to. -/
def read (t : FileTree) (working : Way) (path : String) : Except FileFault Bytes := do
  if path.isEmpty then .error .absent
  else if maxPath < path.utf8ByteSize then .error .tooLong
  else
    let place ← t.walk (if path.startsWith "/" then [] else working) (namesOf path)
    match t.file? place with
    | some bytes => .ok bytes
    | none => .error .aDirectory

end FileTree

end Telemetry.Document
