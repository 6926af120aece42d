import Telemetry.Document.Reader

/-!
# Documents in files

* `Document.FileFault`: why a file gives no text.
* `Document.readFile`: what the document in a file denotes; its notation goes by the ending of the
  file's name.
-/

namespace Telemetry.Document

/-- Why a file gives no text. -/
inductive FileFault where
  /-- The operating system refused, for a reason with a number. -/
  | refused (reason : String) (number : Nat)
  /-- The bytes are not UTF-8. -/
  | notText
  deriving DecidableEq

namespace FileFault

/-- There is no such file. -/
def absent : FileFault := .refused "No such file or directory" 2

/-- The file may not be read. -/
def denied : FileFault := .refused "Permission denied" 13

/-- A part of the path that has to be a directory is none. -/
def notADirectory : FileFault := .refused "Not a directory" 20

/-- The path leads to a directory. -/
def aDirectory : FileFault := .refused "Is a directory" 21

/-- The path or a part of it is too long. -/
def tooLong : FileFault := .refused "File name too long" 36

/-- The fault with a number, if it is one of the usual ones. -/
def ofNumber? (number : Nat) : Option FileFault :=
  [absent, denied, notADirectory, aDirectory, tooLong].find? fun
    | .refused _ n => n == number
    | .notText => false

/-- The wording of a fault. -/
def message : FileFault → String
  | .refused reason number => reason ++ " (os error " ++ toString number ++ ")"
  | .notText => "stream did not contain valid UTF-8"

end FileFault

/-- The text of a file's bytes. -/
def textOf (contents : Except FileFault Bytes) : Except FileFault String := do
  match (← contents).toString? with
  | some s => .ok s
  | none => .error .notText

/-- What the document in a file denotes. -/
def readFile {α : Type} (shape : Tree → Shaped α) (path : String)
    (contents : Except FileFault Bytes) (lookup : Lookup) : Except Fault α :=
  match textOf contents with
  | .error fault => .error (.unreadable path fault.message)
  | .ok s => read shape (Format.ofPath path) lookup s

/-- The variables that the document in a file refers to. -/
def referenceNamesInFile (path : String) (contents : Except FileFault Bytes) : List String :=
  match textOf contents with
  | .error _ => []
  | .ok s => referenceNames (Format.ofPath path) s

/-- The variables that the document in a file refers to in vain. -/
def unsetNamesInFile (path : String) (contents : Except FileFault Bytes) (lookup : Lookup) :
    List String :=
  match textOf contents with
  | .error _ => []
  | .ok s => unsetNames (Format.ofPath path) lookup s

end Telemetry.Document
