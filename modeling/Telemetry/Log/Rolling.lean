import Telemetry.Log.Clock
import Telemetry.Reference.Substitution
import Telemetry.Text.Blank
import Telemetry.Text.Quoted

/-!
# Rolled export logs

* `Log.Rolling`: where exports are logged to files and how often a new file begins, as variables of
  the environment say.
* `Rolling.folders`, `Rolling.file?`: the folders and the file that are made for it.
* `Rolling.created`: both, as paths.
-/

namespace Telemetry.Log

/-- How often a new file begins. -/
inductive Rotation where
  | minutely
  | hourly
  | daily
  deriving DecidableEq

/-- The rotation of a name in capital or small letters; daily unless the name is known. -/
def Rotation.ofName (s : String) : Rotation :=
  if sameIgnoringCase s "hourly" then .hourly
  else if sameIgnoringCase s "minutely" then .minutely
  else .daily

/-- The part of a file name that tells the time. -/
def Clock.stamp (c : Clock) : Rotation → String
  | .daily => c.date
  | .hourly => c.date ++ "-" ++ paddedNumber 2 c.hour
  | .minutely => c.date ++ "-" ++ paddedNumber 2 c.hour ++ "-" ++ paddedNumber 2 c.minute

/-- A log in files. -/
structure Rolling where
  directory : String
  stem : String
  rotation : Rotation
  deriving DecidableEq

namespace Rolling

/-- The variable that turns the log on. -/
def switchVariable : String := "OTK_LOG_ROLL"

/-- The variable that holds the directory. -/
def directoryVariable : String := "OTK_LOG_DIR"

/-- The variable that holds the beginning of file names. -/
def stemVariable : String := "OTK_LOG_PREFIX"

/-- The variable that tells how often a new file begins. -/
def rotationVariable : String := "OTK_LOG_ROTATION"

/-- The variables that the log depends on. -/
def variableNames : List String :=
  [switchVariable, directoryVariable, stemVariable, rotationVariable]

/-- The log that the environment asks for, if it does. -/
def ofEnvironment (env : Lookup) : Option Rolling :=
  if env switchVariable = some "1" then
    some ⟨(env directoryVariable).getD "logs", (env stemVariable).getD "otk-export",
      Rotation.ofName ((env rotationVariable).getD "daily")⟩
  else none

/-- The name of the file at a time. -/
def fileName (r : Rolling) (c : Clock) : String :=
  if r.stem.isEmpty then c.stamp r.rotation else r.stem ++ "." ++ c.stamp r.rotation

/-- The path of the file at a time. -/
def path (r : Rolling) (c : Clock) : String :=
  let name := r.fileName c
  if r.directory.isEmpty || name.startsWith "/" then name else r.directory ++ "/" ++ name

/-- The parts of a path, without empty ones and those that stay in place. -/
def components (path : String) : List String :=
  ((splitOnChar '/' path.toList).filter fun p => p != [] && p != ['.']).map String.ofList

/-- The folders along a path that lie below the working directory. `place` is the way to the folder
above, or `none` outside of the working directory. -/
def foldersAlong (place : Option (List String)) : List String → List (List String)
  | [] => []
  | name :: rest =>
    match place with
    | none => []
    | some above =>
      if name = ".." then foldersAlong (if above.isEmpty then none else some above.dropLast) rest
      else (above ++ [name]) :: foldersAlong (some (above ++ [name])) rest

/-- Where a path leads to below the working directory. -/
def destination? (place : List String) : List String → Option (List String)
  | [] => some place
  | name :: rest =>
    if name = ".." then if place.isEmpty then none else destination? place.dropLast rest
    else destination? (place ++ [name]) rest

/-- The way from the working directory along a path; one from the root leads elsewhere. -/
def start? (path : String) : Option (List String) := if path.startsWith "/" then none else some []

/-- The folders below the working directory in which the file of a time lies. -/
def folders (r : Rolling) (c : Clock) : List (List String) :=
  foldersAlong (start? r.directory) (components r.directory) ++
    foldersAlong (start? (r.path c)) (components (r.path c)).dropLast

/-- The file of a time, if it lies below the working directory. -/
def file? (r : Rolling) (c : Clock) : Option (List String) :=
  (start? (r.path c)).bind fun place => destination? place (components (r.path c))

/-- What has to be there at a time below the working directory: folders, each with a slash behind
it, and the file. -/
def created (r : Rolling) (c : Clock) : List String :=
  (r.folders c).map (fun way => joined "/" way ++ "/") ++ ((r.file? c).map (joined "/")).toList

end Rolling

end Telemetry.Log
