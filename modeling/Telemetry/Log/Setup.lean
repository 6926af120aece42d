import Telemetry.Log.Filter
import Telemetry.Log.Rolling

/-!
# Setting up the log

* `Log.Setup`: which events are shown, what is rolled into files, and the complaints about a
  filter that could not be read.
* `Setup.ofEnvironment`, `Setup.withFilter`: the setup that the environment asks for, and the one
  with a given filter.
* `Setup.line?`: the line of an event, if it is shown.
-/

namespace Telemetry.Log

/-- How events are logged. -/
structure Setup where
  filter : Filter
  rolling : Option Rolling
  complaints : List String := []

namespace Setup

/-- The variable that holds the filter. -/
def filterVariable : String := "RUST_LOG"

/-- The variables that a setup depends on. -/
def variableNames : List String := filterVariable :: Rolling.variableNames

/-- The setup that the environment asks for. -/
def ofEnvironment (env : Lookup) : Setup where
  filter := .ofVariable (env filterVariable)
  rolling := Rolling.ofEnvironment env

/-- The setup with a filter that is given as a text. -/
def withFilter (text : String) (env : Lookup) : Setup where
  filter := (Filter.lenient text).1
  rolling := Rolling.ofEnvironment env
  complaints := (Filter.lenient text).2

/-- The line of an event at a time, if it is shown. -/
def line? (s : Setup) (time : String) (e : Event) : Option String :=
  if s.filter.enables e then some (time ++ " " ++ e.line) else none

end Setup

end Telemetry.Log
