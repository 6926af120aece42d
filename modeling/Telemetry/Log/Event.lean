import Telemetry.Decimal.Style
import Telemetry.Text.Quoted

/-!
# Log events

* `Log.Level`: how important an event is.
* `Log.Event`: an event with its level, its target, its message and its fields.
* `Event.line`: the line that a log shows for an event, after the time.
-/

namespace Telemetry.Log

/-- The importance of an event, in descending order. -/
inductive Level where
  | error
  | warn
  | info
  | debug
  | trace
  deriving DecidableEq

namespace Level

/-- The place of a level: more for less important ones. -/
def rank : Level → Nat
  | .error => 1
  | .warn => 2
  | .info => 3
  | .debug => 4
  | .trace => 5

/-- The name of a level in logs. -/
def name : Level → String
  | .error => "ERROR"
  | .warn => "WARN"
  | .info => "INFO"
  | .debug => "DEBUG"
  | .trace => "TRACE"

/-- The name of a level, five characters wide. -/
def column (l : Level) : String :=
  String.ofList (List.replicate (5 - l.name.length) ' ') ++ l.name

end Level

/-- The value of a field. -/
inductive FieldValue where
  /-- A text that is shown in quotes. -/
  | quoted (s : String)
  /-- A text that is shown as it is. -/
  | plain (s : String)
  | count (n : Nat)
  | double (x : Binary64)
  | texts (ss : List String)
  deriving DecidableEq

/-- The value of a field as a log shows it. -/
def FieldValue.render : FieldValue → String
  | .quoted s => Telemetry.quoted s
  | .plain s => s
  | .count n => toString n
  | .double x => x.render .inspect
  | .texts ss => bracketed (ss.map Telemetry.quoted)

/-- An event. -/
structure Event where
  level : Level
  target : String
  message : String
  fields : List (String × FieldValue) := []
  deriving DecidableEq

/-- The line of an event: its level, its target, its message and its fields. -/
def Event.line (e : Event) : String :=
  e.level.column ++ " " ++ e.target ++ ": " ++ e.message ++
    String.join (e.fields.map fun (name, value) => " " ++ name ++ "=" ++ value.render)

end Telemetry.Log
