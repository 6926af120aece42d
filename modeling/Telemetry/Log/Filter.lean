import Telemetry.Decimal.Read
import Telemetry.Log.Event
import Telemetry.Log.Pattern.Reader
import Telemetry.Text.Alphanumeric
import Telemetry.Text.Blank

/-!
# Log filters

* `Log.Directive`: the events of a target, up to a level: `info`, `target=level`, and forms that
  name spans and fields, `target[span{field=value}]=level`.
* `Directive.ofChars?`: reading one.
* `Log.Filter`: directives, the most specific one first; `Filter.enables` tells which events pass.
* `Filter.strict?`, `Filter.lenient`: filters of texts. The second one leaves out what it cannot
  read and tells so.
-/

namespace Telemetry.Log

/-- Up to which level events pass: a rank, or zero for none. -/
abbrev Threshold := Nat

namespace Threshold

/-- Everything passes. -/
def all : Threshold := 5

/-- The number of a threshold given by digits, an optional plus before them. -/
def ofDigits? (cs : List Char) : Option Threshold :=
  let digits := match cs with
    | '+' :: ds => ds
    | ds => ds
  if digits.isEmpty || !digits.all (fun c => '0' ≤ c && c ≤ '9') then none
  else
    let n := digits.foldl (fun n c => n * 10 + (c.toNat - 48)) 0
    if n ≤ all then some n else none

/-- The threshold of a name, in capital or small letters, or of a number. -/
def ofChars? (cs : List Char) : Option Threshold :=
  let is (name : String) : Bool := sameIgnoringCase (String.ofList cs) name
  match ofDigits? cs with
  | some n => some n
  | none =>
    if cs.isEmpty || is "error" then some 1
    else if is "warn" then some 2
    else if is "info" then some 3
    else if is "debug" then some 4
    else if is "trace" then some 5
    else if is "off" then some 0
    else none

end Threshold

/-- A rule of a filter. -/
structure Directive where
  threshold : Threshold
  target : Option (List Char)
  /-- The span that the rule is about. -/
  span : Option (List Char)
  /-- The fields that the rule asks for, and whether it asks for a value too. -/
  fields : List (List Char × Bool)
  deriving DecidableEq

/-- Why a rule could not be read. -/
inductive DirectiveFault where
  | malformed
  | unknownLevel
  /-- The value of a field is no pattern that could be used. -/
  | unusablePattern (reason : Pattern.Fault)
  deriving DecidableEq

/-- The wording of a fault. -/
def DirectiveFault.message : DirectiveFault → String
  | .malformed => "invalid filter directive"
  | .unknownLevel =>
    "error parsing level filter: expected one of \x22off\x22, \x22error\x22, \x22warn\x22, " ++
      "\x22info\x22, \x22debug\x22, \x22trace\x22, or a number 0-5"
  | .unusablePattern reason => "invalid field filter: " ++ reason.message

namespace Directive

/-- What has been read of a rule. The numbers are places in the text, in bytes. -/
inductive Progress where
  | start
  | word (first : Nat)
  | span (first : Nat)
  | field (first : Nat)
  | fields
  | target
  | level (first : Nat)

/-- A rule of which nothing has been read. -/
def blank : Directive := ⟨Threshold.all, none, none, []⟩

/-- A text without its first `n` bytes. -/
def dropBytes (n : Nat) : List Char → List Char
  | [] => []
  | c :: rest => if n = 0 then c :: rest else dropBytes (n - c.utf8Size) rest

/-- The first `n` bytes of a text. -/
def takeBytes (n : Nat) : List Char → List Char
  | [] => []
  | c :: rest => if c.utf8Size ≤ n then c :: takeBytes (n - c.utf8Size) rest else []

/-- The piece of a text from one place up to another. -/
def slice (text : List Char) (first last : Nat) : List Char :=
  takeBytes (last - first) (dropBytes first text)

/-- A character that may begin a rule, apart from a bracket. -/
def mayBegin (c : Char) : Bool := c == '-' || c == ':' || c == '_' || isAlphanumeric c

/-- Whether a text is a number or a word for none: `inf`, `infinity`, `nan`. -/
def isNumber (cs : List Char) : Bool :=
  let word := match cs with
    | '+' :: rest => rest
    | '-' :: rest => rest
    | rest => rest
  (Numeral.ofChars? cs).isSome ||
    ["inf", "infinity", "nan"].any fun w => sameIgnoringCase (String.ofList word) w

/-- The fault of a value that a rule asks for: it has to be a number or a pattern. -/
def valueFault? (value : List Char) : Option DirectiveFault :=
  if isNumber value then none else (Pattern.fault? value).map .unusablePattern

/-- A field as it is asked for: its name, and whether a value follows. The value ends before a
second equals sign. -/
def fieldOf (cs : List Char) : Except DirectiveFault (List Char × Bool) :=
  if cs.isEmpty then .error .malformed
  else match splitFirst? '=' cs with
    | none => .ok (cs, false)
    | some (name, value) =>
      match valueFault? (value.takeWhile (· != '=')) with
      | some fault => .error fault
      | none => .ok (name, true)

/-- Reads on by the character `c` at place `i` of a text. -/
def step (text : List Char) (i : Nat) (c : Char) (d : Directive) :
    Progress → Except DirectiveFault (Directive × Progress)
  | .start =>
    if c = '[' then .ok (d, .span (i + 1))
    else if mayBegin c then .ok (d, .word i)
    else .error .malformed
  | .word first =>
    if c = '=' then .ok ({ d with target := some (slice text first i) }, .level (i + 1))
    else if c = '[' then .ok ({ d with target := some (slice text first i) }, .span (i + 1))
    else .ok (d, .word first)
  | .target => if c = '=' then .ok (d, .level (i + 1)) else .error .malformed
  | .span first =>
    let name := slice text first i
    if c = ']' then .ok ({ d with span := some name }, .target)
    else if c = '\x7b' then
      .ok ({ d with span := if name.isEmpty then none else some name }, .field (i + 1))
    else .ok (d, .span first)
  | .field first =>
    if c = '\x7d' then
      (fieldOf (slice text first i)).map fun field =>
        ({ d with fields := d.fields ++ [field] }, .fields)
    else .ok (d, .field first)
  | .fields => if c = ']' then .ok (d, .target) else .error .malformed
  | .level first => .ok (d, .level first)

/-- Reads on to the end of the characters from place `i` on. -/
def run (text : List Char) (i : Nat) (d : Directive) (p : Progress) :
    List Char → Except DirectiveFault (Directive × Progress)
  | [] => .ok (d, p)
  | c :: rest => do
    let (d, p) ← step text i c d p
    run text (i + c.utf8Size) d p rest

/-- Reads a rule. Places are counted without the white space before the rule, but the pieces are
cut from the text with it. -/
def ofChars? (text : List Char) : Except DirectiveFault Directive := do
  match ← run text 0 blank .start (trimBlank text) with
  | (d, .word first) =>
    let word := dropBytes first text
    if word.isEmpty then .ok d
    else match Threshold.ofChars? word with
      | some threshold => .ok { d with threshold }
      | none => .ok { d with target := some word }
  | (d, .level first) =>
    let word := dropBytes first text
    if word.isEmpty then .ok d
    else match Threshold.ofChars? word with
      | some threshold => .ok { d with threshold }
      | none => .error .unknownLevel
  | (d, .target) => .ok d
  | _ => .error .malformed

/-- Whether a rule can decide about events outside of spans: it names no span and no value. -/
def decides (d : Directive) : Bool := d.span.isNone && d.fields.all fun (_, valued) => !valued

/-- The names of the fields a rule asks for. -/
def names (d : Directive) : List (List Char) := d.fields.map Prod.fst

/-- Whether a rule comes before another one: by the length of its target, the number of its fields,
and last by the texts. -/
def precedes (a b : Directive) : Bool :=
  let size (d : Directive) : Nat := match d.target with
    | some t => (String.ofList t).utf8ByteSize + 1
    | none => 0
  if size a ≠ size b then size b < size a
  else if a.fields.length ≠ b.fields.length then b.fields.length < a.fields.length
  else if a.target ≠ b.target then decide (b.target.getD [] < a.target.getD [])
  else decide (b.names < a.names)

/-- Whether a rule is about an event. -/
def concerns (d : Directive) (e : Event) : Bool :=
  (match d.target with
    | some t => t.isPrefixOf e.target.toList
    | none => true) &&
  d.names.all fun name => name == "message".toList || e.fields.any fun (n, _) => n.toList == name

end Directive

/-- Rules, the most specific one first. -/
structure Filter where
  rules : List Directive
  deriving DecidableEq

namespace Filter

/-- Puts a rule into its place; an earlier one for the same events gives way. -/
def insert (d : Directive) : List Directive → List Directive
  | [] => [d]
  | other :: rest =>
    if other.target = d.target ∧ other.names = d.names then d :: rest
    else if d.precedes other then d :: other :: rest
    else other :: insert d rest

/-- The filter of rules. Those that name neither span nor field come first. -/
def ofDirectives (ds : List Directive) : Filter :=
  let isPlain (d : Directive) : Bool := d.span.isNone && d.fields.isEmpty
  let ordered := ds.filter isPlain ++ ds.filter fun d => !isPlain d && d.decides
  ⟨ordered.foldl (fun rules d => insert d rules) []⟩

/-- Whether an event passes: the first rule about it decides. -/
def enables (f : Filter) (e : Event) : Bool :=
  match f.rules.find? fun d => d.concerns e with
  | some d => e.level.rank ≤ d.threshold
  | none => false

/-- The rules of a text stand between commas. -/
def pieces (s : String) : List (List Char) := (splitOnChar ',' s.toList).filter fun p => p != []

/-- The filter of a text all rules of which can be read. -/
def strict? (s : String) : Option Filter :=
  ((pieces s).mapM fun p => (Directive.ofChars? p).toOption).map ofDirectives

/-- The filter of a text with the complaints about rules that cannot be read. Without any rule,
errors pass. -/
def lenient (s : String) : Filter × List String :=
  let outcomes := (pieces s).map fun p => (p, Directive.ofChars? p)
  let rules := outcomes.filterMap fun (_, r) => r.toOption
  let complaints := outcomes.filterMap fun (p, r) => match r with
    | .ok _ => none
    | .error fault => some ("ignoring \x60" ++ String.ofList p ++ "\x60: " ++ fault.message)
  (ofDirectives (if rules.isEmpty then [{ Directive.blank with threshold := 1 }] else rules),
    complaints)

/-- The filter that lets everything up to informations pass. -/
def info : Filter := ofDirectives [{ Directive.blank with threshold := 3 }]

/-- The filter of an environment variable: what it says if all of it can be read, else `info`. -/
def ofVariable (value : Option String) : Filter := (value.bind strict?).getD info

end Filter

end Telemetry.Log
