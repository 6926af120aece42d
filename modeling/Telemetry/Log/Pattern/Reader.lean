import Telemetry.Bytes.Hex
import Telemetry.Log.Pattern
import Telemetry.Text.Alphanumeric
import Telemetry.Text.Blank

/-!
# Reading patterns

* `Pattern.ofChars?`: the pattern of a text, or `none` if the text is none.
* `Pattern.fault?`: why a text cannot be used as a pattern, if it cannot.

The text stands between an equals sign and a closing brace, so it holds no closing brace. What needs
one, such as counted repetitions, cannot be written.
-/

namespace Telemetry.Log.Pattern

/-- What is left of a text, and what has been read that matters to the rest. -/
structure Source where
  rest : List Char
  /-- Whether white space and comments are skipped. -/
  spaced : Bool
  /-- The names of the groups so far. -/
  names : List (List Char)

/-! ## White space -/

/-- A text without its first white space and comments, of which one may be open at its start. A
comment begins with a number sign and ends with the line. -/
def withoutGap (inComment : Bool) : List Char → List Char
  | [] => []
  | c :: rest =>
    if inComment then withoutGap (c != '\n') rest
    else if isBlank c then withoutGap false rest
    else if c = '#' then withoutGap true rest
    else c :: rest

namespace Source

/-- The place after white space and comments, if these are skipped. -/
def skipGap (s : Source) : Source :=
  if s.spaced then { s with rest := withoutGap false s.rest } else s

/-- The same place with another text. -/
def moveTo (s : Source) (rest : List Char) : Source := { s with rest }

end Source

/-- The first character that is neither white space nor the first number sign. -/
def firstVisible? (signSeen : Bool) : List Char → Option Char
  | [] => none
  | c :: rest =>
    if isBlank c then firstVisible? signSeen rest
    else if c = '#' ∧ !signSeen then firstVisible? true rest
    else some c

/-- The character that decides whether a hyphen before it makes a range. -/
def afterHyphen? (spaced : Bool) (rest : List Char) : Option Char :=
  if spaced then (firstVisible? false rest).orElse fun _ => rest.head? else rest.head?

/-! ## Escapes -/

/-- Reads digits of base 16. -/
def hexDigits (value : Nat) : (count : Nat) → Source → Option (Nat × Source)
  | 0, s => some (value, s)
  | count + 1, s =>
    let s := s.skipGap
    match s.rest with
    | [] => none
    | c :: rest =>
      match hexValue? c with
      | some d => hexDigits (value * 16 + d) count (s.moveTo rest)
      | none => none

/-- Reads a character given by its number. -/
def numbered (digits : Nat) (s : Source) : Option (Pattern × Source) :=
  match hexDigits 0 digits s with
  | some (n, s) =>
    if n < 0xD800 ∨ (0xDFFF < n ∧ n ≤ 0x10FFFF) then
      some (.literal ⟨Char.ofNat n, digits == 2⟩, s)
    else none
  | none => none

/-- Reads a category of Unicode, which has a name of one letter. -/
def categoryName (s : Source) : Option (Pattern × Source) :=
  let s := s.skipGap
  match s.rest with
  | c :: rest =>
    if ['c', 'l', 'm', 'n', 'p', 's', 'z'].contains (lowerAscii c) then
      some (.category, s.moveTo rest)
    else none
  | [] => none

/-- Whether a character of ASCII, or an escape of it, may only stand for itself behind a
backslash. -/
def isPlainEscape (c : Char) : Bool :=
  decide (c.toNat < 0x80) && !c.isAlphanum && c != '<' && c != '>'

/-- Reads an escape after its backslash. -/
def escape (s : Source) : Option (Pattern × Source) :=
  match s.rest with
  | [] => none
  | c :: rest =>
    let after := s.moveTo rest
    if isPlainEscape c then some (.literal ⟨c, false⟩, after)
    else match c with
      | 'x' => numbered 2 after
      | 'u' => numbered 4 after
      | 'U' => numbered 8 after
      | 'p' | 'P' => categoryName after
      | 'd' | 's' | 'w' => some (.named false, after)
      | 'D' | 'S' | 'W' => some (.named true, after)
      | 'a' => some (.literal ⟨'\x07', false⟩, after)
      | 'f' => some (.literal ⟨'\x0c', false⟩, after)
      | 't' => some (.literal ⟨'\t', false⟩, after)
      | 'n' => some (.literal ⟨'\n', false⟩, after)
      | 'r' => some (.literal ⟨'\r', false⟩, after)
      | 'v' => some (.literal ⟨'\x0b', false⟩, after)
      | 'A' | 'z' => some (.boundary, after)
      | 'b' | 'B' | '<' | '>' => some (.wordBoundary, after)
      | _ => none

/-! ## Sets of characters -/

/-- The names of classes that are written between colons. -/
def classNames : List String :=
  ["alnum", "alpha", "ascii", "blank", "cntrl", "digit", "graph", "lower", "print", "punct",
    "space", "upper", "word", "xdigit"]

/-- Reads a class by its name, `:name:]` or `:^name:]`, and tells whether it is negated. -/
def namedClass? : List Char → Option (Bool × List Char)
  | ':' :: rest =>
    let (negated, rest) := match rest with
      | '^' :: more => (true, more)
      | more => (false, more)
    match rest.dropWhile (· != ':') with
    | ':' :: ']' :: after =>
      if classNames.contains (String.ofList (rest.takeWhile (· != ':'))) then some (negated, after)
      else none
    | _ => none
  | _ => none

/-- Reads a character or an escape. -/
def member (s : Source) : Option (Pattern × Source) :=
  match s.rest with
  | [] => none
  | c :: rest =>
    if c = '\\' then escape (s.moveTo rest) else some (.literal ⟨c, false⟩, s.moveTo rest)

/-- The set of what may be a member of one. -/
def memberSet? : Pattern → Option CharSet
  | .literal l => some (.literal l)
  | .named negated => some (.named negated)
  | .category => some .category
  | _ => none

/-- The range between two characters, in order. -/
def range? : Pattern → Pattern → Option CharSet
  | .literal a, .literal b => if a.char ≤ b.char then some (.range a b) else none
  | _, _ => none

/-- Reads a member of a set or a range of characters. A hyphen makes no range if a closing bracket
or a second hyphen follows. -/
def memberOrRange (s : Source) : Option (CharSet × Source) := do
  let (first, s) ← member s
  let s := s.skipGap
  let rangeRest := match s.rest with
    | '-' :: rest =>
      let next := afterHyphen? s.spaced rest
      if next = some ']' ∨ next = some '-' then none else some rest
    | _ => none
  match rangeRest with
  | some rest => do
    let (last, s) ← member (s.moveTo rest).skipGap
    pure (← range? first last, s)
  | none => pure (← memberSet? first, s)

/-- Reads the hyphens at the start of a set, which stand for themselves. -/
def leadingHyphens (seen : List CharSet) : (fuel : Nat) → Source → List CharSet × Source
  | 0, s => (seen, s)
  | fuel + 1, s =>
    match s.rest with
    | '-' :: rest => leadingHyphens (.literal ⟨'-', false⟩ :: seen) fuel (s.moveTo rest).skipGap
    | _ => (seen, s)

/-- Reads the start of a set: the sign of negation, and a hyphen or a closing bracket that stands
for itself. -/
def setStart (s : Source) : Bool × List CharSet × Source :=
  let s := s.skipGap
  let (negated, s) := match s.rest with
    | '^' :: rest => (true, (s.moveTo rest).skipGap)
    | _ => (false, s)
  let (hyphens, s) := leadingHyphens [] s.rest.length s
  match hyphens, s.rest with
  | [], ']' :: rest => (negated, [.literal ⟨']', false⟩], (s.moveTo rest).skipGap)
  | hyphens, _ => (negated, hyphens, s)

/-- The set of members, the last one first. -/
def unionOf : List CharSet → CharSet
  | [] => .empty
  | [s] => s
  | seen => .union seen.reverse

/-- A set, combined with the one before it if there is one. -/
def combinedWith (left : Option CharSet) (s : CharSet) : CharSet :=
  match left with
  | some l => .combined l s
  | none => s

mutual

/-- Reads a set after its opening bracket. -/
def bracket : (fuel : Nat) → Source → Option (CharSet × Source)
  | 0, _ => none
  | fuel + 1, s =>
    let (negated, seen, s) := setStart s
    (members none seen fuel s).map fun (body, s) => (.bracket negated body, s)

/-- Reads the members of a set up to its closing bracket. `left` is what stands before the last
sign of combination, and `seen` the members after it, the last one first. -/
def members (left : Option CharSet) (seen : List CharSet) :
    (fuel : Nat) → Source → Option (CharSet × Source)
  | 0, _ => none
  | fuel + 1, s =>
    let s := s.skipGap
    let combination (rest : List Char) : Option (CharSet × Source) :=
      members (some (combinedWith left (unionOf seen))) [] fuel (s.moveTo rest)
    match s.rest with
    | '[' :: rest =>
      match namedClass? rest with
      | some (negated, rest) => members left (.named negated :: seen) fuel (s.moveTo rest)
      | none => do
        let (inner, s) ← bracket fuel (s.moveTo rest)
        members left (inner :: seen) fuel s
    | ']' :: rest => some (combinedWith left (unionOf seen), s.moveTo rest)
    | '&' :: '&' :: rest => combination rest
    | '-' :: '-' :: rest => combination rest
    | '~' :: '~' :: rest => combination rest
    | _ => do
      let (item, s) ← memberOrRange s
      members left (item :: seen) fuel s

end

/-! ## Groups -/

/-- Reads switches up to a colon or the closing parenthesis; `true` tells that it was a colon. The
minus sign turns off what follows it, of which there has to be something. -/
def switchList (negated : Bool) (seen : Switches) :
    List Char → Option (Switches × Bool × List Char)
  | [] => none
  | c :: rest =>
    if c = ':' ∨ c = ')' then some (seen, c == ':', rest)
    else if c = '-' then
      match rest with
      | d :: _ => if negated || d == ':' || d == ')' then none else switchList true seen rest
      | [] => none
    else match Mode.ofChar? c with
      | some m =>
        if (seen.lookup m).isSome then none else switchList negated (seen ++ [(m, !negated)]) rest
      | none => none

/-- Whether a text is a name of a group. -/
def isGroupName : List Char → Bool
  | [] => false
  | c :: rest =>
    (c == '_' || isAlphabetic c) &&
      rest.all fun d => d == '_' || d == '.' || d == '[' || d == ']' || isAlphanumeric d

/-- Reads the name of a group and the sign after it. -/
def groupName (s : Source) : Option Source :=
  let name := s.rest.takeWhile (· != '>')
  match s.rest.dropWhile (· != '>') with
  | _ :: rest =>
    if isGroupName name && !s.names.contains name then
      some { s with rest, names := name :: s.names }
    else none
  | [] => none

/-- What an opening parenthesis begins: a group, or switches alone. -/
inductive Opening where
  | group (w : Switches)
  | switches (w : Switches)

/-- Reads what stands between an opening parenthesis and the pattern of its group. Nothing can be
asked about the text around a match. -/
def opening (s : Source) : Option (Opening × Source) :=
  let s := s.skipGap
  match s.rest with
  | '?' :: '=' :: _ => none
  | '?' :: '!' :: _ => none
  | '?' :: '<' :: '=' :: _ => none
  | '?' :: '<' :: '!' :: _ => none
  | '?' :: 'P' :: '<' :: rest => (groupName (s.moveTo rest)).map fun s => (.group [], s)
  | '?' :: '<' :: rest => (groupName (s.moveTo rest)).map fun s => (.group [], s)
  | '?' :: rest =>
    match switchList false [] rest with
    | some (w, true, rest) => some (.group w, s.moveTo rest)
    | some (w, false, rest) => if w.isEmpty then none else some (.switches w, s.moveTo rest)
    | none => none
  | _ => some (.group [], s)

/-! ## Patterns -/

/-- The pattern of parts, the last one first. -/
def sequenceOf : List Pattern → Pattern
  | [] => .empty
  | [p] => p
  | seen => .sequence seen.reverse

/-- The pattern of alternatives, the last one first. -/
def alternativesOf : List Pattern → Pattern
  | [] => .empty
  | [p] => p
  | branches => .alternatives branches.reverse

/-- Whether a pattern can be repeated; switches cannot. -/
def isRepeatable : Pattern → Bool
  | .switches _ => false
  | _ => true

/-- Reads alternatives up to a closing parenthesis or the end. `branches` are the alternatives so
far and `seen` the parts of the next one, the last ones first. -/
def body (branches seen : List Pattern) : (fuel : Nat) → Source → Option (Pattern × Source)
  | 0, _ => none
  | fuel + 1, s =>
    let s := s.skipGap
    match s.rest with
    | [] => some (alternativesOf (sequenceOf seen :: branches), s)
    | c :: rest =>
      let after := s.moveTo rest
      let part (p : Pattern) (s : Source) : Option (Pattern × Source) :=
        body branches (p :: seen) fuel s
      if c = ')' then some (alternativesOf (sequenceOf seen :: branches), s)
      else if c = '|' then body (sequenceOf seen :: branches) [] fuel after
      else if c = '(' then
        match opening after with
        | none => none
        | some (.switches w, s) =>
          part (.switches w) { s with spaced := w.state .spaced s.spaced }
        | some (.group w, inner) =>
          match body [] [] fuel { inner with spaced := w.state .spaced inner.spaced } with
          | some (p, ended) =>
            match ended.rest with
            | ')' :: rest => part (.group w p) { ended with rest, spaced := s.spaced }
            | _ => none
          | none => none
      else if c = '[' then
        match bracket (2 * rest.length + 2) after with
        | some (inner, s) => part (.set inner) s
        | none => none
      else if c = '?' ∨ c = '*' ∨ c = '+' then
        match seen with
        | p :: others =>
          let after := match rest with
            | '?' :: more => s.moveTo more
            | more => s.moveTo more
          if isRepeatable p then body branches (.repeated p :: others) fuel after else none
        | [] => none
      else if c = '\x7b' then none
      else if c = '\\' then
        match escape after with
        | some (p, s) => part p s
        | none => none
      else if c = '.' then part .dot after
      else if c = '^' ∨ c = '$' then part .boundary after
      else part (.literal ⟨c, false⟩) after

/-- The pattern of a text. -/
def ofChars? (cs : List Char) : Option Pattern :=
  match body [] [] (2 * cs.length + 2) ⟨cs, false, []⟩ with
  | some (p, s) => if s.rest.isEmpty then some p else none
  | none => none

/-- Why a text cannot be used as a pattern. -/
inductive Fault where
  /-- It is none, or it nests too deep, or a part is not allowed in its modes. -/
  | malformed
  /-- It asks for the edges of words in the sense of Unicode. -/
  | wordEdges
  deriving DecidableEq

/-- The wording of a fault. -/
def Fault.message : Fault → String
  | .malformed => "error building NFA"
  | .wordEdges =>
    "unsupported regex feature for DFAs: cannot build DFAs for regexes with Unicode word " ++
      "boundaries; switch to ASCII word boundaries, or heuristically enable Unicode word " ++
      "boundaries or use a different regex engine"

/-- Why a text cannot be used as a pattern, if it cannot. -/
def fault? (cs : List Char) : Option Fault :=
  match ofChars? cs with
  | none => some .malformed
  | some p =>
    if heightLimit < p.height then some .malformed
    else match p.check {} with
      | none => some .malformed
      | some scope => if scope.wordEdges then some .wordEdges else none

end Telemetry.Log.Pattern
