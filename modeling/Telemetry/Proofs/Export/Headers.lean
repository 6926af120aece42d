import Telemetry.Proofs.Export.Acceptance

/-!
# Lists of headers

* `Otlp.segmentsOf`: what stands between the commas of a text. `Otlp.IsMalformed`: a segment that is
  neither blank nor a pair.
* `Otlp.readSegment`, `Otlp.readSegments`: the headers of segments.
* `Otlp.Loosens`: segments with blanks around them and around their first `=`, and with blank ones
  among them. They are read as before (`readSegments_loosens`).
* **`headersOf_set_headersList`**: pairs that are written one after the other are read back, however
  they are spaced, and what fails is the first malformed segment.
-/

namespace Telemetry

/-! ## Views with a property of their own -/

namespace Properties

/-- The view with a value under a name; an earlier value gives way. -/
def set (p : Properties) (name : String) (value : Tree) : Properties :=
  ⟨p.entries.insert name value, p.loader⟩

theorem get?_set (p : Properties) (name : String) (value : Tree) (h : value ≠ .null)
    (other : String) :
    (p.set name value).get? other = if other = name then some value else p.get? other := by
  unfold get? set
  rw [Entries.get?_insert]
  split_ifs
  · split
    · rename_i hnull
      exact absurd (Option.some.inj hnull) h
    · rfl
  · rfl

theorem text?_set (p : Properties) (name s : String) :
    (p.set name (.text s)).text? name = some s := by
  rw [text?, get?_set p name (.text s) Tree.noConfusion, if_pos rfl]
  rfl

theorem structuredList?_set (p : Properties) {name other : String} (h : other ≠ name) (s : String) :
    (p.set name (.text s)).structuredList? other = p.structuredList? other := by
  rw [structuredList?, get?_set p name (.text s) Tree.noConfusion, if_neg h]
  rfl

end Properties

/-! ## Checks that are known to hold or to fail -/

namespace Checks

variable {α : Type} {P : Prop} {Q : α → Prop} {R : String → Prop} {x : Except ConfigFault α}

theorem exists_ok (hx : Checks P Q R x) (h : P) : ∃ a, x = .ok a ∧ Q a := by
  cases x with
  | error fault => exact absurd h hx.1
  | ok a => exact ⟨a, rfl, hx.2⟩

theorem of_eq_error (hx : Checks P Q R x) {fault : ConfigFault} (h : x = .error fault) :
    ¬ P ∧ R fault.message := by
  subst h
  exact hx

theorem exists_error_iff (hx : Checks P Q R x) : (∃ fault, x = .error fault) ↔ ¬ P := by
  constructor
  · rintro ⟨fault, h⟩
    exact (hx.of_eq_error h).1
  · intro h
    cases x with
    | error fault => exact ⟨fault, rfl⟩
    | ok a => exact absurd hx.1 h

end Checks

namespace Otlp

/-! ## Segments -/

/-- What stands between the commas of a text. -/
def segmentsOf (text : String) : List (List Char) := text.toList.splitOn ','

/-- Blanks and nothing else. -/
def IsBlankText (cs : List Char) : Prop := ∀ c ∈ cs, isBlank c = true

/-- A segment that is neither blank nor a pair. -/
def IsMalformed (segment : List Char) : Prop := ¬ IsBlankText segment ∧ '=' ∉ segment

/-- The header of a segment. A blank one has none. -/
def readSegment (segment : List Char) : Except ConfigFault (List (String × String)) :=
  if trimBlank segment = [] then .ok [] else (headerOfPair (trimBlank segment)).map fun h => [h]

/-- The headers of segments, in order. -/
def readSegments (segments : List (List Char)) : Except ConfigFault (List (String × String)) := do
  let headers ← segments.mapM readSegment
  pure headers.flatten

theorem not_isBlankText_of_mem {segment : List Char} (h : '=' ∈ segment) :
    ¬ IsBlankText segment := fun hblank => absurd (hblank '=' h) (by decide)

theorem readSegment_of_isBlankText {segment : List Char} (h : IsBlankText segment) :
    readSegment segment = .ok [] := if_pos (trimBlank_eq_nil.2 h)

theorem readSegment_of_not_isBlankText {segment : List Char} (h : ¬ IsBlankText segment) :
    readSegment segment = (headerOfPair (trimBlank segment)).map fun h => [h] :=
  if_neg (mt trimBlank_eq_nil.1 h)

theorem readSegment_of_mem {segment : List Char} (h : '=' ∈ segment) :
    readSegment segment = .ok [headerOfSegment segment] := by
  obtain ⟨header, hok, rfl⟩ := (headerOfPair_checks segment).exists_ok h
  rw [readSegment_of_not_isBlankText (not_isBlankText_of_mem h), hok]
  rfl

theorem readSegments_cons (segment : List Char) (rest : List (List Char)) :
    readSegments (segment :: rest) = (do
      let here ← readSegment segment
      let there ← readSegments rest
      pure (here ++ there)) := by
  unfold readSegments
  rw [List.mapM_cons]
  cases readSegment segment with
  | error fault => rfl
  | ok here => cases rest.mapM readSegment <;> rfl

/-- The pairs of a text are read segment by segment. -/
theorem mapM_pairsOf (text : String) :
    (pairsOf text).mapM headerOfPair = readSegments (segmentsOf text) := by
  unfold pairsOf segmentsOf
  rw [splitOnChar_eq_splitOn]
  induction text.toList.splitOn ',' with
  | nil => rfl
  | cons segment rest ih =>
    rw [readSegments_cons, ← ih, List.map_cons, List.filter_cons, readSegment]
    by_cases h : trimBlank segment = []
    · rw [if_pos h, if_neg (by rw [h]; decide)]
      cases ((rest.map trimBlank).filter fun pair => pair != []).mapM headerOfPair <;> rfl
    · rw [if_neg h, if_pos (bne_iff_ne.2 h), List.mapM_cons]
      cases headerOfPair (trimBlank segment) <;> rfl

/-- **Segments are read up to the first malformed one.** -/
theorem readSegments_checks (segments : List (List Char)) :
    Checks (∀ s ∈ segments, ¬ IsMalformed s) (fun _ => True)
      (fun message => ∃ before s after, segments = before ++ s :: after ∧
        (∀ b ∈ before, ¬ IsMalformed b) ∧ IsMalformed s ∧
          message = "Invalid headers_list entry \x22" ++ String.ofList (trimBlank s) ++
            "\x22, expected key=value") (readSegments segments) := by
  have hsegment : ∀ s, Checks (¬ IsMalformed s)
      (· = if trimBlank s = [] then [] else [headerOfSegment s])
      (· = "Invalid headers_list entry \x22" ++ String.ofList (trimBlank s) ++
        "\x22, expected key=value") (readSegment s) := by
    intro s
    by_cases hblank : IsBlankText s
    · rw [readSegment_of_isBlankText hblank, if_pos (trimBlank_eq_nil.2 hblank)]
      exact ⟨fun h => h.1 hblank, rfl⟩
    · have h := headerOfPair_checks s
      rw [readSegment_of_not_isBlankText hblank, if_neg (mt trimBlank_eq_nil.1 hblank)]
      cases hpair : headerOfPair (trimBlank s) with
      | error fault =>
        obtain ⟨hequals, hmessage⟩ := h.of_eq_error hpair
        exact ⟨not_not.2 ⟨hblank, hequals⟩, hmessage⟩
      | ok header =>
        rw [hpair] at h
        exact ⟨fun hmalformed => hmalformed.2 h.1, congrArg (fun h => [h]) h.2⟩
  refine (Checks.mapM hsegment segments).bind_pure.imp .rfl (fun _ _ _ => trivial) ?_
  rintro message - ⟨before, s, after, hs, hbefore, hmalformed, hmessage⟩
  exact ⟨before, s, after, hs, hbefore, not_not.1 hmalformed, hmessage⟩

/-! ## Spacing -/

/-- The same segment with blanks around it, and around its first `=` if it has one. -/
inductive Spaced : List Char → List Char → Prop
  | pair {name value left before after right : List Char} :
      '=' ∉ name → IsBlankText left → IsBlankText before → IsBlankText after → IsBlankText right →
        Spaced (name ++ '=' :: value) (left ++ name ++ before ++ '=' :: (after ++ value ++ right))
  | other {segment left right : List Char} :
      '=' ∉ segment → IsBlankText left → IsBlankText right →
        Spaced segment (left ++ segment ++ right)

/-- The same segments, spaced, with blank ones among them. -/
inductive Loosens : List (List Char) → List (List Char) → Prop
  | nil : Loosens [] []
  | spaced {segment segment' : List Char} {rest rest' : List (List Char)} :
      Spaced segment segment' → Loosens rest rest' → Loosens (segment :: rest) (segment' :: rest')
  | blank {segment : List Char} {rest rest' : List (List Char)} :
      IsBlankText segment → Loosens rest rest' → Loosens rest (segment :: rest')

theorem trimBlank_spaced {cs left right : List Char} (hleft : IsBlankText left)
    (hright : IsBlankText right) : trimBlank (left ++ cs ++ right) = trimBlank cs := by
  rw [trimBlank_append_right hright, trimBlank_append_left hleft]

theorem headerOfSegment_append {name : List Char} (h : '=' ∉ name) (value : List Char) :
    headerOfSegment (name ++ '=' :: value) =
      (String.ofList (trimBlank name), String.ofList (trimBlank value)) := by
  rw [headerOfSegment, takeWhile_ne_append h, dropWhile_ne_append h, List.tail_cons]

theorem IsBlankText.not_mem {cs : List Char} (h : IsBlankText cs) : '=' ∉ cs :=
  fun hmem => not_isBlankText_of_mem hmem h

theorem Spaced.readSegment_eq {segment segment' : List Char} (h : Spaced segment segment') :
    readSegment segment' = readSegment segment := by
  cases h with
  | @pair name value left before after right hname hleft hbefore hafter hright =>
    have hname' : '=' ∉ left ++ name ++ before := by
      simp only [List.mem_append, hleft.not_mem, hname, hbefore.not_mem, or_self, not_false_iff]
    rw [readSegment_of_mem (List.mem_append_right _ List.mem_cons_self),
      readSegment_of_mem (List.mem_append_right _ List.mem_cons_self),
      headerOfSegment_append hname', headerOfSegment_append hname, trimBlank_spaced hleft hbefore,
      trimBlank_spaced hafter hright]
  | other _ hleft hright => rw [readSegment, trimBlank_spaced hleft hright, readSegment]

/-- **Spacing does not matter.** -/
theorem Loosens.readSegments_eq {segments segments' : List (List Char)}
    (h : Loosens segments segments') : readSegments segments' = readSegments segments := by
  induction h with
  | nil => rfl
  | spaced hs _ ih => rw [readSegments_cons, readSegments_cons, hs.readSegment_eq, ih]
  | @blank segment rest rest' hs _ ih =>
    rw [readSegments_cons, readSegment_of_isBlankText hs, ih]
    cases readSegments rest <;> rfl

/-! ## Writing headers -/

/-- A text that neither starts nor ends with a blank. -/
def IsTrimmed (s : String) : Prop :=
  (∀ c ∈ s.toList.head?, isBlank c = false) ∧ ∀ c ∈ s.toList.getLast?, isBlank c = false

instance (s : String) : Decidable (IsTrimmed s) :=
  decidable_of_iff
    (s.toList.head?.all (!isBlank ·) = true ∧ s.toList.getLast?.all (!isBlank ·) = true)
    (by simp only [IsTrimmed, Option.all_eq_true, Bool.not_eq_true', Option.mem_def])

/-- A header that can be written between commas. -/
structure IsWritable (header : String × String) : Prop where
  comma_not_mem_name : ',' ∉ header.1.toList
  equals_not_mem_name : '=' ∉ header.1.toList
  comma_not_mem_value : ',' ∉ header.2.toList
  isTrimmed_name : IsTrimmed header.1
  isTrimmed_value : IsTrimmed header.2

/-- A header as it is written. -/
def pairText (header : String × String) : String := header.1 ++ "=" ++ header.2

/-- Headers as they are written, between commas. -/
def pairsText (headers : List (String × String)) : String := ",".intercalate (headers.map pairText)

theorem dropWhile_isBlank_eq_self {cs : List Char} (h : ∀ c ∈ cs.head?, isBlank c = false) :
    cs.dropWhile isBlank = cs := by
  cases cs with
  | nil => rfl
  | cons c cs => rw [List.dropWhile_cons, if_neg (Bool.eq_false_iff.1 (h c rfl))]

theorem trimBlank_of_isTrimmed {s : String} (h : IsTrimmed s) : trimBlank s.toList = s.toList := by
  have hlast : ∀ c ∈ s.toList.reverse.head?, isBlank c = false := by
    rw [List.head?_reverse]
    exact h.2
  rw [trimBlank, dropWhile_isBlank_eq_self h.1, dropWhile_isBlank_eq_self hlast,
    List.reverse_reverse]

theorem toList_pairText (header : String × String) :
    (pairText header).toList = header.1.toList ++ '=' :: header.2.toList := by
  rw [pairText, String.toList_append, String.toList_append, List.append_assoc]
  rfl

theorem IsWritable.comma_not_mem {header : String × String} (h : IsWritable header) :
    ',' ∉ (pairText header).toList := by
  rw [toList_pairText, List.mem_append, List.mem_cons]
  rintro (hname | hequals | hvalue)
  · exact h.comma_not_mem_name hname
  · exact absurd hequals (by decide)
  · exact h.comma_not_mem_value hvalue

theorem IsWritable.readSegment_eq {header : String × String} (h : IsWritable header) :
    readSegment (pairText header).toList = .ok [header] := by
  have hequals : '=' ∈ header.1.toList ++ '=' :: header.2.toList :=
    List.mem_append_right _ List.mem_cons_self
  rw [toList_pairText, readSegment_of_mem hequals, headerOfSegment_append h.equals_not_mem_name,
    trimBlank_of_isTrimmed h.isTrimmed_name, trimBlank_of_isTrimmed h.isTrimmed_value,
    String.ofList_toList, String.ofList_toList]

theorem segmentsOf_pairsText {headers : List (String × String)} (hne : headers ≠ [])
    (h : ∀ header ∈ headers, IsWritable header) :
    segmentsOf (pairsText headers) = headers.map fun header => (pairText header).toList := by
  have hcomma : ∀ cs ∈ (headers.map pairText).map String.toList, ',' ∉ cs := by
    intro cs hcs
    obtain ⟨text, htext, rfl⟩ := List.mem_map.1 hcs
    obtain ⟨header, hheader, rfl⟩ := List.mem_map.1 htext
    exact (h header hheader).comma_not_mem
  have hne' : (headers.map pairText).map String.toList ≠ [] :=
    mt List.map_eq_nil_iff.1 (mt List.map_eq_nil_iff.1 hne)
  rw [segmentsOf, pairsText, String.toList_intercalate]
  change ([','].intercalate _).splitOn ',' = _
  rw [List.splitOn_intercalate ',' hcomma hne', List.map_map]
  rfl

theorem readSegments_map_pairText {headers : List (String × String)}
    (h : ∀ header ∈ headers, IsWritable header) :
    readSegments (headers.map fun header => (pairText header).toList) = .ok headers := by
  induction headers with
  | nil => rfl
  | cons header rest ih =>
    obtain ⟨hheader, hrest⟩ := List.forall_mem_cons.1 h
    rw [List.map_cons, readSegments_cons, hheader.readSegment_eq, ih hrest]
    rfl

/-- **Headers that were written are read back.** -/
theorem readSegments_pairsText {headers : List (String × String)}
    (h : ∀ header ∈ headers, IsWritable header) :
    readSegments (segmentsOf (pairsText headers)) = .ok headers := by
  by_cases hne : headers = []
  · -- nothing is written as one blank segment
    subst hne
    rfl
  · rw [segmentsOf_pairsText hne h, readSegments_map_pairText h]

/-! ## Headers of a view -/

/-- All entries of `headers` are complete, and these are their names and values. -/
def HasHeaders (view : Properties) (headers : List (String × String)) : Prop :=
  List.Forall₂ (fun entry header => entry.text? "name" = some header.1 ∧
    entry.text? "value" = some header.2) ((view.structuredList? "headers").getD []) headers

theorem headerOf_eq_ok {entry : Properties} {header : String × String}
    (h : entry.text? "name" = some header.1 ∧ entry.text? "value" = some header.2) :
    headerOf entry = .ok header := by
  rw [headerOf, h.1, h.2]

/-- The headers of a view with a list of them are those of its entries, then those of the list. -/
theorem headersOf_set {view : Properties} {headers : List (String × String)}
    (h : HasHeaders view headers) (text : String) :
    headersOf (view.set "headers_list" (.text text)) =
      (do
        let pairs ← readSegments (segmentsOf text)
        pure (headers ++ pairs)) := by
  have hentries : ((view.structuredList? "headers").getD []).mapM headerOf = .ok headers :=
    mapM_eq_ok.2 (h.imp fun _ _ => headerOf_eq_ok)
  rw [headersOf, Properties.text?_set,
    Properties.structuredList?_set view (by decide : "headers" ≠ "headers_list"), hentries,
    Option.map_some, Option.getD_some, mapM_pairsOf]
  rfl

/-- **A list of headers is faithful.** What is written into it is read after the entries, whatever
the spacing; only malformed segments are refused. -/
theorem headersOf_set_headersList {view : Properties} {headers : List (String × String)}
    (h : HasHeaders view headers) :
    (∀ pairs : List (String × String), (∀ pair ∈ pairs, IsWritable pair) →
      headersOf (view.set "headers_list" (.text (pairsText pairs))) = .ok (headers ++ pairs)) ∧
    (∀ text text' : String, Loosens (segmentsOf text) (segmentsOf text') →
      headersOf (view.set "headers_list" (.text text')) =
        headersOf (view.set "headers_list" (.text text))) ∧
    ∀ text : String,
      ((∃ fault, headersOf (view.set "headers_list" (.text text)) = .error fault) ↔
        ∃ s ∈ segmentsOf text, IsMalformed s) ∧
      ∀ fault, headersOf (view.set "headers_list" (.text text)) = .error fault →
        ∃ before s after, segmentsOf text = before ++ s :: after ∧
          (∀ b ∈ before, ¬ IsMalformed b) ∧ IsMalformed s ∧
            fault.message = "Invalid headers_list entry \x22" ++ String.ofList (trimBlank s) ++
              "\x22, expected key=value" := by
  refine ⟨?_, ?_, ?_⟩
  · intro pairs hpairs
    rw [headersOf_set h, readSegments_pairsText hpairs]
    rfl
  · intro text text' hloosens
    rw [headersOf_set h, headersOf_set h, hloosens.readSegments_eq]
  · intro text
    have hchecks := (readSegments_checks (segmentsOf text)).bind_pure
      (g := fun pairs => headers ++ pairs)
    rw [← headersOf_set h] at hchecks
    constructor
    · rw [hchecks.exists_error_iff]
      simp only [not_forall, not_not, exists_prop]
    · intro fault hfault
      exact (hchecks.of_eq_error hfault).2

/-- A view with one entry of `headers`. -/
def oneHeader : Properties where
  entries := [("headers", .list [.node [("name", .text "a"), ("value", .text "1")]])]
  loader := .registry 0

/-- A list with blanks and a comma at its end is read like the plain one, and a segment that is no
pair is refused. -/
theorem headersOf_oneHeader :
    HasHeaders oneHeader [("a", "1")] ∧
      headersOf (oneHeader.set "headers_list" (.text "b=2, c = 3=x ,")) =
        .ok [("a", "1"), ("b", "2"), ("c", "3=x")] ∧
      ∃ fault, headersOf (oneHeader.set "headers_list" (.text "b=2, c ,")) = .error fault := by
  have h : HasHeaders oneHeader [("a", "1")] := .cons ⟨rfl, rfl⟩ .nil
  obtain ⟨hread, hloosens, hfails⟩ := headersOf_set_headersList h
  have htrimmed : ∀ s ∈ ["b", "2", "c", "3=x"], IsTrimmed s := by decide
  have hwritable : ∀ pair ∈ [("b", "2"), ("c", "3=x")], IsWritable pair := by
    intro pair hpair
    simp only [List.mem_cons, List.not_mem_nil, or_false] at hpair
    obtain rfl | rfl := hpair <;>
      exact ⟨by decide, by decide, by decide, htrimmed _ (by decide), htrimmed _ (by decide)⟩
  have hempty : IsBlankText [] := nofun
  have hspace : IsBlankText [' '] := List.forall_mem_singleton.2 (by decide)
  have hspaced : Loosens (segmentsOf (pairsText [("b", "2"), ("c", "3=x")]))
      (segmentsOf "b=2, c = 3=x ,") := by
    have hplain : segmentsOf (pairsText [("b", "2"), ("c", "3=x")]) =
        ["b=2".toList, "c=3=x".toList] := by decide
    have hloose : segmentsOf "b=2, c = 3=x ," =
        ["b=2".toList, " c = 3=x ".toList, []] := by decide
    have hfirst : Spaced "b=2".toList "b=2".toList :=
      @Spaced.pair ['b'] ['2'] [] [] [] [] (by decide) hempty hempty hempty hempty
    have hsecond : Spaced "c=3=x".toList " c = 3=x ".toList :=
      @Spaced.pair ['c'] "3=x".toList [' '] [' '] [' '] [' '] (by decide)
        hspace hspace hspace hspace
    rw [hplain, hloose]
    exact .spaced hfirst (.spaced hsecond (.blank hempty .nil))
  have hmalformed : IsMalformed " c ".toList :=
    ⟨fun hblank => absurd (hblank 'c' (by decide)) (by decide), by decide⟩
  exact ⟨h, (hloosens _ _ hspaced).trans (hread _ hwritable),
    (hfails _).1.2 ⟨" c ".toList, by decide, hmalformed⟩⟩

end Otlp

end Telemetry
