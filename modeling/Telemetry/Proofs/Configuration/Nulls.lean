import Telemetry.Proofs.Configuration.Shape
import Telemetry.Proofs.Tree.Entries
import Telemetry.Properties

/-!
# Null is as good as absent

* `Tree.strip`: a tree without the entries that are null, at any depth. Items of lists stay.
* `Tree.UniqueNames`: no node has two entries of one name.
* `Entries.get?_strip`: what stands under a name once null entries are gone.
* `Properties.Agrees`: all that can be asked of a view has the same answer in another one.
* **`strip_agrees`**: null entries make no difference at the end of any path, but to those who list
  the entries.
-/

namespace Telemetry

/-! ## Trees without null entries -/

namespace Tree

mutual

/-- A tree without the entries that are null. -/
def strip : Tree → Tree
  | .list items => .list (stripItems items)
  | .node entries => .node (stripEntries entries)
  | t => t

/-- Items without the entries that are null; items that are null stay. -/
def stripItems : List Tree → List Tree
  | [] => []
  | t :: ts => strip t :: stripItems ts

/-- Entries without those that are null. -/
def stripEntries : List (String × Tree) → List (String × Tree)
  | [] => []
  | (name, t) :: es =>
    if t = .null then stripEntries es else (name, strip t) :: stripEntries es

end

mutual

/-- No node has two entries of one name, at any depth. -/
def UniqueNames : Tree → Prop
  | .list items => UniqueNamesInItems items
  | .node entries => (Entries.keys entries).Nodup ∧ UniqueNamesInEntries entries
  | _ => True

/-- No node in any of the items has two entries of one name. -/
def UniqueNamesInItems : List Tree → Prop
  | [] => True
  | t :: ts => UniqueNames t ∧ UniqueNamesInItems ts

/-- No node in any of the values has two entries of one name. -/
def UniqueNamesInEntries : List (String × Tree) → Prop
  | [] => True
  | (_, t) :: es => UniqueNames t ∧ UniqueNamesInEntries es

end

theorem strip_eq_null {t : Tree} : t.strip = .null ↔ t = .null := by
  cases t <;> simp [strip]

theorem UniqueNamesInItems.of_mem {ts : List Tree} (h : UniqueNamesInItems ts) {t : Tree}
    (ht : t ∈ ts) : t.UniqueNames := by
  induction ts with
  | nil => cases ht
  | cons u ts ih =>
    obtain ⟨hu, hts⟩ := h
    obtain rfl | ht := List.mem_cons.1 ht
    · exact hu
    · exact ih hts ht

theorem UniqueNamesInEntries.of_get? {es : Entries} (h : UniqueNamesInEntries es) {name : String}
    {t : Tree} (ht : es.get? name = some t) : t.UniqueNames := by
  induction es with
  | nil => cases ht
  | cons e es ih =>
    obtain ⟨key, u⟩ := e
    obtain ⟨hu, hes⟩ := h
    rw [Entries.get?_cons] at ht
    split_ifs at ht
    · cases ht
      exact hu
    · exact ih hes ht

end Tree

/-! ## Reading stripped trees -/

namespace Tree

/-- The tree itself, unless it is null. -/
def nonNull? : Tree → Option Tree
  | .null => none
  | t => some t

theorem nonNull?_of_ne {t : Tree} (h : t ≠ .null) : t.nonNull? = some t := by
  cases t with
  | null => exact absurd rfl h
  | _ => rfl

variable {α β : Type} {read : Tree → Option α} {f : α → α}

/-- Only scalars are read. -/
structure ReadsScalars (read : Tree → Option α) : Prop where
  list : ∀ items, read (.list items) = none
  node : ∀ entries, read (.node entries) = none

theorem ReadsScalars.strip (h : ReadsScalars read) (t : Tree) : read t.strip = (read t).map id := by
  rw [Option.map_id, id]
  cases t with
  | list items => rw [Tree.strip, h.list, h.list]
  | node entries => rw [Tree.strip, h.node, h.node]
  | _ => rfl

theorem readsScalars_text? : ReadsScalars text? := ⟨fun _ => rfl, fun _ => rfl⟩

theorem readsScalars_bool? : ReadsScalars bool? := ⟨fun _ => rfl, fun _ => rfl⟩

theorem readsScalars_integer? : ReadsScalars integer? := ⟨fun _ => rfl, fun _ => rfl⟩

theorem readsScalars_double? : ReadsScalars double? := ⟨fun _ => rfl, fun _ => rfl⟩

theorem entries?_strip (t : Tree) : t.strip.entries? = t.entries?.map stripEntries := by
  cases t <;> rfl

theorem itemsAs?_strip (h : ∀ t, read t.strip = (read t).map f) (t : Tree) :
    itemsAs? read t.strip = (itemsAs? read t).map (List.map f) := by
  cases t with
  | list items =>
    rw [strip, itemsAs?, itemsAs?]
    induction items with
    | nil => rfl
    | cons t ts ih =>
      rw [stripItems, List.mapM_cons, List.mapM_cons, h, ih]
      cases read t with
      | none => rfl
      | some a => cases ts.mapM read <;> rfl
  | _ => rfl

theorem itemsAs?_entries?_eq_some {t : Tree} {nodes : List Entries}
    (h : itemsAs? entries? t = some nodes) : t = .list (nodes.map .node) := by
  cases t with
  | list items =>
    rw [itemsAs?] at h
    induction items generalizing nodes with
    | nil =>
      cases h
      rfl
    | cons t ts ih =>
      rw [List.mapM_cons, Option.bind_eq_bind, Option.bind_eq_some_iff] at h
      obtain ⟨es, he, h⟩ := h
      obtain ⟨rest, hrest, h⟩ := Option.bind_eq_some_iff.1 h
      cases h
      cases t with
      | node es' =>
        cases he
        rw [List.map_cons, ← list.inj (ih hrest)]
      | _ => cases he
  | _ => cases h

theorem get?_stripEntries {es : Entries} (h : es.keys.Nodup) (name : String) :
    Entries.get? (stripEntries es) name = (es.get? name >>= nonNull?).map strip := by
  induction es with
  | nil => rfl
  | cons e es ih =>
    obtain ⟨key, t⟩ := e
    obtain ⟨hkey, hes⟩ := List.nodup_cons.1 h
    rw [stripEntries, Entries.get?_cons]
    by_cases hname : name = key
    · subst hname
      rw [if_pos rfl, Option.bind_eq_bind, Option.bind_some]
      by_cases ht : t = .null
      · -- no later entry of the name comes to light when this one goes
        have hnone : Entries.get? es name = none :=
          Option.not_isSome_iff_eq_none.1 (mt Entries.mem_keys_iff.2 hkey)
        rw [if_pos ht, ih hes, hnone, ht]
        rfl
      · rw [if_neg ht, Entries.get?_cons, if_pos rfl, nonNull?_of_ne ht, Option.map_some]
    · rw [if_neg hname, ← ih hes]
      by_cases ht : t = .null
      · rw [if_pos ht]
      · rw [if_neg ht, Entries.get?_cons, if_neg hname]

theorem keys_stripEntries {es : Entries} (h : es.keys.Nodup) :
    Entries.keys (stripEntries es) = es.keys.filter fun name =>
      (es.get? name >>= nonNull?).isSome := by
  induction es with
  | nil => rfl
  | cons e es ih =>
    obtain ⟨key, t⟩ := e
    obtain ⟨hkey, hes⟩ := List.nodup_cons.1 h
    have hrest : (Entries.keys es).filter (fun name =>
        (Entries.get? ((key, t) :: es) name >>= nonNull?).isSome) =
          (Entries.keys es).filter fun name => (Entries.get? es name >>= nonNull?).isSome := by
      refine List.filter_congr fun name hname => ?_
      have hne : name ≠ key := fun heq => hkey (heq ▸ hname)
      rw [Entries.get?_cons, if_neg hne]
    have hcons : Entries.keys ((key, t) :: es) = key :: Entries.keys es := rfl
    rw [hcons, List.filter_cons, hrest, ← ih hes, stripEntries, Entries.get?_cons, if_pos rfl,
      Option.bind_eq_bind, Option.bind_some]
    by_cases ht : t = .null
    · rw [if_pos ht, ht]
      rfl
    · rw [if_neg ht, nonNull?_of_ne ht]
      rfl

end Tree

/-! ## Views -/

namespace Properties

variable {p q : Properties} {name : String}

/-- The view of the same entries without those that are null. -/
def strip (p : Properties) : Properties := ⟨Tree.stripEntries p.entries, p.loader⟩

/-- No node below a view has two entries of one name, as is so of maps. -/
def UniqueNames (p : Properties) : Prop := (Tree.node p.entries).UniqueNames

theorem get?_eq_bind (p : Properties) (name : String) :
    p.get? name = p.entries.get? name >>= Tree.nonNull? := by
  unfold get?
  cases p.entries.get? name with
  | none => rfl
  | some t => cases t <;> rfl

theorem get?_strip (h : p.UniqueNames) (name : String) :
    p.strip.get? name = (p.get? name).map Tree.strip := by
  rw [get?_eq_bind, get?_eq_bind, strip, Tree.get?_stripEntries h.1]
  cases p.entries.get? name with
  | none => rfl
  | some t =>
    by_cases ht : t = .null
    · rw [ht]
      rfl
    · have hstrip : t.strip ≠ .null := mt Tree.strip_eq_null.1 ht
      rw [Option.bind_eq_bind, Option.bind_some, Tree.nonNull?_of_ne ht, Option.map_some,
        Option.bind_some, Tree.nonNull?_of_ne hstrip]

theorem bind_get?_strip (h : p.UniqueNames) {α : Type} {read : Tree → Option α} {f : α → α}
    (hread : ∀ t, read t.strip = (read t).map f) (name : String) :
    p.strip.get? name >>= read = (p.get? name >>= read).map f := by
  rw [get?_strip h]
  cases p.get? name with
  | none => rfl
  | some t => exact hread t

theorem scalar_strip (h : p.UniqueNames) {α : Type} {read : Tree → Option α}
    (hread : Tree.ReadsScalars read) (name : String) :
    p.strip.get? name >>= read = p.get? name >>= read := by
  rw [bind_get?_strip h hread.strip, Option.map_id, id]

theorem scalars_strip (h : p.UniqueNames) {α : Type} {read : Tree → Option α}
    (hread : Tree.ReadsScalars read) (name : String) :
    p.strip.get? name >>= Tree.itemsAs? read = p.get? name >>= Tree.itemsAs? read := by
  rw [bind_get?_strip h (Tree.itemsAs?_strip hread.strip), List.map_id_fun, Option.map_id, id]

theorem structured?_strip (h : p.UniqueNames) (name : String) :
    p.strip.structured? name = (p.structured? name).map strip := by
  rw [structured?, bind_get?_strip h Tree.entries?_strip, structured?, Option.map_map,
    Option.map_map]
  rfl

theorem structuredList?_strip (h : p.UniqueNames) (name : String) :
    p.strip.structuredList? name = (p.structuredList? name).map (List.map strip) := by
  rw [structuredList?, bind_get?_strip h (Tree.itemsAs?_strip Tree.entries?_strip),
    structuredList?, Option.map_map, Option.map_map]
  congr 1
  funext nodes
  simp only [Function.comp_def, List.map_map]
  rfl

/-! ## Paths -/

/-- A step down from a view: to a node, or to an item of a list of nodes. -/
inductive Step where
  | structured (name : String)
  | item (name : String) (index : Nat)

/-- The view that a step leads to. -/
def down? (p : Properties) : Step → Option Properties
  | .structured name => p.structured? name
  | .item name index => p.structuredList? name >>= fun qs => qs[index]?

/-- The view at the end of a path. -/
def at? (p : Properties) : List Step → Option Properties
  | [] => some p
  | step :: rest => p.down? step >>= fun q => q.at? rest

theorem UniqueNames.of_get? (h : p.UniqueNames) {t : Tree} (ht : p.get? name = some t) :
    t.UniqueNames := by
  rw [get?_eq_bind, Option.bind_eq_bind, Option.bind_eq_some_iff] at ht
  obtain ⟨u, hu, ht⟩ := ht
  have hu := h.2.of_get? hu
  cases u with
  | null => cases ht
  | _ =>
    cases ht
    exact hu

theorem UniqueNames.of_structured? (h : p.UniqueNames) (hq : p.structured? name = some q) :
    q.UniqueNames := by
  obtain ⟨es, hes, rfl⟩ := Option.map_eq_some_iff.1 hq
  obtain ⟨t, ht, hnode⟩ := Option.bind_eq_some_iff.1 hes
  have ht := h.of_get? ht
  cases t with
  | node es' =>
    cases hnode
    exact ht
  | _ => cases hnode

theorem UniqueNames.of_structuredList? {qs : List Properties} (h : p.UniqueNames)
    (hqs : p.structuredList? name = some qs) (hq : q ∈ qs) : q.UniqueNames := by
  obtain ⟨nodes, hnodes, rfl⟩ := Option.map_eq_some_iff.1 hqs
  obtain ⟨es, hes, rfl⟩ := List.mem_map.1 hq
  obtain ⟨t, ht, hitems⟩ := Option.bind_eq_some_iff.1 hnodes
  have ht := h.of_get? ht
  rw [Tree.itemsAs?_entries?_eq_some hitems] at ht
  exact Tree.UniqueNamesInItems.of_mem ht (List.mem_map_of_mem hes)

theorem UniqueNames.of_down? (h : p.UniqueNames) {step : Step} (hq : p.down? step = some q) :
    q.UniqueNames := by
  cases step with
  | structured name => exact h.of_structured? hq
  | item name index =>
    obtain ⟨qs, hqs, hq⟩ := Option.bind_eq_some_iff.1 hq
    exact h.of_structuredList? hqs (List.mem_of_getElem? hq)

theorem down?_strip (h : p.UniqueNames) (step : Step) :
    p.strip.down? step = (p.down? step).map strip := by
  cases step with
  | structured name => exact structured?_strip h name
  | item name index =>
    rw [down?, structuredList?_strip h, down?]
    cases p.structuredList? name with
    | none => rfl
    | some qs => exact List.getElem?_map

/-- **The same paths lead on**, to views of the same entries without those that are null. -/
theorem at?_strip (h : p.UniqueNames) (path : List Step) :
    p.strip.at? path = (p.at? path).map strip ∧ ∀ q, p.at? path = some q → q.UniqueNames := by
  induction path generalizing p with
  | nil =>
    refine ⟨rfl, fun q hq => ?_⟩
    cases hq
    exact h
  | cons step rest ih =>
    rw [at?, at?, down?_strip h]
    cases hdown : p.down? step with
    | none => exact ⟨rfl, nofun⟩
    | some r => exact ih (h.of_down? hdown)

/-! ## Answers -/

/-- All that can be asked of a view has the same answer in another one, but for the names of null
entries. -/
structure Agrees (q q' : Properties) : Prop where
  text : ∀ name, q'.text? name = q.text? name
  bool : ∀ name, q'.bool? name = q.bool? name
  integer : ∀ name, q'.integer? name = q.integer? name
  double : ∀ name, q'.double? name = q.double? name
  millis : ∀ name, q'.millis? name = q.millis? name
  textOr : ∀ name default, q'.textOr name default = q.textOr name default
  integerOr : ∀ name default, q'.integerOr name default = q.integerOr name default
  boolOr : ∀ name default, q'.boolOr name default = q.boolOr name default
  texts : ∀ name, q'.texts? name = q.texts? name
  bools : ∀ name, q'.bools? name = q.bools? name
  integers : ∀ name, q'.integers? name = q.integers? name
  doubles : ∀ name, q'.doubles? name = q.doubles? name
  scalars : ∀ {α : Type} {read : Tree → Option α}, Tree.ReadsScalars read → ∀ name,
    q'.get? name >>= Tree.itemsAs? read = q.get? name >>= Tree.itemsAs? read
  structured : ∀ name, q'.structured? name = (q.structured? name).map strip
  structuredList : ∀ name, q'.structuredList? name = (q.structuredList? name).map (List.map strip)
  loader : q'.loader = q.loader
  keys : q'.keys = q.keys.filter fun name => (q.get? name).isSome

/-- **A view and the same one without null entries agree.** -/
theorem UniqueNames.agrees (h : p.UniqueNames) : p.Agrees p.strip := by
  have htext := scalar_strip h Tree.readsScalars_text?
  have hbool := scalar_strip h Tree.readsScalars_bool?
  have hinteger : ∀ name, p.strip.integer? name = p.integer? name :=
    scalar_strip h Tree.readsScalars_integer?
  refine ⟨htext, hbool, hinteger, scalar_strip h Tree.readsScalars_double?, ?_, ?_, ?_, ?_,
    scalars_strip h Tree.readsScalars_text?, scalars_strip h Tree.readsScalars_bool?,
    scalars_strip h Tree.readsScalars_integer?, scalars_strip h Tree.readsScalars_double?,
    scalars_strip h, structured?_strip h, structuredList?_strip h, rfl, ?_⟩
  · intro name
    rw [millis?, hinteger, millis?]
  · intro name default
    exact congrArg (·.getD default) (htext name)
  · intro name default
    exact congrArg (·.getD default) (hinteger name)
  · intro name default
    exact congrArg (·.getD default) (hbool name)
  · simp only [get?_eq_bind]
    exact Tree.keys_stripEntries h.1

/-- **Null is as good as absent.** A view without its null entries, at any depth, answers the same
along every path. -/
theorem strip_agrees (h : p.UniqueNames) (path : List Step) :
    p.strip.at? path = (p.at? path).map strip ∧
    (∀ q, p.at? path = some q → q.Agrees q.strip) ∧
    ∃ r : Properties, r.UniqueNames ∧ r.strip.keys ≠ r.keys ∧ r.strip.entries ≠ r.entries ∧
      r.strip.describe ≠ r.describe := by
  obtain ⟨hpath, hunique⟩ := at?_strip h path
  refine ⟨hpath, fun q hq => (hunique q hq).agrees, ⟨[("a", .null)], .registry 0⟩, ?_⟩
  exact ⟨⟨by decide, trivial, trivial⟩, by decide, by decide, by decide +kernel⟩

/-- A view with null entries at two depths, and null in lists. -/
def nullish : Properties where
  entries := [("a", .null), ("list", .list [.node [("x", .null), ("y", .list [.null])]]),
    ("nodes", .list [.node [], .null])]
  loader := .registry 0

/-- A null entry of an item does not count, but a list with null in it is no list of nodes. -/
theorem strip_nullish :
    nullish.UniqueNames ∧
      (nullish.strip.at? [.item "list" 0]).map keys = some ["y"] ∧
      (nullish.at? [.item "list" 0]).map keys = some ["x", "y"] ∧
      nullish.strip.structuredList? "nodes" = none := by
  have h : nullish.UniqueNames :=
    ⟨by decide, trivial, ⟨⟨by decide, trivial, ⟨trivial, trivial⟩, trivial⟩, trivial⟩,
      ⟨⟨by decide, trivial⟩, trivial, trivial⟩, trivial⟩
  obtain ⟨hpath, -, -⟩ := strip_agrees h [.item "list" 0]
  obtain ⟨-, hroot, -⟩ := strip_agrees h []
  refine ⟨h, ?_, by decide, (hroot nullish rfl).structuredList "nodes"⟩
  rw [hpath]
  decide

end Properties

end Telemetry
