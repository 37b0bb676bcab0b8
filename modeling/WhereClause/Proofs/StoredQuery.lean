import Mathlib
import WhereClause.Proofs.Origin

/-!
# Where loaded queries come from

The text of a query is rendered as it stands, so whoever writes a document decides with it what is
run.  A stored condition has a key `subquery` of its own for it.  That key is not the only way,
though: documents are checked by the constructor that programs use, and for IN this one takes a text
that reads as a query for a query, under the key `value` as well.  There is no third way: with any
other operator, and in a list, a text stays a value whatever it says.

Main definitions:

* `Node.LoadedFrom`: every condition of the node is related to the object it was loaded from;
* `Condition.QueryFrom`: the queries that a condition holds are those that its object gives.

Main results:

* `Document.allOfJson?_eq_some`, `Document.group?_eq_some`, `Document.condition?_eq_some`: what is
  read from an array and from an object;
* `Document.loadedFrom_of_load`: what holds of every condition and its object holds at every depth of
  what is loaded;
* `Operand.fit_eq_subquery`: what a constructor takes for a query;
* `Document.queryFrom_of_load`: **every loaded query, at any depth, is the text under the key
  `subquery` of its object or the text under the key `value` of an IN that reads as a query**.
-/

set_option autoImplicit false

namespace WhereClause

/-! ### Nodes and the objects they are loaded from -/

/-- The node was loaded from the JSON value: a condition from an object that `P` relates it to, and
a group from an object with an array under its only key `group`, each member from an item of it. -/
inductive Node.LoadedFrom (P : List (Text × Json) → Condition → Prop) : Json → Node → Prop
  | condition {members : List (Text × Json)} (j : Joiner) {c : Condition} (h : P members c) :
      LoadedFrom P (.object members) (.condition j c)
  | group {members : List (Text × Json)} {items : List Json} (j : Joiner) {children : List Node}
      (hgroup : Json.valuesOf "group".toList members = [.array items])
      (hchildren : List.Forall₂ (LoadedFrom P) items children) :
      LoadedFrom P (.object members) (.group j children)

namespace Document

theorem groupsIn_eq_map (members : List (Text × Json)) :
    groupsIn members = (Json.valuesOf "group".toList members).map listOfJson? := by
  induction members with
  | nil => rw [groupsIn]; rfl
  | cons member members ih =>
      obtain ⟨key, value⟩ := member
      rw [groupsIn, ih, Json.valuesOf, Json.valuesOf, List.filterMap_cons]
      dsimp only
      by_cases hkey : key = "group".toList
      · rw [if_pos hkey, if_pos hkey, List.map_cons]
      · rw [if_neg hkey, if_neg hkey]

theorem allOfJson?_eq_some {items : List Json} {documents : List Document} :
    allOfJson? items = some documents ↔
      List.Forall₂ (fun item document => ofJson? item = some document) items documents := by
  induction items generalizing documents with
  | nil => cases documents <;> simp [allOfJson?]
  | cons item items ih => cases documents <;> simp [allOfJson?, Option.bind_eq_some_iff, ih]

theorem listOfJson?_eq_some {value : Json} {documents : List Document} :
    listOfJson? value = some documents ↔
      ∃ items, value = .array items ∧
        List.Forall₂ (fun item document => ofJson? item = some document) items documents := by
  cases value <;> simp [listOfJson?, allOfJson?_eq_some]

theorem condition?_eq_some {members : List (Text × Json)} {document : Document} :
    condition? members = some document ↔
      ∃ fields symbol value query j,
        Json.field? "fields".toList none Json.text? members = some fields ∧
        Json.field? "operator".toList (some "=".toList) Json.text? members = some symbol ∧
        Json.field? "value".toList (some none) StoredValue.ofJson? members = some value ∧
        Json.field? "subquery".toList (some none) Json.subquery? members = some query ∧
        joiner? members = some j ∧ .condition j fields symbol value query = document := by
  simp [condition?, Option.bind_eq_some_iff]

theorem group?_eq_some {members : List (Text × Json)} {document : Document} :
    group? (groupsIn members) members = some document ↔
      ∃ items documents j, Json.valuesOf "group".toList members = [.array items] ∧
        List.Forall₂ (fun item document => ofJson? item = some document) items documents ∧
          joiner? members = some j ∧ .group j documents = document := by
  rw [groupsIn_eq_map]
  constructor
  · intro h
    unfold group? at h
    split at h
    · rename_i documents hfound
      obtain ⟨value, hvalue, hlist⟩ := List.map_eq_singleton_iff.1 hfound
      obtain ⟨items, rfl, hitems⟩ := listOfJson?_eq_some.1 hlist
      obtain ⟨j, hj, hdocument⟩ := Option.map_eq_some_iff.1 h
      exact ⟨items, documents, j, hvalue, hitems, hj, hdocument⟩
    · cases h
  · rintro ⟨items, documents, j, hvalue, hitems, hj, rfl⟩
    rw [hvalue, List.map_singleton, listOfJson?_eq_some.2 ⟨items, rfl, hitems⟩, group?, hj]
    rfl

/-- A JSON value is read as a group if it has the shape of one, and else as a condition. -/
theorem ofJson?_eq_some {item : Json} {document : Document} (h : ofJson? item = some document) :
    ∃ members, item = .object members ∧
      (group? (groupsIn members) members = some document ∨ condition? members = some document) := by
  cases item with
  | object members =>
      rw [ofJson?] at h
      refine ⟨members, rfl, ?_⟩
      cases hgroup : group? (groupsIn members) members with
      | none =>
          rw [hgroup] at h
          exact .inr h
      | some found =>
          rw [hgroup] at h
          exact .inl h
  | _ => simp [ofJson?] at h

/-- Reading an object as a condition and building the condition makes sure that `P` relates them. -/
def Ensures (P : List (Text × Json) → Condition → Prop) : Prop :=
  ∀ {members : List (Text × Json)} {document : Document} {j : Joiner} {c : Condition},
    condition? members = some document → document.build = .ok (.condition j c) → P members c

section LoadedFrom

variable {P : List (Text × Json) → Condition → Prop}

mutual

/-- What holds of every condition and its object holds at every depth of a document. -/
theorem loadedFrom_of_build (hP : Ensures P) :
    ∀ {document : Document} {item : Json} {node : Node}, ofJson? item = some document →
      document.build = .ok node → Node.LoadedFrom P item node
  -- a document tells which of its two shapes its object was read as
  | .group j documents, _, _, hitem, h => by
    obtain ⟨members, rfl, hgroup | hcondition⟩ := ofJson?_eq_some hitem
    · obtain ⟨items, _, _, hvalue, hitems, -, ⟨⟩⟩ := group?_eq_some.1 hgroup
      rw [build] at h
      obtain ⟨nodes, hnodes, h⟩ := bind_eq_ok.1 h
      obtain ⟨-, rfl⟩ := Node.enclose_eq_ok.1 h
      exact .group j hvalue (loadedFrom_of_buildAll hP hitems hnodes)
    · obtain ⟨_, _, _, _, _, -, -, -, -, -, ⟨⟩⟩ := condition?_eq_some.1 hcondition
  | .condition j fields symbol value query, _, _, hitem, h => by
    obtain ⟨members, rfl, hgroup | hcondition⟩ := ofJson?_eq_some hitem
    · obtain ⟨_, _, _, -, -, -, ⟨⟩⟩ := group?_eq_some.1 hgroup
    · have hbuild := h
      rw [build] at h
      obtain ⟨operand, -, h⟩ := bind_eq_ok.1 h
      obtain ⟨op, -, h⟩ := Node.ofSymbol_eq_ok.1 h
      obtain ⟨c, -, rfl⟩ := Node.ofParts_eq_ok.1 h
      exact .condition j (hP hcondition hbuild)

theorem loadedFrom_of_buildAll (hP : Ensures P) :
    ∀ {documents : List Document} {items : List Json} {nodes : List Node},
      List.Forall₂ (fun item document => ofJson? item = some document) items documents →
        buildAll documents = .ok nodes → List.Forall₂ (Node.LoadedFrom P) items nodes
  | [], _, _, hitems, h => by
    rw [buildAll] at h
    cases h
    cases hitems
    exact .nil
  | document :: documents, _, _, hitems, h => by
    rw [buildAll] at h
    obtain ⟨node, hnode, h⟩ := bind_eq_ok.1 h
    obtain ⟨nodes, hnodes, h⟩ := bind_eq_ok.1 h
    cases h
    obtain _ | ⟨hitem, hrest⟩ := hitems
    exact .cons (loadedFrom_of_build hP hitem hnode) (loadedFrom_of_buildAll hP hrest hnodes)

end

/-- What holds of every condition and its object holds at every depth of what is loaded. -/
theorem loadedFrom_of_load (hP : Ensures P) {s : Text} {nodes : List Node}
    (h : load s = .ok nodes) :
    ∃ rest items, Json.skipGap s = '[' :: rest ∧ Json.readList rest = (items, .ok ()) ∧
      List.Forall₂ (Node.LoadedFrom P) items nodes := by
  obtain ⟨rest, items, hstart, hread, hall⟩ := load_eq_ok.1 h
  refine ⟨rest, items, hstart, hread, hall.imp fun item node hitem => ?_⟩
  obtain ⟨document, hdocument, hbuild⟩ := loadItem_eq_ok.1 hitem
  exact loadedFrom_of_build hP hdocument hbuild

end LoadedFrom

end Document

/-! ### Queries -/

namespace Operand

theorem fitIn_string {s q : Text} {fitted : Operand}
    (h : fitIn (.scalar (.string s)) = .ok fitted) :
    fitted = .subquery q ↔ s = q ∧ isSubquery q = true := by
  rw [fitIn] at h
  split at h
  · cases h
  · -- the text is taken for a query here, and for a list of alternatives otherwise
    split at h
    · rename_i hs
      cases h
      constructor
      · rintro ⟨⟩
        exact ⟨rfl, hs⟩
      · rintro ⟨rfl, -⟩
        rfl
    · rename_i hs
      cases h
      constructor
      · intro h
        cases h
      · rintro ⟨rfl, hq⟩
        exact absurd hq hs

theorem fitIn_eq_subquery {operand fitted : Operand} {q : Text} (h : operand.fitIn = .ok fitted) :
    fitted = .subquery q ↔
      operand = .subquery q ∨ operand = .scalar (.string q) ∧ isSubquery q = true := by
  cases operand with
  | none => cases h
  | scalar v =>
      cases v with
      | null => cases h
      | string s => simpa using fitIn_string h
      | _ =>
          cases h
          simp
  | range low high =>
      cases h
      simp
  | list values =>
      cases values with
      | nil => cases h
      | cons v vs =>
          cases h
          simp
  | subquery query =>
      rw [fitIn] at h
      split at h
      · cases h
      · cases h
        simp

/-- A constructor makes a query of a query and, for IN, of a text that reads as one. -/
theorem fit_eq_subquery {op : Operator} {operand fitted : Operand} {q : Text}
    (h : operand.fit op = .ok fitted) :
    fitted = .subquery q ↔
      op = .isIn ∧ (operand = .subquery q ∨ operand = .scalar (.string q) ∧ isSubquery q = true) := by
  by_cases hop : op = .isIn
  · subst hop
    rw [fitIn_eq_subquery h, eq_self, true_and]
  · have hquery : fitted ≠ .subquery q := by
      rintro rfl
      cases shape_of_fit h with
      | subquery _ => exact hop rfl
    simp [hop, hquery]

end Operand

namespace Json

theorem field?_eq_some_some {α : Type} {key : Text} {read : Json → Option (Option α)}
    {members : List (Text × Json)} {found : Option α}
    (h : field? key (some none) read members = some found) {a : α} :
    found = some a ↔ ∃ value, valuesOf key members = [value] ∧ read value = some (some a) := by
  unfold field? at h
  split at h
  · rename_i hvalues
    cases h
    simp [hvalues]
  · rename_i value hvalues
    simp [hvalues, h]
  · cases h

theorem subquery?_eq_some {value : Json} {q : Text} :
    subquery? value = some (some q) ↔ value = .string q := by
  cases value <;> simp [subquery?]

end Json

theorem StoredValue.ofJson?_eq_string {value : Json} {q : Text} :
    StoredValue.ofJson? value = some (some (.scalar (.string q))) ↔ value = .string q := by
  cases value with
  | int n =>
      have hint : ∀ n : Int, Value.ofJson? (.int n) ≠ some (.string q) := by
        intro n
        cases h : int64OfInt? n <;> simp [Value.ofJson?, h]
      simp [StoredValue.ofJson?, hint]
  | _ => simp [StoredValue.ofJson?, Value.ofJson?]

namespace Document

/-- The operand of a stored condition is a query that is stored as one, or a value that is stored. -/
theorem operand_ok {fields : Text} {value : Option StoredValue} {query : Option Text}
    {given : Operand} (h : operand fields value query = .ok given) (q : Text) :
    (given = .subquery q ↔ query = some q) ∧
      (given = .scalar (.string q) ↔ value = some (.scalar (.string q))) := by
  cases query with
  | none =>
      cases value with
      | none =>
          cases h
          simp
      | some stored =>
          cases stored <;> cases h <;> simp
  | some query =>
      cases value with
      | none =>
          cases h
          simp
      | some stored => cases h

end Document

namespace Condition

/-- The condition holds a query if and only if it compares with IN, and the object gives the query:
as the text under its key `subquery`, or as a text under its key `value` that reads as a query. -/
def QueryFrom (members : List (Text × Json)) (c : Condition) : Prop :=
  ∀ q, c.operand = .subquery q ↔
    c.operator = .isIn ∧
      (Json.valuesOf "subquery".toList members = [.string q] ∨
        Json.valuesOf "value".toList members = [.string q] ∧ isSubquery q = true)

end Condition

namespace Document

theorem ensures_queryFrom : Ensures Condition.QueryFrom := by
  intro members document j c hread hbuild q
  obtain ⟨fields, symbol, value, query, j, -, -, hvalue, hquery, -, rfl⟩ :=
    condition?_eq_some.1 hread
  rw [build] at hbuild
  obtain ⟨given, hgiven, hbuild⟩ := bind_eq_ok.1 hbuild
  obtain ⟨op, -, hbuild⟩ := Node.ofSymbol_eq_ok.1 hbuild
  obtain ⟨c, hc, ⟨⟩⟩ := Node.ofParts_eq_ok.1 hbuild
  obtain ⟨-, -, rfl, hfit⟩ := Condition.ofParts_eq_ok.1 hc
  obtain ⟨hsubquery, hstring⟩ := operand_ok hgiven q
  rw [Operand.fit_eq_subquery hfit, hsubquery, hstring, Json.field?_eq_some_some hquery,
    Json.field?_eq_some_some hvalue]
  simp only [Json.subquery?_eq_some, StoredValue.ofJson?_eq_string, exists_eq_right]

/-- Whatever is loaded, every condition that holds a query, at any depth, compares with IN, and the
query is the text under the key `subquery` of its object or the text under the key `value`.  The
latter must read as a query; a list is never taken for one. -/
theorem queryFrom_of_load {s : Text} {nodes : List Node} (h : load s = .ok nodes) :
    ∃ rest items, Json.skipGap s = '[' :: rest ∧ Json.readList rest = (items, .ok ()) ∧
      List.Forall₂ (Node.LoadedFrom Condition.QueryFrom) items nodes :=
  loadedFrom_of_load ensures_queryFrom h

set_option maxRecDepth 4000 in
/-- A query under the one key and, inside a group, a query under the other. -/
theorem queryFrom_of_load_group :
    let s : Text := "[\x7b\"fields\":\"a\",\"operator\":\"IN\",\"subquery\":\"VALUES (1)\"\x7d," ++
      "\x7b\"group\":[\x7b\"fields\":\"b\",\"operator\":\"IN\",\"value\":\"SELECT 2\"\x7d]\x7d]"
    let nodes : List Node := [.condition .and ⟨"a", [⟨"a", none⟩], .isIn, .subquery "VALUES (1)"⟩,
      .group .and [.condition .and ⟨"b", [⟨"b", none⟩], .isIn, .subquery "SELECT 2"⟩]]
    load s = .ok nodes ∧
      ∃ rest items, Json.skipGap s = '[' :: rest ∧ Json.readList rest = (items, .ok ()) ∧
        List.Forall₂ (Node.LoadedFrom Condition.QueryFrom) items nodes := by
  intro s nodes
  let items : List Json := [
    .object [("fields".toList, .string "a"), ("operator".toList, .string "IN"),
      ("subquery".toList, .string "VALUES (1)")],
    .object [("group".toList, .array [.object [("fields".toList, .string "b"),
      ("operator".toList, .string "IN"), ("value".toList, .string "SELECT 2")]])]]
  have hread : Json.readList s.tail = (items, .ok ()) := by
    subst s items
    cbv
  have hload : load s = .ok nodes := load_eq_ok.2 ⟨s.tail, items, rfl, hread,
    .cons (loadItem_eq_ok.2 ⟨_, rfl, rfl⟩) (.cons (loadItem_eq_ok.2 ⟨_, rfl, rfl⟩) .nil)⟩
  exact ⟨hload, queryFrom_of_load hload⟩

set_option maxRecDepth 4000 in
/-- The key `subquery` is not the only one that a query comes from. -/
theorem not_only_under_subquery :
    ¬ ∀ (s rest : Text) (items : List Json) (nodes : List Node), load s = .ok nodes →
      Json.skipGap s = '[' :: rest → Json.readList rest = (items, .ok ()) →
        List.Forall₂ (Node.LoadedFrom fun members c => ∀ q, c.operand = .subquery q →
          Json.valuesOf "subquery".toList members = [.string q]) items nodes := by
  intro h
  let s : Text := "[\x7b\"fields\":\"a\",\"operator\":\"IN\",\"value\":\"SELECT 1\"\x7d]"
  let members : List (Text × Json) := [("fields".toList, .string "a"),
    ("operator".toList, .string "IN"), ("value".toList, .string "SELECT 1")]
  have hread : Json.readList s.tail = ([.object members], .ok ()) := by
    subst s members
    cbv
  have hload : load s =
      .ok [.condition .and ⟨"a", [⟨"a", none⟩], .isIn, .subquery "SELECT 1"⟩] :=
    load_eq_ok.2 ⟨s.tail, _, rfl, hread, .cons (loadItem_eq_ok.2 ⟨_, rfl, rfl⟩) .nil⟩
  obtain _ | ⟨hitem, -⟩ := h s s.tail _ _ hload rfl hread
  cases hitem with
  | condition j h =>
      have hnone : Json.valuesOf "subquery".toList members = [] := rfl
      have hsome := h "SELECT 1" rfl
      rw [hnone] at hsome
      cases hsome

end Document

end WhereClause
