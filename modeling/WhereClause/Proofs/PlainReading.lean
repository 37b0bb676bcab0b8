import WhereClause.Proofs.Reload
import WhereClause.Proofs.StoredQuery

/-!
# Documents read without going back

Every object of a document is tried as a group, with everything that is in it, and then as a
condition.  A fault far down may therefore change what the objects around it are taken for.  If no
object has both of the keys `group` and `fields`, and none has a key twice, there is nothing to
change: the key `group` alone decides, and a document means what a reader makes of it that looks at
each object once and never goes back.  Such a reader is defined here; what it makes of an item, and
which of several faults it tells, is then read off the item.

Main definitions:

* `Json.objects`, `Json.IsTidy`: the objects in a value, and values whose objects leave no choice;
* `Document.plain`: the reader that never goes back;
* `Document.Mirrors`, `Document.Mismatched`, `Document.FirstRefusal`: the node that an item stands
  for, an item with the wrong shape somewhere inside, and the first refusal in an item.

Main results:

* `Document.plain_eq`: tidy values are read as they are read without going back;
* `Document.plain_eq_ok`, `Document.plain_eq_none`, `Document.firstRefusal_of_plain`: the three
  outcomes for an item;
* `Document.load_eq_plain`: **a tidy document is loaded item by item, a value with the wrong shape
  somewhere inside an item is told before any refusal in it, and the first refusal is told**.
-/

set_option autoImplicit false

namespace WhereClause

/-! ### Objects -/

namespace Json

mutual

/-- The objects in a value, at any depth, each with its members. -/
def objects : Json → List (List (Text × Json))
  | object members => members :: objectsUnder members
  | array items => objectsAmong items
  | _ => []

def objectsAmong : List Json → List (List (Text × Json))
  | [] => []
  | item :: items => objects item ++ objectsAmong items

def objectsUnder : List (Text × Json) → List (List (Text × Json))
  | [] => []
  | (_, value) :: members => objects value ++ objectsUnder members

end

theorem mem_objectsAmong {members : List (Text × Json)} {items : List Json} :
    members ∈ objectsAmong items ↔ ∃ item ∈ items, members ∈ objects item := by
  induction items with
  | nil => simp [objectsAmong]
  | cons item items ih => simp [objectsAmong, ih]

theorem mem_objectsUnder {members others : List (Text × Json)} :
    members ∈ objectsUnder others ↔ ∃ member ∈ others, members ∈ objects member.2 := by
  induction others with
  | nil => simp [objectsUnder]
  | cons member others ih =>
      obtain ⟨key, value⟩ := member
      simp [objectsUnder, ih]

def nodeKeys : List Text :=
  ["fields", "operator", "value", "subquery", "joiner", "group"]

/-- The value under a key, the first one if there are several. -/
def under? (key : Text) (members : List (Text × Json)) : Option Json :=
  (valuesOf key members).head?

/-- The object leaves no choice: it is not both a condition and a group, and has no key twice that
either of them knows. -/
structure Tidy (members : List (Text × Json)) : Prop where
  /-- At most one of the keys is there that tell the two kinds of nodes apart. -/
  kind : under? "group" members = none ∨ under? "fields" members = none
  /-- There is at most one value under a key. -/
  once : ∀ key ∈ nodeKeys, (valuesOf key members).length ≤ 1

def IsTidy (value : Json) : Prop :=
  ∀ members ∈ objects value, Tidy members

/-- What `read` makes of the value under a key, or `missing` if there is none. -/
def plainField {α : Type} (key : Text) (missing : Option α) (read : Json → Option α)
    (members : List (Text × Json)) : Option α :=
  match under? key members with
  | none => missing
  | some value => read value

theorem mem_of_under? {key : Text} {value : Json} {members : List (Text × Json)}
    (h : under? key members = some value) : (key, value) ∈ members := by
  have hmem : value ∈ valuesOf key members := List.mem_of_head? h
  obtain ⟨⟨other, found⟩, hmember, hfound⟩ := List.mem_filterMap.1 hmem
  dsimp only at hfound
  split at hfound
  · rename_i hkey
    cases hfound
    rwa [← hkey]
  · cases hfound

theorem sizeOf_lt_of_under? {key : Text} {items : List Json} {item : Json}
    {members : List (Text × Json)} (h : under? key members = some (array items))
    (hmem : item ∈ items) : sizeOf item < sizeOf (object members) := by
  have hmembers := List.sizeOf_lt_of_mem (mem_of_under? h)
  have hitems := List.sizeOf_lt_of_mem hmem
  simp only [Prod.mk.sizeOf_spec, array.sizeOf_spec] at hmembers
  simp only [object.sizeOf_spec]
  omega

/-- Under a key that does not occur twice there is the value that is found first. -/
theorem Tidy.valuesOf_eq {members : List (Text × Json)} (h : Tidy members) {key : Text}
    (hkey : key ∈ nodeKeys) : valuesOf key members = (under? key members).toList := by
  have honce := h.once key hkey
  unfold under?
  rcases hvalues : valuesOf key members with _ | ⟨value, _ | ⟨other, values⟩⟩
  · rfl
  · rfl
  · rw [hvalues] at honce
    simp at honce

theorem Tidy.field?_eq {members : List (Text × Json)} (h : Tidy members) {key : Text}
    (hkey : key ∈ nodeKeys) {α : Type} (missing : Option α) (read : Json → Option α) :
    field? key missing read members = plainField key missing read members := by
  rw [field?, plainField, h.valuesOf_eq hkey]
  cases under? key members <;> rfl

theorem IsTidy.members {members : List (Text × Json)} (h : IsTidy (object members)) :
    Tidy members :=
  h members (by simp [objects])

/-- What stands in a list under a key of a tidy object is tidy. -/
theorem IsTidy.item {key : Text} {members : List (Text × Json)} {items : List Json} {item : Json}
    (h : IsTidy (object members)) (hunder : under? key members = some (array items))
    (hmem : item ∈ items) : IsTidy item := by
  intro others hothers
  have hitems : others ∈ objects (array items) := by
    rw [objects, mem_objectsAmong]
    exact ⟨item, hmem, hothers⟩
  refine h others ?_
  rw [objects, List.mem_cons, mem_objectsUnder]
  exact .inr ⟨_, mem_of_under? hunder, hitems⟩

end Json

/-! ### A reader that never goes back -/

namespace Document

/-- The condition in an object: what the constructor makes of its columns, operand, operator and
joiner, where the operator is `=` and the joiner AND if the object does not say.  There is none if
the columns are missing or a key holds the wrong kind of value. -/
def plainCondition (members : List (Text × Json)) : Option (Except BuildError Node) := do
  let fields ← Json.plainField "fields" none Json.text? members
  let symbol ← Json.plainField "operator" (some "=".toList) Json.text? members
  let value ← Json.plainField "value" (some none) StoredValue.ofJson? members
  let query ← Json.plainField "subquery" (some none) Json.subquery? members
  let joiner ← Json.plainField "joiner" (some .and) Joiner.ofJson? members
  return do
    let operand ← operand fields value query
    Node.ofSymbol fields operand symbol joiner

/-- What the items of a list stand for together.  An item with the wrong shape counts for more than
one that is refused, wherever it stands; of several refusals the first counts. -/
def gather : List (Option (Except BuildError Node)) → Option (Except BuildError (List Node))
  | [] => some (.ok [])
  | answer :: answers => do
    let first ← answer
    let others ← gather answers
    return do
      let node ← first
      let nodes ← others
      return node :: nodes

/-- The node in a JSON value: a group if there is a key `group`, else a condition.  There is none
if a value somewhere inside has the wrong shape; otherwise the constructors are called from the
inside to the outside, in order, up to the first that refuses. -/
def plain : Json → Option (Except BuildError Node)
  | .object members =>
    match _hgroup : Json.under? "group" members with
    | none => plainCondition members
    | some (.array items) => do
      let joiner ← Json.plainField "joiner" (some .and) Joiner.ofJson? members
      let answer ← gather (items.attach.map fun ⟨item, _⟩ => plain item)
      return do
        let children ← answer
        Node.enclose children joiner
    | some _ => none
  | _ => none
termination_by item => item
decreasing_by
  exact Json.sizeOf_lt_of_under? _hgroup ‹_›

/-- The node in an item of a document, or the error that is told for the item. -/
def plainItem (item : Json) : Except LoadError Node :=
  match plain item with
  | some answer => answer.mapError .invalid
  | none => .error .noMatch

section Plain

variable {members : List (Text × Json)} {items : List Json}

theorem plain_of_condition (h : Json.under? "group" members = none) :
    plain (.object members) = plainCondition members := by
  rw [plain]
  split <;> simp_all

theorem plain_of_group (h : Json.under? "group" members = some (.array items)) :
    plain (.object members) = (do
      let joiner ← Json.plainField "joiner" (some .and) Joiner.ofJson? members
      let answer ← gather (items.map plain)
      return do
        let children ← answer
        Node.enclose children joiner) := by
  rw [plain]
  split
  · rename_i hnone
    rw [h] at hnone
    cases hnone
  · rename_i found hfound
    rw [h] at hfound
    cases hfound
    rw [List.attach_map_val]
  · rename_i value hvalue hfound
    rw [h] at hfound
    cases hfound
    exact absurd rfl (hvalue items)

theorem plain_of_no_list {value : Json} (h : Json.under? "group" members = some value)
    (hvalue : ∀ items, value ≠ .array items) : plain (.object members) = none := by
  rw [plain]
  split
  · rename_i hnone
    rw [h] at hnone
    cases hnone
  · rename_i items hfound
    rw [h] at hfound
    cases hfound
    exact absurd rfl (hvalue items)
  · rfl

theorem plain_of_not_object {item : Json} (h : ∀ members, item ≠ .object members) :
    plain item = none := by
  rw [plain]
  exact h

end Plain

/-! ### Tidy values -/

theorem plainCondition_eq {members : List (Text × Json)} (h : Json.Tidy members) :
    plainCondition members = (condition? members).map build := by
  rw [plainCondition, condition?, joiner?, h.field?_eq (by decide), h.field?_eq (by decide),
    h.field?_eq (by decide), h.field?_eq (by decide), h.field?_eq (by decide)]
  simp only [Option.map_bind, Option.bind_eq_bind, Function.comp_def, Option.pure_def,
    Option.map_some, build]

theorem gather_map_eq {items : List Json}
    (h : ∀ item ∈ items, plain item = (ofJson? item).map build) :
    gather (items.map plain) = (allOfJson? items).map buildAll := by
  induction items with
  | nil =>
    rw [allOfJson?, List.map_nil, gather, Option.map_some, buildAll]
    rfl
  | cons item items ih =>
      rw [List.forall_mem_cons] at h
      rw [List.map_cons, gather, ih h.2, h.1, allOfJson?]
      simp only [Option.map_bind, Option.bind_eq_bind, Function.comp_def, Option.pure_def,
        Option.map_some, Option.bind_map, buildAll]

/-- The key `group` alone decides what a tidy object is read as. -/
theorem ofJson?_of_condition {members : List (Text × Json)}
    (h : Json.valuesOf "group".toList members = []) :
    ofJson? (.object members) = condition? members := by
  rw [ofJson?, groupsIn_eq_map, h]
  rfl

theorem ofJson?_of_group {members : List (Text × Json)} {value : Json} (h : Json.Tidy members)
    (hgroup : Json.under? "group" members = some value) :
    ofJson? (.object members) = (do
      let documents ← listOfJson? value
      let joiner ← joiner? members
      return group joiner documents) := by
  -- without columns there is no condition to go back to
  have hcondition : condition? members = none := by
    have hfields := h.kind.resolve_left (by rw [hgroup]; simp)
    rw [condition?, h.field?_eq (by decide), Json.plainField, hfields]
    rfl
  rw [ofJson?, groupsIn_eq_map, h.valuesOf_eq (by decide), hgroup, hcondition, Option.toList_some,
    List.map_singleton]
  cases listOfJson? value with
  | none => rfl
  | some documents =>
      rw [group?]
      cases joiner? members <;> rfl

/-- Induction over the items of groups, by what stands under the key `group`. -/
theorem group_induction {P : Json → Prop}
    (notObject : ∀ item, (∀ members, item ≠ .object members) → P item)
    (condition : ∀ members, Json.under? "group" members = none → P (.object members))
    (notList : ∀ members value, Json.under? "group" members = some value →
      (∀ items, value ≠ .array items) → P (.object members))
    (group : ∀ members items, Json.under? "group" members = some (.array items) →
      (∀ child ∈ items, P child) → P (.object members)) (item : Json) : P item := by
  by_cases hobject : ∃ members, item = .object members
  · obtain ⟨members, rfl⟩ := hobject
    cases hgroup : Json.under? "group" members with
    | none => exact condition members hgroup
    | some value =>
        by_cases hlist : ∃ items, value = .array items
        · obtain ⟨items, rfl⟩ := hlist
          exact group members items hgroup fun child hchild =>
            group_induction notObject condition notList group child
        · exact notList members value hgroup fun items h => hlist ⟨items, h⟩
  · exact notObject item fun members h => hobject ⟨members, h⟩
termination_by sizeOf item
decreasing_by
  subst_vars
  exact Json.sizeOf_lt_of_under? hgroup hchild

/-- A tidy value is read as it is read without going back. -/
theorem plain_eq {item : Json} (h : item.IsTidy) : plain item = (ofJson? item).map build := by
  induction item using group_induction with
  | notObject item hobject =>
      rw [plain_of_not_object hobject]
      cases item with
      | object members => exact absurd rfl (hobject members)
      | _ => rfl
  | condition members hgroup =>
      have hvalues : Json.valuesOf "group".toList members = [] := by
        rw [h.members.valuesOf_eq (by decide), hgroup]
        rfl
      rw [plain_of_condition hgroup, plainCondition_eq h.members, ofJson?_of_condition hvalues]
  | notList members value hgroup hlist =>
      rw [plain_of_no_list hgroup hlist, ofJson?_of_group h.members hgroup]
      cases value with
      | array items => exact absurd rfl (hlist items)
      | _ => rfl
  | group members items hgroup ih =>
      have hitems : ∀ child ∈ items, plain child = (ofJson? child).map build :=
        fun child hchild => ih child hchild (h.item hgroup hchild)
      rw [plain_of_group hgroup, gather_map_eq hitems, ofJson?_of_group h.members hgroup,
        listOfJson?, joiner?, h.members.field?_eq (by decide)]
      cases allOfJson? items <;>
        cases Json.plainField "joiner".toList (some .and) Joiner.ofJson? members <;>
        simp [build]

theorem plainItem_eq {item : Json} (h : item.IsTidy) : plainItem item = loadItem item := by
  rw [plainItem, loadItem, plain_eq h]
  cases ofJson? item <;> rfl

/-! ### What is gathered -/

section Gather

variable {answers : List (Option (Except BuildError Node))} {e : BuildError}

theorem gather_cons (answer : Option (Except BuildError Node)) :
    gather (answer :: answers) =
      answer.bind fun first => (gather answers).map fun others =>
        first.bind fun node => others.map (node :: ·) := by
  rw [gather]
  cases answer with
  | none => rfl
  | some first => cases gather answers <;> rfl

theorem gather_eq_none : gather answers = none ↔ none ∈ answers := by
  induction answers with
  | nil => simp [gather]
  | cons answer answers ih => cases answer <;> simp [gather_cons, ih]

theorem gather_eq_ok {nodes : List Node} :
    gather answers = some (.ok nodes) ↔ answers = nodes.map fun node => some (.ok node) := by
  induction answers generalizing nodes with
  | nil => cases nodes <;> simp [gather]
  | cons answer answers ih =>
      rw [gather_cons]
      cases answer with
      | none => cases nodes <;> simp
      | some first =>
          cases first with
          | error e => cases nodes <;> simp [Except.bind]
          | ok node => cases nodes <;> simp [Except.bind, map_eq_ok, ih, and_comm]

/-- A refusal that is told is the first one. -/
theorem exists_of_gather_eq_error (h : gather answers = some (.error e)) :
    ∃ (nodes : List Node) (after : _),
      answers = nodes.map (fun node => some (.ok node)) ++ some (.error e) :: after := by
  induction answers with
  | nil => cases h
  | cons answer answers ih =>
      rw [gather_cons] at h
      rcases answer with _ | e' | node
      · cases h
      · obtain ⟨others, -, ⟨⟩⟩ := Option.map_eq_some_iff.1 h
        exact ⟨[], answers, rfl⟩
      · obtain ⟨others, hothers, h⟩ := Option.map_eq_some_iff.1 h
        cases others with
        | error e' =>
            cases h
            obtain ⟨nodes, after, rfl⟩ := ih hothers
            exact ⟨node :: nodes, after, rfl⟩
        | ok nodes => cases h

end Gather

/-! ### Outcomes -/

/-- The node is the one that the item stands for: a condition is what the constructor makes of the
members of an object, and a group has a child for each item of the list under its key `group`. -/
inductive Mirrors : Json → Node → Prop
  | condition {members : List (Text × Json)} {node : Node}
      (hgroup : Json.under? "group" members = none)
      (hnode : plainCondition members = some (.ok node)) : Mirrors (.object members) node
  | group {members : List (Text × Json)} {items : List Json} {j : Joiner} {children : List Node}
      (hgroup : Json.under? "group" members = some (.array items))
      (hjoiner : Json.plainField "joiner" (some .and) Joiner.ofJson? members = some j)
      (hchildren : List.Forall₂ Mirrors items children) (hne : children ≠ []) :
      Mirrors (.object members) (.group j children)

/-- Somewhere inside the item there is a value that has the wrong shape for its place. -/
inductive Mismatched : Json → Prop
  | notObject {item : Json} (h : ∀ members, item ≠ .object members) : Mismatched item
  | condition {members : List (Text × Json)} (hgroup : Json.under? "group" members = none)
      (h : plainCondition members = none) : Mismatched (.object members)
  | notList {members : List (Text × Json)} {value : Json}
      (hgroup : Json.under? "group" members = some value) (h : ∀ items, value ≠ .array items) :
      Mismatched (.object members)
  | joiner {members : List (Text × Json)} {items : List Json}
      (hgroup : Json.under? "group" members = some (.array items))
      (h : Json.plainField "joiner" (some .and) Joiner.ofJson? members = none) :
      Mismatched (.object members)
  | child {members : List (Text × Json)} {items : List Json} {child : Json}
      (hgroup : Json.under? "group" members = some (.array items)) (hchild : child ∈ items)
      (h : Mismatched child) : Mismatched (.object members)

/-- The refusal is the first one in the item: that of a condition, that of an item of a group behind
items that stand for nodes, or that of a group without items. -/
inductive FirstRefusal : Json → BuildError → Prop
  | condition {members : List (Text × Json)} {e : BuildError}
      (hgroup : Json.under? "group" members = none)
      (h : plainCondition members = some (.error e)) : FirstRefusal (.object members) e
  | child {members : List (Text × Json)} {before after : List Json} {child : Json}
      {children : List Node} {e : BuildError}
      (hgroup : Json.under? "group" members = some (.array (before ++ child :: after)))
      (hbefore : List.Forall₂ Mirrors before children) (h : FirstRefusal child e) :
      FirstRefusal (.object members) e
  | empty {members : List (Text × Json)}
      (hgroup : Json.under? "group" members = some (.array [])) :
      FirstRefusal (.object members) .emptyGroup

theorem map_plain_eq {items : List Json} {children : List Node}
    (h : ∀ child ∈ items, ∀ node, plain child = some (.ok node) ↔ Mirrors child node) :
    (items.map plain = children.map fun node => some (.ok node)) ↔
      List.Forall₂ Mirrors items children := by
  induction items generalizing children with
  | nil => cases children <;> simp
  | cons item items ih =>
      rw [List.forall_mem_cons] at h
      cases children <;> simp [h.1, ih h.2]

section Group

variable {members : List (Text × Json)} {items : List Json}

theorem plain_group_eq_ok (hgroup : Json.under? "group" members = some (.array items))
    {node : Node} :
    plain (.object members) = some (.ok node) ↔
      ∃ j, Json.plainField "joiner" (some .and) Joiner.ofJson? members = some j ∧
        ∃ children, gather (items.map plain) = some (.ok children) ∧ children ≠ [] ∧
          .group j children = node := by
  rw [plain_of_group hgroup]
  simp only [Option.bind_eq_bind, Option.bind_eq_some_iff, Option.pure_def, Option.some.injEq,
    bind_eq_ok, Node.enclose_eq_ok, ↓existsAndEq, true_and, @eq_comm _ node]

theorem plain_group_eq_none (hgroup : Json.under? "group" members = some (.array items)) :
    plain (.object members) = none ↔
      Json.plainField "joiner" (some .and) Joiner.ofJson? members = none ∨
        none ∈ items.map plain := by
  rw [plain_of_group hgroup, ← gather_eq_none]
  cases Json.plainField "joiner".toList (some .and) Joiner.ofJson? members <;>
    cases gather (items.map plain) <;> simp

theorem plain_group_eq_error (hgroup : Json.under? "group" members = some (.array items))
    {e : BuildError} (h : plain (.object members) = some (.error e)) :
    gather (items.map plain) = some (.error e) ∨ items = [] ∧ e = .emptyGroup := by
  rw [plain_of_group hgroup] at h
  obtain ⟨j, -, h⟩ := Option.bind_eq_some_iff.1 h
  obtain ⟨answer, hanswer, h⟩ := Option.bind_eq_some_iff.1 h
  cases answer with
  | error e' =>
      cases h
      exact .inl hanswer
  | ok children =>
      have hrefused : Node.enclose children j = .error e := Option.some.inj h
      unfold Node.enclose at hrefused
      split at hrefused
      · rename_i hempty
        cases hrefused
        rw [List.isEmpty_iff.1 hempty, gather_eq_ok, List.map_nil, List.map_eq_nil_iff] at hanswer
        exact .inr ⟨hanswer, rfl⟩
      · cases hrefused

end Group

/-- The reader answers a node for an item if and only if the item stands for it. -/
theorem plain_eq_ok {item : Json} {node : Node} :
    plain item = some (.ok node) ↔ Mirrors item node := by
  induction item using group_induction generalizing node with
  | notObject item hobject =>
      rw [plain_of_not_object hobject]
      constructor
      · nofun
      · intro h
        cases h <;> exact absurd rfl (hobject _)
  | condition members hgroup =>
      rw [plain_of_condition hgroup]
      constructor
      · exact .condition hgroup
      · intro h
        cases h with
        | condition _ hnode => exact hnode
        | group hgroup' => rw [hgroup] at hgroup'; cases hgroup'
  | notList members value hgroup hlist =>
      rw [plain_of_no_list hgroup hlist]
      constructor
      · nofun
      · intro h
        cases h with
        | condition hgroup' => rw [hgroup] at hgroup'; cases hgroup'
        | group hgroup' =>
            rw [hgroup] at hgroup'
            cases hgroup'
            exact absurd rfl (hlist _)
  | group members items hgroup ih =>
      have hitems : ∀ children : List Node, (items.map plain =
          children.map fun node => some (.ok node)) ↔ List.Forall₂ Mirrors items children :=
        fun _ => map_plain_eq fun child hchild _ => ih child hchild
      rw [plain_group_eq_ok hgroup]
      constructor
      · rintro ⟨j, hjoiner, children, hchildren, hne, rfl⟩
        exact .group hgroup hjoiner ((hitems children).1 (gather_eq_ok.1 hchildren)) hne
      · intro h
        cases h with
        | condition hgroup' => rw [hgroup] at hgroup'; cases hgroup'
        | group hgroup' hjoiner hchildren hne =>
            rw [hgroup] at hgroup'
            cases hgroup'
            exact ⟨_, hjoiner, _, gather_eq_ok.2 ((hitems _).2 hchildren), hne, rfl⟩

/-- The reader answers nothing if and only if a value somewhere inside has the wrong shape. -/
theorem plain_eq_none {item : Json} : plain item = none ↔ Mismatched item := by
  induction item using group_induction with
  | notObject item hobject =>
      exact ⟨fun _ => .notObject hobject, fun _ => plain_of_not_object hobject⟩
  | condition members hgroup =>
      rw [plain_of_condition hgroup]
      constructor
      · exact .condition hgroup
      · intro h
        cases h with
        | notObject hobject => exact absurd rfl (hobject members)
        | condition _ h => exact h
        | _ hgroup' => rw [hgroup] at hgroup'; cases hgroup'
  | notList members value hgroup hlist =>
      exact ⟨fun _ => .notList hgroup hlist, fun _ => plain_of_no_list hgroup hlist⟩
  | group members items hgroup ih =>
      rw [plain_group_eq_none hgroup, List.mem_map]
      constructor
      · rintro (hjoiner | ⟨child, hchild, hnone⟩)
        · exact .joiner hgroup hjoiner
        · exact .child hgroup hchild ((ih child hchild).1 hnone)
      · intro h
        cases h with
        | notObject hobject => exact absurd rfl (hobject members)
        | condition hgroup' => rw [hgroup] at hgroup'; cases hgroup'
        | notList hgroup' hlist =>
            rw [hgroup] at hgroup'
            cases hgroup'
            exact absurd rfl (hlist _)
        | joiner _ hjoiner => exact .inl hjoiner
        | child hgroup' hchild h =>
            rw [hgroup] at hgroup'
            cases hgroup'
            exact .inr ⟨_, hchild, (ih _ hchild).2 h⟩

/-- If the reader answers a refusal, it is the first one in the item. -/
theorem firstRefusal_of_plain {item : Json} {e : BuildError} (h : plain item = some (.error e)) :
    FirstRefusal item e := by
  induction item using group_induction with
  | notObject item hobject => rw [plain_of_not_object hobject] at h; cases h
  | condition members hgroup =>
      rw [plain_of_condition hgroup] at h
      exact .condition hgroup h
  | notList members value hgroup hlist => rw [plain_of_no_list hgroup hlist] at h; cases h
  | group members items hgroup ih =>
      rcases plain_group_eq_error hgroup h with hgather | ⟨rfl, rfl⟩
      · obtain ⟨children, after, hitems⟩ := exists_of_gather_eq_error hgather
        obtain ⟨before, others, rfl, hbefore, hothers⟩ := List.map_eq_append_iff.1 hitems
        obtain ⟨child, after, rfl, hchild, rfl⟩ := List.map_eq_cons_iff.1 hothers
        exact .child hgroup ((map_plain_eq fun _ _ _ => plain_eq_ok).1 hbefore)
          (ih child (by simp) hchild)
      · exact .empty hgroup

/-! ### Whole documents -/

theorem plainItem_eq_ok {item : Json} {node : Node} :
    plainItem item = .ok node ↔ Mirrors item node := by
  rw [plainItem, ← plain_eq_ok]
  cases plain item with
  | none => simp
  | some answer => simp [mapError_eq_ok]

/-- A value with the wrong shape anywhere inside an item is told before any refusal in it. -/
theorem plainItem_eq_error {item : Json} {e : LoadError} (h : plainItem item = .error e) :
    Mismatched item ∧ e = .noMatch ∨
      ¬Mismatched item ∧ ∃ fault, FirstRefusal item fault ∧ e = .invalid fault := by
  rw [← plain_eq_none]
  unfold plainItem at h
  rcases hitem : plain item with _ | fault | node
  · rw [hitem] at h
    cases h
    exact .inl ⟨rfl, rfl⟩
  · rw [hitem] at h
    cases h
    exact .inr ⟨by simp, fault, firstRefusal_of_plain hitem, rfl⟩
  · rw [hitem] at h
    cases h

/-- Whether and what a document loads, if none of its objects leaves a choice: its items are read
without going back, and every node mirrors its item.  If the document does not load, the error is
that of the first item that stands for no node; there a value with the wrong shape anywhere inside
is told before any refusal, and of several refusals the first one. -/
theorem load_eq_plain {s rest : Text} {items : List Json} (hstart : Json.skipGap s = '[' :: rest)
    (hread : Json.readList rest = (items, .ok ())) (htidy : ∀ item ∈ items, item.IsTidy) :
    load s = items.mapM plainItem ∧
      (∀ nodes, load s = .ok nodes ↔ List.Forall₂ Mirrors items nodes) ∧
      ∀ e, load s = .error e → ∃ before item after nodes, items = before ++ item :: after ∧
        List.Forall₂ Mirrors before nodes ∧
          (Mismatched item ∧ e = .noMatch ∨
            ¬Mismatched item ∧ ∃ fault, FirstRefusal item fault ∧ e = .invalid fault) := by
  have hload : load s = items.mapM plainItem := by
    rw [mapM_congr fun item hitem => plainItem_eq (htidy item hitem), load, hstart]
    dsimp only
    rw [if_pos rfl, hread]
    cases items.mapM loadItem <;> rfl
  refine ⟨hload, ?_, ?_⟩
  · intro nodes
    simp only [hload, mapM_eq_ok, plainItem_eq_ok]
  · intro e h
    rw [hload] at h
    obtain ⟨before, item, after, rfl, ⟨nodes, hbefore⟩, hitem⟩ := exists_of_mapM_eq_error h
    simp only [mapM_eq_ok, plainItem_eq_ok] at hbefore
    exact ⟨before, item, after, nodes, rfl, hbefore, plainItem_eq_error hitem⟩

set_option maxRecDepth 4000 in
/-- In the second item a group without items is refused, but behind it there is a number for the
columns of a condition. -/
theorem load_eq_plain_mismatched :
    let s : Text := "[\x7b\"fields\":\"a\",\"value\":1\x7d," ++
      "\x7b\"group\":[\x7b\"group\":[]\x7d,\x7b\"fields\":7\x7d]\x7d]"
    let items : List Json := [.object [("fields".toList, .string "a"), ("value".toList, .int 1)],
      .object [("group".toList, .array [.object [("group".toList, .array [])],
        .object [("fields".toList, .int 7)]])]]
    Json.readList s.tail = (items, .ok ()) ∧ (∀ item ∈ items, item.IsTidy) ∧
      load s = .error .noMatch := by
  intro s items
  have hread : Json.readList s.tail = (items, .ok ()) := by
    subst s items
    cbv
  have htidy : ∀ item ∈ items, item.IsTidy := by
    simp only [items, List.forall_mem_cons, Json.IsTidy, Json.objects, Json.objectsAmong,
      Json.objectsUnder, List.append_nil, List.cons_append, List.nil_append, List.not_mem_nil,
      false_imp_iff, implies_true, and_true]
    exact ⟨⟨.inl rfl, by decide⟩, ⟨.inr rfl, by decide⟩, ⟨.inr rfl, by decide⟩,
      ⟨.inl rfl, by decide⟩⟩
  refine ⟨hread, htidy, ?_⟩
  obtain ⟨hload, -, -⟩ := load_eq_plain (s := s) rfl hread htidy
  have hfirst : plainItem items[0] =
      .ok (.condition .and ⟨"a", [⟨"a", none⟩], .equal, .scalar (.int 1)⟩) := by
    rw [plainItem_eq_ok]
    exact .condition rfl rfl
  have hsecond : plainItem items[1] = .error .noMatch := by
    have hnone : Mismatched items[1] :=
      .child rfl (List.mem_cons_of_mem _ (List.mem_singleton_self _)) (.condition rfl rfl)
    rw [plainItem, plain_eq_none.2 hnone]
  rw [hload]
  change (items[0] :: items[1] :: []).mapM plainItem = _
  rw [List.mapM_cons, List.mapM_cons, hfirst, hsecond]
  rfl

end Document

end WhereClause
