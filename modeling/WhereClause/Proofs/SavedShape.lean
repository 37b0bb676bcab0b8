import WhereClause.Document.Load
import WhereClause.Document.Save
import WhereClause.Proofs.Construction
import WhereClause.Proofs.JsonText

/-!
# Saved nodes in JSON

A node is saved as an object that is told apart by its keys.  Days and times are saved as texts and
numbers that are not finite as null, so what an object is loaded as is not always what it was saved
from.  A group takes two levels of JSON, one for its object and one for the array in it.

Main definitions:

* `Value.reloaded`, `Operand.reloaded`, `Condition.reloaded`, `Node.reloaded`: what is loaded;
* `Node.stored`: the document that a node is saved as;
* `Node.IsJson`: JSON has a form of its own for every value of the node.

Main results:

* `Node.ofJson?_toJson`: **a saved node has the shape of its document**;
* `Node.toJson_reloaded`: what is loaded is saved as what was read;
* `Node.levels_toJson`, `Node.levelsItems_toJson`: how deep a saved node is nested.
-/

set_option autoImplicit false

namespace WhereClause

/-! ### What is loaded -/

namespace Value

/-- The value as it comes back from JSON. -/
def reloaded : Value → Value
  | float x => if x.isFinite then float x else null
  | date d => string d.text
  | dateTime t => string t.isoText
  | v => v

/-- Holds of the values that JSON has a form of its own for. -/
def isJson : Value → Bool
  | float x => x.isFinite
  | date _ => false
  | dateTime _ => false
  | _ => true

theorem isJson_reloaded (v : Value) : v.reloaded.isJson = true := by
  cases v with
  | float x =>
      cases hx : x.isFinite with
      | true => simp [reloaded, isJson, hx]
      | false => simp [reloaded, isJson, hx]
  | _ => rfl

theorem reloaded_of_isJson {v : Value} (h : v.isJson = true) : v.reloaded = v := by
  cases v with
  | float x => simp_all [reloaded, isJson]
  | date d => cases h
  | dateTime t => cases h
  | _ => rfl

theorem toJson_reloaded (v : Value) : v.reloaded.toJson = v.toJson.reread := by
  cases v with
  | float x =>
      cases hx : x.isFinite with
      | true => simp [reloaded, toJson, Json.reread, hx]
      | false => simp [reloaded, toJson, Json.reread, hx]
  | _ => simp [reloaded, toJson, Json.reread]

/-- A value that JSON has a form for is found again in it. -/
theorem ofJson?_toJson {v : Value} (h : v.isJson = true) : ofJson? v.toJson = some v := by
  cases v with
  | int n => rw [toJson, ofJson?, int64OfInt?_toInt]; rfl
  | date d => cases h
  | dateTime t => cases h
  | _ => rfl

theorem fits_toJson {v : Value} (h : ∀ x, v = float x → x.isFinite = true → Json.ReadsBack x) :
    v.toJson.Fits := by
  cases v with
  | null => exact .null
  | bool b => exact .bool b
  | int n => exact .int n.le_toInt (Int.lt_of_lt_of_le n.toInt_lt (by decide))
  | float x => exact .float (h x rfl)
  | string s => exact .string s
  | date d => exact .string _
  | dateTime t => exact .string _

theorem levels_toJson (v : Value) : v.toJson.levels = 0 := by
  cases v <;> rw [toJson, Json.levels]

end Value

namespace Operand

/-- The operand as it comes back from JSON. -/
def reloaded : Operand → Operand
  | none => none
  | scalar v => scalar v.reloaded
  | range low high => range low.reloaded high.reloaded
  | list values => list (values.map Value.reloaded)
  | subquery query => subquery query

/-- What stands under the key `value`. -/
def stored : Operand → Option StoredValue
  | scalar .null => Option.none
  | scalar v => some (.scalar v)
  | range low high => some (.list [low, high])
  | list values => some (.list values)
  | _ => Option.none

def storedQuery : Operand → Option Text
  | subquery query => some query
  | _ => Option.none

/-- The operand that a stored condition is built from: null is none, and bounds are a list. -/
def restored : Operand → Operand
  | scalar .null => none
  | range low high => list [low, high]
  | operand => operand

end Operand

/-- The finite numbers that the condition compares with are read back from JSON. -/
def Condition.ReadsBack (c : Condition) : Prop :=
  ∀ x, .float x ∈ c.operand.values → x.isFinite = true → Json.ReadsBack x

def Condition.reloaded (c : Condition) : Condition :=
  { c with operand := c.operand.reloaded }

namespace Node

mutual

/-- The node as it comes back from JSON. -/
def reloaded : Node → Node
  | condition j c => condition j c.reloaded
  | group j children => group j (reloadedAll children)

def reloadedAll : List Node → List Node
  | [] => []
  | node :: nodes => reloaded node :: reloadedAll nodes

end

mutual

/-- The document that the node is saved as. -/
def stored : Node → Document
  | condition j c =>
    .condition j c.fields c.operator.symbol c.operand.stored c.operand.storedQuery
  | group j children => .group j (storedAll children)

def storedAll : List Node → List Document
  | [] => []
  | node :: nodes => stored node :: storedAll nodes

end

/-- All values in the conditions of the node have a form in JSON. -/
def IsJson (node : Node) : Prop :=
  ∀ c ∈ node.conditions, ∀ v ∈ c.operand.values, v.isJson = true

end Node

/-! ### Documents -/

theorem Joiner.toMember_eq (j : Joiner) :
    j.toMember = ("joiner".toList, .string j.keyword) := rfl

theorem Operand.toMembers_reloaded (operand : Operand) : operand.reloaded.toMembers =
    operand.toMembers.map fun (key, value) => (key, value.reread) := by
  cases operand with
  | list values =>
      simp [reloaded, toMembers, Json.reread, Json.rereadItems_eq_map, Value.toJson_reloaded]
  | _ => simp [reloaded, toMembers, Json.reread, Json.rereadItems, Value.toJson_reloaded]

theorem Value.fits_array {values : List Value} (h : ∀ v ∈ values, v.toJson.Fits) :
    Json.Fits (.array (values.map Value.toJson)) := by
  refine .array fun item hitem => ?_
  obtain ⟨v, hv, rfl⟩ := List.mem_map.1 hitem
  exact h v hv

theorem Operand.fits_toMembers {operand : Operand} (h : ∀ v ∈ operand.values, v.toJson.Fits) :
    ∀ member ∈ operand.toMembers, member.2.Fits := by
  intro member hmember
  cases operand with
  | none => cases hmember
  | scalar v =>
      obtain rfl := List.mem_singleton.1 hmember
      exact h v (by simp [values])
  | range low high =>
      obtain rfl := List.mem_singleton.1 hmember
      exact Value.fits_array h
  | list values =>
      obtain rfl := List.mem_singleton.1 hmember
      exact Value.fits_array h
  | subquery query =>
      obtain rfl := List.mem_singleton.1 hmember
      exact .string query

theorem StoredValue.ofJson?_scalar {v : Value} (h : v.isJson = true) :
    StoredValue.ofJson? v.toJson = some (Operand.scalar v).stored := by
  have hv := Value.ofJson?_toJson h
  cases v with
  | null => rfl
  | date d => cases h
  | dateTime t => cases h
  | _ =>
      rw [Value.toJson] at hv ⊢
      rw [StoredValue.ofJson?, hv]
      · rfl
      all_goals intros; contradiction

theorem StoredValue.ofJson?_array {values : List Value} (h : ∀ v ∈ values, v.isJson = true) :
    StoredValue.ofJson? (.array (values.map Value.toJson)) = some (some (.list values)) := by
  have hvalues : (values.map Value.toJson).mapM Value.ofJson? = some values := by
    induction values with
    | nil => rfl
    | cons v values ih =>
        rw [List.map_cons, List.mapM_cons, Value.ofJson?_toJson (h v (by simp)),
          ih fun w hw => h w (List.mem_cons_of_mem _ hw)]
        rfl
  rw [StoredValue.ofJson?, hvalues]
  rfl

namespace Document

/-- The members of a condition's object are told apart by their keys. -/
theorem condition?_toJson (j : Joiner) {c : Condition}
    (h : ∀ v ∈ c.operand.values, v.isJson = true) :
    condition? (("fields".toList, .string c.fields) ::
        ("operator".toList, .string c.operator.symbol) :: (c.operand.toMembers ++ [j.toMember])) =
      some (.condition j c.fields c.operator.symbol c.operand.stored c.operand.storedQuery) := by
  have hjoiner : Joiner.ofJson? (.string j.keyword) = some j := Joiner.ofKeyword?_keyword j
  obtain ⟨fields, columns, op, operand⟩ := c
  -- which keys there are depends on the operand alone, so looking them up is computation
  cases operand with
  | none =>
      change (Joiner.ofJson? (.string j.keyword)).bind _ = _
      rw [hjoiner]
      rfl
  | scalar v =>
      have hv := StoredValue.ofJson?_scalar (h v (by simp [Operand.values]))
      change (StoredValue.ofJson? v.toJson).bind (fun value =>
        (Joiner.ofJson? (.string j.keyword)).bind _) = _
      rw [hv, hjoiner]
      rfl
  | range low high =>
      have hvalues := StoredValue.ofJson?_array h
      change (StoredValue.ofJson? (.array ([low, high].map Value.toJson))).bind (fun value =>
        (Joiner.ofJson? (.string j.keyword)).bind _) = _
      rw [Operand.values] at hvalues
      rw [hvalues, hjoiner]
      rfl
  | list values =>
      have hvalues := StoredValue.ofJson?_array h
      change (StoredValue.ofJson? (.array (values.map Value.toJson))).bind (fun value =>
        (Joiner.ofJson? (.string j.keyword)).bind _) = _
      rw [Operand.values] at hvalues
      rw [hvalues, hjoiner]
      rfl
  | subquery query =>
      change (Joiner.ofJson? (.string j.keyword)).bind _ = _
      rw [hjoiner]
      rfl

end Document

namespace Node

/-! ### Equations -/

@[simp] theorem toJson_condition (j : Joiner) (c : Condition) :
    toJson (condition j c) = c.toJson j := by rw [toJson]

@[simp] theorem toJson_group (j : Joiner) (children : List Node) :
    toJson (group j children) =
      .object [j.toMember, ("group".toList, .array (toJsonAll children))] := by rw [toJson]

theorem toJsonAll_eq_map (nodes : List Node) : toJsonAll nodes = nodes.map toJson := by
  induction nodes with
  | nil => rw [toJsonAll, List.map_nil]
  | cons node nodes ih => rw [toJsonAll, List.map_cons, ih]

@[simp] theorem reloaded_condition (j : Joiner) (c : Condition) :
    reloaded (condition j c) = condition j c.reloaded := by rw [reloaded]

@[simp] theorem reloaded_group (j : Joiner) (children : List Node) :
    reloaded (group j children) = group j (reloadedAll children) := by rw [reloaded]

theorem reloadedAll_eq_map (nodes : List Node) : reloadedAll nodes = nodes.map reloaded := by
  induction nodes with
  | nil => rw [reloadedAll, List.map_nil]
  | cons node nodes ih => rw [reloadedAll, List.map_cons, ih]

theorem storedAll_eq_map (nodes : List Node) : storedAll nodes = nodes.map stored := by
  induction nodes with
  | nil => rw [storedAll, List.map_nil]
  | cons node nodes ih => rw [storedAll, List.map_cons, ih]

/-! ### Loading by parts -/

theorem isJson_of_mem {j : Joiner} {children : List Node} (h : IsJson (group j children)) :
    ∀ child ∈ children, IsJson child := by
  rwa [IsJson, conditions_group, forall_mem_conditionsAll] at h

theorem allOfJson?_toJson {nodes : List Node}
    (h : ∀ node ∈ nodes, Document.ofJson? node.toJson = some node.stored) :
    Document.allOfJson? (nodes.map toJson) = some (nodes.map stored) := by
  induction nodes with
  | nil => rw [List.map_nil, Document.allOfJson?, List.map_nil]
  | cons node nodes ih =>
      rw [List.map_cons, Document.allOfJson?, h node (by simp),
        ih fun other hother => h other (List.mem_cons_of_mem _ hother)]
      rfl

/-- A saved node has the shape of its document. -/
theorem ofJson?_toJson (node : Node) (h : node.IsJson) :
    Document.ofJson? node.toJson = some node.stored := by
  induction node using Node.induction with
  | condition j c =>
      have hc := Document.condition?_toJson j (h c (by simp))
      have hgroups : Document.groupsIn (("fields".toList, .string c.fields) ::
          ("operator".toList, .string c.operator.symbol) ::
            (c.operand.toMembers ++ [j.toMember])) = [] := by
        cases c.operand <;> rfl
      rw [toJson_condition, Condition.toJson, Document.ofJson?, hgroups, hc, stored]
      rfl
  | group j children ih =>
      have hchildren := allOfJson?_toJson fun child hchild =>
        ih child hchild (isJson_of_mem h child hchild)
      have hgroups : Document.groupsIn [j.toMember,
          ("group".toList, .array (toJsonAll children))] =
            [some (children.map stored)] := by
        rw [← hchildren, toJsonAll_eq_map]
        rfl
      have hjoiner : Joiner.ofJson? (.string j.keyword) = some j := Joiner.ofKeyword?_keyword j
      rw [toJson_group, Document.ofJson?, hgroups, stored, storedAll_eq_map]
      change ((Joiner.ofJson? (.string j.keyword)).map _ <|> _) = _
      rw [hjoiner]
      rfl

/-! ### What is written instead -/

theorem conditions_reloaded (node : Node) :
    node.reloaded.conditions = node.conditions.map Condition.reloaded := by
  induction node using Node.induction with
  | condition j c => simp
  | group j children ih =>
      simp only [reloaded_group, conditions_group, reloadedAll_eq_map, conditionsAll_eq_flatMap,
        List.flatMap_map, List.map_flatMap]
      exact List.flatMap_congr ih

/-- What comes back from JSON has a form in JSON. -/
theorem isJson_reloaded (node : Node) : node.reloaded.IsJson := by
  intro c hc v hv
  rw [conditions_reloaded] at hc
  obtain ⟨c, -, rfl⟩ := List.mem_map.1 hc
  have hvalues : c.reloaded.operand.values = c.operand.values.map Value.reloaded := by
    rw [Condition.reloaded]
    cases c.operand <;> rfl
  rw [hvalues] at hv
  obtain ⟨v, -, rfl⟩ := List.mem_map.1 hv
  exact v.isJson_reloaded

theorem reloaded_of_isJson {node : Node} (h : node.IsJson) : node.reloaded = node := by
  induction node using Node.induction with
  | condition j c =>
      have hvalues : ∀ v ∈ c.operand.values, v.reloaded = v := fun v hv =>
        Value.reloaded_of_isJson (h c (by simp) v hv)
      obtain ⟨fields, columns, op, operand⟩ := c
      rw [reloaded_condition, Condition.reloaded]
      cases operand with
      | list values =>
          have hlist : values.map Value.reloaded = values :=
            (List.map_congr_left hvalues).trans (List.map_id values)
          simp [Operand.reloaded, hlist]
      | _ => simp_all [Operand.reloaded, Operand.values]
  | group j children ih =>
      have hchild : ∀ child ∈ children, child.reloaded = child := fun child hchild =>
        ih child hchild (isJson_of_mem h child hchild)
      have hchildren : children.map reloaded = children :=
        (List.map_congr_left hchild).trans (List.map_id children)
      rw [reloaded_group, reloadedAll_eq_map, hchildren]

theorem toJson_reloaded (node : Node) : node.reloaded.toJson = node.toJson.reread := by
  induction node using Node.induction with
  | condition j c =>
      obtain ⟨fields, columns, op, operand⟩ := c
      simp only [reloaded_condition, toJson_condition, Condition.reloaded, Condition.toJson,
        Json.reread, Json.rereadMembers_eq_map, List.map_cons, List.map_append,
        Operand.toMembers_reloaded, Joiner.toMember_eq, List.map_nil]
  | group j children ih =>
      have hchildren : (children.map reloaded).map toJson =
          (children.map toJson).map Json.reread := by
        rw [List.map_map, List.map_map]
        exact List.map_congr_left ih
      simp only [reloaded_group, toJson_group, reloadedAll_eq_map, toJsonAll_eq_map, hchildren,
        Json.reread, Json.rereadMembers, Json.rereadItems_eq_map, Joiner.toMember_eq]

/-! ### Levels -/

theorem fits_toJson {node : Node} (h : ∀ c ∈ node.conditions, c.ReadsBack) : node.toJson.Fits := by
  induction node using Node.induction with
  | condition j c =>
      have hread : c.ReadsBack := h c (by simp)
      have hmembers := Operand.fits_toMembers fun v hv =>
        Value.fits_toJson fun x hx => hread x (hx ▸ hv)
      rw [toJson_condition, Condition.toJson]
      refine .object fun member hmember => ?_
      simp only [List.mem_cons, List.mem_append, List.not_mem_nil, or_false] at hmember
      rcases hmember with rfl | rfl | hmember | rfl
      · exact .string c.fields
      · exact .string c.operator.symbol
      · exact hmembers member hmember
      · exact .string j.keyword
  | group j children ih =>
      rw [conditions_group, forall_mem_conditionsAll] at h
      rw [toJson_group]
      refine .object fun member hmember => ?_
      simp only [List.mem_cons, List.not_mem_nil, or_false] at hmember
      rcases hmember with rfl | rfl
      · exact .string j.keyword
      · refine .array fun item hitem => ?_
        rw [toJsonAll_eq_map] at hitem
        obtain ⟨child, hchild, rfl⟩ := List.mem_map.1 hitem
        exact ih child hchild (h child hchild)

theorem levelsItems_values (values : List Value) :
    Json.levelsItems (values.map Value.toJson) = 0 := by
  induction values with
  | nil => rw [List.map_nil, Json.levelsItems]
  | cons v values ih => rw [List.map_cons, Json.levelsItems, v.levels_toJson, ih, Nat.max_self]

theorem levels_condition (j : Joiner) (c : Condition) :
    1 ≤ (c.toJson j).levels ∧ (c.toJson j).levels ≤ 2 := by
  obtain ⟨fields, columns, op, operand⟩ := c
  cases operand with
  | list values => simp [Condition.toJson, Operand.toMembers, Joiner.toMember_eq, Json.levels,
      Json.levelsMembers, levelsItems_values]
  | _ => simp [Condition.toJson, Operand.toMembers, Joiner.toMember_eq, Json.levels,
      Json.levelsMembers, Json.levelsItems, Value.levels_toJson]

theorem levelsItems_bounds {nodes : List Node} (hne : nodes ≠ [])
    (h : ∀ node ∈ nodes, 2 * node.nesting + 1 ≤ node.toJson.levels ∧
      node.toJson.levels ≤ 2 * node.nesting + 2) :
    2 * nestingAll nodes + 1 ≤ Json.levelsItems (nodes.map toJson) ∧
      Json.levelsItems (nodes.map toJson) ≤ 2 * nestingAll nodes + 2 := by
  induction nodes with
  | nil => exact absurd rfl hne
  | cons node nodes ih =>
      have hnode := h node (by simp)
      rw [List.map_cons, Json.levelsItems, nestingAll_cons]
      -- no items have no level, but a single node has one: the bounds do not hold of nothing
      rcases eq_or_ne nodes [] with rfl | hnodes
      · rw [List.map_nil, Json.levelsItems, nestingAll_nil]
        omega
      · have htail := ih hnodes fun other hother => h other (List.mem_cons_of_mem _ hother)
        omega

/-- A group takes two levels and a condition one or two. -/
theorem levels_toJson {node : Node} (h : node.Built) :
    2 * node.nesting + 1 ≤ node.toJson.levels ∧ node.toJson.levels ≤ 2 * node.nesting + 2 := by
  induction node using Node.induction with
  | condition j c =>
      rw [toJson_condition, nesting_condition]
      exact levels_condition j c
  | group j children ih =>
      obtain ⟨hne, hchildren⟩ := built_group.1 h
      have hbounds := levelsItems_bounds hne fun child hchild =>
        ih child hchild (hchildren child hchild)
      have hlevels : (toJson (group j children)).levels =
          Json.levelsItems (children.map toJson) + 2 := by
        simp [Joiner.toMember_eq, Json.levels, Json.levelsMembers, toJsonAll_eq_map]
      rw [hlevels, nesting_group]
      omega

theorem levelsItems_toJson {nodes : List Node} (h : ∀ node ∈ nodes, node.Built) :
    Json.levelsItems (nodes.map toJson) < Json.maxDepth ↔ nestingAll nodes ≤ 62 := by
  have hmax : Json.maxDepth = 127 := rfl
  rcases eq_or_ne nodes [] with rfl | hne
  · rw [List.map_nil, Json.levelsItems, nestingAll_nil, hmax]
    omega
  · have hbounds := levelsItems_bounds hne fun node hnode => levels_toJson (h node hnode)
    omega

end Node

end WhereClause
