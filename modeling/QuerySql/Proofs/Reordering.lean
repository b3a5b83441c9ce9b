import Mathlib.Logic.Relation
import QuerySql.Proofs.Records
import QuerySql.Query.Reading

/-!
# The order of members does not matter

Where a document is read into a query, the members of its objects may stand in any order. Join
columns are the exception, which are kept in document order, and so is JSON that is kept as it is.

* `Role`: what a value is read as, which depends on its place in the document.
* `Step role v v'`: the members of one object of `v` are permuted, at any depth.
* `Reordered role v v'`: any number of such steps.
-/

namespace QuerySql

/-! ## Roles -/

/-- Reads the items of an array. -/
def Json.sequence {α : Type} (read : Json → Except ShapeError α) : Json → Except ShapeError (List α)
  | .arr items => items.mapM read
  | j => .error (.invalidType j .sequence)

/-- What a value of a document is read as. -/
inductive Role where
  | query
  /-- A column, a detail or a `CASE`. -/
  | selectionItem
  | condition
  | typedValue
  | value
  /-- A function call, perhaps wrapped, or a clause. -/
  | call
  | join
  | grouping
  | sortOrder
  | bound
  /-- The value is kept as it is, or not looked at. -/
  | kept
  | list (items : Role)
  deriving DecidableEq

namespace Role

/-- The members of an object that are read as parts of it; all others are kept. -/
def parts : Role → List (String × Role)
  | .query => [("selectFields", .list .selectionItem), ("join", .list .join),
      ("conditions", .list .condition), ("groupBy", .grouping), ("having", .list .condition),
      ("orderBy", .sortOrder), ("limit", .bound), ("offset", .bound)]
  | .selectionItem => [("subquery", .query), ("addFunction", .call), ("when", .list .condition),
      ("defaultValue", .typedValue)]
  | .condition => [("clause", .call), ("value", .value), ("composite", .list .condition),
      ("expectation", .typedValue)]
  | .typedValue => [("value", .value)]
  | .value => [("subquery", .query), ("sqlFunc", .call)]
  | .call => [("sqlFunc", .call)]
  | .join | .grouping | .sortOrder | .bound | .kept | .list _ => []

/-- What a member with the given key is read as. -/
def member (role : Role) (key : String) : Role := (role.parts.lookup key).getD .kept

/-- The keys of the fields, if the items of an array are read as fields in their order. -/
def fieldKeys : Role → List String
  | .query => Query.record.fields.map (·.key)
  | .condition => ConditionDraft.record.fields.map (·.key)
  | .typedValue => TypedValue.record.fields.map (·.key)
  | _ => []

/-- What an item of an array is read as. -/
def item (role : Role) (index : Nat) : Role :=
  match role with
  | .list items => items
  | role => (role.fieldKeys[index]?.map role.member).getD .kept

/-- An object with these members is a node of a descriptor. As a value it needs a key that tells
what it is; without one it is kept. -/
def isNode (role : Role) (members : List (String × Json)) : Bool :=
  match role with
  | .kept | .list _ => false
  | .value => ["subquery", "sqlFunc", "from", "to"].any fun key => (members.lookup key).isSome
  | _ => true

/-- The part of a descriptor for a role. -/
def Part : Role → Type
  | .query => Query
  | .selectionItem => SelectionItem
  | .condition => Condition
  | .typedValue => TypedValue
  | .value => Value
  | .call => FunctionCall
  | .join => Join
  | .grouping => List String
  | .sortOrder => SortOrder
  | .bound => RowBound
  | .kept => Json
  | .list items => List items.Part

/-- Reads a value in its role. -/
def read : (role : Role) → Json → Except ShapeError role.Part
  | .query, j => j.reading.query
  | .selectionItem, j => j.reading.selectionItem
  | .condition, j => j.reading.condition
  | .typedValue, j => j.reading.typedValue
  | .value, j => j.reading.value
  | .call, j => j.reading.call
  | .join, j => Join.ofJson j
  | .grouping, j => groupingOfJson j
  | .sortOrder, j => SortOrder.ofJson j
  | .bound, j => RowBound.ofJson j
  | .kept, j => .ok j
  | .list items, j => j.sequence items.read

end Role

/-! ## Reordering -/

/-- The members of one object that is a node of a descriptor are permuted. -/
inductive Step : Role → Json → Json → Prop
  | members {role : Role} {ms ms' : List (String × Json)} (hnode : role.isNode ms = true)
      (hnodup : (ms.map Prod.fst).Nodup) (hperm : ms.Perm ms') : Step role (.obj ms) (.obj ms')
  | member {role : Role} (pre post : List (String × Json)) {key : String} {v v' : Json}
      (h : Step (role.member key) v v') :
      Step role (.obj (pre ++ (key, v) :: post)) (.obj (pre ++ (key, v') :: post))
  | item {role : Role} (pre post : List Json) {v v' : Json} (h : Step (role.item pre.length) v v') :
      Step role (.arr (pre ++ v :: post)) (.arr (pre ++ v' :: post))

/-- The members of any number of objects that are nodes of a descriptor are permuted. -/
def Reordered (role : Role) : Json → Json → Prop := Relation.ReflTransGen (Step role)

/-- Both values are objects or both are arrays. -/
inductive Json.SameContainer : Json → Json → Prop
  | obj (ms ms' : List (String × Json)) : SameContainer (.obj ms) (.obj ms')
  | arr (js js' : List Json) : SameContainer (.arr js) (.arr js')

/-- The values are of the same kind and read alike. -/
structure Role.Alike (role : Role) (v v' : Json) : Prop where
  kind : Json.SameContainer v v'
  read : (role.read v).toOption = (role.read v').toOption

/-- A step at the top of a value, or within a part that reads alike after it. -/
inductive Rearranged (role : Role) : Json → Json → Prop
  | members {ms ms' : List (String × Json)} (hnode : role.isNode ms = true)
      (hnodup : (ms.map Prod.fst).Nodup) (hperm : ms.Perm ms') :
      Rearranged role (.obj ms) (.obj ms')
  | member (pre post : List (String × Json)) {key : String} {v v' : Json}
      (h : (role.member key).Alike v v') :
      Rearranged role (.obj (pre ++ (key, v) :: post)) (.obj (pre ++ (key, v') :: post))
  | item (pre post : List Json) {v v' : Json} (h : (role.item pre.length).Alike v v') :
      Rearranged role (.arr (pre ++ v :: post)) (.arr (pre ++ v' :: post))

/-! ## Fields -/

variable {ν σ : Type}

/-- A JSON value with its parts read. -/
def Json.nodeWith (part : Json → ν) : Json → Node ν
  | .arr items => ⟨.arr items, items.map part, []⟩
  | .obj members => ⟨.obj members, [], members.map fun m => (m.1, part m.2)⟩
  | j => ⟨j, [], []⟩

theorem Json.node_eq (j : Json) : j.node = j.nodeWith id := by
  cases j with
  | obj members => simp [Json.node, Json.nodeWith]
  | arr items => simp [Json.node, Json.nodeWith]
  | _ => rfl

theorem Json.itemReadings_eq (items : List Json) : itemReadings items = items.map reading := by
  induction items with
  | nil => rfl
  | cons j items ih => rw [itemReadings, ih, List.map_cons]

theorem Json.memberReadings_eq (members : List (String × Json)) :
    memberReadings members = members.map fun m => (m.1, m.2.reading) := by
  induction members with
  | nil => rfl
  | cons m members ih => rw [memberReadings, ih, List.map_cons]

theorem Json.reading_eq (j : Json) : j.reading = .ofNode (j.nodeWith reading) := by
  cases j with
  | arr items => rw [reading, itemReadings_eq]; rfl
  | obj members => rw [reading, memberReadings_eq]; rfl
  | null | bool | num | str => rw [reading]; rfl

/-- The field reads values alike that are alike in the role. -/
def Field.Heeds (part : Json → ν) (role : Role) (f : Field ν σ) : Prop :=
  ∀ v v', role.Alike v v' → ∀ s, (f.read (part v) s).toOption = (f.read (part v') s).toOption

theorem Role.Alike.eq_of_kept {v v' : Json} (h : Role.kept.Alike v v') : v = v' :=
  Option.some.inj h.read

theorem Field.heeds_kept (part : Json → ν) (f : Field ν σ) : f.Heeds part .kept := by
  intro v v' h s
  rw [h.eq_of_kept]

/-- The record reads a value in the role, up to what is done with it then. -/
structure Role.ReadsAs (role : Role) (part : Json → ν) (r : Record ν σ) : Prop where
  commutes : r.fields.Pairwise Field.Commutes
  member : ∀ f ∈ r.fields, f.Heeds part (role.member f.key)
  item : ∀ (i : Nat) (f : Field ν σ), r.fields[i]? = some f → f.Heeds part (role.item i)

theorem Role.ReadsAs.toOption_read {role : Role} {part : Json → ν} {r : Record ν σ}
    (h : role.ReadsAs part r) (start : σ) {v v' : Json} (hv : Rearranged role v v') :
    (r.read start (v.nodeWith part)).toOption = (r.read start (v'.nodeWith part)).toOption := by
  cases hv with
  | members _ hnodup hperm =>
    refine r.toOption_read_perm h.commutes start ?_ (hperm.map _)
    rwa [List.map_map]
  | member pre post halike =>
    simp only [Json.nodeWith, List.map_append, List.map_cons]
    refine r.toOption_read_member start _ _ fun f hf hkey s => ?_
    subst hkey
    exact h.member f hf _ _ halike s
  | item pre post halike =>
    simp only [Json.nodeWith, List.map_append, List.map_cons]
    refine r.toOption_read_item start _ _ fun f hf s => ?_
    rw [List.length_map] at hf
    exact h.item _ f hf _ _ halike s

/-! ## Values that may be null -/

theorem Json.json_reading (j : Json) : j.reading.json = j := by
  cases j <;> (rw [Json.reading]; rfl)

theorem toOption_nullable {α : Type} {v v' : Json} (hkind : Json.SameContainer v v')
    {x y : Except ShapeError α} (h : x.toOption = y.toOption) :
    (v.nullable x).toOption = (v'.nullable y).toOption := by
  cases hkind with
  | obj | arr => simp only [Json.nullable, toOption_map, h]

theorem Field.heeds_of {α : Type} {part : Json → ν} {role : Role} {key : String} {optional : Bool}
    {x : ν → Except ShapeError α} {put : α → σ → σ}
    (h : ∀ v v', role.Alike v v' → (x (part v)).toOption = (x (part v')).toOption) :
    Field.Heeds part role ⟨key, optional, fun p s => x p >>= fun a => pure (put a s)⟩ :=
  fun v v' hv _ => toOption_bind_congr (h v v' hv) _

theorem Field.heeds_nullable {α : Type} {role : Role} {key : String} {optional : Bool}
    {x : Reading → Except ShapeError α} {put : Option α → σ → σ}
    (h : ∀ v v', role.Alike v v' → (x v.reading).toOption = (x v'.reading).toOption) :
    Field.Heeds Json.reading role
      ⟨key, optional, fun r s => r.json.nullable (x r) >>= fun a => pure (put a s)⟩ := by
  refine heeds_of fun v v' hv => ?_
  rw [v.json_reading, v'.json_reading]
  exact toOption_nullable hv.kind (h v v' hv)

/-- A field that is read in a role heeds it. -/
theorem Field.heeds_role {role : Role} {key : String} {optional : Bool}
    {x : Reading → Except ShapeError role.Part} {put : Option role.Part → σ → σ}
    (h : ∀ v, x v.reading = role.read v) :
    Field.Heeds Json.reading role
      ⟨key, optional, fun r s => r.json.nullable (x r) >>= fun a => pure (put a s)⟩ :=
  heeds_nullable fun v v' hv => by rw [h v, h v', hv.read]

theorem sequence_reading {α : Type} (j : Json) (read : Reading → Except ShapeError α) :
    (j.nodeWith Json.reading).sequence read = j.sequence fun item => read item.reading := by
  cases j with
  | arr items => exact List.mapM_map
  | _ => rfl

theorem reading_selection (j : Json) : j.reading.selection = (Role.list .selectionItem).read j := by
  rw [j.reading_eq]
  exact sequence_reading j _

theorem reading_conditions (j : Json) : j.reading.conditions = (Role.list .condition).read j := by
  rw [j.reading_eq]
  exact sequence_reading j _

theorem Join.listOfJson_eq (j : Json) : Join.listOfJson j = (Role.list .join).read j := by
  cases j <;> rfl

/-- A clause that is no string is a function call. -/
theorem toOption_clause {v v' : Json} (h : Role.call.Alike v v') :
    (Clause.ofReading v.reading).toOption = (Clause.ofReading v'.reading).toOption := by
  obtain ⟨hkind, hread⟩ := h
  simp only [Clause.ofReading, Json.json_reading]
  cases hkind with
  | obj ms ms' => simp only [toOption_map]; exact congrArg _ hread
  | arr => rfl

/-! ## Records -/

/-- The items of an array are read like the members with the keys of the fields. -/
theorem heeds_item {part : Json → ν} {role : Role} {fields : List (Field ν σ)}
    (h : ∀ f ∈ fields, f.Heeds part (role.member f.key)) (i : Nat) (f : Field ν σ)
    (hf : fields[i]? = some f) :
    f.Heeds part (((fields.map (·.key))[i]?.map role.member).getD .kept) := by
  rw [List.getElem?_map, hf]
  exact h f (List.mem_of_getElem? hf)

theorem heeds_query :
    ∀ f ∈ Query.record.fields, f.Heeds Json.reading (Role.query.member f.key) := by
  simp only [Query.record, List.forall_mem_cons, List.not_mem_nil, false_implies, implies_true,
    and_true]
  -- One goal a field, in their order; the table alone is kept.
  and_intros
  · exact Field.heeds_kept _ _
  · exact Field.heeds_role reading_selection
  · exact Field.heeds_role fun v => by rw [v.json_reading]; exact Join.listOfJson_eq v
  · exact Field.heeds_role reading_conditions
  · exact Field.heeds_role fun v => by rw [v.json_reading]; rfl
  · exact Field.heeds_role reading_conditions
  · exact Field.heeds_role fun v => by rw [v.json_reading]; rfl
  · exact Field.heeds_role fun v => by rw [v.json_reading]; rfl
  · exact Field.heeds_role fun v => by rw [v.json_reading]; rfl

theorem readsAs_query : Role.query.ReadsAs Json.reading Query.record where
  commutes := by
    simp only [Query.record, List.pairwise_cons, List.forall_mem_cons, List.not_mem_nil,
      false_implies, implies_true, and_true, List.Pairwise.nil]
    and_intros
    all_goals exact Field.commutes_of_stores fun _ _ _ => rfl
  member := heeds_query
  item := heeds_item heeds_query

theorem heeds_condition :
    ∀ f ∈ ConditionDraft.record.fields, f.Heeds Json.reading (Role.condition.member f.key) := by
  simp only [ConditionDraft.record, List.forall_mem_cons, List.not_mem_nil, false_implies,
    implies_true, and_true]
  -- A clause may be a string too, so it has no reader of its own among the roles.
  and_intros
  · exact Field.heeds_kept _ _
  · exact Field.heeds_nullable fun v v' => toOption_clause
  · exact Field.heeds_kept _ _
  · exact Field.heeds_kept _ _
  · exact Field.heeds_kept _ _
  · exact Field.heeds_role fun _ => rfl
  · exact Field.heeds_role reading_conditions
  · exact Field.heeds_role fun _ => rfl

theorem readsAs_condition : Role.condition.ReadsAs Json.reading ConditionDraft.record where
  commutes := by
    simp only [ConditionDraft.record, List.pairwise_cons, List.forall_mem_cons, List.not_mem_nil,
      false_implies, implies_true, and_true, List.Pairwise.nil]
    and_intros
    all_goals exact Field.commutes_of_stores fun _ _ _ => rfl
  member := heeds_condition
  item := heeds_item heeds_condition

theorem heeds_typedValue :
    ∀ f ∈ TypedValue.record.fields, f.Heeds Json.reading (Role.typedValue.member f.key) := by
  simp only [TypedValue.record, List.forall_mem_cons, List.not_mem_nil, false_implies,
    implies_true, and_true]
  and_intros
  · exact Field.heeds_role fun _ => rfl
  · exact Field.heeds_kept _ _
  · exact Field.heeds_kept _ _

theorem readsAs_typedValue : Role.typedValue.ReadsAs Json.reading TypedValue.record where
  commutes := by
    simp only [TypedValue.record, List.pairwise_cons, List.forall_mem_cons, List.not_mem_nil,
      false_implies, implies_true, and_true, List.Pairwise.nil]
    and_intros
    all_goals exact Field.commutes_of_stores fun _ _ _ => rfl
  member := heeds_typedValue
  item := heeds_item heeds_typedValue

theorem readsAs_detail : Role.selectionItem.ReadsAs Json.reading SelectionDetail.record where
  commutes := by
    simp only [SelectionDetail.record, List.pairwise_cons, List.forall_mem_cons, List.not_mem_nil,
      false_implies, implies_true, and_true, List.Pairwise.nil]
    and_intros
    all_goals exact Field.commutes_of_stores fun _ _ _ => rfl
  member := by
    simp only [SelectionDetail.record, List.forall_mem_cons, List.not_mem_nil, false_implies,
      implies_true, and_true]
    and_intros
    · exact Field.heeds_kept _ _
    · exact Field.heeds_kept _ _
    · exact Field.heeds_role fun _ => rfl
    · exact Field.heeds_role fun _ => rfl
  item _ _ _ := Field.heeds_kept _ _

theorem readsAs_case : Role.selectionItem.ReadsAs Json.reading CaseExpression.record where
  commutes := by
    simp only [CaseExpression.record, List.pairwise_cons, List.forall_mem_cons, List.not_mem_nil,
      false_implies, implies_true, and_true, List.Pairwise.nil]
    and_intros
    all_goals exact Field.commutes_of_stores fun _ _ _ => rfl
  member := by
    simp only [CaseExpression.record, List.forall_mem_cons, List.not_mem_nil, false_implies,
      implies_true, and_true]
    and_intros
    · refine Field.heeds_of fun v v' (h : (Role.list .condition).Alike v v') => ?_
      rw [reading_conditions, reading_conditions]
      exact h.read
    · exact Field.heeds_role fun _ => rfl
    · exact Field.heeds_kept _ _
  item _ _ _ := Field.heeds_kept _ _

theorem readsAs_join : Role.join.ReadsAs id Join.record where
  commutes := by
    simp only [Join.record, List.pairwise_cons, List.forall_mem_cons, List.not_mem_nil,
      false_implies, implies_true, and_true, List.Pairwise.nil]
    and_intros
    all_goals exact Field.commutes_of_stores fun _ _ _ => rfl
  member _ _ := Field.heeds_kept _ _
  item _ _ _ := Field.heeds_kept _ _

theorem readsAs_grouping : Role.grouping.ReadsAs id groupingRecord where
  commutes := List.pairwise_singleton _ _
  member _ _ := Field.heeds_kept _ _
  item _ _ _ := Field.heeds_kept _ _

theorem readsAs_sortOrder : Role.sortOrder.ReadsAs id SortOrder.record where
  commutes := by
    simp only [SortOrder.record, List.pairwise_cons, List.forall_mem_cons, List.not_mem_nil,
      false_implies, implies_true, and_true, List.Pairwise.nil]
    exact Field.commutes_of_stores fun _ _ _ => rfl
  member _ _ := Field.heeds_kept _ _
  item _ _ _ := Field.heeds_kept _ _

/-! ## Members by key -/

namespace Rearranged

variable {role : Role} {ms ms' : List (String × Json)}

/-- A key is found with the same value, or with one that reads alike. -/
theorem lookup (h : Rearranged role (.obj ms) (.obj ms')) (key : String) :
    ms.lookup key = ms'.lookup key ∨
      ∃ v v', ms.lookup key = some v ∧ ms'.lookup key = some v' ∧
        (role.member key).Alike v v' := by
  cases h with
  | members _ hnodup hperm => exact .inl (lookup_perm hnodup hperm key)
  | @member pre post k v v' halike =>
    rcases lookup_exchange pre post k v v' key with heq | ⟨rfl, hv, hv'⟩
    · exact .inl heq
    · exact .inr ⟨v, v', hv, hv', halike⟩

theorem lookup_of_kept (h : Rearranged role (.obj ms) (.obj ms')) {key : String}
    (hkept : role.member key = .kept) : ms.lookup key = ms'.lookup key := by
  rcases h.lookup key with heq | ⟨v, v', hv, hv', halike⟩
  · exact heq
  · rw [hkept] at halike
    rw [hv, hv', halike.eq_of_kept]

theorem isSome_lookup (h : Rearranged role (.obj ms) (.obj ms')) (key : String) :
    (ms.lookup key).isSome = (ms'.lookup key).isSome := by
  rcases h.lookup key with heq | ⟨v, v', hv, hv', -⟩
  · rw [heq]
  · rw [hv, hv']
    rfl

/-! ## Nodes that are told apart by their keys -/

theorem toOption_call (h : Rearranged role (.obj ms) (.obj ms'))
    (hwrapped : role.member "sqlFunc" = .call) (hname : role.member "name" = .kept)
    (hparams : role.member "params" = .kept) (hfield : role.member "isField" = .kept) :
    (FunctionCall.ofNode ((Json.obj ms).nodeWith Json.reading)).toOption =
      (FunctionCall.ofNode ((Json.obj ms').nodeWith Json.reading)).toOption := by
  simp only [FunctionCall.ofNode, Json.nodeWith, lookup_map_value, h.lookup_of_kept hname,
    h.lookup_of_kept hparams, h.lookup_of_kept hfield]
  rcases h.lookup "sqlFunc" with heq | ⟨v, v', hv, hv', halike⟩
  · rw [heq]
  · rw [hwrapped] at halike
    rw [hv, hv']
    exact halike.read

/-- An object without a key that tells what it is stays as it is. -/
theorem eq_of_unsupported (h : Rearranged .value (.obj ms) (.obj ms'))
    (hsub : ms.lookup "subquery" = none) (hfunc : ms.lookup "sqlFunc" = none)
    (hlower : ms.lookup "from" = none) (hupper : ms.lookup "to" = none) : ms = ms' := by
  cases h with
  | members hnode _ _ =>
    simp only [Role.isNode, List.any_cons, List.any_nil, hsub, hfunc, hlower, hupper] at hnode
    contradiction
  | @member pre post key v v' halike =>
    have hsome : (pre ++ (key, v) :: post).lookup key ≠ none := by
      rw [List.lookup_append, List.lookup_cons_self]
      cases pre.lookup key <;> exact Option.some_ne_none _
    have hkept : Role.value.member key = .kept := by
      have hne : key ≠ "subquery" := fun heq => hsome (heq ▸ hsub)
      have hne' : key ≠ "sqlFunc" := fun heq => hsome (heq ▸ hfunc)
      simp [Role.member, Role.parts, List.lookup_cons, beq_false_of_ne hne, beq_false_of_ne hne']
    rw [hkept] at halike
    rw [halike.eq_of_kept]

theorem toOption_value (h : Rearranged .value (.obj ms) (.obj ms')) :
    (Value.ofNode ((Json.obj ms).nodeWith Json.reading)).toOption =
      (Value.ofNode ((Json.obj ms').nodeWith Json.reading)).toOption := by
  have hcall := h.toOption_call rfl rfl rfl rfl
  have hfunc := h.isSome_lookup "sqlFunc"
  have hfrom : ms.lookup "from" = ms'.lookup "from" := h.lookup_of_kept rfl
  have hto : ms.lookup "to" = ms'.lookup "to" := h.lookup_of_kept rfl
  simp only [Json.nodeWith] at hcall
  simp only [Value.ofNode, Json.nodeWith, lookup_map_value]
  rcases h.lookup "subquery" with hsub | ⟨v, v', hv, hv', halike⟩
  · rw [← hsub, ← hfunc, ← hfrom, ← hto]
    cases hsub : ms.lookup "subquery" with
    | some v => rfl
    | none =>
      by_cases hwrapped : (ms.lookup "sqlFunc").isSome = true
      · simp only [Option.map_none, hwrapped, if_true, toOption_map, hcall]
      · simp only [Option.map_none, if_neg hwrapped]
        cases hlower : ms.lookup "from" with
        | some lower => rfl
        | none =>
          cases hupper : ms.lookup "to" with
          | some upper => rfl
          | none =>
            have hkept : ms = ms' := h.eq_of_unsupported hsub
              (Option.not_isSome_iff_eq_none.mp hwrapped) hlower hupper
            rw [hkept]
  · simp only [hv, hv', Option.map_some, toOption_map]
    exact congrArg _ halike.read

theorem toOption_selectionItem (h : Rearranged .selectionItem (.obj ms) (.obj ms')) :
    (SelectionItem.ofNode ((Json.obj ms).nodeWith Json.reading)).toOption =
      (SelectionItem.ofNode ((Json.obj ms').nodeWith Json.reading)).toOption := by
  have hcase := readsAs_case.toOption_read {} h
  have hdetail := readsAs_detail.toOption_read {} h
  simp only [Json.nodeWith] at hcase hdetail
  simp only [SelectionItem.ofNode, Json.nodeWith, lookup_map_value, Option.isSome_map,
    ← h.isSome_lookup "when"]
  by_cases hwhen : (ms.lookup "when").isSome = true
  · simp only [if_pos hwhen, toOption_map, hcase]
  · simp only [if_neg hwhen, toOption_map, hdetail]

theorem toOption_bound (h : Rearranged .bound (.obj ms) (.obj ms')) :
    (RowBound.ofJson (.obj ms)).toOption = (RowBound.ofJson (.obj ms')).toOption := by
  have hvalue : ms.lookup "value" = ms'.lookup "value" := h.lookup_of_kept rfl
  have hstatic : ms.lookup "isStatic" = ms'.lookup "isStatic" := h.lookup_of_kept rfl
  simp only [RowBound.ofJson, hvalue, hstatic]
  cases (ms'.lookup "value").bind Json.toNat? <;> rfl

theorem toOption_list {items : Role} {v v' : Json} (h : Rearranged (.list items) v v') :
    ((Role.list items).read v).toOption = ((Role.list items).read v').toOption := by
  cases h with
  | members hnode _ _ => contradiction
  | member pre post halike => rfl
  | item pre post halike => exact toOption_mapM_exchange halike.read pre post

theorem eq_of_kept {v v' : Json} (h : Rearranged .kept v v') : v = v' := by
  cases h with
  | members hnode _ _ => contradiction
  | member pre post halike => rw [Role.Alike.eq_of_kept halike]
  | item pre post halike => rw [Role.Alike.eq_of_kept halike]

theorem kind {v v' : Json} (h : Rearranged role v v') : Json.SameContainer v v' := by
  cases h with
  | members | member => exact .obj _ _
  | item => exact .arr _ _

/-- What is done at the top of a value does not change how it reads. -/
theorem toOption_read {v v' : Json} (h : Rearranged role v v') :
    (role.read v).toOption = (role.read v').toOption := by
  -- Where a record reads the value, the fields of the record have been looked at already. In the
  -- other roles an object is told apart by its keys, and its kind does not change.
  cases role with
  | query =>
    simp only [Role.read, Json.reading_eq]
    exact readsAs_query.toOption_read _ h
  | selectionItem =>
    simp only [Role.read, Json.reading_eq]
    cases h.kind with
    | obj => exact h.toOption_selectionItem
    | arr => rfl
  | condition =>
    simp only [Role.read, Json.reading_eq]
    exact (toOption_map _ _).trans
      ((congrArg _ (readsAs_condition.toOption_read _ h)).trans (toOption_map _ _).symm)
  | typedValue =>
    simp only [Role.read, Json.reading_eq]
    exact readsAs_typedValue.toOption_read _ h
  | value =>
    simp only [Role.read, Json.reading_eq]
    cases h with
    | members hnode hnodup hperm => exact toOption_value (.members hnode hnodup hperm)
    | member pre post halike => exact toOption_value (.member pre post halike)
    | item pre post halike => rw [Role.Alike.eq_of_kept halike]
  | call =>
    simp only [Role.read, Json.reading_eq]
    cases h.kind with
    | obj => exact h.toOption_call rfl rfl rfl rfl
    | arr => rfl
  | join =>
    simp only [Role.read, Join.ofJson, Json.node_eq]
    exact readsAs_join.toOption_read _ h
  | grouping =>
    simp only [Role.read, groupingOfJson, Json.node_eq]
    exact readsAs_grouping.toOption_read _ h
  | sortOrder =>
    simp only [Role.read, SortOrder.ofJson, Json.node_eq]
    exact readsAs_sortOrder.toOption_read _ h
  | bound =>
    cases h.kind with
    | obj => exact h.toOption_bound
    | arr => rfl
  | kept => rw [h.eq_of_kept]
  | list items => exact h.toOption_list

end Rearranged

/-! ## Steps and runs -/

theorem Step.alike {role : Role} {v v' : Json} (h : Step role v v') : role.Alike v v' := by
  -- The outcome alone does not carry the induction: a null that became an object would read alike
  -- as a part, but no longer as a part that may be null.
  have halike {role : Role} {v v' : Json} (h : Rearranged role v v') : role.Alike v v' :=
    ⟨h.kind, h.toOption_read⟩
  induction h with
  | members hnode hnodup hperm => exact halike (.members hnode hnodup hperm)
  | member pre post _ ih => exact halike (.member pre post ih)
  | item pre post _ ih => exact halike (.item pre post ih)

theorem Reordered.toOption_read {role : Role} {v v' : Json} (h : Reordered role v v') :
    (role.read v).toOption = (role.read v').toOption := by
  induction h with
  | refl => rfl
  | tail _ hstep ih => exact ih.trans hstep.alike.read

end QuerySql
