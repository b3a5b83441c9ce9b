import QuerySql.Proofs.JsonTexts
import QuerySql.Proofs.Reordering
import QuerySql.Proofs.ReservedStrings

/-!
# Documents up to the order of members

A document whose members stand in another order gives the same query, or is refused too, perhaps
with another error: the first bad member need not be the same.

* `Step.heldStrings_perm`: no string comes or goes, so the check for reserved characters has the
  same outcome.
* `decoding_ignores_member_order`: what this says of queries, unions and their statements.
-/

namespace QuerySql

open Compile

/-! ## Strings -/

theorem Json.itemsHeldStrings_eq (items : List Json) :
    itemsHeldStrings items = items.flatMap heldStrings := by
  induction items with
  | nil => rfl
  | cons j items ih => rw [itemsHeldStrings, ih, List.flatMap_cons]

theorem Json.membersHeldStrings_eq (members : List (String × Json)) :
    membersHeldStrings members = members.flatMap fun m => m.1 :: m.2.heldStrings := by
  induction members with
  | nil => rfl
  | cons m members ih => rw [membersHeldStrings, ih, List.flatMap_cons, List.cons_append]

/-- The strings of a document stay, in another order. -/
theorem Step.heldStrings_perm {role : Role} {v v' : Json} (h : Step role v v') :
    v.heldStrings.Perm v'.heldStrings := by
  induction h with
  | members _ _ hperm =>
    simp only [Json.heldStrings, Json.membersHeldStrings_eq]
    exact hperm.flatMap_right _
  | member pre post _ ih =>
    simp only [Json.heldStrings, Json.membersHeldStrings_eq, List.flatMap_append,
      List.flatMap_cons]
    exact ((ih.cons _).append_right _).append_left _
  | item pre post _ ih =>
    simp only [Json.heldStrings, Json.itemsHeldStrings_eq, List.flatMap_append, List.flatMap_cons]
    exact (ih.append_right _).append_left _

theorem Step.isArray {role : Role} {v v' : Json} (h : Step role v v') : v.isArray = v'.isArray := by
  cases h with
  | members | member | item => rfl

theorem Json.toOption_checkReserved (j : Json) :
    j.checkReserved.toOption = if j.heldStrings.any hasReserved then none else some () := by
  rw [checkReserved, reserved?_eq_find?, ← List.isSome_find?]
  cases j.heldStrings.find? hasReserved <;> rfl

/-! ## Reading documents -/

theorem Query.listOfJson_eq (j : Json) : Query.listOfJson j = (Role.list .query).read j := by
  cases j <;> rfl

theorem Query.toOption_parseUnion {text : String} {j : Json} (h : Json.parse? text = some j) :
    (Query.parseUnion text).toOption =
      if j.isArray then
        j.checkReserved.toOption.bind fun _ => ((Role.list .query).read j).toOption
      else none := by
  cases harray : j.isArray with
  | true =>
    rw [Query.parseUnion_eq h harray, toOption_bind, toOption_mapError, Query.listOfJson_eq,
      if_pos rfl]
    rfl
  | false =>
    rw [Query.parseUnion, Json.parse, h]
    change Except.toOption (if (!j.isArray) = true then _ else _) = _
    rw [harray]
    rfl

namespace Reordered

variable {role : Role} {v v' : Json}

theorem heldStrings_perm (h : Reordered role v v') : v.heldStrings.Perm v'.heldStrings := by
  induction h with
  | refl => exact .refl _
  | tail _ hstep ih => exact ih.trans hstep.heldStrings_perm

theorem isArray (h : Reordered role v v') : v.isArray = v'.isArray := by
  induction h with
  | refl => rfl
  | tail _ hstep ih => exact ih.trans hstep.isArray

theorem toOption_checkReserved (h : Reordered role v v') :
    v.checkReserved.toOption = v'.checkReserved.toOption := by
  rw [v.toOption_checkReserved, v'.toOption_checkReserved, h.heldStrings_perm.any_eq]

theorem ofJson_iff (h : Reordered .query v v') (q : Query) :
    Query.ofJson v = .ok q ↔ Query.ofJson v' = .ok q :=
  toOption_eq_iff h.toOption_read q

theorem listOfJson_iff (h : Reordered (.list .query) v v') (qs : List Query) :
    Query.listOfJson v = .ok qs ↔ Query.listOfJson v' = .ok qs := by
  rw [Query.listOfJson_eq, Query.listOfJson_eq]
  exact toOption_eq_iff h.toOption_read qs

variable {text text' : String} (htext : Json.parse? text = some v)
  (htext' : Json.parse? text' = some v')

include htext htext'

theorem parse_iff (h : Reordered .query v v') (q : Query) :
    Query.parse text = .ok q ↔ Query.parse text' = .ok q := by
  refine toOption_eq_iff ?_ q
  rw [Query.parse_eq htext, Query.parse_eq htext', toOption_bind, toOption_bind,
    h.toOption_checkReserved, toOption_mapError, toOption_mapError]
  exact congrArg _ (funext fun _ => h.toOption_read)

theorem parseUnion_iff (h : Reordered (.list .query) v v') (qs : List Query) :
    Query.parseUnion text = .ok qs ↔ Query.parseUnion text' = .ok qs := by
  refine toOption_eq_iff ?_ qs
  rw [Query.toOption_parseUnion htext, Query.toOption_parseUnion htext', h.isArray,
    h.toOption_checkReserved, h.toOption_read]

end Reordered

theorem documents_eq_of_parse {options : Options} (hsingle : options.withUnion = false)
    {text text' : String} {q : Query} (h : Query.parse text = .ok q)
    (h' : Query.parse text' = .ok q) :
    options.buildDocument text = options.buildDocument text' ∧
      options.generateDocument text = options.generateDocument text' := by
  simp only [Options.buildDocument, Options.generateDocument, hsingle, Bool.false_eq_true, if_false,
    h, h', and_self]

theorem documents_eq_of_parseUnion {options : Options} (hunion : options.withUnion = true)
    {text text' : String} {qs : List Query} (h : Query.parseUnion text = .ok qs)
    (h' : Query.parseUnion text' = .ok qs) :
    options.buildDocument text = options.buildDocument text' ∧
      options.generateDocument text = options.generateDocument text' := by
  simp only [Options.buildDocument, Options.generateDocument, hunion, if_true, h, h', and_self]

/-- Documents that differ in the order of members are read alike: both give the same query or the
same members of a union, and then the same statements and parameters, or both are refused. -/
theorem decoding_ignores_member_order {v v' : Json} :
    (Reordered .query v v' →
      (∀ q, Query.ofJson v = .ok q ↔ Query.ofJson v' = .ok q) ∧
      ∀ text text', Json.parse? text = some v → Json.parse? text' = some v' →
        ∀ q, (Query.parse text = .ok q ↔ Query.parse text' = .ok q) ∧
          (Query.parse text = .ok q → ∀ options : Options, options.withUnion = false →
            options.buildDocument text = options.buildDocument text' ∧
              options.generateDocument text = options.generateDocument text')) ∧
    (Reordered (.list .query) v v' →
      (∀ qs, Query.listOfJson v = .ok qs ↔ Query.listOfJson v' = .ok qs) ∧
      ∀ text text', Json.parse? text = some v → Json.parse? text' = some v' →
        ∀ qs, (Query.parseUnion text = .ok qs ↔ Query.parseUnion text' = .ok qs) ∧
          (Query.parseUnion text = .ok qs → ∀ options : Options, options.withUnion = true →
            options.buildDocument text = options.buildDocument text' ∧
              options.generateDocument text = options.generateDocument text')) := by
  constructor
  · intro h
    refine ⟨h.ofJson_iff, fun text text' htext htext' q => ?_⟩
    have hiff := h.parse_iff htext htext' q
    exact ⟨hiff, fun hq options hsingle => documents_eq_of_parse hsingle hq (hiff.mp hq)⟩
  · intro h
    refine ⟨h.listOfJson_iff, fun text text' htext htext' qs => ?_⟩
    have hiff := h.parseUnion_iff htext htext' qs
    exact ⟨hiff, fun hqs options hunion => documents_eq_of_parseUnion hunion hqs (hiff.mp hqs)⟩

/-- A condition on the rows that a subquery selects. -/
def paidUsers : String :=
  "\x7b\"table\":\"users\",\"conditions\":[\x7b\"clause\":\"id\",\"value\":\x7b\"subquery\":" ++
    "\x7b\"table\":\"paid\",\"limit\":\x7b\"value\":5,\"isStatic\":true\x7d\x7d\x7d\x7d]\x7d"

/-- The same, with the members of each object in another order. -/
def paidUsersReordered : String :=
  "\x7b\"conditions\":[\x7b\"value\":\x7b\"subquery\":\x7b\"limit\":" ++
    "\x7b\"isStatic\":true,\"value\":5\x7d,\"table\":\"paid\"\x7d\x7d,\"clause\":\"id\"\x7d]," ++
    "\"table\":\"users\"\x7d"

/-- The value of `paidUsers`. -/
def paidUsersValue : Json :=
  .obj [("table", .str "users"), ("conditions", .arr [.obj [("clause", .str "id"),
    ("value", .obj [("subquery", .obj [("table", .str "paid"),
      ("limit", .obj [("value", .num (.integer 5)), ("isStatic", .bool true)])])])]])]

/-- The value of `paidUsersReordered`. -/
def paidUsersReorderedValue : Json :=
  .obj [("conditions", .arr [.obj [("value", .obj [("subquery", .obj [("limit",
    .obj [("isStatic", .bool true), ("value", .num (.integer 5))]), ("table", .str "paid")])]),
      ("clause", .str "id")]]), ("table", .str "users")]

/-- Either document is the text of its value, read back level by level. -/
theorem parse?_paidUsers : Json.parse? paidUsers = some paidUsersValue := by
  have htext : paidUsers = paidUsersValue.text := by decide +kernel
  have hlimit : Json.ReadsAs 0 (.num (.integer 5)) (.num (.integer 5)) :=
    Json.readsAs_integer 0 ⟨by decide, by decide⟩
  have hvalue : Json.ReadsAs 6 paidUsersValue paidUsersValue :=
    .obj (.cons ⟨rfl, Json.readsAs_str _ _⟩ <| .cons ⟨rfl, .arr <| .cons (.obj
      (.cons ⟨rfl, Json.readsAs_str _ _⟩ <| .cons ⟨rfl, .obj (.cons ⟨rfl, .obj
        (.cons ⟨rfl, Json.readsAs_str _ _⟩ <| .cons ⟨rfl, .obj
          (.cons ⟨rfl, hlimit⟩ <| .cons ⟨rfl, Json.readsAs_bool _ _⟩ .nil)
          (by decide)⟩ .nil) (by decide)⟩ .nil) (by decide)⟩ .nil) (by decide)) .nil⟩ .nil)
      (by decide)
  rw [htext]
  exact hvalue.parse? (by decide)

theorem parse?_paidUsersReordered :
    Json.parse? paidUsersReordered = some paidUsersReorderedValue := by
  have htext : paidUsersReordered = paidUsersReorderedValue.text := by decide +kernel
  have hlimit : Json.ReadsAs 0 (.num (.integer 5)) (.num (.integer 5)) :=
    Json.readsAs_integer 0 ⟨by decide, by decide⟩
  have hvalue : Json.ReadsAs 6 paidUsersReorderedValue paidUsersReorderedValue :=
    .obj (.cons ⟨rfl, .arr <| .cons (.obj (.cons ⟨rfl, .obj (.cons ⟨rfl, .obj
      (.cons ⟨rfl, .obj (.cons ⟨rfl, Json.readsAs_bool _ _⟩ <| .cons ⟨rfl, hlimit⟩ .nil)
        (by decide)⟩ <| .cons ⟨rfl, Json.readsAs_str _ _⟩ .nil) (by decide)⟩ .nil)
      (by decide)⟩ <| .cons ⟨rfl, Json.readsAs_str _ _⟩ .nil) (by decide)) .nil⟩ <|
      .cons ⟨rfl, Json.readsAs_str _ _⟩ .nil) (by decide)
  rw [htext]
  exact hvalue.parse? (by decide)

/-- From the outside in: the query, its condition, the subquery and the limit of that. -/
theorem reordered_paidUsers : Reordered .query paidUsersValue paidUsersReorderedValue :=
  .head (.members rfl (by decide) (.swap _ _ [])) <|
  .head (.member [] _ <| .item [] [] <| .members rfl (by decide) (.swap _ _ [])) <|
  .head (.member [] _ <| .item [] [] <| .member [] _ <| .member [] [] <|
    .members rfl (by decide) (.swap _ _ [])) <|
  .single (.member [] _ <| .item [] [] <| .member [] _ <| .member [] [] <| .member [] _ <|
    .members rfl (by decide) (.swap _ _ []))

/-- A union of one query. -/
def pagedUnion : String := "[\x7b\"table\":\"a\",\"limit\":1\x7d]"

/-- The same, with the members of the query in another order. -/
def pagedUnionReordered : String := "[\x7b\"limit\":1,\"table\":\"a\"\x7d]"

theorem parse?_pagedUnion : Json.parse? pagedUnion = some
    (.arr [.obj [("table", .str "a"), ("limit", .num (.integer 1))]]) := by
  have htext : pagedUnion =
      (Json.arr [.obj [("table", .str "a"), ("limit", .num (.integer 1))]]).text := by
    decide +kernel
  have hlimit : Json.ReadsAs 0 (.num (.integer 1)) (.num (.integer 1)) :=
    Json.readsAs_integer 0 ⟨by decide, by decide⟩
  rw [htext]
  exact (Json.ReadsAs.arr <| .cons (.obj (.cons ⟨rfl, Json.readsAs_str _ _⟩ <|
    .cons ⟨rfl, hlimit⟩ .nil) (by decide)) .nil).parse? (by decide)

theorem parse?_pagedUnionReordered : Json.parse? pagedUnionReordered = some
    (.arr [.obj [("limit", .num (.integer 1)), ("table", .str "a")]]) := by
  have htext : pagedUnionReordered =
      (Json.arr [.obj [("limit", .num (.integer 1)), ("table", .str "a")]]).text := by
    decide +kernel
  have hlimit : Json.ReadsAs 0 (.num (.integer 1)) (.num (.integer 1)) :=
    Json.readsAs_integer 0 ⟨by decide, by decide⟩
  rw [htext]
  exact (Json.ReadsAs.arr <| .cons (.obj (.cons ⟨rfl, hlimit⟩ <|
    .cons ⟨rfl, Json.readsAs_str _ _⟩ .nil) (by decide)) .nil).parse? (by decide)

theorem decoding_ignores_member_order_paidUsers :
    (∃ q, Query.parse paidUsers = .ok q ∧ Query.parse paidUsersReordered = .ok q) ∧
      ({} : Options).generateDocument paidUsers =
        ({} : Options).generateDocument paidUsersReordered ∧
      ∃ qs, Query.parseUnion pagedUnion = .ok qs ∧
        Query.parseUnion pagedUnionReordered = .ok qs := by
  have hquery : (Query.parse paidUsers).toOption.isSome = true := by decide +kernel
  have hunion : (Query.parseUnion pagedUnion).toOption.isSome = true := by decide +kernel
  obtain ⟨q, hq⟩ := Option.isSome_iff_exists.mp hquery
  obtain ⟨qs, hqs⟩ := Option.isSome_iff_exists.mp hunion
  have hread := eq_ok_of_toOption hq
  have hreads := eq_ok_of_toOption hqs
  obtain ⟨hiff, hsame⟩ := (decoding_ignores_member_order.1 reordered_paidUsers).2
    _ _ parse?_paidUsers parse?_paidUsersReordered q
  obtain ⟨hiff', -⟩ := (decoding_ignores_member_order.2
    (.single (.item [] [] <| .members rfl (by decide) (.swap _ _ [])))).2
    _ _ parse?_pagedUnion parse?_pagedUnionReordered qs
  exact ⟨⟨q, hread, hiff.mp hread⟩, (hsame hread {} rfl).2, qs, hreads, hiff'.mp hreads⟩

end QuerySql
