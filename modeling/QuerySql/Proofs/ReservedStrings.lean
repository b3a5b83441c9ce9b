import QuerySql.Proofs.Readings

/-!
# Reserved characters are refused

Two characters are kept for the markers of bound literals. All strings of a document are looked at
before its shape is, those that no part of a query is read from included. So the first string with
such a character is the error whenever there is one, and a query that is read has none.

* `Json.heldStrings`, `Query.heldStrings`: all strings in a document and in a query.
* `Tainted s`: the string has a reserved character.
* `Json.reserved?_eq_find?`: the check finds the first such string of a document.
* `reserved_characters_rejected`: what this says of reading documents.
-/

namespace QuerySql

open Compile

/-! ## Strings with a reserved character -/

/-- One of the two reserved characters stands in the text. -/
def Tainted (s : String) : Prop := '\x02' ∈ s.toList ∨ '\x03' ∈ s.toList

theorem hasReserved_iff_tainted {s : String} : hasReserved s = true ↔ Tainted s := by
  simp only [hasReserved, List.any_eq_true, isReserved, Bool.or_eq_true, decide_eq_true_eq]
  constructor
  · rintro ⟨c, hc, rfl | rfl⟩
    · exact .inl hc
    · exact .inr hc
  · rintro (h | h)
    · exact ⟨_, h, .inl rfl⟩
    · exact ⟨_, h, .inr rfl⟩

theorem not_tainted_iff {s : String} : ¬ Tainted s ↔ hasReserved s = false := by
  rw [← hasReserved_iff_tainted, Bool.not_eq_true]

theorem find?_hasReserved_eq_some {strings : List String} {s : String} :
    strings.find? hasReserved = some s ↔ FirstOf Tainted strings s := by
  simp only [find?_eq_some_iff_firstOf, hasReserved_iff_tainted]

/-! ## The strings of a document -/

namespace Json

mutual

/-- The strings and keys of a value in document order, a key before its value. -/
def heldStrings : Json → List String
  | .str s => [s]
  | .arr items => itemsHeldStrings items
  | .obj members => membersHeldStrings members
  | .null | .bool _ | .num _ => []

/-- The strings of the items of an array. -/
def itemsHeldStrings : List Json → List String
  | [] => []
  | item :: rest => item.heldStrings ++ itemsHeldStrings rest

/-- The strings of the members of an object. -/
def membersHeldStrings : List (String × Json) → List String
  | [] => []
  | (key, value) :: rest => key :: (value.heldStrings ++ membersHeldStrings rest)

end

mutual

/-- The check finds the first string with a reserved character. -/
theorem reserved?_eq_find? : (j : Json) → j.reserved? = j.heldStrings.find? hasReserved
  | .str s => by
    rw [reserved?, heldStrings, List.find?_singleton]
  | .arr items => itemsReserved?_eq_find? items
  | .obj members => membersReserved?_eq_find? members
  | .null | .bool _ | .num _ => rfl

theorem itemsReserved?_eq_find? : (items : List Json) →
    itemsReserved? items = (itemsHeldStrings items).find? hasReserved
  | [] => rfl
  | item :: rest => by
    rw [itemsReserved?, itemsHeldStrings, List.find?_append, reserved?_eq_find? item,
      itemsReserved?_eq_find? rest]

theorem membersReserved?_eq_find? : (members : List (String × Json)) →
    membersReserved? members = (membersHeldStrings members).find? hasReserved
  | [] => rfl
  | (key, value) :: rest => by
    rw [membersReserved?, membersHeldStrings, List.find?_cons, List.find?_append,
      reserved?_eq_find? value, membersReserved?_eq_find? rest]
    cases hasReserved key <;> rfl

end

theorem reserved?_eq_some_iff {j : Json} {s : String} :
    j.reserved? = some s ↔ FirstOf Tainted j.heldStrings s := by
  rw [reserved?_eq_find?, find?_hasReserved_eq_some]

theorem not_tainted_of_reserved? {j : Json} (h : j.reserved? = none) :
    ∀ s ∈ j.heldStrings, ¬ Tainted s := by
  rw [reserved?_eq_find?, List.find?_eq_none] at h
  intro s hs
  rw [← hasReserved_iff_tainted]
  exact h s hs

/-- The check comes before the shape, whose errors are others. -/
theorem checkReserved_bind_eq_error {α : Type} {j : Json} {x : Except ShapeError α} {s : String} :
    (j.checkReserved >>= fun _ => x.mapError DecodeError.shape) = .error (.reservedCharacter s) ↔
      FirstOf Tainted j.heldStrings s := by
  rw [← reserved?_eq_some_iff, checkReserved]
  cases j.reserved? with
  | some t =>
    constructor
    · intro h
      cases h
      rfl
    · intro h
      cases h
      rfl
  | none =>
    constructor
    · intro h
      cases x with
      | error e => cases h
      | ok a => cases h
    · intro h
      cases h

/-! ## Repeated keys -/

theorem lookup_cons_eq_ite (key k : String) (value : Json) (rest : List (String × Json)) :
    ((k, value) :: rest).lookup key = if key = k then some value else rest.lookup key := by
  rw [List.lookup_cons]
  by_cases h : key = k
  · rw [if_pos h, beq_iff_eq.mpr h]
  · rw [if_neg h, beq_false_of_ne h]

theorem lookup_setMember (key k : String) (value : Json) (members : List (String × Json)) :
    (setMember k value members).lookup key =
      if key = k then some value else members.lookup key := by
  induction members with
  | nil => rw [setMember, lookup_cons_eq_ite]
  | cons first rest ih =>
    obtain ⟨k', v⟩ := first
    rw [setMember]
    by_cases hk : k' = k
    · rw [if_pos hk, hk, lookup_cons_eq_ite, lookup_cons_eq_ite]
      by_cases hkey : key = k
      · rw [if_pos hkey, if_pos hkey]
      · rw [if_neg hkey, if_neg hkey, if_neg hkey]
    · rw [if_neg hk, lookup_cons_eq_ite, lookup_cons_eq_ite, ih]
      by_cases hkey : key = k'
      · rw [if_pos hkey, if_pos hkey, if_neg (hkey ▸ hk)]
      · rw [if_neg hkey, if_neg hkey]

/-- An object has the last value of each of its keys. -/
theorem exists_ofMembers_eq (members : List (String × Json)) : ∃ resolved,
    ofMembers members = .obj resolved ∧
      ∀ key, resolved.lookup key = members.reverse.lookup key := by
  refine ⟨_, rfl, fun key => ?_⟩
  have hfold : ∀ acc : List (String × Json),
      (members.foldl (fun acc m => setMember m.1 m.2 acc) acc).lookup key =
        (members.reverse.lookup key).or (acc.lookup key) := by
    induction members with
    | nil => exact fun acc => rfl
    | cons first rest ih =>
      intro acc
      rw [List.foldl_cons, ih, lookup_setMember, List.reverse_cons, List.lookup_append,
        lookup_cons_eq_ite, List.lookup_nil, Option.or_assoc]
      by_cases hkey : key = first.1
      · rw [if_pos hkey, if_pos hkey, Option.some_or]
      · rw [if_neg hkey, if_neg hkey, Option.none_or]
  rw [hfold, List.lookup_nil, Option.or_none]

end Json

/-! ## The strings of a query -/

/-- The strings that stand in a leaf, those within its JSON value included. -/
def Leaf.heldStrings : Leaf → List String
  | .name s | .spelling s => [s]
  | .field j | .item _ j | .scalar _ _ j | .object j => j.heldStrings
  | .bound _ => []

/-- All strings that stand in a query. -/
def Query.heldStrings (q : Query) : List String := q.leaves.flatMap Leaf.heldStrings

theorem Leaf.not_tainted_of_isUnreserved {l : Leaf} (h : l.isUnreserved = true) :
    ∀ s ∈ l.heldStrings, ¬ Tainted s := by
  have hjson : ∀ {j : Json}, j.reserved?.isNone = true → ∀ s ∈ j.heldStrings, ¬ Tainted s :=
    fun hj => Json.not_tainted_of_reserved? (Option.isNone_iff_eq_none.mp hj)
  cases l with
  | name text | spelling text =>
    intro s hs
    rw [List.mem_singleton.mp hs, not_tainted_iff]
    simpa [Leaf.isUnreserved] using h
  | field j | item _ j | scalar _ _ j | object j => exact hjson h
  | bound b => exact fun s hs => absurd hs List.not_mem_nil

theorem Query.Unreserved.not_tainted {q : Query} (h : q.Unreserved) :
    ∀ s ∈ q.heldStrings, ¬ Tainted s := by
  intro s hs
  obtain ⟨l, hl, hs⟩ := List.mem_flatMap.mp hs
  exact Leaf.not_tainted_of_isUnreserved (h l hl) s hs

/-! ## Reading documents -/

theorem Query.parse_eq {text : String} {j : Json} (h : Json.parse? text = some j) :
    Query.parse text = j.checkReserved >>= fun _ => (Query.ofJson j).mapError .shape := by
  rw [Query.parse, Json.parse, h]
  rfl

theorem Query.parseUnion_eq {text : String} {j : Json} (h : Json.parse? text = some j)
    (harray : j.isArray = true) :
    Query.parseUnion text =
      j.checkReserved >>= fun _ => (Query.listOfJson j).mapError .shape := by
  rw [Query.parseUnion, Json.parse, h]
  change (if (!j.isArray) = true then _ else _) = _
  rw [harray]
  rfl

/-- Reading a document ends at its first string with a reserved character, whatever its shape is,
and for no other reason with this error. A query that is read has no such string in it. The document
is one that the reader accepts as JSON: its numbers are in range, it nests less than 128 deep and
its surrogates come in pairs. -/
theorem reserved_characters_rejected {text : String} {j : Json} (h : Json.parse? text = some j) :
    ((∃ s, Query.parse text = .error (.reservedCharacter s)) ↔ ∃ s ∈ j.heldStrings, Tainted s) ∧
    (∀ s, Query.parse text = .error (.reservedCharacter s) ↔ FirstOf Tainted j.heldStrings s) ∧
    (j.isArray = true →
      ((∃ s, Query.parseUnion text = .error (.reservedCharacter s)) ↔
        ∃ s ∈ j.heldStrings, Tainted s) ∧
      ∀ s, Query.parseUnion text = .error (.reservedCharacter s) ↔
        FirstOf Tainted j.heldStrings s) ∧
    (∀ q, Query.parse text = .ok q → ∀ s ∈ q.heldStrings, ¬ Tainted s) ∧
    (∀ qs, Query.parseUnion text = .ok qs → ∀ q ∈ qs, ∀ s ∈ q.heldStrings, ¬ Tainted s) ∧
    ∀ members, ∃ resolved, Json.ofMembers members = .obj resolved ∧
      ∀ key, resolved.lookup key = members.reverse.lookup key := by
  have hparse : ∀ s, Query.parse text = .error (.reservedCharacter s) ↔
      FirstOf Tainted j.heldStrings s := by
    intro s
    rw [Query.parse_eq h, Json.checkReserved_bind_eq_error]
  have hunion : j.isArray = true → ∀ s,
      Query.parseUnion text = .error (.reservedCharacter s) ↔ FirstOf Tainted j.heldStrings s := by
    intro harray s
    rw [Query.parseUnion_eq h harray, Json.checkReserved_bind_eq_error]
  refine ⟨?_, hparse, fun harray => ⟨?_, hunion harray⟩, ?_, ?_, Json.exists_ofMembers_eq⟩
  · simp only [hparse, exists_firstOf_iff]
  · simp only [hunion harray, exists_firstOf_iff]
  · exact fun q hq => (Query.admitted_of_parse text q hq).unreserved.not_tainted
  · exact fun qs hqs q hq => (Query.admitted_of_parseUnion text qs hqs q hq).unreserved.not_tainted

/-- A table that is no string, and a reserved character in the key of a member that is passed
over. -/
def taintedNote : String := "\x7b\"table\":5,\"note\":[\x7b\"a\\u0003\":\"\\u0002\"\x7d]\x7d"

/-- A table that is given twice, and has a reserved character the first time only. -/
def correctedNote : String := "\x7b\"table\":\"a\\u0002\",\"table\":\"b\"\x7d"

theorem reserved_characters_rejected_notes :
    Query.parse taintedNote = .error (.reservedCharacter "a\x03") ∧
      Query.parseUnion ("[" ++ taintedNote ++ "]") = .error (.reservedCharacter "a\x03") ∧
      ∃ q, Query.parse correctedNote = .ok q ∧ q.heldStrings = ["b"] ∧
        ∀ s ∈ q.heldStrings, ¬ Tainted s := by
  have hnote : (Json.parse? taintedNote).map Json.heldStrings =
      some ["table", "note", "a\x03", "\x02"] := by decide +kernel
  have hnotes : (Json.parse? ("[" ++ taintedNote ++ "]")).map
      (fun j => (j.isArray, j.heldStrings)) =
        some (true, ["table", "note", "a\x03", "\x02"]) := by decide +kernel
  have hquery : (Query.parse correctedNote).toOption.map Query.heldStrings = some ["b"] := by
    decide +kernel
  have hfirst : FirstOf Tainted ["table", "note", "a\x03", "\x02"] "a\x03" :=
    find?_hasReserved_eq_some.mp (by decide)
  obtain ⟨j, hj, hheld⟩ := Option.map_eq_some_iff.mp hnote
  obtain ⟨js, hjs, heq⟩ := Option.map_eq_some_iff.mp hnotes
  obtain ⟨harray, hholds⟩ := Prod.mk.inj heq
  obtain ⟨q, hq, hstrings⟩ := Option.map_eq_some_iff.mp hquery
  have hread : Query.parse correctedNote = .ok q := eq_ok_of_toOption hq
  obtain ⟨k, hk⟩ : ∃ k, Json.parse? correctedNote = some k := by
    rw [← Option.isSome_iff_exists]
    decide +kernel
  refine ⟨?_, ?_, q, hread, hstrings, (reserved_characters_rejected hk).2.2.2.1 q hread⟩
  · exact ((reserved_characters_rejected hj).2.1 _).mpr (hheld ▸ hfirst)
  · exact (((reserved_characters_rejected hjs).2.2.1 harray).2 _).mpr (hholds ▸ hfirst)

end QuerySql
