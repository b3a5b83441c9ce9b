import QuerySql.Proofs.Compilation
import QuerySql.Proofs.Leaves
import QuerySql.Proofs.ReadNumbers

/-!
# Documents that are read

The numbers of a document that is read are of a kind that is read, and no reserved character
stands in it: the parser makes no other numbers, and the check for reserved characters passes no
other strings. The same is said of the leaves of a query, and of the plain values in a record.

* `Json.admitted_of_parse`: what holds of a document.
* `Record.returns_read`: what holds of a record, from what every field of it keeps.
-/

namespace QuerySql

open Compile

/-- Every number in the value is of a kind that is read. -/
inductive Json.Numeric : Json → Prop
  | null : Numeric .null
  | bool (b : Bool) : Numeric (.bool b)
  | num {n : Number} (h : n.Representable) : Numeric (.num n)
  | str (s : String) : Numeric (.str s)
  | arr {items : List Json} (h : ∀ j ∈ items, Numeric j) : Numeric (.arr items)
  | obj {members : List (String × Json)} (h : ∀ m ∈ members, Numeric m.2) : Numeric (.obj members)

/-! ## The parser -/

namespace Json

theorem numeric_of_scalar? {kept : Bool} {cs rest : List Char} {j : Json}
    (h : scalar? kept cs = some (j, rest)) : j.Numeric := by
  have hmap : ∀ {α : Type} {x : Option α} {f : α → Json × List Char},
      (∀ a, (f a).1.Numeric) → x.map f = some (j, rest) → j.Numeric := by
    intro α x f hf hx
    obtain ⟨a, -, ha⟩ := Option.map_eq_some_iff.mp hx
    have hj := hf a
    rw [ha] at hj
    exact hj
  unfold scalar? at h
  split at h
  · exact hmap (fun _ => .null) h
  · exact hmap (fun _ => .bool true) h
  · exact hmap (fun _ => .bool false) h
  · exact hmap (fun _ => .str _) h
  · obtain ⟨⟨t, rest'⟩, -, ht⟩ := Option.bind_eq_some_iff.mp h
    simp only at ht
    split at ht
    · next n hn =>
      cases ht
      exact .num (NumberText.representable_of_value? hn)
    -- A number that is passed over and does not fit is put down as zero.
    · split at ht
      · cases ht
      · cases ht
        exact .num (by decide)

theorem numeric_setMember {key : String} {value : Json} {members : List (String × Json)}
    (hvalue : value.Numeric) (h : ∀ m ∈ members, m.2.Numeric) :
    ∀ m ∈ setMember key value members, m.2.Numeric := by
  induction members with
  | nil =>
    intro m hm
    rw [List.mem_singleton.mp hm]
    exact hvalue
  | cons first rest ih =>
    obtain ⟨k, v⟩ := first
    simp only [List.forall_mem_cons] at h
    rw [setMember]
    split
    · exact List.forall_mem_cons.mpr ⟨hvalue, h.2⟩
    · exact List.forall_mem_cons.mpr ⟨h.1, ih h.2⟩

theorem numeric_ofMembers {members : List (String × Json)} (h : ∀ m ∈ members, m.2.Numeric) :
    (ofMembers members).Numeric := by
  have hfold : ∀ acc : List (String × Json), (∀ m ∈ acc, m.2.Numeric) →
      ∀ m ∈ members.foldl (fun acc m => setMember m.1 m.2 acc) acc, m.2.Numeric := by
    induction members with
    | nil => exact fun acc hacc => hacc
    | cons first rest ih =>
      intro acc hacc
      simp only [List.forall_mem_cons] at h
      exact ih h.2 _ (numeric_setMember h.1 hacc)
  exact .obj (hfold [] fun m hm => absurd hm List.not_mem_nil)

/-- A value at the head of a text, the items of an array and the members of an object have no
numbers but those that are read. -/
theorem numeric_of_valueAt? (kept : Bool) (fuel : Nat) :
    (∀ {depth cs j rest}, valueAt? kept fuel depth cs = some (j, rest) → j.Numeric) ∧
    (∀ {depth cs items rest}, itemsAt? kept fuel depth cs = some (items, rest) →
      ∀ j ∈ items, j.Numeric) ∧
    ∀ {depth cs members rest}, membersAt? kept fuel depth cs = some (members, rest) →
      ∀ m ∈ members, m.2.Numeric := by
  induction fuel with
  | zero =>
    refine ⟨?_, ?_, ?_⟩
    · intro depth cs j rest h
      cases h
    · intro depth cs items rest h
      cases h
    · intro depth cs members rest h
      cases h
  | succ fuel ih =>
    obtain ⟨hvalue, hitems, hmembers⟩ := ih
    refine ⟨?_, ?_, ?_⟩
    · intro depth cs j rest h
      rw [valueAt?] at h
      split at h
      · split at h
        · cases h
        · split at h
          · cases h
            exact .arr fun j hj => absurd hj List.not_mem_nil
          · obtain ⟨⟨items, r⟩, hr, heq⟩ := Option.map_eq_some_iff.mp h
            cases heq
            exact .arr (hitems hr)
      · split at h
        · cases h
        · split at h
          · cases h
            exact .obj fun m hm => absurd hm List.not_mem_nil
          · obtain ⟨⟨members, r⟩, hr, heq⟩ := Option.map_eq_some_iff.mp h
            cases heq
            exact numeric_ofMembers (hmembers hr)
      · exact numeric_of_scalar? h
    · intro depth cs items rest h
      rw [itemsAt?] at h
      split at h
      · cases h
      · next item rest' hitem =>
        split at h
        · obtain ⟨⟨items', r⟩, hr, heq⟩ := Option.map_eq_some_iff.mp h
          cases heq
          exact List.forall_mem_cons.mpr ⟨hvalue hitem, hitems hr⟩
        · cases h
          exact List.forall_mem_singleton.mpr (hvalue hitem)
        · cases h
    · intro depth cs members rest h
      rw [membersAt?] at h
      split at h
      · split at h
        · cases h
        · split at h
          · split at h
            · cases h
            · next value rest' hval =>
              split at h
              · obtain ⟨⟨members', r⟩, hr, heq⟩ := Option.map_eq_some_iff.mp h
                cases heq
                exact List.forall_mem_cons.mpr ⟨hvalue hval, hmembers hr⟩
              · cases h
                exact List.forall_mem_singleton.mpr (hvalue hval)
              · cases h
          · cases h
      · cases h

theorem numeric_of_parse? {text : String} {j : Json} (h : parse? text = some j) : j.Numeric := by
  obtain ⟨⟨value, rest⟩, hvalue, hj⟩ := Option.bind_eq_some_iff.mp h
  simp only at hj
  split at hj
  · cases hj
    exact (numeric_of_valueAt? true _).1 hvalue
  · cases hj

end Json

/-! ## Values of a document -/

/-- What holds of a document that is read, and of all values in it. -/
structure Json.Admitted (j : Json) : Prop where
  numeric : j.Numeric
  unreserved : j.reserved? = none

namespace Json

theorem itemsReserved?_eq_none {items : List Json} (h : itemsReserved? items = none) :
    ∀ j ∈ items, j.reserved? = none := by
  induction items with
  | nil => exact fun j hj => absurd hj List.not_mem_nil
  | cons item rest ih =>
    rw [itemsReserved?, Option.or_eq_none_iff] at h
    exact List.forall_mem_cons.mpr ⟨h.1, ih h.2⟩

theorem membersReserved?_eq_none {members : List (String × Json)}
    (h : membersReserved? members = none) :
    ∀ m ∈ members, hasReserved m.1 = false ∧ m.2.reserved? = none := by
  induction members with
  | nil => exact fun m hm => absurd hm List.not_mem_nil
  | cons first rest ih =>
    obtain ⟨key, value⟩ := first
    rw [membersReserved?] at h
    split at h
    · cases h
    · next hkey =>
      rw [Option.or_eq_none_iff] at h
      exact List.forall_mem_cons.mpr ⟨⟨by simpa using hkey, h.1⟩, ih h.2⟩

namespace Admitted

theorem item {items : List Json} (h : (Json.arr items).Admitted) : ∀ j ∈ items, j.Admitted := by
  intro j hj
  cases h.numeric with
  | arr hnumeric => exact ⟨hnumeric j hj, itemsReserved?_eq_none h.unreserved j hj⟩

theorem member {members : List (String × Json)} (h : (Json.obj members).Admitted) :
    ∀ m ∈ members, hasReserved m.1 = false ∧ m.2.Admitted := by
  intro m hm
  obtain ⟨hkey, hvalue⟩ := membersReserved?_eq_none h.unreserved m hm
  cases h.numeric with
  | obj hnumeric => exact ⟨hkey, hnumeric m hm, hvalue⟩

theorem lookup {members : List (String × Json)} (h : (Json.obj members).Admitted) {key : String}
    {value : Json} (hl : members.lookup key = some value) : value.Admitted := by
  obtain ⟨before, after, hmembers, -⟩ := List.lookup_eq_some_iff.mp hl
  exact (h.member (key, value) (by simp [hmembers])).2

theorem hasReserved_eq {s : String} (h : (Json.str s).Admitted) : hasReserved s = false := by
  have hs := h.unreserved
  simpa [reserved?] using hs

end Admitted

end Json

theorem Json.admitted_of_parse {text : String} {j : Json} (h : Json.parse text = .ok j)
    (hr : j.reserved? = none) : j.Admitted := by
  unfold Json.parse at h
  split at h
  · next hp =>
    cases h
    exact ⟨numeric_of_parse? hp, hr⟩
  · cases h

/-! ## Leaves -/

/-- The number of the leaf, if it has one, is of a kind that is read. -/
def Leaf.Representable : Leaf → Prop
  | .item _ (.num n) | .scalar _ _ (.num n) => n.Representable
  | .bound (.flagged rows _) => rows < Word64.count
  | _ => True

instance : DecidablePred Leaf.Representable := fun l => by
  unfold Leaf.Representable
  split <;> infer_instance

/-- The numbers of the query are of a kind that is read. -/
def Query.Representable (q : Query) : Prop := ∀ l ∈ q.leaves, l.Representable

instance (q : Query) : Decidable q.Representable :=
  inferInstanceAs (Decidable (∀ l ∈ q.leaves, l.Representable))

/-- What holds of the leaves of a query that is read. -/
structure Leaf.Admitted (l : Leaf) : Prop where
  unreserved : l.isUnreserved = true
  representable : l.Representable

theorem Leaf.admitted_name {s : String} (h : hasReserved s = false) : (Leaf.name s).Admitted :=
  ⟨by simpa using h, trivial⟩

theorem Leaf.admitted_spelling {s : String} (h : hasReserved s = false) :
    (Leaf.spelling s).Admitted :=
  ⟨by simpa [Leaf.isUnreserved] using h, trivial⟩

namespace Json.Admitted

variable {j : Json}

theorem field (h : j.Admitted) : (Leaf.field j).Admitted :=
  ⟨by simpa using h.unreserved, trivial⟩

theorem literal (h : j.Admitted) (isStatic : Bool) : (Leaf.item isStatic j).Admitted := by
  refine ⟨by simpa using h.unreserved, ?_⟩
  cases h.numeric with
  | num hn => exact hn
  | _ => trivial

theorem scalar (h : j.Admitted) (datatype : Option String) (isStatic : Bool) :
    (Leaf.scalar datatype isStatic j).Admitted := by
  refine ⟨by simpa using h.unreserved, ?_⟩
  cases h.numeric with
  | num hn => exact hn
  | _ => trivial

theorem object (h : j.Admitted) : (Leaf.object j).Admitted :=
  ⟨by simpa [Leaf.isUnreserved] using h.unreserved, trivial⟩

end Json.Admitted

/-! ## Reading plain values -/

theorem Compile.Returns.trivial {ε α : Type} (x : Except ε α) : Returns (fun _ => True) x :=
  fun _ _ => True.intro

theorem Compile.Returns.map {ε α β : Type} {P : α → Prop} {Q : β → Prop} {x : Except ε α}
    {f : α → β} (h : Returns P x) (hf : ∀ a, P a → Q (f a)) : Returns Q (x.map f) := by
  cases x with
  | error e => exact .error Q e
  | ok a => exact .ok (hf a (h a rfl))

theorem Compile.Returns.mapM {ε α β : Type} {P : β → Prop} {f : α → Except ε β} {xs : List α}
    (h : ∀ x ∈ xs, Returns P (f x)) : Returns (fun ys => ∀ y ∈ ys, P y) (xs.mapM f) := by
  induction xs with
  | nil => exact .ok fun y hy => absurd hy List.not_mem_nil
  | cons x xs ih =>
    rw [List.forall_mem_cons] at h
    rw [List.mapM_cons]
    refine h.1.bind fun y hy => ?_
    exact (ih h.2).bind fun ys hys => .ok (List.forall_mem_cons.mpr ⟨hy, hys⟩)

namespace Json.Admitted

variable {j : Json} (h : j.Admitted)

include h

theorem nullable {α : Type} {P : α → Prop} {x : Except ShapeError α} (hx : Returns P x) :
    Returns (fun o => ∀ a ∈ o, P a) (j.nullable x) := by
  cases j with
  | null => exact .ok (by simp)
  | _ => exact hx.map fun a ha => by simpa using ha

theorem string : Returns (fun s => hasReserved s = false) j.string := by
  cases j with
  | str s => exact .ok h.hasReserved_eq
  | _ => exact .error _ _

theorem string? : Returns (fun o => ∀ s ∈ o, hasReserved s = false) j.string? :=
  h.nullable h.string

theorem strings : Returns (fun ss => ∀ s ∈ ss, hasReserved s = false) j.strings := by
  cases j with
  | arr items => exact .mapM fun item hitem => (h.item item hitem).string
  | _ => exact .error _ _

theorem stringMap : Returns
    (fun ps => ∀ p ∈ ps, hasReserved p.1 = false ∧ hasReserved p.2 = false) j.stringMap := by
  cases j with
  | obj members =>
    refine .mapM fun m hm => ?_
    obtain ⟨hkey, hvalue⟩ := h.member m hm
    exact hvalue.string.map fun s hs => ⟨hkey, hs⟩
  | _ => exact .error _ _

end Json.Admitted

/-- What every field of a record keeps, a record has after it is read. -/
theorem Record.returns_read {ν σ : Type} {r : Record ν σ} {V : ν → Prop} {I : σ → Prop}
    {start : σ} {n : Node ν} (hstart : I start) (hitems : ∀ p ∈ n.items, V p)
    (hmembers : ∀ m ∈ n.members, V m.2)
    (hfields : ∀ f ∈ r.fields, ∀ p s, V p → I s → Returns I (f.read p s)) :
    Returns I (r.read start n) := by
  -- An object: by induction on the members, of which some are no fields.
  have hread : ∀ {members : List (String × ν)} {s : σ}, (∀ m ∈ members, V m.2) → I s →
      Returns I (readMembers r.fields members s) := by
    intro members
    induction members with
    | nil => exact fun _ hs => .ok hs
    | cons first rest ih =>
      obtain ⟨key, part⟩ := first
      intro s hm hs
      rw [List.forall_mem_cons] at hm
      rw [readMembers]
      split
      · exact ih hm.2 hs
      · next field hfind =>
        have hfield := hfields field (List.mem_of_find?_eq_some hfind) part s hm.1 hs
        split
        · next s' hs' => exact ih hm.2 (hfield s' hs')
        · exact .error _ _
  -- An array: by induction on the fields, of which the last may be left out.
  have hreadItems : ∀ {fields : List (Field ν σ)} {parts : List ν} {index : Nat} {s : σ},
      (∀ f ∈ fields, f ∈ r.fields) → (∀ p ∈ parts, V p) → I s →
      Returns I (r.readItems n.items.length fields parts index s) := by
    intro fields
    induction fields with
    | nil =>
      intro parts index s _ _ hs
      cases parts with
      | nil => exact .ok hs
      | cons part parts => exact .error _ _
    | cons field fields ih =>
      intro parts index s hf hp hs
      rw [List.forall_mem_cons] at hf
      cases parts with
      | nil =>
        rw [readItems]
        split
        · exact ih hf.2 hp hs
        · exact .error _ _
      | cons part parts =>
        rw [List.forall_mem_cons] at hp
        rw [readItems]
        have hfield := hfields field hf.1 part s hp.1 hs
        split
        · next s' hs' => exact ih hf.2 hp.2 (hfield s' hs')
        · exact .error _ _
  unfold Record.read
  split
  · split
    · exact .error _ _
    · next s hs =>
      split
      · exact .error _ _
      · exact .ok (hread hmembers hstart s hs)
  · exact hreadItems (fun f hf => hf) hitems hstart
  · exact .error _ _

end QuerySql
