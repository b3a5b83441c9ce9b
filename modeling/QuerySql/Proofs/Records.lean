import Mathlib.Data.List.Nodup
import Mathlib.Data.List.Pairwise
import Mathlib.Data.List.Perm.Basic
import QuerySql.Query.Record

/-!
# Records and the order of their members

The members of an object are read one after the other, each into a field of its own. In another
order the first bad member may be another one, but whether there is one and what the record is in
the end stay the same, as long as no two fields get in each other's way.

* `Field.Commutes`: two fields can be read in either order.
* `Record.toOption_read_perm`: a record does not depend on the order of the members.
* `Record.toOption_read_member`, `Record.toOption_read_item`: one part of a record may be exchanged
  for another that is read alike.
-/

namespace QuerySql

/-! ## Outcomes -/

section Outcomes

variable {ε α β : Type}

theorem toOption_bind (x : Except ε α) (f : α → Except ε β) :
    (x >>= f).toOption = x.toOption.bind fun a => (f a).toOption := by
  cases x <;> rfl

theorem toOption_map (x : Except ε α) (f : α → β) : (x.map f).toOption = x.toOption.map f := by
  cases x <;> rfl

theorem toOption_mapError {ε' : Type} (x : Except ε α) (f : ε → ε') :
    (x.mapError f).toOption = x.toOption := by
  cases x <;> rfl

theorem toOption_bind_congr {x y : Except ε α} (h : x.toOption = y.toOption)
    (f : α → Except ε β) : (x >>= f).toOption = (y >>= f).toOption := by
  rw [toOption_bind, toOption_bind, h]

theorem toOption_mapM (f : α → Except ε β) (xs : List α) :
    (xs.mapM f).toOption = xs.mapM fun x => (f x).toOption := by
  induction xs with
  | nil => rfl
  | cons x xs ih =>
    rw [List.mapM_cons, List.mapM_cons, toOption_bind, Option.bind_eq_bind]
    congr 1
    funext b
    rw [toOption_bind, ih]
    rfl

/-- One element of a list may be exchanged for another with the same outcome. -/
theorem toOption_mapM_exchange {f : α → Except ε β} {x y : α}
    (h : (f x).toOption = (f y).toOption) (pre post : List α) :
    ((pre ++ x :: post).mapM f).toOption = ((pre ++ y :: post).mapM f).toOption := by
  rw [toOption_mapM, toOption_mapM]
  simp only [List.mapM_append, List.mapM_cons, h]

theorem toOption_eq_iff {x y : Except ε α} (h : x.toOption = y.toOption) (a : α) :
    x = .ok a ↔ y = .ok a := by
  cases x <;> cases y <;> simp_all [Except.toOption]

end Outcomes

/-! ## Members by key -/

section Lookup

variable {α : Type}

theorem lookup_eq_some_iff_mem {ms : List (String × α)} (hnodup : (ms.map Prod.fst).Nodup)
    {key : String} {a : α} : ms.lookup key = some a ↔ (key, a) ∈ ms := by
  induction ms with
  | nil => simp
  | cons m ms ih =>
    obtain ⟨k, b⟩ := m
    rw [List.map_cons, List.nodup_cons] at hnodup
    rw [List.lookup_cons, List.mem_cons]
    by_cases hk : key = k
    · subst hk
      have hnot : (key, a) ∉ ms := fun hm => hnodup.1 (List.mem_map.mpr ⟨_, hm, rfl⟩)
      simp [hnot, eq_comm]
    · rw [beq_false_of_ne hk]
      simp only [Prod.mk.injEq, hk, false_and, false_or]
      exact ih hnodup.2

/-- Distinct keys are found in any order. -/
theorem lookup_perm {ms ms' : List (String × α)} (hnodup : (ms.map Prod.fst).Nodup)
    (hperm : ms.Perm ms') (key : String) : ms.lookup key = ms'.lookup key := by
  have hnodup' : (ms'.map Prod.fst).Nodup := (hperm.map Prod.fst).nodup_iff.mp hnodup
  apply Option.ext
  intro a
  rw [lookup_eq_some_iff_mem hnodup, lookup_eq_some_iff_mem hnodup', hperm.mem_iff]

/-- A key is found at the member that was exchanged, or at the same place as before. -/
theorem lookup_exchange (pre post : List (String × α)) (k : String) (a b : α) (key : String) :
    (pre ++ (k, a) :: post).lookup key = (pre ++ (k, b) :: post).lookup key ∨
      key = k ∧ (pre ++ (k, a) :: post).lookup key = some a ∧
        (pre ++ (k, b) :: post).lookup key = some b := by
  simp only [List.lookup_append, List.lookup_cons]
  cases hpre : pre.lookup key with
  | some c => exact .inl rfl
  | none =>
    by_cases hk : key = k
    · subst hk
      simp
    · simp [beq_false_of_ne hk]

theorem lookup_map_value {β : Type} (f : α → β) (ms : List (String × α)) (key : String) :
    (ms.map fun m => (m.1, f m.2)).lookup key = (ms.lookup key).map f := by
  induction ms with
  | nil => rfl
  | cons m ms ih =>
    rw [List.map_cons, List.lookup_cons, List.lookup_cons, ih]
    cases key == m.1 <;> rfl

end Lookup

/-! ## Fields -/

variable {ν σ : Type}

/-- Two fields can be read in either order. -/
def Field.Commutes (f g : Field ν σ) : Prop :=
  ∀ p q s, (f.read p s >>= g.read q).toOption = (g.read q s >>= f.read p).toOption

theorem Field.Commutes.symm {f g : Field ν σ} (h : f.Commutes g) : g.Commutes f :=
  fun p q s => (h q p s).symm

/-- Fields that are stored in different places can be read in either order. -/
theorem Field.commutes_of_stores {α β : Type} {key key' : String} {optional optional' : Bool}
    {x : ν → Except ShapeError α} {y : ν → Except ShapeError β} {put : α → σ → σ}
    {put' : β → σ → σ} (h : ∀ a b s, put' b (put a s) = put a (put' b s)) :
    Field.Commutes ⟨key, optional, fun p s => x p >>= fun a => pure (put a s)⟩
      ⟨key', optional', fun p s => y p >>= fun b => pure (put' b s)⟩ := by
  intro p q s
  simp only
  cases x p with
  | error e => cases y q <;> rfl
  | ok a =>
    cases y q with
    | error e => rfl
    | ok b => exact congrArg some (h a b s)

namespace Record

/-- What one member does to a record, unless it is bad. -/
def readMember (fields : List (Field ν σ)) (m : String × ν) (s : σ) : Option σ :=
  match fields.find? (·.key == m.1) with
  | none => some s
  | some field => (field.read m.2 s).toOption

theorem toOption_readMembers_cons (fields : List (Field ν σ)) (m : String × ν)
    (ms : List (String × ν)) (s : σ) :
    (readMembers fields (m :: ms) s).toOption =
      (readMember fields m s).bind fun s => (readMembers fields ms s).toOption := by
  rw [readMembers, readMember]
  cases fields.find? (·.key == m.1) with
  | none => rfl
  | some field => cases hread : field.read m.2 s <;> simp [hread, Except.toOption]

theorem toOption_readMembers (fields : List (Field ν σ)) (ms : List (String × ν)) (s : σ) :
    (readMembers fields ms s).toOption =
      ms.foldl (fun o m => o.bind (readMember fields m)) (some s) := by
  have hnone : ∀ ms : List (String × ν),
      ms.foldl (fun o m => o.bind (readMember fields m)) none = none := by
    intro ms
    induction ms with
    | nil => rfl
    | cons m ms ih => exact ih
  induction ms generalizing s with
  | nil => rfl
  | cons m ms ih =>
    rw [toOption_readMembers_cons, List.foldl_cons, Option.bind_some]
    cases readMember fields m s with
    | none => rw [hnone]; rfl
    | some s => exact ih s

theorem readMember_of_none {fields : List (Field ν σ)} {m : String × ν}
    (h : fields.find? (·.key == m.1) = none) : readMember fields m = some := by
  funext s
  rw [readMember, h]

theorem readMember_of_some {fields : List (Field ν σ)} {m : String × ν} {f : Field ν σ}
    (h : fields.find? (·.key == m.1) = some f) :
    readMember fields m = fun s => (f.read m.2 s).toOption := by
  funext s
  rw [readMember, h]

/-- Members with different keys can be read in either order. -/
theorem readMember_comm {fields : List (Field ν σ)} (hcomm : fields.Pairwise Field.Commutes)
    {m m' : String × ν} (hkey : m.1 ≠ m'.1) (s : σ) :
    (readMember fields m s).bind (readMember fields m') =
      (readMember fields m' s).bind (readMember fields m) := by
  cases hf : fields.find? (·.key == m.1) with
  | none => rw [readMember_of_none hf, Option.bind_some, Option.bind_fun_some]
  | some f =>
    cases hg : fields.find? (·.key == m'.1) with
    | none => rw [readMember_of_none hg, Option.bind_some, Option.bind_fun_some]
    | some g =>
      have hsymm : Std.Symm (@Field.Commutes ν σ) := ⟨fun _ _ h => h.symm⟩
      have hne : f ≠ g := by
        rintro rfl
        have hfkey : f.key = m.1 := by simpa using List.find?_some hf
        have hgkey : f.key = m'.1 := by simpa using List.find?_some hg
        exact hkey (hfkey.symm.trans hgkey)
      have hfg := hcomm.forall (List.mem_of_find?_eq_some hf) (List.mem_of_find?_eq_some hg) hne
      have hread := hfg m.2 m'.2 s
      rw [toOption_bind, toOption_bind] at hread
      rw [readMember_of_some hf, readMember_of_some hg]
      exact hread

theorem toOption_readMembers_perm {fields : List (Field ν σ)}
    (hcomm : fields.Pairwise Field.Commutes) {ms ms' : List (String × ν)}
    (hnodup : (ms.map Prod.fst).Nodup) (hperm : ms.Perm ms') (s : σ) :
    (readMembers fields ms s).toOption = (readMembers fields ms' s).toOption := by
  rw [toOption_readMembers, toOption_readMembers]
  refine hperm.foldl_eq' (fun m hm m' hm' o => ?_) (some s)
  by_cases heq : m = m'
  · rw [heq]
  have hkey : m.1 ≠ m'.1 := fun hkey => heq (List.inj_on_of_nodup_map hnodup hm hm' hkey)
  cases o with
  | none => rfl
  | some s => exact readMember_comm hcomm hkey s

/-- An object gives what its members give, unless a required one is absent. -/
theorem toOption_read_obj (r : Record ν σ) (start : σ) (members : List (String × Json))
    (items : List ν) (ms : List (String × ν)) :
    (r.read start ⟨.obj members, items, ms⟩).toOption =
      (readMembers r.fields ms start).toOption.filter fun _ =>
        (r.required.find? fun key => (ms.lookup key).isNone).isNone := by
  simp only [read]
  cases readMembers r.fields ms start with
  | error e => rfl
  | ok s => cases r.required.find? fun key => (ms.lookup key).isNone <;> rfl

/-- A record does not depend on the order of the members of the object. -/
theorem toOption_read_perm (r : Record ν σ) (hcomm : r.fields.Pairwise Field.Commutes) (start : σ)
    {members members' : List (String × Json)} {items items' : List ν} {ms ms' : List (String × ν)}
    (hnodup : (ms.map Prod.fst).Nodup) (hperm : ms.Perm ms') :
    (r.read start ⟨.obj members, items, ms⟩).toOption =
      (r.read start ⟨.obj members', items', ms'⟩).toOption := by
  rw [toOption_read_obj, toOption_read_obj, toOption_readMembers_perm hcomm hnodup hperm]
  simp only [lookup_perm hnodup hperm]

theorem toOption_readMembers_append (fields : List (Field ν σ)) (ms ms' : List (String × ν))
    (s : σ) :
    (readMembers fields (ms ++ ms') s).toOption =
      (readMembers fields ms s).toOption.bind fun s => (readMembers fields ms' s).toOption := by
  induction ms generalizing s with
  | nil => rfl
  | cons m ms ih =>
    rw [List.cons_append, toOption_readMembers_cons, toOption_readMembers_cons, Option.bind_assoc]
    simp only [ih]

/-- A member may be exchanged for one that its field reads alike. -/
theorem toOption_read_member (r : Record ν σ) (start : σ) {members members' : List (String × Json)}
    {items items' : List ν} (pre post : List (String × ν)) {key : String} {p q : ν}
    (h : ∀ f ∈ r.fields, f.key = key → ∀ s, (f.read p s).toOption = (f.read q s).toOption) :
    (r.read start ⟨.obj members, items, pre ++ (key, p) :: post⟩).toOption =
      (r.read start ⟨.obj members', items', pre ++ (key, q) :: post⟩).toOption := by
  have hmember : readMember r.fields (key, p) = readMember r.fields (key, q) := by
    cases hf : r.fields.find? (·.key == key) with
    | none => rw [readMember_of_none hf, readMember_of_none hf]
    | some f =>
      rw [readMember_of_some hf, readMember_of_some hf]
      have hkey : f.key = key := by simpa using List.find?_some hf
      funext s
      exact h f (List.mem_of_find?_eq_some hf) hkey s
  have hlookup : ∀ k, ((pre ++ (key, p) :: post).lookup k).isNone =
      ((pre ++ (key, q) :: post).lookup k).isNone := by
    intro k
    rcases lookup_exchange pre post key p q k with heq | ⟨-, hp, hq⟩
    · rw [heq]
    · rw [hp, hq]
      rfl
  simp only [toOption_read_obj, toOption_readMembers_append, toOption_readMembers_cons, hmember,
    hlookup]

theorem toOption_readItems_exchange (r : Record ν σ) (length : Nat) {fields : List (Field ν σ)}
    (pre post : List ν) {p q : ν} (index : Nat) (s : σ)
    (h : ∀ f, fields[pre.length]? = some f → ∀ s, (f.read p s).toOption = (f.read q s).toOption) :
    (r.readItems length fields (pre ++ p :: post) index s).toOption =
      (r.readItems length fields (pre ++ q :: post) index s).toOption := by
  induction pre generalizing fields index s with
  | nil =>
    cases fields with
    | nil => rfl
    | cons f fields =>
      have hread := h f rfl s
      simp only [List.nil_append, readItems]
      cases hp : f.read p s <;> cases hq : f.read q s <;> simp_all [Except.toOption]
  | cons part pre ih =>
    cases fields with
    | nil => rfl
    | cons f fields =>
      simp only [List.cons_append, readItems]
      cases f.read part s with
      | error e => rfl
      | ok s => exact ih _ _ fun g hg => h g (by simpa using hg)

/-- So may an item, if the record is written as an array. -/
theorem toOption_read_item (r : Record ν σ) (start : σ) {items items' : List Json}
    {ms ms' : List (String × ν)} (pre post : List ν) {p q : ν}
    (h : ∀ f, r.fields[pre.length]? = some f →
      ∀ s, (f.read p s).toOption = (f.read q s).toOption) :
    (r.read start ⟨.arr items, pre ++ p :: post, ms⟩).toOption =
      (r.read start ⟨.arr items', pre ++ q :: post, ms'⟩).toOption := by
  have hlength : (pre ++ q :: post).length = (pre ++ p :: post).length := by simp
  simp only [read, hlength]
  exact r.toOption_readItems_exchange _ pre post 0 start h

end Record

end QuerySql
