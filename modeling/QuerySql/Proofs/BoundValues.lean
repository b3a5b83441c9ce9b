import QuerySql.Sql.BindValue
import QuerySql.Sql.Fragment

/-!
# Reading literals back

The value that is bound for a literal is read from its text.

* `BindValue.ofLexical_eq_string`: where the strings among the values come from.
* `BindValue.ofLexical_quoteLiteral`: a string is read back from its literal.
-/

namespace QuerySql

namespace Text

theorem mem_of_mem_undouble {d c : Char} {cs : List Char} (h : c ∈ undouble d cs) : c ∈ cs := by
  fun_induction undouble d cs with
  | case1 => exact h
  | case2 x => exact h
  | case3 x y cs hxy ih =>
    rcases List.mem_cons.mp h with rfl | h
    · exact List.mem_cons.mpr (.inl hxy.1.symm)
    · exact List.mem_cons_of_mem _ (List.mem_cons_of_mem _ (ih h))
  | case4 x y cs _ ih =>
    rcases List.mem_cons.mp h with rfl | h
    · exact List.mem_cons_self
    · exact List.mem_cons_of_mem _ (ih h)

theorem head?_undouble (d : Char) (cs : List Char) : (undouble d cs).head? = cs.head? := by
  fun_cases undouble d cs with
  | case3 x y cs hxy => simp [hxy.1]
  | _ => rfl

theorem getLast?_undouble (d : Char) (cs : List Char) :
    (undouble d cs).getLast? = cs.getLast? := by
  fun_induction undouble d cs with
  | case1 => rfl
  | case2 x => rfl
  | case3 x y cs hxy ih =>
    rw [List.getLast?_cons, List.getLast?_cons, List.getLast?_cons, ih, hxy.2]
    rfl
  | case4 x y cs _ ih => rw [List.getLast?_cons, List.getLast?_cons, ih]

theorem undouble_eq_self {d : Char} {cs : List Char} (h : d ∉ undouble d cs) :
    undouble d cs = cs := by
  fun_induction undouble d cs with
  | case1 => rfl
  | case2 x => rfl
  | case3 x y cs _ _ => exact absurd List.mem_cons_self h
  | case4 x y cs _ ih =>
    simp only [List.mem_cons, not_or] at h
    rw [ih h.2]

/-- Where the text with pairs written once is cut, the text itself can be cut. -/
theorem undouble_eq_append {d : Char} {cs u v : List Char} (h : undouble d cs = u ++ v) :
    ∃ x y, cs = x ++ y ∧ undouble d x = u ∧ undouble d y = v := by
  fun_induction undouble d cs generalizing u with
  | case1 =>
    obtain ⟨rfl, rfl⟩ := List.nil_eq_append_iff.mp h
    exact ⟨[], [], rfl, rfl, rfl⟩
  | case2 x =>
    cases u with
    | nil => exact ⟨[], [x], rfl, rfl, h⟩
    | cons c u =>
      obtain ⟨rfl, hu⟩ := List.cons.inj h
      obtain ⟨rfl, rfl⟩ := List.nil_eq_append_iff.mp hu
      exact ⟨[x], [], rfl, rfl, rfl⟩
  | case3 x y cs hxy ih =>
    obtain ⟨rfl, rfl⟩ := hxy
    cases u with
    | nil => exact ⟨[], y :: y :: cs, rfl, rfl, by simpa [undouble] using h⟩
    | cons c u =>
      obtain ⟨rfl, hu⟩ := List.cons.inj h
      obtain ⟨p, q, rfl, hp, hq⟩ := ih hu
      exact ⟨y :: y :: p, q, rfl, by simp [undouble, hp], hq⟩
  | case4 x y cs hxy ih =>
    cases u with
    | nil => exact ⟨[], x :: y :: cs, rfl, rfl, by simpa [undouble, hxy] using h⟩
    | cons c u =>
      obtain ⟨rfl, hu⟩ := List.cons.inj h
      obtain ⟨p, q, hpq, hp, hq⟩ := ih hu
      refine ⟨x :: p, q, by rw [hpq]; rfl, ?_, hq⟩
      cases p with
      | nil =>
        cases hp
        rfl
      | cons z p =>
        obtain ⟨rfl, -⟩ := List.cons.inj hpq
        rw [undouble, if_neg hxy, hp]

theorem undouble_cons_of_ne {d c : Char} (h : c ≠ d) (cs : List Char) :
    undouble d (c :: cs) = c :: undouble d cs := by
  cases cs with
  | nil => rfl
  | cons c' cs => rw [undouble, if_neg fun hd => h hd.1]

theorem undouble_double (d : Char) (cs : List Char) : undouble d (double d cs) = cs := by
  induction cs with
  | nil => rfl
  | cons c cs ih =>
    rw [double, List.flatMap_cons]
    split
    · next hc =>
      rw [List.cons_append, List.singleton_append, undouble, if_pos ⟨rfl, rfl⟩, hc]
      exact congrArg _ ih
    · next hc =>
      rw [List.singleton_append, undouble_cons_of_ne hc]
      exact congrArg _ ih

end Text

namespace BindValue

theorem unquote?_eq_some_iff {cs content : List Char} :
    unquote? cs = some content ↔
      ∃ body, cs = '\x27' :: (body ++ ['\x27']) ∧ content = Text.undouble '\x27' body := by
  constructor
  · intro h
    unfold unquote? at h
    split at h
    · next rest =>
      split at h
      · next hlast =>
        obtain ⟨body, rfl⟩ := List.getLast?_eq_some_iff.mp hlast
        rw [List.dropLast_concat] at h
        exact ⟨body, rfl, (Option.some.inj h).symm⟩
      · cases h
    · cases h
  · rintro ⟨body, rfl, rfl⟩
    simp [unquote?]

/-- A string that is bound is the content of a quoted literal, or the literal itself. -/
theorem ofLexical_eq_string {l s : String} (h : ofLexical l = .string s) :
    s = l ∨ ∃ body, l.toList = '\x27' :: (body ++ ['\x27']) ∧
      s.toList = Text.undouble '\x27' body := by
  unfold ofLexical at h
  simp only at h
  split at h
  · next content hc =>
    obtain ⟨body, hl, rfl⟩ := unquote?_eq_some_iff.mp hc
    cases h
    exact .inr ⟨body, hl, String.toList_ofList⟩
  · split at h
    · cases h
    · split at h
      · cases h
      · split at h
        · cases h
        · cases h
        · cases h
        · cases h
          exact .inl rfl

/-- A string that is bound has no characters but those of the literal. -/
theorem mem_of_ofLexical_eq_string {l s : String} (h : ofLexical l = .string s) {c : Char}
    (hc : c ∈ s.toList) : c ∈ l.toList := by
  rcases ofLexical_eq_string h with rfl | ⟨body, hl, hs⟩
  · exact hc
  · rw [hs] at hc
    rw [hl]
    exact List.mem_cons_of_mem _ (List.mem_append_left _ (Text.mem_of_mem_undouble hc))

/-- A string is read back from its literal. -/
theorem ofLexical_quoteLiteral (s : String) : ofLexical (Sql.quoteLiteral s) = .string s := by
  have hquoted : unquote? (Sql.quoteLiteral s).toList = some s.toList := by
    refine unquote?_eq_some_iff.mpr ⟨Text.double '\x27' s.toList, ?_, ?_⟩
    · rw [Sql.quoteLiteral, String.toList_ofList, List.cons_append]
    · rw [Text.undouble_double]
  unfold ofLexical
  simp only [hquoted, String.ofList_toList]

end BindValue

end QuerySql
