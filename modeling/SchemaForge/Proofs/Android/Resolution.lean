import SchemaForge.Android.Resolved
import SchemaForge.Proofs.Results
import SchemaForge.Proofs.Text.Blank

namespace SchemaForge

/-! # Resolving an entity

An entity is resolved when there is an enumeration for every column of ordinals and one column at
most is the primary key. Otherwise the first column without an enumeration is reported, and a second
key only where there is no such column. The run, the database and the language have no part in it.
-/

/-! ## Columns -/

/-- A field for whose ordinals there is an enumeration: that of a table, a class of its own, or one
made of its literals. -/
def Field.HasEnumeration (f : Field) : Prop :=
  (f.foreignKind = .enumeration ∧ Text.Filled f.foreignTable?) ∨ Text.Filled f.enumClass?
    ∨ f.enumValues ≠ []

/-- A field that can be resolved: if it holds ordinals, there is an enumeration for them. -/
def Field.Resolvable (f : Field) : Prop :=
  f.isEnumeration → f.HasEnumeration

namespace Scope

variable {s : Scope} {f : Field}

/-- The enumeration of a field that has one; what is nested has literals. -/
theorem enumRef_of_hasEnumeration (h : f.HasEnumeration) :
    ∃ ref, s.enumRef f = .ok ref ∧ ∀ literals, ref.origin = .nested literals → literals ≠ [] := by
  unfold enumRef
  -- the enumeration is looked for in a table, then in a class, then among the literals
  cases htable : f.refersToEnumeration && f.isForeignKey with
  | true =>
    cases hvalues : f.enumValues with
    | nil => exact ⟨_, rfl, by simp⟩
    | cons v vs => exact ⟨_, rfl, by simp⟩
  | false =>
    cases hclass : Text.filled? f.enumClass? with
    | some name => exact ⟨_, rfl, by simp⟩
    | none =>
      cases hvalues : f.enumValues with
      | cons v vs => exact ⟨_, rfl, by simp⟩
      | nil =>
        rcases h with ⟨hkind, htext⟩ | htext | hne
        · simp [Field.refersToEnumeration, Field.isForeignKey, hkind,
            Text.isSome_filled?_iff.2 htext] at htable
        · simp [hclass, ← Text.isSome_filled?_iff] at htext
        · exact absurd hvalues hne

/-- A field without an enumeration is reported with its entity. -/
theorem enumRef_of_not_hasEnumeration (h : ¬ f.HasEnumeration) :
    s.enumRef f = .error (.emptyEnumeration s.entity.name f.name) := by
  simp only [Field.HasEnumeration, not_or, not_and, ne_eq, not_not] at h
  obtain ⟨htable, hclass, hvalues⟩ := h
  have hforeign : (f.refersToEnumeration && f.isForeignKey) = false := by
    rw [Bool.and_eq_false_iff, Field.isForeignKey, ← Bool.not_eq_true, ← Bool.not_eq_true,
      Text.isSome_filled?_iff]
    by_cases hkind : f.foreignKind = .enumeration
    · exact .inr (htable hkind)
    · exact .inl (by simpa [Field.refersToEnumeration] using hkind)
  have hnone : Text.filled? f.enumClass? = none := Text.filled?_eq_none_iff.2 hclass
  simp [enumRef, hforeign, hnone, hvalues]

/-- What a resolvable field is resolved to; what is nested has literals. -/
theorem column_of_resolvable (h : f.Resolvable) :
    ∃ c, s.column f = .ok c ∧ ∀ e, c.nestedEnum? = some e → e.2 ≠ [] := by
  unfold column contentOf
  cases henum : f.isEnumeration with
  | false =>
    refine ⟨_, rfl, ?_⟩
    intro e he
    cases hdate : f.type.isDate <;> simp [Column.nestedEnum?, Column.enumRef?, hdate] at he
  | true =>
    obtain ⟨⟨name, origin⟩, href, hliterals⟩ := enumRef_of_hasEnumeration (s := s) (h henum)
    refine ⟨_, by rw [href]; rfl, ?_⟩
    intro e he
    cases origin with
    | nested literals =>
      have heq : (name, literals) = e := by simpa [Column.nestedEnum?, Column.enumRef?] using he
      simpa [← heq] using hliterals literals rfl
    | imported fullName => simp [Column.nestedEnum?, Column.enumRef?] at he
    | elsewhere => simp [Column.nestedEnum?, Column.enumRef?] at he

theorem column_of_not_resolvable (h : ¬ f.Resolvable) :
    s.column f = .error (.emptyEnumeration s.entity.name f.name) := by
  rw [Field.Resolvable, Classical.not_imp] at h
  simp [column, contentOf, h.1, enumRef_of_not_hasEnumeration h.2, Except.map]

/-- A field is resolved when it is resolvable. -/
theorem exists_column_iff : (∃ c, s.column f = .ok c) ↔ f.Resolvable := by
  constructor
  · rintro ⟨c, hc⟩
    by_contra h
    rw [column_of_not_resolvable h] at hc
    cases hc
  · intro h
    obtain ⟨c, hc, -⟩ := column_of_resolvable h
    exact ⟨c, hc⟩

theorem column_eq_error_iff {fault : Fault} :
    s.column f = .error fault ↔
      ¬ f.Resolvable ∧ fault = .emptyEnumeration s.entity.name f.name := by
  by_cases h : f.Resolvable
  · obtain ⟨c, hc, -⟩ := column_of_resolvable (s := s) h
    simp [hc, h]
  · rw [column_of_not_resolvable h]
    simp [h, eq_comm]

/-- A list of fields is resolved when each of them is resolvable. -/
theorem exists_columns_iff {fields : List Field} :
    (∃ columns, fields.mapM s.column = .ok columns) ↔ ∀ f ∈ fields, f.Resolvable := by
  simp only [exists_mapM_eq_ok_iff, exists_column_iff]

/-- A column keeps the field that it is made of. -/
theorem field_of_column {c : Column} (h : s.column f = .ok c) : c.field = f := by
  unfold column at h
  cases hcontent : s.contentOf f with
  | error e => simp [hcontent, Except.map] at h
  | ok content =>
    have hc : Column.mk f content = c := by simpa [hcontent, Except.map] using h
    simp [← hc]

/-- What a column holds is decided by its field: a literal of the enumeration that is found for it,
a date, or a plain value. -/
theorem content_of_column {c : Column} (h : s.column f = .ok c) :
    (f.isEnumeration = true ∧ ∃ ref, s.enumRef f = .ok ref
        ∧ c.content = .enumeration ref (s.initialLiteral? f ref.origin))
      ∨ (f.isEnumeration = false
        ∧ c.content = if f.type.isDate then .date s.options.dates else .plain) := by
  unfold column contentOf at h
  cases henum : f.isEnumeration with
  | false =>
    rw [henum] at h
    cases h
    exact .inr ⟨rfl, rfl⟩
  | true =>
    rw [henum, if_pos rfl] at h
    cases href : s.enumRef f with
    | error fault =>
      rw [href] at h
      cases h
    | ok ref =>
      rw [href] at h
      cases h
      exact .inl ⟨rfl, ref, rfl, rfl⟩

/-- A column holds a literal, a date or a plain value. -/
theorem content_cases {c : Column} (h : s.column f = .ok c) :
    (f.isEnumeration = true ∧ ∃ ref literal?, c.content = .enumeration ref literal?)
      ∨ (f.isEnumeration = false ∧ f.type.isDate = true ∧ c.content = .date s.options.dates)
      ∨ (f.isEnumeration = false ∧ f.type.isDate = false ∧ c.content = .plain) := by
  rcases content_of_column h with ⟨henum, ref, -, hcontent⟩ | ⟨henum, hcontent⟩
  · exact .inl ⟨henum, ref, _, hcontent⟩
  · cases hdate : f.type.isDate with
    | true => exact .inr (.inl ⟨henum, rfl, by rw [hcontent, hdate, if_pos rfl]⟩)
    | false =>
      exact .inr (.inr ⟨henum, rfl, by rw [hcontent, hdate, if_neg Bool.false_ne_true]⟩)

/-- The literals of an enumeration that is nested are those that the field lists. -/
theorem enumValues_of_enumRef {ref : EnumRef} (h : s.enumRef f = .ok ref) {literals : List String}
    (hnested : ref.origin = .nested literals) : literals = f.enumValues := by
  unfold enumRef at h
  -- the class of a table may be nested, one that the field names never is, and any other always is
  split at h
  · dsimp only at h
    split at h
    · cases h
      cases hnested
    · cases h
      cases hnested
      rfl
  · split at h
    · cases h
      cases hnested
    · split at h
      · cases h
      · cases h
        cases hnested
        rfl

theorem map_field_of_mapM {fields : List Field} {columns : List Column}
    (h : fields.mapM s.column = .ok columns) : columns.map (·.field) = fields := by
  simpa using map_eq_of_mapM_eq_ok h (·.field) id fun _ _ => field_of_column

/-! ## Keys -/

/-- The keys among the columns are those among the fields. -/
theorem map_field_filter_isKey (columns : List Column) :
    (columns.filter (·.isKey)).map (·.field) = (columns.map (·.field)).filter (·.primaryKey) := by
  simp [List.filter_map, Column.isKey, Function.comp_def]

/-- The check of the keys passes when there is one at most. -/
theorem checkKeys_eq_ok_iff {columns : List Column} :
    s.checkKeys columns = .ok () ↔ (columns.filter (·.isKey)).length ≤ 1 := by
  unfold checkKeys
  split
  · next hkeys => simp [hkeys]
  · next hkeys =>
    cases hlist : columns.filter (·.isKey) with
    | nil => simp
    | cons first rest =>
      cases rest with
      | nil => simp
      | cons second rest => exact absurd hlist (hkeys first second rest)

/-- The check of the keys reports the second one. -/
theorem checkKeys_eq_error_iff {columns : List Column} {fault : Fault} :
    s.checkKeys columns = .error fault ↔ ∃ first second rest,
      columns.filter (·.isKey) = first :: second :: rest
        ∧ fault = .duplicateKey s.entity.name second.variableName := by
  unfold checkKeys
  split
  · next first second rest hkeys => simp [hkeys, eq_comm]
  · next hkeys =>
    simp only [reduceCtorEq, false_iff, not_exists, not_and]
    intro first second rest hlist
    exact absurd hlist (hkeys first second rest)

end Scope

/-! ## Entities -/

/-- An entity that can be resolved. -/
structure Entity.Resolvable (e : Entity) : Prop where
  columns : ∀ f ∈ e.fields, f.Resolvable
  keys : (e.fields.filter (·.primaryKey)).length ≤ 1

namespace Scope

variable {s : Scope}

theorem resolve_eq_ok_iff {r : Resolved} :
    s.resolve = .ok r ↔
      r.toScope = s ∧ s.entity.fields.mapM s.column = .ok r.columns
        ∧ (s.entity.fields.filter (·.primaryKey)).length ≤ 1 := by
  -- the keys are counted among the columns, which stand for the fields one by one
  have hkeys : ∀ columns, s.entity.fields.mapM s.column = .ok columns →
      (s.checkKeys columns = .ok () ↔ (s.entity.fields.filter (·.primaryKey)).length ≤ 1) := by
    intro columns hcolumns
    rw [checkKeys_eq_ok_iff, ← map_field_of_mapM hcolumns, ← map_field_filter_isKey,
      List.length_map]
  unfold resolve
  rw [bind_eq_ok_iff]
  constructor
  · rintro ⟨columns, hcolumns, hrest⟩
    obtain ⟨⟨⟩, hcheck, hr⟩ := bind_eq_ok_iff.1 hrest
    cases hr
    exact ⟨rfl, hcolumns, (hkeys columns hcolumns).1 hcheck⟩
  · rintro ⟨rfl, hcolumns, hlength⟩
    exact ⟨r.columns, hcolumns,
      bind_eq_ok_iff.2 ⟨(), (hkeys r.columns hcolumns).2 hlength, rfl⟩⟩

theorem exists_resolve_iff : (∃ r, s.resolve = .ok r) ↔ s.entity.Resolvable := by
  constructor
  · rintro ⟨r, hr⟩
    obtain ⟨-, hmap, hkeys⟩ := resolve_eq_ok_iff.1 hr
    exact ⟨exists_columns_iff.1 ⟨r.columns, hmap⟩, hkeys⟩
  · intro h
    obtain ⟨columns, hmap⟩ := exists_columns_iff.2 h.columns
    exact ⟨⟨s, columns⟩, resolve_eq_ok_iff.2 ⟨rfl, hmap, h.keys⟩⟩

/-- An entity is not resolved because of the first field without an enumeration, or because of a
second key where there is no such field. -/
theorem resolve_eq_error_iff {fault : Fault} :
    s.resolve = .error fault ↔
      (∃ before f after, s.entity.fields = before ++ f :: after
        ∧ (∀ g ∈ before, g.Resolvable) ∧ ¬ f.Resolvable
        ∧ fault = .emptyEnumeration s.entity.name f.name)
      ∨ ((∀ f ∈ s.entity.fields, f.Resolvable) ∧ ∃ first second rest,
        s.entity.fields.filter (·.primaryKey) = first :: second :: rest
          ∧ fault = .duplicateKey s.entity.name second.variableName) := by
  unfold resolve
  rw [bind_eq_error_iff]
  apply or_congr
  · simp only [mapM_eq_error_iff, exists_column_iff, column_eq_error_iff]
  · constructor
    · rintro ⟨columns, hcolumns, hrest⟩
      rcases bind_eq_error_iff.1 hrest with hkeys | ⟨-, -, hr⟩
      · obtain ⟨first, second, rest, hfilter, rfl⟩ := checkKeys_eq_error_iff.1 hkeys
        have hfields : s.entity.fields.filter (·.primaryKey) =
            first.field :: second.field :: rest.map (·.field) := by
          rw [← map_field_of_mapM hcolumns, ← map_field_filter_isKey, hfilter]
          rfl
        exact ⟨exists_columns_iff.1 ⟨columns, hcolumns⟩, first.field, second.field, _, hfields, rfl⟩
      · cases hr
    · rintro ⟨hresolvable, first, second, rest, hfields, rfl⟩
      obtain ⟨columns, hcolumns⟩ := exists_columns_iff.2 hresolvable
      rw [← map_field_of_mapM hcolumns, ← map_field_filter_isKey] at hfields
      obtain ⟨c, cs, hfilter, -, hcs⟩ := List.map_eq_cons_iff.1 hfields
      obtain ⟨d, ds, rfl, rfl, -⟩ := List.map_eq_cons_iff.1 hcs
      exact ⟨columns, hcolumns,
        bind_eq_error_iff.2 (.inl (checkKeys_eq_error_iff.2 ⟨c, d, ds, hfilter, rfl⟩))⟩

end Scope

/-! ## Nested enumerations -/

namespace Resolved

/-- Keeps an enumeration, unless there is one with its name. -/
def keepNested (kept : List (String × List String)) (e : String × List String) :
    List (String × List String) :=
  if kept.any (·.1 == e.1) then kept else kept ++ [e]

theorem nestedEnums_eq_foldl (r : Resolved) :
    r.nestedEnums = (r.columns.filterMap (·.nestedEnum?)).foldl keepNested [] := rfl

/-- The first enumeration with a name is the only one that is kept. -/
theorem filter_foldl_keepNested (name : String) (found kept : List (String × List String)) :
    (found.foldl keepNested kept).filter (·.1 == name) =
      if kept.any (·.1 == name) then kept.filter (·.1 == name)
      else (found.find? (·.1 == name)).toList := by
  induction found generalizing kept with
  | nil =>
    cases hkept : kept.any (·.1 == name) with
    | true => rfl
    | false =>
      rw [List.any_eq_false] at hkept
      exact List.filter_eq_nil_iff.2 hkept
  | cons e found ih =>
    rw [List.foldl_cons, ih]
    unfold keepNested
    by_cases hname : e.1 = name
    · subst hname
      cases hkept : kept.any (·.1 == e.1) with
      | true => simp [hkept]
      | false =>
        have hnone : kept.filter (·.1 == e.1) = [] :=
          List.filter_eq_nil_iff.2 (List.any_eq_false.1 hkept)
        simp [hkept, hnone]
    · -- an enumeration with another name changes nothing
      have hany : (kept ++ [e]).any (·.1 == name) = kept.any (·.1 == name) := by simp [hname]
      cases hsame : kept.any (·.1 == e.1) with
      | true => simp [hname]
      | false =>
        rw [if_neg Bool.false_ne_true, hany]
        simp [hname]

/-- Of the nested enumerations with a name only that of the first column is declared. -/
theorem filter_nestedEnums (r : Resolved) (name : String) :
    r.nestedEnums.filter (·.1 == name) =
      ((r.columns.filterMap (·.nestedEnum?)).find? (·.1 == name)).toList := by
  rw [nestedEnums_eq_foldl, filter_foldl_keepNested]
  rfl

/-- The nested enumerations are among those of the columns. -/
theorem exists_column_of_mem_nestedEnums {r : Resolved} {e : String × List String}
    (h : e ∈ r.nestedEnums) : ∃ c ∈ r.columns, c.nestedEnum? = some e := by
  have hmem : e ∈ r.nestedEnums.filter (·.1 == e.1) := List.mem_filter.2 ⟨h, by simp⟩
  rw [filter_nestedEnums, Option.mem_toList] at hmem
  exact List.mem_filterMap.1 (List.mem_of_find?_eq_some hmem)

/-- The nested enumerations of a resolved entity have literals. -/
theorem nestedEnums_ne_nil {s : Scope} {r : Resolved} (h : s.resolve = .ok r)
    {e : String × List String} (he : e ∈ r.nestedEnums) : e.2 ≠ [] := by
  obtain ⟨-, hcolumns, -⟩ := Scope.resolve_eq_ok_iff.1 h
  obtain ⟨c, hc, henum⟩ := exists_column_of_mem_nestedEnums he
  obtain ⟨f, -, hf⟩ := exists_of_mem_right (mapM_eq_ok_iff.1 hcolumns) c hc
  -- the column is the one that its field is resolved to, as there is only one
  obtain ⟨d, hd, hnested⟩ := Scope.column_of_resolvable (Scope.exists_column_iff.1 ⟨c, hf⟩)
  rw [hf] at hd
  cases hd
  exact hnested e henum

end Resolved

end SchemaForge
