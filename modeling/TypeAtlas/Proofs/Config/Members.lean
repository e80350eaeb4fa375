import TypeAtlas.Proofs.Config.Assignment

/-!
# Configurations and objects

The members of an object are given to a configuration one after the other. Whether a member counts
depends on the names that the configuration knows. Among these are the names of the options, but also
names that a configuration manages or under which it offers something else.

* `assign_cases`, `assign_eq_error_iff`: all that can come of a member;
* `get?_values_assign`, `knows_assign`: what one member leaves of the table;
* `get?_values_foldlM_assign`: what all of them leave, if none replaces the table;
* `ofMembers_given`: an object that leaves the names of `IsPlain` alone gives every option the value of
  the member with its name, and only the name of writing counts besides; what the other names do; and
  that a configuration is read back from what is written of it;
* `members_ne_given`: an object with the name of writing, from which nothing can be written.
-/

namespace TypeAtlas.Config

/-- Whether a configuration refuses a member, and why. -/
inductive Refuses : String × Json → Refusal → Prop
  | sort (value : Json) : Refuses ("__class__", value) .wrongSort
  | references (value : Json) : Refuses ("__weakref__", value) .fixed
  | table {value : Json} (h : ∀ members, value ≠ .object members) :
    Refuses ("__dict__", value) .wrongSort

/-- Whether an object leaves the names alone under which a configuration manages itself, but for the
one of the package of the generated types, which never counts. -/
structure IsPlain (d : OrderedMap String Json) : Prop where
  table : d.get? "__dict__" = none
  sort : d.get? "__class__" = none
  references : d.get? "__weakref__" = none

/-- The value that an object gives to an option: that of the member with the name of the option, or
the one that the option has unless set. -/
def given (d : OrderedMap String Json) (f : Field) : Json := (d.get? f.key).getD f.standard

variable {c c' : Config} {name : String} {value : Json}

/-! ## One member -/

/-- A value under a name of its own counts if the name is known. -/
theorem assign_of_not_managed (h : Managed.ofName? name = none) :
    c.assign name value = .ok (if c.knows name then ⟨c.values.insert name value⟩ else c) := by
  rw [assign, set_of_not_managed h, h]
  cases c.knows name <;> rfl

/-- What comes of a value under a name that a configuration manages does not depend on the values that
it has, but for the package of the generated types, under which no value counts. -/
theorem assign_managed (managed : Managed) : c.assign managed.name value =
    match managed, value with
    | .table, .object members => .ok ⟨.ofList (Json.properMembers members)⟩
    | .table, _ => .error .wrongSort
    | .sort, _ => .error .wrongSort
    | .references, _ => .error .fixed
    | .typesPackage, _ => .ok c := by
  have hname : Managed.ofName? managed.name = some managed := Managed.ofName?_eq_some_iff.mpr rfl
  have hknown : c.knows managed.name = true := by simp [knows, hname]
  rw [assign, hknown, hname]
  cases managed with
  | table => cases value <;> rfl
  | sort => rfl
  | references => rfl
  | typesPackage => rfl

/-- All that can come of a member that is not refused: nothing, a value under its name, or another
table. -/
theorem assign_cases (h : c.assign name value = .ok c') :
    (c' = c ∧ (c.knows name = false ∨ name = "types_package")) ∨
      (c' = ⟨c.values.insert name value⟩ ∧ c.knows name = true ∧ Managed.ofName? name = none) ∨
      ∃ members, name = "__dict__" ∧ value = .object members ∧
        c' = ⟨.ofList (Json.properMembers members)⟩ := by
  cases hmanaged : Managed.ofName? name with
  | none =>
    rw [assign_of_not_managed hmanaged] at h
    cases hknown : c.knows name with
    | false =>
      rw [hknown] at h
      cases h
      exact .inl ⟨rfl, .inl rfl⟩
    | true =>
      rw [hknown] at h
      cases h
      exact .inr (.inl ⟨rfl, rfl, rfl⟩)
  | some managed =>
    obtain rfl := Managed.ofName?_eq_some_iff.mp hmanaged
    rw [assign_managed] at h
    cases managed with
    | table =>
      cases value with
      | object members =>
        cases h
        exact .inr (.inr ⟨members, rfl, rfl, rfl⟩)
      | _ => cases h
    | sort => cases h
    | references => cases h
    | typesPackage =>
      cases h
      exact .inl ⟨rfl, .inr rfl⟩

/-- Whether a member is refused depends on nothing but the member. -/
theorem assign_eq_error_iff {e : Refusal} :
    c.assign name value = .error e ↔ Refuses (name, value) e := by
  constructor
  · intro h
    cases hmanaged : Managed.ofName? name with
    | none =>
      rw [assign_of_not_managed hmanaged] at h
      cases h
    | some managed =>
      obtain rfl := Managed.ofName?_eq_some_iff.mp hmanaged
      rw [assign_managed] at h
      cases managed with
      | table =>
        cases value with
        | object members => cases h
        | _ =>
          cases h
          exact .table nofun
      | sort =>
        cases h
        exact .sort value
      | references =>
        cases h
        exact .references value
      | typesPackage => cases h
  · intro h
    cases h with
    | sort => exact assign_managed .sort
    | references => exact assign_managed .references
    | table h =>
      refine (assign_managed .table).trans ?_
      cases value with
      | object members => exact absurd rfl (h members)
      | _ => rfl

section

variable {k : String}

/-- A member changes what stands under its name, if the name is known, and nothing else. -/
theorem get?_values_assign (h : c.assign name value = .ok c') (hname : name ≠ "__dict__")
    (hk : Managed.ofName? k = none) :
    c'.values.get? k = if k = name ∧ c.knows k = true then some value else c.values.get? k := by
  rcases assign_cases h with ⟨rfl, hno⟩ | ⟨rfl, hknown, -⟩ | ⟨members, htable, -⟩
  · refine (if_neg ?_).symm
    rintro ⟨rfl, hknown⟩
    rcases hno with hunknown | hpackage
    · cases hknown.symm.trans hunknown
    · subst hpackage
      cases hk
  · rw [OrderedMap.get?_insert]
    by_cases hkey : k = name
    · subst hkey
      simp [hknown]
    · simp [hkey]
  · exact absurd htable hname

/-- A member makes no name known. -/
theorem knows_assign (h : c.assign name value = .ok c') (hname : name ≠ "__dict__")
    (hk : Managed.ofName? k = none) : c'.knows k = c.knows k := by
  have hget := get?_values_assign h hname hk
  by_cases hwrite : k = name ∧ c.knows k = true
  · rw [if_pos hwrite] at hget
    rw [hwrite.2, knows, OrderedMap.contains, hget]
    rfl
  · rw [if_neg hwrite] at hget
    rw [knows, knows, OrderedMap.contains, OrderedMap.contains, hget]

end

/-- An option is known unless its value is missing. -/
theorem knows_key (c : Config) (f : Field) : c.knows f.key = (c.get? f).isSome := by
  have hmanaged : Managed.ofName? f.key = none := Managed.ofName?_key f
  have hoffered : offered.contains f.key = false := by cases f <;> decide
  have hfallback : (Field.all.any fun g => g.key = f.key && g.fallback?.isSome) =
      f.fallback?.isSome := by
    cases f <;> decide
  rw [knows, get?, hmanaged, hoffered, hfallback, Option.isSome_or]
  simp [OrderedMap.contains]

/-- The name of writing is always known. -/
theorem knows_writerKey (c : Config) : c.knows writerKey = true := by simp [knows, offered]

/-! ## All members -/

variable {members : List (String × Json)}

/-- What stands under a name after all members, if none of them replaces the table. By induction on the
members: no other member has the name, and the name stays as known as it was. -/
theorem get?_values_foldlM_assign {k : String} (hk : Managed.ofName? k = none)
    (hnodup : (members.map Prod.fst).Nodup) (htable : "__dict__" ∉ members.map Prod.fst)
    (h : members.foldlM (fun c m => c.assign m.1 m.2) c = .ok c') :
    c'.values.get? k =
      if c.knows k = true then (members.lookup k).or (c.values.get? k) else c.values.get? k := by
  induction members generalizing c with
  | nil =>
    cases h
    exact (ite_self _).symm
  | cons m rest ih =>
    obtain ⟨name, value⟩ := m
    rw [List.map_cons, List.nodup_cons] at hnodup
    rw [List.map_cons, List.mem_cons, not_or] at htable
    rw [List.foldlM_cons] at h
    obtain ⟨c₁, hc₁, hrest⟩ := bind_eq_ok.mp h
    have hname : name ≠ "__dict__" := Ne.symm htable.1
    rw [ih hnodup.2 htable.2 hrest, knows_assign hc₁ hname hk, get?_values_assign hc₁ hname hk,
      List.lookup_cons]
    by_cases hkey : k = name
    · subst hkey
      have hlater : rest.lookup k = none := lookup_eq_none_iff_notMem.mpr hnodup.1
      cases c.knows k <;> simp [hlater]
    · simp [hkey, beq_false_of_ne hkey]

section

variable (hnodup : (members.map Prod.fst).Nodup) (htable : "__dict__" ∉ members.map Prod.fst)
  (h : members.foldlM (fun c m => c.assign m.1 m.2) c = .ok c')
include hnodup htable h

/-- Options have their values from the members with their names, unless their values are missing. -/
theorem get?_foldlM_assign (f : Field) :
    c'.get? f = (c.get? f).map fun v => (members.lookup f.key).getD v := by
  have hvalues := get?_values_foldlM_assign (Managed.ofName?_key f) hnodup htable h
  rw [knows_key] at hvalues
  cases hget : c.get? f with
  | none =>
    rw [hget, if_neg (by decide)] at hvalues
    rw [get?, hvalues]
    exact hget
  | some v =>
    rw [hget, if_pos Option.isSome_some] at hvalues
    have hor : (c.values.get? f.key).or f.fallback? = some v := hget
    rw [get?, hvalues, Option.or_assoc, hor]
    cases members.lookup f.key <;> rfl

/-- The name of writing is taken if a member has it. -/
theorem contains_writerKey_foldlM_assign : c'.values.contains writerKey =
    (c.values.contains writerKey || (members.lookup writerKey).isSome) := by
  have hvalues := get?_values_foldlM_assign (k := writerKey) rfl hnodup htable h
  rw [if_pos (knows_writerKey c)] at hvalues
  rw [OrderedMap.contains, OrderedMap.contains, hvalues, Option.isSome_or, Bool.or_comm]

end

theorem ofMembers_eq_error_iff {e : Refusal} :
    ofMembers members = .error e ↔ FirstFailure Refuses members e :=
  foldlM_eq_error_iff (fun _ (_, _) _ => assign_eq_error_iff) ..

section

variable {d : OrderedMap String Json}

theorem notMem_of_get?_eq_none (h : d.get? name = none) : name ∉ d.entries.map Prod.fst :=
  lookup_eq_none_iff_notMem.mp h

/-- Only members with one of three names are refused. -/
theorem IsPlain.exists_ofMembers (h : IsPlain d) : ∃ c, ofMembers d.entries = .ok c := by
  refine exists_eq_ok_iff.mpr fun e he => ?_
  obtain ⟨before, m, after, hentries, -, hrefuses⟩ := ofMembers_eq_error_iff.mp he
  have hkey : m.1 ∈ d.entries.map Prod.fst := by
    rw [hentries]
    exact List.mem_map_of_mem (List.mem_append_right _ List.mem_cons_self)
  cases hrefuses with
  | sort => exact notMem_of_get?_eq_none h.sort hkey
  | references => exact notMem_of_get?_eq_none h.references hkey
  | table => exact notMem_of_get?_eq_none h.table hkey

theorem get?_ofMembers (htable : d.get? "__dict__" = none) (h : ofMembers d.entries = .ok c)
    (f : Field) : c.get? f = some (given d f) := by
  have hstandard : standard.get? f = some f.standard := by cases f <;> rfl
  rw [get?_foldlM_assign d.nodup_keys (notMem_of_get?_eq_none htable) h, hstandard]
  rfl

theorem contains_writerKey_ofMembers (htable : d.get? "__dict__" = none)
    (h : ofMembers d.entries = .ok c) : c.values.contains writerKey = d.contains writerKey := by
  have hstandard : standard.values.contains writerKey = false := rfl
  rw [contains_writerKey_foldlM_assign d.nodup_keys (notMem_of_get?_eq_none htable) h,
    hstandard]
  rfl

/-- A member that replaces the table makes those before it of no effect. An option that the new table
does not have stays missing, also if a later member has its name, unless there is a value to fall back
on. -/
theorem get?_ofMembers_of_table {front back : List (String × Json)}
    {members : List (Json.Name × Json)}
    (hentries : d.entries = front ++ ("__dict__", .object members) :: back)
    (h : ofMembers d.entries = .ok c) (f : Field) :
    c.get? f = (((OrderedMap.ofList members).get? f.key).or f.fallback?).map fun v =>
      (back.lookup f.key).getD v := by
  have hnodup := d.nodup_keys
  rw [hentries, List.map_append, List.map_cons] at hnodup
  obtain ⟨htable, hback⟩ := List.nodup_cons.mp (List.nodup_append.mp hnodup).2.1
  rw [hentries, ofMembers, List.foldlM_append] at h
  obtain ⟨c₁, -, h⟩ := bind_eq_ok.mp h
  rw [List.foldlM_cons] at h
  obtain ⟨c₂, hc₂, h⟩ := bind_eq_ok.mp h
  have hreplaced : c₂ = ⟨.ofList (Json.properMembers members)⟩ :=
    Except.ok.inj (hc₂.symm.trans (assign_managed .table))
  rw [get?_foldlM_assign hback htable h, hreplaced, get?, Json.get?_ofList_properMembers]

end

/-! ## What is written -/

theorem Field.mem_all (f : Field) : f ∈ Field.all := by cases f <;> decide

/-- The member that an option is written as. -/
def memberOf (c : Config) (f : Field) : Except Misuse (String × Json) := do return (f.key, ← c.get f)

theorem memberOf_of_some {f : Field} (h : (c.get? f).isSome = true) :
    c.memberOf f = .ok (f.key, c.value f) := by
  obtain ⟨v, hv⟩ := Option.isSome_iff_exists.mp h
  rw [memberOf, get, value, hv]
  rfl

theorem memberOf_of_none {f : Field} (h : c.get? f = none) : c.memberOf f = .error (.missing f) := by
  rw [memberOf, get, h]
  rfl

theorem members_eq (c : Config) : c.members =
    if c.values.contains writerKey then .error .writer else Field.all.mapM c.memberOf := rfl

/-- A configuration is written if all of its options have values, and writing is not hidden. -/
theorem members_eq_ok_iff {written : List (String × Json)} : c.members = .ok written ↔
    c.values.contains writerKey = false ∧ (∀ f, (c.get? f).isSome = true) ∧
      written = Field.all.map fun f => (f.key, c.value f) := by
  rw [members_eq]
  split
  · rename_i hwriter
    exact iff_of_false nofun fun h => absurd hwriter (Bool.eq_false_iff.mp h.1)
  · rename_i hwriter
    constructor
    · intro h
      have hall (f : Field) : (c.get? f).isSome = true := by
        refine Option.isSome_iff_ne_none.mpr fun hmissing => ?_
        have hfails : ∃ e, FirstFailure (fun f e => c.memberOf f = .error e) Field.all e :=
          exists_firstFailure_iff.mpr ⟨f, f.mem_all, _, memberOf_of_none hmissing⟩
        obtain ⟨e, he⟩ := hfails
        rw [mapM_eq_error_iff.mpr he] at h
        cases h
      rw [mapM_eq_ok_map fun f _ => memberOf_of_some (hall f)] at h
      exact ⟨Bool.eq_false_iff.mpr hwriter, hall, (Except.ok.inj h).symm⟩
    · rintro ⟨-, hall, rfl⟩
      exact mapM_eq_ok_map fun f _ => memberOf_of_some (hall f)

theorem typesPackage_of_get? {v : Field → Json} (h : ∀ f, c.get? f = some (v f)) :
    c.typesPackage = if (v .typesPackageName).isSet then v .typesPackageName
      else (v .packageName).followedBy ".types" := by
  simp only [typesPackage, value, h, Option.getD_some]

theorem members_of_get? {v : Field → Json} (h : ∀ f, c.get? f = some (v f)) : c.members =
    if c.values.contains writerKey then .error .writer
    else .ok (Field.all.map fun f => (f.key, v f)) := by
  split
  · rename_i hwriter
    rw [members_eq, if_pos hwriter]
  · rename_i hwriter
    refine members_eq_ok_iff.mpr ⟨Bool.eq_false_iff.mpr hwriter, fun f => ?_, ?_⟩
    · rw [h f]
      rfl
    · simp only [value, h, Option.getD_some]

/-! ## Objects and configurations -/

theorem IsPlain.exists_given {d : OrderedMap String Json} (h : IsPlain d) :
    ∃ c, ofMembers d.entries = .ok c ∧ (∀ f, c.get? f = some (given d f)) ∧
      c.members = if d.contains "to_dict" then .error .writer
        else .ok (Field.all.map fun f => (f.key, given d f)) := by
  obtain ⟨c, hc⟩ := h.exists_ofMembers
  have hget : ∀ f, c.get? f = some (given d f) := get?_ofMembers h.table hc
  have hwriter : c.values.contains writerKey = d.contains "to_dict" :=
    contains_writerKey_ofMembers h.table hc
  refine ⟨c, hc, hget, ?_⟩
  rw [members_of_get? hget, hwriter]

/-- The object with a value for every option. -/
def written (v : Field → Json) : OrderedMap String Json where
  entries := Field.all.map fun f => (f.key, v f)
  nodup_keys := by
    show (Field.all.map Field.key).Nodup
    decide

theorem given_written (v : Field → Json) (f : Field) : given (written v) f = v f := by
  cases f <;> rfl

/-- What is written of a configuration gives all options the same values. -/
theorem exists_ofMembers_members {l : List (String × Json)} (h : c.members = .ok l) :
    ∃ c', ofMembers l = .ok c' ∧ AgreeOn Field.all c c' ∧ c'.members = .ok l := by
  obtain ⟨-, hall, rfl⟩ := members_eq_ok_iff.mp h
  have hplain : IsPlain (written c.value) := ⟨rfl, rfl, rfl⟩
  obtain ⟨c', hc', hget, hmembers⟩ := hplain.exists_given
  simp only [given_written] at hget hmembers
  refine ⟨c', hc', fun f _ => ?_, hmembers⟩
  obtain ⟨v, hv⟩ := Option.isSome_iff_exists.mp (hall f)
  rw [hget f, value, hv]
  rfl

/-- Take an object without the three names by which a configuration manages itself. It gives every
option the value of the member with the name of the option, or the one that the option has unless
set, and the package of the generated types follows from these. All options are written with these
values, unless the object has a member with the name of writing itself: then nothing can be written.
No other member counts, nor does the order: an object that has the same members for the options gives
them the same values.

Of the three names two are always refused, and the third is unless its value is an object; the first
refusal in order is the one that shows. An object under the third name becomes the table, whatever was
given before, and of what is given afterwards only the options count that have a value in this table
or fall back on one.

A configuration can be written exactly if all options have values and none is in the place of writing;
it is read back from what is written. -/
theorem ofMembers_given (d : OrderedMap String Json) :
    (IsPlain d → ∃ c, ofMembers d.entries = .ok c ∧
      (∀ f, c.get? f = some (given d f)) ∧
      c.typesPackage = (if (given d .typesPackageName).isSet then given d .typesPackageName
        else (given d .packageName).followedBy ".types") ∧
      c.members = (if d.contains "to_dict" then .error .writer
        else .ok (Field.all.map fun f => (f.key, given d f))) ∧
      ∀ d', IsPlain d' → (∀ f : Field, d'.get? f.key = d.get? f.key) →
        ∃ c', ofMembers d'.entries = .ok c' ∧ AgreeOn Field.all c c' ∧
          c'.typesPackage = c.typesPackage ∧
          (d'.contains "to_dict" = d.contains "to_dict" → c'.members = c.members)) ∧
    (∀ e, ofMembers d.entries = .error e ↔ FirstFailure Refuses d.entries e) ∧
    (∀ front (members : List (Json.Name × Json)) back c,
      d.entries = front ++ ("__dict__", .object members) :: back →
      ofMembers d.entries = .ok c → ∀ f, c.get? f =
        (((OrderedMap.ofList members).get? f.key).or f.fallback?).map fun v =>
          (back.lookup f.key).getD v) ∧
    ∀ c : Config,
      ((∃ l, c.members = .ok l) ↔
        c.values.get? "to_dict" = none ∧ ∀ f, ∃ v, c.get? f = some v) ∧
      ∀ l, c.members = .ok l → ∃ c', ofMembers l = .ok c' ∧ AgreeOn Field.all c c' ∧
        c'.typesPackage = c.typesPackage ∧ c'.members = .ok l := by
  refine ⟨fun h => ?_, fun e => ofMembers_eq_error_iff, ?_, fun c => ⟨?_, fun l hl => ?_⟩⟩
  · obtain ⟨c, hc, hget, hmembers⟩ := h.exists_given
    have hpackage := typesPackage_of_get? hget
    refine ⟨c, hc, hget, hpackage, hmembers, fun d' h' hsame => ?_⟩
    obtain ⟨c', hc', hget', hmembers'⟩ := h'.exists_given
    have hgiven : given d' = given d := funext fun f => by rw [given, given, hsame]
    rw [hgiven] at hget' hmembers'
    have hagree : AgreeOn Field.all c c' := fun f _ => (hget f).trans (hget' f).symm
    refine ⟨c', hc', hagree, (typesPackage_of_get? hget').trans hpackage.symm, fun hwriter => ?_⟩
    rw [hmembers', hmembers, hwriter]
  · intro front members back c hentries hc f
    exact get?_ofMembers_of_table hentries hc f
  · simp only [members_eq_ok_iff, exists_and_left, exists_eq, and_true, Option.isSome_iff_exists]
    rw [OrderedMap.contains, Option.isSome_eq_false_iff, Option.isNone_iff_eq_none]
    rfl
  · obtain ⟨c', hc', hagree, hmembers⟩ := exists_ofMembers_members hl
    have hpackage := hagree.typesPackage_eq (Field.mem_all _) (Field.mem_all _)
    exact ⟨c', hc', hagree, hpackage.symm, hmembers⟩

/-- Members with names of other things that a configuration offers do not count, and neither does one
for the package of the generated types. -/
theorem ofMembers_given_of_other_names :
    let d : OrderedMap String Json := .ofList [("from_dict", .int 1), ("schemas", .null),
      ("types_package", .text "x"), ("package_name", .text "a"), ("language", .text "kotlin")]
    let d' : OrderedMap String Json := .ofList [("package_name", .text "a"), ("schemas", .null)]
    IsPlain d ∧ IsPlain d' ∧ (∀ f : Field, d'.get? f.key = d.get? f.key) ∧
      ∃ c c', ofMembers d.entries = .ok c ∧ ofMembers d'.entries = .ok c' ∧
        c.get? .schemas = some .null ∧ c.typesPackage = .text "a.types" ∧
        c'.members = c.members ∧ c.members = .ok [("package_name", .text "a"),
          ("types_package_name", .text ""), ("type_mapping", .object []), ("schema_files", .array []),
          ("schemas", .null), ("generate_boxed_types", .bool false),
          ("type_directive_name", .text "javaType")] := by
  intro d d'
  have hplain : IsPlain d := ⟨rfl, rfl, rfl⟩
  have hplain' : IsPlain d' := ⟨rfl, rfl, rfl⟩
  have hsame : ∀ f : Field, d'.get? f.key = d.get? f.key := fun f => by cases f <;> rfl
  obtain ⟨hgiven, -⟩ := ofMembers_given d
  obtain ⟨c, hc, hget, hpackage, hmembers, hmore⟩ := hgiven hplain
  obtain ⟨c', hc', -, -, hmembers'⟩ := hmore d' hplain' hsame
  exact ⟨hplain, hplain', hsame, c, c', hc, hc', hget .schemas, hpackage, hmembers' rfl, hmembers⟩

/-- A member with the name of writing is no option and counts all the same: nothing can be written. -/
theorem members_ne_given :
    let d : OrderedMap String Json := .ofList [("to_dict", .null)]
    ∃ c, ofMembers d.entries = .ok c ∧ c.members = .error .writer ∧
      c.members ≠ .ok (Field.all.map fun f => (f.key, given d f)) := by
  intro d
  exact ⟨_, rfl, rfl, nofun⟩

end TypeAtlas.Config
