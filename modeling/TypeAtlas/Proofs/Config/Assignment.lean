import TypeAtlas.Config.Basic

/-!
# Giving values to names

A configuration takes a value under almost every name. A name that it manages itself either takes no
value or stands for the whole table.

* `get?_assigned`, `assigned_table`: the options after a name was given a value;
* `AgreeOn`: two configurations with the same values for some options. They keep them when both are
  given a value (`AgreeOn.assigned`), and one keeps them when it is given another (`agreeOn_assigned`).
-/

namespace TypeAtlas.Config

theorem Managed.ofName?_key (f : Field) : Managed.ofName? f.key = none := by
  cases f <;> rfl

variable {c d : Config} {name : String} {value : Json}

theorem set_of_not_managed (h : Managed.ofName? name = none) :
    c.set name value = .ok ⟨c.values.insert name value⟩ := by
  unfold set
  rw [h]

/-- Of the names that a configuration manages only that of the table takes values. -/
theorem exists_set_eq_error {managed : Managed} (h : Managed.ofName? name = some managed)
    (hname : name ≠ "__dict__") : ∃ e, c.set name value = .error e := by
  unfold set
  rw [h]
  cases managed with
  | table => exact absurd (Managed.ofName?_eq_some_iff.mp h).symm hname
  | sort => exact ⟨_, rfl⟩
  | references => exact ⟨_, rfl⟩
  | typesPackage => exact ⟨_, rfl⟩

/-- The configuration after a name was given a value, which may have been refused. -/
def assigned (c : Config) (name : String) (value : Json) : Config :=
  (c.set name value).toOption.getD c

theorem assigned_of_ok {c' : Config} (h : c.set name value = .ok c') : c.assigned name value = c' := by
  rw [assigned, h]
  rfl

theorem assigned_of_error {e : Refusal} (h : c.set name value = .error e) :
    c.assigned name value = c := by
  rw [assigned, h]
  rfl

/-- The table as a whole is replaced if it is given an object. -/
theorem assigned_table (members : List (Json.Name × Json)) :
    c.assigned "__dict__" (.object members) = ⟨.ofList (Json.properMembers members)⟩ := rfl

theorem get?_assigned (h : name ≠ "__dict__") (f : Field) :
    (c.assigned name value).get? f = if f.key = name then some value else c.get? f := by
  cases hname : Managed.ofName? name with
  | none =>
    rw [assigned_of_ok (set_of_not_managed hname), get?, OrderedMap.get?_insert]
    split
    · rfl
    · rfl
  | some managed =>
    have hkey : f.key ≠ name := by
      rintro rfl
      rw [Managed.ofName?_key] at hname
      cases hname
    obtain ⟨e, he⟩ := exists_set_eq_error hname h
    rw [assigned_of_error he, if_neg hkey]

/-- Whether two configurations have the same values for the given options. -/
def AgreeOn (fields : List Field) (c d : Config) : Prop := ∀ f ∈ fields, c.get? f = d.get? f

variable {fields : List Field}

theorem AgreeOn.refl (c : Config) : AgreeOn fields c c := fun _ _ => rfl

theorem AgreeOn.assigned (h : AgreeOn fields c d) (name : String) (value : Json) :
    AgreeOn fields (c.assigned name value) (d.assigned name value) := by
  intro f hf
  by_cases hname : name = "__dict__"
  · subst hname
    cases value with
    | object members => rw [assigned_table, assigned_table]
    | _ => exact h f hf
  · rw [get?_assigned hname, get?_assigned hname, h f hf]

/-- An assignment to another option leaves the given ones alone. -/
theorem agreeOn_assigned (hname : name ≠ "__dict__") (hkey : ∀ f ∈ fields, f.key ≠ name) :
    AgreeOn fields c (c.assigned name value) := by
  intro f hf
  rw [get?_assigned hname, if_neg (hkey f hf)]

theorem AgreeOn.value_eq (h : AgreeOn fields c d) {f : Field} (hf : f ∈ fields) :
    c.value f = d.value f := by
  rw [value, value, h f hf]

theorem AgreeOn.keepsBoxed_eq (h : AgreeOn fields c d) (hf : .generateBoxedTypes ∈ fields) :
    c.keepsBoxed = d.keepsBoxed := by
  rw [keepsBoxed, keepsBoxed, h.value_eq hf]

theorem AgreeOn.typesPackage_eq (h : AgreeOn fields c d) (hname : .packageName ∈ fields)
    (htypes : .typesPackageName ∈ fields) : c.typesPackage = d.typesPackage := by
  rw [typesPackage, typesPackage, h.value_eq hname, h.value_eq htypes]

end TypeAtlas.Config
