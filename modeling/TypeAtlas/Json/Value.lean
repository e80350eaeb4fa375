import TypeAtlas.Number.Binary64
import TypeAtlas.OrderedMap
import TypeAtlas.Text.Broken

/-!
# JSON values

A JSON value. Whole numbers and numbers with a fraction or exponent are kept apart, and an object
keeps its members in order, each name once. Texts and names may be broken, since an escape can write
a surrogate that is not one of a pair.

* `get?_ofList_properMembers`: what an object has under a name that is not broken.
-/

namespace TypeAtlas

open Number (Binary64)
open Text (Broken Point)

/-- The name of a member of an object. -/
inductive Json.Name where
  | proper (name : String)
  | broken (name : Broken)
  deriving DecidableEq, Repr

/-- A JSON value. -/
inductive Json where
  | null
  | bool (value : Bool)
  | int (value : Int)
  | float (value : Binary64)
  | text (value : String)
  | broken (value : Broken)
  | array (items : List Json)
  | object (members : List (Json.Name × Json))
  deriving Repr, Inhabited

namespace Json.Name

instance : Coe String Name := ⟨proper⟩

/-- The name that a row of points is. -/
def ofPoints (points : List Point) : Name :=
  if h : points.any (·.char?.isNone) = true then broken ⟨points, h⟩
  else proper (String.ofList (points.filterMap Point.char?))

/-- The name as a value. -/
def toJson : Name → Json
  | proper name => text name
  | broken name => .broken name

/-- The text that a name is, unless it is broken. -/
def text? : Name → Option String
  | proper name => some name
  | broken _ => none

end Json.Name

namespace Json

mutual

/-- Decides whether two values are the same. -/
def decEq : (a b : Json) → Decidable (a = b)
  | null, null => isTrue rfl
  | bool a, bool b => decidable_of_iff (a = b) (by simp)
  | int a, int b => decidable_of_iff (a = b) (by simp)
  | float a, float b => decidable_of_iff (a = b) (by simp)
  | text a, text b => decidable_of_iff (a = b) (by simp)
  | broken a, broken b => decidable_of_iff (a = b) (by simp)
  | array a, array b =>
    match decEqItems a b with
    | isTrue h => isTrue (by rw [h])
    | isFalse h => isFalse (by simp [h])
  | object a, object b =>
    match decEqMembers a b with
    | isTrue h => isTrue (by rw [h])
    | isFalse h => isFalse (by simp [h])
  | null, bool _ | null, int _ | null, float _ | null, text _ | null, broken _ | null, array _
  | null, object _ => isFalse nofun
  | bool _, null | bool _, int _ | bool _, float _ | bool _, text _ | bool _, broken _
  | bool _, array _ | bool _, object _ => isFalse nofun
  | int _, null | int _, bool _ | int _, float _ | int _, text _ | int _, broken _ | int _, array _
  | int _, object _ => isFalse nofun
  | float _, null | float _, bool _ | float _, int _ | float _, text _ | float _, broken _
  | float _, array _ | float _, object _ => isFalse nofun
  | text _, null | text _, bool _ | text _, int _ | text _, float _ | text _, broken _
  | text _, array _ | text _, object _ => isFalse nofun
  | broken _, null | broken _, bool _ | broken _, int _ | broken _, float _ | broken _, text _
  | broken _, array _ | broken _, object _ => isFalse nofun
  | array _, null | array _, bool _ | array _, int _ | array _, float _ | array _, text _
  | array _, broken _ | array _, object _ => isFalse nofun
  | object _, null | object _, bool _ | object _, int _ | object _, float _ | object _, text _
  | object _, broken _ | object _, array _ => isFalse nofun

/-- Decides whether the items of two arrays are the same. -/
def decEqItems : (a b : List Json) → Decidable (a = b)
  | [], [] => isTrue rfl
  | [], _ :: _ | _ :: _, [] => isFalse nofun
  | x :: xs, y :: ys =>
    match decEq x y, decEqItems xs ys with
    | isTrue h, isTrue hs => isTrue (by rw [h, hs])
    | isFalse h, _ => isFalse (by simp [h])
    | _, isFalse hs => isFalse (by simp [hs])

/-- Decides whether the members of two objects are the same. -/
def decEqMembers : (a b : List (Name × Json)) → Decidable (a = b)
  | [], [] => isTrue rfl
  | [], _ :: _ | _ :: _, [] => isFalse nofun
  | (k, x) :: xs, (l, y) :: ys =>
    if hk : k = l then
      match decEq x y, decEqMembers xs ys with
      | isTrue h, isTrue hs => isTrue (by rw [hk, h, hs])
      | isFalse h, _ => isFalse (by simp [h])
      | _, isFalse hs => isFalse (by simp [hs])
    else isFalse (by simp [hk])

end

instance : DecidableEq Json := decEq

/-- The object that results from giving members one after the other: the last of several with one
name counts, in the place of the first. -/
def ofMembers (members : List (Name × Json)) : Json :=
  object (members.foldl (fun l m => insertEntry m.1 m.2 l) [])

/-- The members of which the names are not broken. -/
def properMembers (members : List (Name × Json)) : List (String × Json) :=
  members.filterMap fun m => m.1.text?.map (·, m.2)

theorem lookup_properMembers (members : List (Name × Json)) (name : String) :
    (properMembers members).lookup name = members.lookup (.proper name) := by
  induction members with
  | nil => rfl
  | cons m rest ih =>
    obtain ⟨key, value⟩ := m
    cases key with
    | proper key =>
      have hkey : (Name.proper name == .proper key) = (name == key) := by
        rw [Bool.eq_iff_iff]
        simp
      have hmembers : properMembers ((.proper key, value) :: rest) =
        (key, value) :: properMembers rest := rfl
      rw [hmembers, List.lookup_cons, List.lookup_cons, hkey, ih]
    | broken key =>
      have hkey : (Name.proper name == .broken key) = false := beq_false_of_ne nofun
      have hmembers : properMembers ((.broken key, value) :: rest) = properMembers rest := rfl
      rw [hmembers, List.lookup_cons, hkey, ih]

theorem get?_ofList_properMembers (members : List (Name × Json)) (name : String) :
    (OrderedMap.ofList (properMembers members)).get? name =
      (OrderedMap.ofList members).get? (.proper name) := by
  rw [OrderedMap.ofList, OrderedMap.get?_insertAll_reverse, OrderedMap.ofList,
    OrderedMap.get?_insertAll_reverse, ← lookup_properMembers, properMembers, properMembers,
    List.filterMap_reverse]
  rfl

/-- Whether a value counts as set: everything but null, false, zero and what is empty. -/
def isSet : Json → Bool
  | null => false
  | bool value => value
  | int value => value != 0
  | float value => !value.isZero
  | text value => value != ""
  | broken _ => true
  | array items => !items.isEmpty
  | object members => !members.isEmpty

/-- Whether a value is the number zero or false, which count as equal. -/
def isZero : Json → Bool
  | bool value => !value
  | int value => value == 0
  | float value => value.isZero
  | _ => false

/-- The text that a value is, unless it is broken. -/
def text? : Json → Option String
  | text value => some value
  | _ => none

/-- Whether a value is a broken text. -/
def isBroken : Json → Bool
  | broken _ => true
  | _ => false

/-- The text that is no more than one point. -/
def ofPoint : Point → Json
  | .char c => text c.toString
  | .surrogate n => broken (.ofSurrogate n)

/-- The items of a value that can be gone through: those of an array, the points of a text, or the
names of an object. -/
def items? : Json → Option (List Json)
  | array items => some items
  | text value => some (value.toList.map fun c => text c.toString)
  | broken value => some (value.points.map ofPoint)
  | object members => some (members.map (·.1.toJson))
  | _ => none

end Json

end TypeAtlas
