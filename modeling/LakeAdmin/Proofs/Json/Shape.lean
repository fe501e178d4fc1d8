import LakeAdmin.Json.Basic

/-!
Shapes of values, and places in documents. A place is a list of names, from the outside in; what
stands there is looked up object by object.
-/

namespace LakeAdmin

variable {τ : Type}

/-! ## Shapes -/

namespace Json

def IsText (value : Json τ) : Prop := ∃ s, value = .str s

def IsObject (value : Json τ) : Prop := ∃ members, value = .obj members

def IsArrayOf (item : Json τ → Prop) (value : Json τ) : Prop :=
  ∃ l, value = .arr l ∧ ∀ x ∈ l, item x

def IsObjectOf (inner : Json τ → Prop) (value : Json τ) : Prop :=
  ∃ members, value = .obj members ∧ ∀ member ∈ members, inner member.2

def items : Json τ → List (Json τ)
  | .arr l => l
  | _ => []

variable [DecidableEq τ]

/-- What stands at a place, if something does. -/
def at? : Json τ → List τ → Option (Json τ)
  | value, [] => some value
  | .obj members, name :: path => (Members.get? members name).bind (·.at? path)
  | _, _ :: _ => none

@[simp] theorem at?_name (members : Members τ) (name : τ) :
    (obj members).at? [name] = members.get? name := by
  unfold at?
  cases members.get? name with
  | none => rfl
  | some value => rfl

/-- What stands further in stands in what stands under the first name. -/
theorem at?_cons (value : Json τ) (name : τ) (path : List τ) :
    value.at? (name :: path) = (value.at? [name]).bind (·.at? path) := by
  cases value with
  | obj members =>
    rw [at?_name]
    rfl
  | _ => rfl

end Json

/-! ## Names -/

namespace Members

variable [DecidableEq τ]

/-- A member is not there, or null, or of a shape. -/
def Allows (members : Members τ) (name : τ) (shape : Json τ → Prop) : Prop :=
  ∀ value ∈ members.get? name, value = .null ∨ shape value

/-- What stands under the first of some names that an object has. -/
def first? (members : Members τ) (names : List τ) : Option (Json τ) :=
  names.findSome? members.get?

theorem has_iff (members : Members τ) (name : τ) :
    members.has name = (members.get? name).isSome := by
  unfold has get?
  rw [Option.isSome_map, List.isSome_find?]

/-- The first of some names that is there has what stands under it. -/
theorem find?_first? (members : Members τ) (names : List τ) :
    (names.find? (members.has ·)).bind members.get? = members.first? names := by
  unfold first?
  induction names with
  | nil => rfl
  | cons name rest ih =>
    rw [List.find?_cons, List.findSome?_cons, has_iff]
    cases found : members.get? name with
    | none => simpa using ih
    | some value => simp [found]

theorem first?_none {members : Members τ} {names : List τ}
    (h : names.find? (members.has ·) = none) : ∀ name ∈ names, members.get? name = none := by
  intro name hn
  have absent := List.find?_eq_none.mp h name hn
  rw [has_iff] at absent
  simpa using absent

theorem first?_mem {members : Members τ} {names : List τ} {value : Json τ}
    (h : members.first? names = some value) : ∃ member ∈ members, member.2 = value := by
  obtain ⟨name, -, found⟩ := List.exists_of_findSome?_eq_some h
  obtain ⟨member, there, same⟩ := Option.map_eq_some_iff.mp found
  exact ⟨member, List.mem_of_find?_eq_some there, same⟩

end Members

end LakeAdmin
