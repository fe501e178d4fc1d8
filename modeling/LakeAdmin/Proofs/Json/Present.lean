import LakeAdmin.Proofs.Json.Distinct
import LakeAdmin.Proofs.Json.Shape

/-!
Objects without their null members. Leaving null out takes nothing away: at every place stands
what stood there, null being the same as nothing.
-/

namespace LakeAdmin

variable {τ : Type}

namespace Json

/-- No value in a document is null, at any depth. -/
inductive NullFree : Json τ → Prop
  | bool (b : Bool) : NullFree (.bool b)
  | int (n : Int) : NullFree (.int n)
  | float (x : Binary64) : NullFree (.float x)
  | str (s : τ) : NullFree (.str s)
  | arr {items : List (Json τ)} (values : ∀ item ∈ items, NullFree item) : NullFree (.arr items)
  | obj {members : Members τ} (values : ∀ member ∈ members, NullFree member.2) :
      NullFree (.obj members)

/-- A property that documents have if their parts do, of texts, integers, arrays and objects that
have each name once. -/
structure Closed (P : Json τ → Prop) : Prop where
  str (s : τ) : P (str s)
  int (n : Int) : P (int n)
  arr {l : List (Json τ)} (items : ∀ item ∈ l, P item) : P (arr l)
  obj {members : Members τ} (names : (members.map Prod.fst).Nodup)
    (values : ∀ member ∈ members, P member.2) : P (obj members)

theorem closed_nullFree : Closed (@NullFree τ) := ⟨.str, .int, .arr, fun _ => .obj⟩

theorem closed_distinct : Closed (@Distinct τ) := ⟨.str, .int, .arr, .obj⟩

variable {P : Json τ → Prop}

theorem Closed.text? (closed : Closed P) (s : Option τ) :
    ofText? s = null ∨ P (ofText? s) := by
  cases s with
  | none => exact .inl rfl
  | some s => exact .inr (closed.str s)

theorem Closed.int? (closed : Closed P) (n : Option Int) : (ofInt? n : Json τ) = null ∨ P (ofInt? n) := by
  cases n with
  | none => exact .inl rfl
  | some n => exact .inr (closed.int n)

end Json

open Json

namespace Members

theorem present_append (members others : Members τ) :
    present (members ++ others) = members.present ++ others.present :=
  List.filter_append ..

theorem names_present {members : Members τ} (names : (members.map Prod.fst).Nodup) :
    (members.present.map Prod.fst).Nodup :=
  names.sublist (List.filter_sublist.map _)

/-- Leaving null out of an object, what is left has what its values have. -/
theorem present_closed {P : Json τ → Prop} (closed : Closed P) {members : Members τ}
    (names : (members.map Prod.fst).Nodup)
    (values : ∀ member ∈ members, member.2 = .null ∨ P member.2) :
    P (.obj members.present) := by
  refine closed.obj (names_present names) fun member hm => ?_
  obtain ⟨there, filled⟩ := mem_present.mp hm
  exact (values member there).resolve_left filled

variable [DecidableEq τ]

theorem get?_present {members : Members τ} (names : (members.map Prod.fst).Nodup) {name : τ}
    {value : Json τ} :
    members.present.get? name = some value ↔ members.get? name = some value ∧ value ≠ .null := by
  rw [get?_iff (names_present names), mem_present, get?_iff names]

/-- At every place in an object stands what stood there before null was left out. -/
theorem at?_present {members : Members τ} (names : (members.map Prod.fst).Nodup) (name : τ)
    (path : List τ) :
    ((Json.obj members.present).at? (name :: path)).getD .null =
      ((Json.obj members).at? (name :: path)).getD .null := by
  have absent (gone : ∀ value, members.get? name = some value → value = .null) :
      members.present.get? name = none := by
    rw [Option.eq_none_iff_forall_ne_some]
    intro value there
    obtain ⟨same, filled⟩ := (get?_present names).mp there
    exact filled (gone value same)
  unfold at?
  cases found : members.get? name with
  | none =>
    rw [absent (by simp [found])]
  | some value =>
    by_cases filled : value = .null
    · rw [absent (by simp [found, filled]), filled]
      cases path <;> rfl
    · rw [(get?_present names).mpr ⟨found, filled⟩]

end Members

end LakeAdmin
