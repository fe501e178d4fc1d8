import Mathlib.Data.List.Perm.Subperm
import LakeAdmin.Json.Equal
import LakeAdmin.Proofs.Json.Distinct
import LakeAdmin.Proofs.Json.Shape

/-!
Documents that denote the same. They have the same at every place, whatever the order of their
members, as long as no object repeats a name.
-/

namespace LakeAdmin

variable {τ : Type} [DecidableEq τ]

namespace Json

/-! ## Objects -/

theorem sameMembers_found {xs ys : Members τ} (h : sameMembers xs ys = true) {name : τ}
    {value : Json τ} (hm : (name, value) ∈ xs) :
    ∃ other, ys.get? name = some other ∧ value.same other = true := by
  induction xs with
  | nil => cases hm
  | cons member rest ih =>
    obtain ⟨first, held⟩ := member
    unfold sameMembers at h
    split at h
    · rename_i other found
      rw [Bool.and_eq_true] at h
      rcases List.mem_cons.mp hm with same | later
      · cases same
        exact ⟨other, found, h.1⟩
      · exact ih h.2 later
    · cases h

/-- Objects that denote the same have one set of names, and the same under each. -/
theorem get?_same {xs ys : Members τ} (distinct : (obj xs).Distinct)
    (distinct' : (obj ys).Distinct) (h : (obj xs).same (obj ys) = true) (name : τ) :
    Option.Rel (fun x y => same x y = true) (xs.get? name) (ys.get? name) := by
  obtain - | - | - | - | - | - | ⟨names, -⟩ := distinct
  obtain - | - | - | - | - | - | ⟨names', -⟩ := distinct'
  unfold same at h
  rw [Bool.and_eq_true, beq_iff_eq] at h
  obtain ⟨sizes, found⟩ := h
  cases hx : xs.get? name with
  | some value =>
    obtain ⟨other, there, same⟩ := sameMembers_found found ((Members.get?_iff names).mp hx)
    rw [there]
    exact .some same
  | none =>
    have within : xs.map Prod.fst ⊆ ys.map Prod.fst := by
      intro name hn
      obtain ⟨⟨name, value⟩, hm, rfl⟩ := List.mem_map.mp hn
      obtain ⟨other, there, -⟩ := sameMembers_found found hm
      exact List.mem_map.mpr ⟨_, (Members.get?_iff names').mp there, rfl⟩
    have perm : (xs.map Prod.fst).Perm (ys.map Prod.fst) :=
      (List.subperm_of_subset names within).perm_of_length_le (by simp [sizes])
    cases hy : ys.get? name with
    | none => exact .none
    | some other =>
      have held : name ∈ ys.map Prod.fst :=
        List.mem_map.mpr ⟨_, (Members.get?_iff names').mp hy, rfl⟩
      obtain ⟨⟨name, value⟩, hm, rfl⟩ := List.mem_map.mp (perm.symm.subset held)
      rw [(Members.get?_iff names).mpr hm] at hx
      cases hx

/-- Objects with members of the same names in one order denote the same if their values do. -/
theorem same_obj {ι : Type} {l : List ι} {name : ι → τ} (names : (l.map name).Nodup)
    {f g : ι → Json τ} (values : ∀ i ∈ l, (f i).same (g i) = true) :
    (obj (l.map fun i => (name i, f i))).same (obj (l.map fun i => (name i, g i))) = true := by
  have once : ((l.map fun i => (name i, g i)).map Prod.fst).Nodup := by
    rwa [List.map_map]
  have part (some : List ι) (hs : some ⊆ l) :
      sameMembers (some.map fun i => (name i, f i)) (l.map fun i => (name i, g i)) = true := by
    induction some with
    | nil => rfl
    | cons i rest ih =>
      obtain ⟨first, others⟩ := List.cons_subset.mp hs
      have found : Members.get? (l.map fun i => (name i, g i)) (name i) = some (g i) :=
        (Members.get?_iff once).mpr (List.mem_map.mpr ⟨i, first, rfl⟩)
      unfold sameMembers
      simp [found, values i first, ih others]
  unfold same
  simp [part l (List.Subset.refl l)]

/-! ## Places -/

theorem get?_distinct {members : Members τ} (distinct : (obj members).Distinct) {name : τ} :
    ∀ value ∈ members.get? name, value.Distinct := by
  obtain - | - | - | - | - | - | ⟨names, values⟩ := distinct
  exact fun value found => values _ ((Members.get?_iff names).mp found)

theorem at?_distinct {value : Json τ} (distinct : value.Distinct) {path : List τ} :
    ∀ found ∈ value.at? path, found.Distinct := by
  intro found h
  induction path generalizing value with
  | nil =>
    cases h
    exact distinct
  | cons name path ih =>
    cases value with
    | obj members =>
      unfold at? at h
      obtain ⟨inner, there, deeper⟩ := Option.bind_eq_some_iff.mp h
      exact ih (get?_distinct distinct inner there) deeper
    | _ => cases h

omit [DecidableEq τ] in
theorem sameNumber_obj (x : Json τ) (ys : Members τ) : sameNumber x (obj ys) = false := by
  unfold sameNumber
  cases x.number? <;> rfl

omit [DecidableEq τ] in
theorem sameNumber_arr (x : Json τ) (l : List (Json τ)) : sameNumber x (arr l) = false := by
  unfold sameNumber
  cases x.number? <;> rfl

theorem obj_of_same {x : Json τ} {ys : Members τ} (h : x.same (obj ys) = true) :
    ∃ xs, x = obj xs := by
  cases x with
  | obj xs => exact ⟨xs, rfl⟩
  | _ => simp only [same, sameNumber_obj, Bool.false_eq_true] at h

/-- Documents that denote the same have the same at every place. -/
theorem at?_same {x y : Json τ} (distinct : x.Distinct) (distinct' : y.Distinct)
    (h : x.same y = true) (path : List τ) :
    Option.Rel (fun x y => same x y = true) (x.at? path) (y.at? path) := by
  induction path generalizing x y with
  | nil => exact .some h
  | cons name path ih =>
    cases y with
    | obj ys =>
      obtain ⟨xs, rfl⟩ := obj_of_same h
      have found := get?_same distinct distinct' h name
      have held : ∀ value ∈ Members.get? xs name, value.Distinct := get?_distinct distinct
      have held' : ∀ value ∈ Members.get? ys name, value.Distinct := get?_distinct distinct'
      unfold at?
      generalize Members.get? xs name = a at *
      generalize Members.get? ys name = b at *
      cases found with
      | none => exact .none
      | some found => exact ih (held _ rfl) (held' _ rfl) found
    | _ =>
      cases x with
      | obj xs => cases h
      | _ => exact .none

omit [DecidableEq τ] in
theorem getD_distinct {x : Option (Json τ)} (h : ∀ value ∈ x, Distinct value) :
    (x.getD .null).Distinct := by
  cases x with
  | none => exact .null
  | some value => exact h value rfl

theorem getD_same {x y : Option (Json τ)} (h : Option.Rel (fun x y => same x y = true) x y) :
    (x.getD .null).same (y.getD .null) = true := by
  cases h with
  | none => rfl
  | some same => exact same

/-! ## Items -/

theorem items_same {x y : Json τ} (h : x.same y = true) : sameItems x.items y.items = true := by
  cases x with
  | arr l =>
    cases y with
    | arr m => exact h
    | _ => cases h
  | _ =>
    cases y with
    | arr m => simp only [same, sameNumber_arr, Bool.false_eq_true] at h
    | _ => rfl

omit [DecidableEq τ] in
theorem items_distinct {value : Json τ} (distinct : value.Distinct) :
    ∀ item ∈ value.items, item.Distinct := by
  cases distinct with
  | arr values => exact values
  | _ => exact nofun

theorem sameItems_map {f : Json τ → Json τ} {l m : List (Json τ)} (h : sameItems l m = true)
    (each : ∀ x ∈ l, ∀ y ∈ m, x.same y = true → (f x).same (f y) = true) :
    sameItems (l.map f) (m.map f) = true := by
  induction l generalizing m with
  | nil =>
    cases m with
    | nil => rfl
    | cons y m => cases h
  | cons x l ih =>
    cases m with
    | nil => cases h
    | cons y m =>
      unfold sameItems at h
      rw [Bool.and_eq_true] at h
      have first := each x List.mem_cons_self y List.mem_cons_self h.1
      have rest := ih h.2 fun x hx y hy =>
        each x (List.mem_cons_of_mem _ hx) y (List.mem_cons_of_mem _ hy)
      simp only [List.map_cons, sameItems, first, rest, Bool.and_self]

end Json

end LakeAdmin
