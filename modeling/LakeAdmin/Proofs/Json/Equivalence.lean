import LakeAdmin.Proofs.CacheKey
import LakeAdmin.Proofs.Json.Equal

/-!
To denote the same is symmetric and transitive for documents that repeat no name. Values without
parts denote the same if their worth is one, lists if their items do one by one, and objects if
they hold the same under each name.
-/

namespace LakeAdmin.Json

variable {τ : Type} [DecidableEq τ]

/-! ## Parts -/

theorem arr_same {xs : List (Json τ)} {y : Json τ} (h : (arr xs).same y = true) :
    ∃ ys, y = arr ys ∧ sameItems xs ys = true := by
  cases y with
  | arr ys => exact ⟨ys, rfl, by rwa [same] at h⟩
  | _ => cases h

theorem obj_same {xs : Members τ} {y : Json τ} (h : (obj xs).same y = true) : ∃ ys, y = obj ys := by
  cases y with
  | obj ys => exact ⟨ys, rfl⟩
  | _ => cases h

/-- What denotes the same as a value without parts has none either. -/
theorem scalar_same {x y : Json τ} (scalar : x.IsScalar) (h : x.same y = true) : y.IsScalar := by
  have worth := (same_worth scalar y).mp h
  have kept : x.worth.IsScalar := by
    cases number : x.number? with
    | some n =>
      rw [worth_number number]
      trivial
    | none =>
      rw [worth_other number]
      exact scalar
  rw [worth] at kept
  cases number : y.number? with
  | some n =>
    cases y with
    | arr _ => cases number
    | obj _ => cases number
    | _ => trivial
  | none => rwa [worth_other number] at kept

theorem sameItems_symm {l m : List (Json τ)}
    (each : ∀ x ∈ l, ∀ y ∈ m, x.same y = true → y.same x = true) (h : sameItems l m = true) :
    sameItems m l = true := by
  induction l generalizing m with
  | nil =>
    cases m with
    | nil => rfl
    | cons y m => cases h
  | cons x l ih =>
    cases m with
    | nil => cases h
    | cons y m =>
      unfold sameItems at h ⊢
      rw [Bool.and_eq_true] at h ⊢
      exact ⟨each x List.mem_cons_self y List.mem_cons_self h.1,
        ih (fun x hx y hy => each x (List.mem_cons_of_mem _ hx) y (List.mem_cons_of_mem _ hy)) h.2⟩

theorem sameItems_trans {l m n : List (Json τ)}
    (each : ∀ x ∈ l, ∀ y ∈ m, ∀ z ∈ n, x.same y = true → y.same z = true → x.same z = true)
    (h : sameItems l m = true) (h' : sameItems m n = true) : sameItems l n = true := by
  induction l generalizing m n with
  | nil =>
    cases m with
    | nil => exact h'
    | cons y m => cases h
  | cons x l ih =>
    cases m with
    | nil => cases h
    | cons y m =>
      cases n with
      | nil => cases h'
      | cons z n =>
        unfold sameItems at h h' ⊢
        rw [Bool.and_eq_true] at h h' ⊢
        refine ⟨each x List.mem_cons_self y List.mem_cons_self z List.mem_cons_self h.1 h'.1,
          ih (fun x hx y hy z hz => ?_) h.2 h'.2⟩
        exact each x (List.mem_cons_of_mem _ hx) y (List.mem_cons_of_mem _ hy) z
          (List.mem_cons_of_mem _ hz)

/-! ## Objects -/

theorem names_found {members : Members τ} (names : (members.map Prod.fst).Nodup) {name : τ} :
    name ∈ members.map Prod.fst ↔ ∃ value, members.get? name = some value := by
  constructor
  · intro held
    obtain ⟨⟨_, value⟩, member, rfl⟩ := List.mem_map.mp held
    exact ⟨value, (Members.get?_iff names).mpr member⟩
  · rintro ⟨value, found⟩
    exact List.mem_map.mpr ⟨_, (Members.get?_iff names).mp found, rfl⟩

theorem sameMembers_of_found {part ys : Members τ}
    (each : ∀ member ∈ part, ∃ other, ys.get? member.1 = some other ∧ member.2.same other = true) :
    sameMembers part ys = true := by
  induction part with
  | nil => rfl
  | cons member rest ih =>
    obtain ⟨other, found, same⟩ := each member List.mem_cons_self
    unfold sameMembers
    rw [found]
    dsimp only
    rw [same, ih fun member held => each member (List.mem_cons_of_mem _ held)]
    rfl

/-- Objects denote the same if and only if they hold the same under each name. -/
theorem obj_same_iff {xs ys : Members τ} (distinct : (obj xs).Distinct)
    (distinct' : (obj ys).Distinct) :
    (obj xs).same (obj ys) = true ↔
      ∀ name, Option.Rel (fun x y => same x y = true) (xs.get? name) (ys.get? name) := by
  refine ⟨get?_same distinct distinct', fun each => ?_⟩
  obtain - | - | - | - | - | - | ⟨names, -⟩ := distinct
  obtain - | - | - | - | - | - | ⟨names', -⟩ := distinct'
  have related {name : τ} {value : Json τ} (found : xs.get? name = some value) :
      ∃ other, ys.get? name = some other ∧ value.same other = true := by
    have rel := each name
    rw [found] at rel
    cases there : ys.get? name with
    | none =>
      rw [there] at rel
      cases rel
    | some other =>
      rw [there] at rel
      cases rel with
      | some same => exact ⟨other, rfl, same⟩
  have agree : ∀ name, name ∈ xs.map Prod.fst ↔ name ∈ ys.map Prod.fst := by
    intro name
    rw [names_found names, names_found names']
    have rel := each name
    generalize xs.get? name = a at rel
    generalize ys.get? name = b at rel
    cases rel <;> simp
  have sizes : xs.length = ys.length := by
    simpa using ((List.perm_ext_iff_of_nodup names names').mpr agree).length_eq
  unfold same
  rw [Bool.and_eq_true, beq_iff_eq]
  refine ⟨sizes, sameMembers_of_found fun member held => ?_⟩
  exact related ((Members.get?_iff names).mpr held)

/-! ## The laws -/

theorem same_symm {x y : Json τ} (distinct : x.Distinct) (distinct' : y.Distinct)
    (h : x.same y = true) : y.same x = true := by
  have plain {x y : Json τ} (scalar : x.IsScalar) (h : x.same y = true) : y.same x = true :=
    (same_worth (scalar_same scalar h) x).mpr ((same_worth scalar y).mp h).symm
  induction distinct generalizing y with
  | arr values ih =>
    obtain ⟨ys, rfl, items⟩ := arr_same h
    cases distinct' with
    | arr values' =>
      unfold same
      exact sameItems_symm (fun x hx y hy => ih x hx (values' y hy)) items
  | @obj xs names values ih =>
    obtain ⟨ys, rfl⟩ := obj_same h
    have whole : (obj xs).Distinct := .obj names values
    rw [obj_same_iff distinct' whole]
    intro name
    have rel := (obj_same_iff whole distinct').mp h name
    have held : ∀ x ∈ xs.get? name, ∀ y, y.Distinct → x.same y = true → y.same x = true :=
      fun x found y => ih (name, x) ((Members.get?_iff names).mp found)
    have held' : ∀ y ∈ Members.get? ys name, y.Distinct := get?_distinct distinct'
    generalize xs.get? name = a at rel held
    generalize Members.get? ys name = b at rel held'
    cases rel with
    | none => exact .none
    | some same => exact .some (held _ rfl _ (held' _ rfl) same)
  | _ => exact plain trivial h

/-- What denotes the same as a third denotes the same. -/
theorem same_trans {x y z : Json τ} (distinct : x.Distinct) (distinct' : y.Distinct)
    (distinct'' : z.Distinct) (h : x.same y = true) (h' : y.same z = true) :
    x.same z = true := by
  have plain {x y z : Json τ} (scalar : x.IsScalar) (h : x.same y = true) (h' : y.same z = true) :
      x.same z = true :=
    (same_worth scalar z).mpr
      (((same_worth scalar y).mp h).trans ((same_worth (scalar_same scalar h) z).mp h'))
  induction distinct generalizing y z with
  | arr values ih =>
    obtain ⟨ys, rfl, items⟩ := arr_same h
    obtain ⟨zs, rfl, items'⟩ := arr_same h'
    cases distinct' with
    | arr values' =>
      cases distinct'' with
      | arr values'' =>
        unfold same
        exact sameItems_trans
          (fun x hx y hy z hz => ih x hx (values' y hy) (values'' z hz)) items items'
  | @obj xs names values ih =>
    obtain ⟨ys, rfl⟩ := obj_same h
    obtain ⟨zs, rfl⟩ := obj_same h'
    have whole : (obj xs).Distinct := .obj names values
    rw [obj_same_iff whole distinct'']
    intro name
    have rel := (obj_same_iff whole distinct').mp h name
    have rel' := (obj_same_iff distinct' distinct'').mp h' name
    have held : ∀ x ∈ xs.get? name, ∀ y z, y.Distinct → z.Distinct → x.same y = true →
        y.same z = true → x.same z = true :=
      fun x found y z => ih (name, x) ((Members.get?_iff names).mp found)
    have held' : ∀ y ∈ Members.get? ys name, y.Distinct := get?_distinct distinct'
    have held'' : ∀ z ∈ Members.get? zs name, z.Distinct := get?_distinct distinct''
    generalize xs.get? name = a at rel held
    generalize Members.get? ys name = b at rel rel' held'
    generalize Members.get? zs name = c at rel' held''
    cases rel with
    | none =>
      cases rel' with
      | none => exact .none
    | some same =>
      cases rel' with
      | some same' => exact .some (held _ rfl _ _ (held' _ rfl) (held'' _ rfl) same same')
  | _ => exact plain trivial h h'

end LakeAdmin.Json
