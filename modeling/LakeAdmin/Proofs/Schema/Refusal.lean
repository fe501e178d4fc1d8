import LakeAdmin.Schema.Scalar

/-!
Refusals. Whatever a check refuses, it refuses with a reason: there is no empty list of issues.
-/

namespace LakeAdmin.Schema

variable {α β : Type} {members : Members} {name : String} {check : Check α}

/-! ## Values -/

def Checked.Reasoned (x : Checked α) : Prop := x ≠ .invalid []

def Reasons (check : Check α) : Prop := ∀ value, (check value).Reasoned

theorem reasoned_valid (a : α) : (Checked.valid a).Reasoned := nofun

theorem reasoned_fail (cause : Cause) : (Checked.fail cause : Checked α).Reasoned := nofun

theorem reasoned_ite {p : Prop} [Decidable p] {x y : Checked α} (hx : x.Reasoned)
    (hy : y.Reasoned) : (if p then x else y).Reasoned := by
  split
  · exact hx
  · exact hy

theorem reasoned_seq {f : Checked (α → β)} {x : Checked α} (hf : f.Reasoned) (hx : x.Reasoned) :
    (f <*> x).Reasoned := by
  cases f with
  | valid g =>
    cases x with
    | valid a => exact reasoned_valid _
    | invalid issues => exact fun h => hx (by cases h; rfl)
  | invalid first =>
    cases x with
    | valid a => exact fun h => hf (by cases h; rfl)
    | invalid second =>
      intro h
      have both : first ++ second = [] := Checked.invalid.inj h
      exact hf (by rw [(List.append_eq_nil_iff.mp both).1])

theorem reasoned_map {f : α → β} {x : Checked α} (hx : x.Reasoned) : (f <$> x).Reasoned := by
  cases x with
  | valid a => exact reasoned_valid _
  | invalid issues => exact fun h => hx (by cases h; rfl)

theorem reasoned_under {x : Checked α} (hx : x.Reasoned) : (x.under name).Reasoned := by
  cases x with
  | valid a => exact reasoned_valid _
  | invalid issues =>
    intro h
    have none : issues.map _ = [] := Checked.invalid.inj h
    exact hx (by rw [List.map_eq_nil_iff.mp none])

theorem reasoned_andThen {x : Checked α} {f : α → Checked β} (hx : x.Reasoned)
    (hf : ∀ a, (f a).Reasoned) : (x.andThen f).Reasoned := by
  cases x with
  | valid a => exact hf a
  | invalid issues => exact fun h => hx (by cases h; rfl)

/-! ## Members -/

theorem reasoned_required (h : Reasons check) :
    (Check.required members name check).Reasoned := by
  unfold Check.required
  split
  · exact reasoned_under (h _)
  · exact reasoned_under (reasoned_fail _)

theorem reasoned_defaulted (usual : α) (h : Reasons check) :
    (Check.defaulted members name usual check).Reasoned := by
  unfold Check.defaulted
  split
  · exact reasoned_under (h _)
  · exact reasoned_valid _

theorem reasons_nullable (h : Reasons check) : Reasons (Check.nullable check) := by
  intro value
  unfold Check.nullable
  split
  · exact reasoned_valid _
  · exact reasoned_map (h _)

theorem reasoned_optional (h : Reasons check) : (Check.optional members name check).Reasoned :=
  reasoned_defaulted none (reasons_nullable h)

theorem reasons_object {kind : String} {read : Members → Checked α}
    (h : ∀ members, (read members).Reasoned) : Reasons (Check.object kind read) := by
  intro value
  unfold Check.object
  split
  · exact h _
  · exact reasoned_fail _

/-! ## Checks -/

theorem reasons_keeping (rule : Rule) (holds : α → Bool) (h : Reasons check) :
    Reasons (Check.keeping rule holds check) := fun value =>
  reasoned_andThen (h value) fun a => reasoned_ite (reasoned_valid a) (reasoned_fail _)

theorem reasons_items (h : Reasons check) (index : Nat) (l : List Json) :
    (Check.items check index l).Reasoned := by
  induction l generalizing index with
  | nil => exact reasoned_valid _
  | cons item rest ih => exact reasoned_seq (reasoned_map (reasoned_under (h item))) (ih _)

theorem reasons_list (h : Reasons check) : Reasons (Check.list check) := by
  intro value
  unfold Check.list
  split
  · exact reasons_items h 0 _
  · exact reasoned_fail _

theorem reasons_filledList (h : Reasons check) : Reasons (Check.filledList check) := fun value =>
  reasoned_andThen (reasons_list h value) fun l => reasoned_ite (reasoned_fail _) (reasoned_valid l)

theorem reasons_dictionary (h : Reasons check) : Reasons (Check.dictionary check) := by
  have entries (l : Members) : (Check.entries check l).Reasoned := by
    induction l with
    | nil => exact reasoned_valid _
    | cons member rest ih =>
      exact reasoned_seq (reasoned_map (reasoned_map (reasoned_under (h member.2)))) ih
  intro value
  unfold Check.dictionary
  split
  · exact entries _
  · exact reasoned_fail _

theorem reasons_text : Reasons Check.text := by
  intro value
  unfold Check.text
  split
  · exact reasoned_valid _
  · exact reasoned_fail _

theorem reasons_filledText : Reasons Check.filledText := fun value =>
  reasoned_andThen (reasons_text value) fun s => reasoned_ite (reasoned_fail _) (reasoned_valid s)

theorem reasons_integer : Reasons Check.integer := by
  have whole (x : Binary64) : (Check.wholeDouble x).Reasoned := by
    unfold Check.wholeDouble
    split
    · exact reasoned_fail _
    · split
      · exact reasoned_fail _
      · exact reasoned_ite (reasoned_valid _) (reasoned_fail _)
  intro value
  unfold Check.integer
  split
  · exact reasoned_valid _
  · exact reasoned_valid _
  · exact whole _
  · split
    · exact reasoned_fail _
    · split
      · exact reasoned_valid _
      · exact reasoned_fail _
  · exact reasoned_fail _

theorem reasons_atLeast (low : Int) {check : Check Int} (h : Reasons check) :
    Reasons (Check.atLeast low check) := fun value =>
  reasoned_andThen (h value) fun n => reasoned_ite (reasoned_fail _) (reasoned_valid n)

theorem reasons_atMost (high : Int) {check : Check Int} (h : Reasons check) :
    Reasons (Check.atMost high check) := fun value =>
  reasoned_andThen (h value) fun n => reasoned_ite (reasoned_fail _) (reasoned_valid n)

theorem reasons_ipv4 : Reasons Check.ipv4 := by
  have found (address : Option Ipv4) : (Check.ipv4.ofOption address).Reasoned := by
    cases address with
    | none => exact reasoned_fail _
    | some address => exact reasoned_valid _
  intro value
  unfold Check.ipv4
  split
  · exact found _
  · exact found _
  · exact found _
  · exact reasoned_fail _

end LakeAdmin.Schema
