import Mathlib.Data.List.Forall2
import LakeAdmin.Schema.Scalar

/-!
What passes a check, and what comes out of it. A check of several parts passes if and only if
each part does, and its value is made of theirs.
-/

namespace LakeAdmin.Schema

variable {α β : Type} {members : Members τ} {name : τ} {check : Check α τ}

/-! ## What a passed value is made of -/

theorem seq_valid {f : Checked (α → β)} {x : Checked α} {b : β}
    (h : f <*> x = .valid b) : ∃ g a, f = .valid g ∧ x = .valid a ∧ b = g a := by
  cases f with
  | invalid issues =>
    cases x with
    | invalid others => cases h
    | valid a => cases h
  | valid g =>
    cases x with
    | invalid issues => cases h
    | valid a =>
      cases h
      exact ⟨g, a, rfl, rfl, rfl⟩

theorem map_valid {f : α → β} {x : Checked α} {b : β} (h : f <$> x = .valid b) :
    ∃ a, x = .valid a ∧ b = f a := by
  cases x with
  | invalid issues => cases h
  | valid a =>
    cases h
    exact ⟨a, rfl, rfl⟩

theorem under_valid {place : String} {x : Checked α} {a : α} (h : x.under place = .valid a) :
    x = .valid a := by
  cases x with
  | invalid issues => cases h
  | valid b =>
    cases h
    rfl

theorem andThen_valid {x : Checked α} {f : α → Checked β} {b : β}
    (h : x.andThen f = .valid b) : ∃ a, x = .valid a ∧ f a = .valid b := by
  cases x with
  | invalid issues => cases h
  | valid a => exact ⟨a, rfl, h⟩

theorem keeping_valid {rule : Rule} {holds : α → Bool} {value : Json τ} {a : α}
    (h : Check.keeping rule holds check value = .valid a) :
    check value = .valid a ∧ holds a = true := by
  obtain ⟨a, read, kept⟩ := andThen_valid h
  split at kept
  · rename_i holds
    cases kept
    exact ⟨read, holds⟩
  · cases kept

theorem object_valid {kind : String} {read : Members τ → Checked α} {value : Json τ} {a : α}
    (h : Check.object kind read value = .valid a) :
    ∃ members, value = .obj members ∧ read members = .valid a := by
  cases value with
  | obj members => exact ⟨members, rfl, h⟩
  | _ => cases h

section Members

variable [DecidableEq τ] [TextLike τ]

theorem required_valid {a : α} (h : Check.required members name check = .valid a) :
    ∃ value, members.get? name = some value ∧ check value = .valid a := by
  unfold Check.required at h
  split at h
  · rename_i value found
    exact ⟨value, found, under_valid h⟩
  · cases h

theorem defaulted_valid {usual a : α}
    (h : Check.defaulted members name usual check = .valid a) :
    (members.get? name = none ∧ a = usual) ∨
      ∃ value, members.get? name = some value ∧ check value = .valid a := by
  unfold Check.defaulted at h
  split at h
  · rename_i value found
    exact .inr ⟨value, found, under_valid h⟩
  · rename_i absent
    cases h
    exact .inl ⟨absent, rfl⟩

end Members

/-- The items that pass are those of the list, in their order. -/
theorem items_valid {index : Nat} {l : List (Json τ)} {r : List α}
    (h : Check.items check index l = .valid r) :
    List.Forall₂ (fun item a => check item = .valid a) l r := by
  induction l generalizing index r with
  | nil =>
    cases h
    exact .nil
  | cons item rest ih =>
    unfold Check.items at h
    obtain ⟨g, others, front, read, rfl⟩ := seq_valid h
    obtain ⟨first, head, rfl⟩ := map_valid front
    exact .cons (under_valid head) (ih read)

/-! ## When a value passes -/

def Checked.Passes (x : Checked α) : Prop := ∃ a, x = .valid a

theorem passes_seq {f : Checked (α → β)} {x : Checked α} :
    (f <*> x).Passes ↔ f.Passes ∧ x.Passes := by
  constructor
  · rintro ⟨b, h⟩
    obtain ⟨g, a, hf, hx, -⟩ := seq_valid h
    exact ⟨⟨g, hf⟩, ⟨a, hx⟩⟩
  · rintro ⟨⟨g, rfl⟩, ⟨a, rfl⟩⟩
    exact ⟨g a, rfl⟩

theorem passes_map {f : α → β} {x : Checked α} : (f <$> x).Passes ↔ x.Passes := by
  constructor
  · rintro ⟨b, h⟩
    obtain ⟨a, hx, -⟩ := map_valid h
    exact ⟨a, hx⟩
  · rintro ⟨a, rfl⟩
    exact ⟨f a, rfl⟩

theorem passes_under {place : String} {x : Checked α} : (x.under place).Passes ↔ x.Passes := by
  constructor
  · rintro ⟨a, h⟩
    exact ⟨a, under_valid h⟩
  · rintro ⟨a, rfl⟩
    exact ⟨a, rfl⟩

theorem passes_pure (a : α) : (pure a : Checked α).Passes := ⟨a, rfl⟩

theorem passes_nullable {value : Json τ} :
    (Check.nullable check value).Passes ↔ value = .null ∨ (check value).Passes := by
  cases value with
  | null => simp [Check.nullable, Checked.Passes]
  | _ =>
    refine Iff.trans ?_ (or_iff_right nofun).symm
    exact passes_map

section Members

variable [TextLike τ]

theorem passes_entries {l : Members τ} :
    (Check.entries check l).Passes ↔ ∀ member ∈ l, (check member.2).Passes := by
  induction l with
  | nil => simp [Check.entries, Checked.Passes]
  | cons member rest ih =>
    unfold Check.entries
    rw [passes_seq, passes_map, ih, List.forall_mem_cons]
    exact and_congr_left' (passes_map.trans passes_under)

theorem passes_dictionary {value : Json τ} :
    (Check.dictionary check value).Passes ↔
      ∃ l, value = .obj l ∧ ∀ member ∈ l, (check member.2).Passes := by
  cases value with
  | obj l => simp [Check.dictionary, passes_entries]
  | _ => simp [Check.dictionary, Checked.Passes, Checked.fail]

variable [DecidableEq τ]

theorem passes_defaulted {usual : α} :
    (Check.defaulted members name usual check).Passes ↔
      ∀ value ∈ members.get? name, (check value).Passes := by
  unfold Check.defaulted
  cases members.get? name with
  | none => simp [Checked.Passes]
  | some value => simp [passes_under]

theorem passes_optional :
    (Check.optional members name check).Passes ↔
      ∀ value ∈ members.get? name, value = .null ∨ (check value).Passes := by
  unfold Check.optional
  rw [passes_defaulted]
  simp only [passes_nullable]

end Members

theorem passes_items {index : Nat} {l : List (Json τ)} :
    (Check.items check index l).Passes ↔ ∀ item ∈ l, (check item).Passes := by
  induction l generalizing index with
  | nil => simp [Check.items, Checked.Passes]
  | cons item rest ih =>
    unfold Check.items
    rw [passes_seq, passes_map, passes_under, ih, List.forall_mem_cons]

theorem passes_list {value : Json τ} :
    (Check.list check value).Passes ↔ ∃ l, value = .arr l ∧ ∀ item ∈ l, (check item).Passes := by
  cases value with
  | arr l => simp [Check.list, passes_items]
  | _ => simp [Check.list, Checked.Passes, Checked.fail]

theorem passes_text {value : Json τ} : (Check.text value).Passes ↔ ∃ s, value = .str s := by
  cases value <;> simp [Check.text, Checked.Passes, Checked.fail]

theorem passes_any (value : Json τ) : (Check.any value).Passes := ⟨value, rfl⟩

theorem passes_object {kind : String} {read : Members τ → Checked α} {value : Json τ} :
    (Check.object kind read value).Passes ↔
      ∃ members, value = .obj members ∧ (read members).Passes := by
  cases value with
  | obj members => simp [Check.object]
  | _ => simp [Check.object, Checked.Passes, Checked.fail]

end LakeAdmin.Schema
