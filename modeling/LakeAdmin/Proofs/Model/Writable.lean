import LakeAdmin.Json.Writer
import LakeAdmin.Proofs.Model.Kept

/-!
Documents that can be written. A value can be if each of its parts can, with one level of room
less. So what a resource shows can be written if what it was read from can be: each value is
kept as it came.
-/

namespace LakeAdmin

open Schema

/-! ## Values -/

namespace Json

/-- A document can be written with room for so many arrays and objects around its innermost
part: its numbers are finite, and its names and texts are of characters. -/
structure IsWritable (levels : Nat) (value : Document) : Prop where
  shallow : value.depth ≤ levels
  finite : value.isFinite = true
  plain : value.isPlain = true

variable {levels : Nat} {value : Document}

theorem IsWritable.mono {more : Nat} (h : value.IsWritable levels) (le : levels ≤ more) :
    value.IsWritable more :=
  ⟨Nat.le_trans h.shallow le, h.finite, h.plain⟩

section Lists

variable {τ : Type} {items : List (Json τ)} {members : Members τ}

theorem areFinite_iff : areFinite items = true ↔ ∀ item ∈ items, item.isFinite = true := by
  induction items with
  | nil => simp [areFinite]
  | cons item rest ih => simp [areFinite, ih]

theorem membersFinite_iff :
    membersFinite members = true ↔ ∀ member ∈ members, member.2.isFinite = true := by
  induction members with
  | nil => simp [membersFinite]
  | cons member rest ih => simp [membersFinite, ih]

theorem itemsDepth_le : itemsDepth items ≤ levels ↔ ∀ item ∈ items, item.depth ≤ levels := by
  induction items with
  | nil => simp [itemsDepth]
  | cons item rest ih => rw [itemsDepth, Nat.max_le, ih, List.forall_mem_cons]

theorem membersDepth_le :
    membersDepth members ≤ levels ↔ ∀ member ∈ members, member.2.depth ≤ levels := by
  induction members with
  | nil => simp [membersDepth]
  | cons member rest ih => rw [membersDepth, Nat.max_le, ih, List.forall_mem_cons]

end Lists

theorem arePlain_iff {items : List Document} :
    arePlain items = true ↔ ∀ item ∈ items, item.isPlain = true := by
  induction items with
  | nil => simp [arePlain]
  | cons item rest ih => simp [arePlain, ih]

theorem membersPlain_iff {members : Members Wide} :
    membersPlain members = true ↔
      ∀ member ∈ members, member.1.isPlain = true ∧ member.2.isPlain = true := by
  induction members with
  | nil => simp [membersPlain]
  | cons member rest ih => simp [membersPlain, ih]

@[simp] theorem writable_null : (null : Document).IsWritable levels :=
  ⟨by simp [depth], by simp [isFinite], by simp [isPlain]⟩

@[simp] theorem writable_bool (b : Bool) : (bool b : Document).IsWritable levels :=
  ⟨by simp [depth], by simp [isFinite], by simp [isPlain]⟩

@[simp] theorem writable_int (n : Int) : (int n : Document).IsWritable levels :=
  ⟨by simp [depth], by simp [isFinite], by simp [isPlain]⟩

@[simp] theorem writable_str {s : Wide} : (str s).IsWritable levels ↔ s.isPlain = true :=
  ⟨fun h => by simpa [isPlain] using h.plain,
    fun h => ⟨by simp [depth], by simp [isFinite], by simpa [isPlain] using h⟩⟩

@[simp] theorem writable_arr {items : List Document} :
    (arr items).IsWritable (levels + 1) ↔ ∀ item ∈ items, item.IsWritable levels := by
  constructor
  · rintro ⟨shallow, finite, plain⟩ item hi
    simp only [depth, isFinite, isPlain, Nat.add_le_add_iff_right, itemsDepth_le, areFinite_iff,
      arePlain_iff] at shallow finite plain
    exact ⟨shallow item hi, finite item hi, plain item hi⟩
  · intro h
    refine ⟨?_, ?_, ?_⟩
    · simpa [depth, itemsDepth_le] using fun item hi => (h item hi).shallow
    · simpa [isFinite, areFinite_iff] using fun item hi => (h item hi).finite
    · simpa [isPlain, arePlain_iff] using fun item hi => (h item hi).plain

@[simp] theorem writable_obj {members : Members Wide} :
    (obj members).IsWritable (levels + 1) ↔
      ∀ member ∈ members, member.1.isPlain = true ∧ member.2.IsWritable levels := by
  constructor
  · rintro ⟨shallow, finite, plain⟩ member hm
    simp only [depth, isFinite, isPlain, Nat.add_le_add_iff_right, membersDepth_le,
      membersFinite_iff, membersPlain_iff] at shallow finite plain
    exact ⟨(plain member hm).1, shallow member hm, finite member hm, (plain member hm).2⟩
  · intro h
    refine ⟨?_, ?_, ?_⟩
    · simpa only [depth, Nat.add_le_add_iff_right, membersDepth_le] using
        fun member hm => (h member hm).2.shallow
    · simpa only [isFinite, membersFinite_iff] using fun member hm => (h member hm).2.finite
    · simpa only [isPlain, membersPlain_iff] using
        fun member hm => ⟨(h member hm).1, (h member hm).2.plain⟩

theorem shallow_obj {members : Members Wide} (h : (obj members).IsWritable levels) :
    ∃ inner, levels = inner + 1 := by
  have positive := h.shallow
  rw [depth] at positive
  exact ⟨levels - 1, by omega⟩

end Json

/-! ## Resources and pages -/

open Json

variable {levels : Nat} {value : Document}

theorem known_plain : ∀ name ∈ @Resource.known Wide _, name.isPlain = true := by
  decide

/-- A resource that is read from a document that can be written shows such members. -/
theorem resource_writable {resource : Resource} (h : Resource.check value = .valid resource)
    (written : value.IsWritable levels) : (obj resource.toMembers.present).IsWritable levels := by
  cases value with
  | obj members =>
    obtain ⟨inner, rfl⟩ := shallow_obj written
    rw [writable_obj] at written ⊢
    intro member hm
    have there := (List.mem_filter.mp hm).1
    rw [resource_kept h] at there
    rcases List.mem_append.mp there with known | extra
    · obtain ⟨name, hn, rfl⟩ := List.mem_map.mp known
      refine ⟨known_plain name hn, ?_⟩
      dsimp only
      cases found : Members.get? members name with
      | none => exact writable_null
      | some value =>
        obtain ⟨member, hm, rfl⟩ := Option.map_eq_some_iff.mp found
        exact (written member (List.mem_of_find?_eq_some hm)).2
    · exact written member (List.mem_filter.mp extra).1
  | _ => cases h

/-- The values on a page stand two levels deep in its document. -/
theorem received_writable (written : value.IsWritable (levels + 2)) :
    ∀ item ∈ Page.received value, item.IsWritable levels := by
  intro item hi
  unfold Page.received at hi
  split at hi
  · rw [writable_obj] at written
    split at hi
    · rename_i found
      obtain ⟨member, hm, same⟩ := Option.map_eq_some_iff.mp found
      have listed := (written member (List.mem_of_find?_eq_some hm)).2
      rw [same, writable_arr] at listed
      exact listed item hi
    · cases hi
  · cases hi

end LakeAdmin
