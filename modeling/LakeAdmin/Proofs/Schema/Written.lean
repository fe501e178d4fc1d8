import LakeAdmin.Proofs.Net.Ipv4
import LakeAdmin.Proofs.Schema.Checked

/-!
Checking what was checked before. What passes a check keeps the rules of the check, and what
keeps its rules passes unchanged when it is written down and checked once more.
-/

namespace LakeAdmin.Schema

variable {α β : Type} {members : Members} {name : String} {check : Check α} {rule : α → Prop}
  {write : α → Json}

/-! ## Rules -/

/-- Whatever passes a check keeps a rule. -/
def Ensures (check : Check α) (rule : α → Prop) : Prop :=
  ∀ value a, check value = .valid a → rule a

theorem ensures_required (h : Ensures check rule) {a : α}
    (read : Check.required members name check = .valid a) : rule a := by
  obtain ⟨value, -, passed⟩ := required_valid read
  exact h value a passed

theorem ensures_optional (h : Ensures check rule) {found : Option α}
    (read : Check.optional members name check = .valid found) : ∀ a ∈ found, rule a := by
  rcases defaulted_valid read with ⟨-, rfl⟩ | ⟨value, -, passed⟩
  · exact nofun
  · unfold Check.nullable at passed
    split at passed
    · cases passed
      exact nofun
    · obtain ⟨a, inner, rfl⟩ := map_valid passed
      rintro _ ⟨⟩
      exact h _ a inner

theorem ensures_list (h : Ensures check rule) :
    Ensures (Check.list check) fun l => ∀ a ∈ l, rule a := by
  intro value l passed
  cases value with
  | arr values =>
    have read := items_valid passed
    clear passed
    induction read with
    | nil => exact nofun
    | cons first _ ih => exact List.forall_mem_cons.mpr ⟨h _ _ first, ih⟩
  | _ => cases passed

theorem ensures_filledList (h : Ensures check rule) :
    Ensures (Check.filledList check) fun l => l ≠ [] ∧ ∀ a ∈ l, rule a := by
  intro value l passed
  obtain ⟨l, read, filled⟩ := andThen_valid passed
  split at filled
  · cases filled
  · rename_i some
    cases filled
    exact ⟨by simpa using some, ensures_list h value l read⟩

theorem ensures_filledText : Ensures Check.filledText (· ≠ "") := by
  intro value s passed
  obtain ⟨s, -, filled⟩ := andThen_valid passed
  split at filled
  · cases filled
  · rename_i some
    cases filled
    exact some

theorem ensures_atLeast (low : Int) {check : Check Int} :
    Ensures (Check.atLeast low check) (low ≤ ·) := by
  intro value n passed
  obtain ⟨n, -, above⟩ := andThen_valid passed
  split at above
  · cases above
  · cases above
    omega

theorem ensures_atMost (high : Int) {check : Check Int} {rule : Int → Prop}
    (h : Ensures check rule) : Ensures (Check.atMost high check) fun n => rule n ∧ n ≤ high := by
  intro value n passed
  obtain ⟨n, read, below⟩ := andThen_valid passed
  split at below
  · cases below
  · cases below
    exact ⟨h value n read, by omega⟩

theorem ensures_keeping (tie : Rule) {holds : α → Bool} (h : Ensures check rule) :
    Ensures (Check.keeping tie holds check) fun a => rule a ∧ holds a = true := by
  intro value a passed
  obtain ⟨read, kept⟩ := keeping_valid passed
  exact ⟨h value a read, kept⟩

/-! ## Once more -/

/-- A value is read again from what it is written as, which is not null. -/
structure Rereads (check : Check α) (write : α → Json) (a : α) : Prop where
  filled : write a ≠ .null
  passes : check (write a) = .valid a

theorem map_passed {f : α → β} {x : Checked α} {a : α} (h : x = .valid a) :
    f <$> x = .valid (f a) := by
  rw [h]
  rfl

theorem seq_passed {f : Checked (α → β)} {x : Checked α} {g : α → β} {a : α} {b : β}
    (hf : f = .valid g) (hx : x = .valid a) (hb : g a = b) : f <*> x = .valid b := by
  rw [hf, hx, ← hb]
  rfl

theorem keeping_passed {tie : Rule} {holds : α → Bool} {value : Json} {a : α}
    (h : check value = .valid a) (kept : holds a = true) :
    Check.keeping tie holds check value = .valid a := by
  unfold Check.keeping
  rw [h]
  exact if_pos kept

theorem required_again {a : α} (h : Rereads check write a)
    (found : members.get? name = some (write a)) :
    Check.required members name check = .valid a := by
  unfold Check.required
  rw [found]
  dsimp only
  rw [h.passes]
  rfl

theorem defaulted_again {a : α} (usual : α) (h : Rereads check write a)
    (found : members.get? name = some (write a)) :
    Check.defaulted members name usual check = .valid a := by
  unfold Check.defaulted
  rw [found]
  dsimp only
  rw [h.passes]
  rfl

theorem nullable_filled {value : Json} (h : value ≠ .null) :
    Check.nullable check value = (check value).map some := by
  unfold Check.nullable
  split
  · exact absurd rfl h
  · rfl

theorem optional_again {given : Option α} (h : ∀ a ∈ given, Rereads check write a)
    (found : members.get? name = some (given.elim .null write)) :
    Check.optional members name check = .valid given := by
  unfold Check.optional Check.defaulted
  rw [found]
  cases given with
  | none => rfl
  | some a =>
    have again := h a rfl
    dsimp only [Option.elim_some]
    rw [nullable_filled again.filled, again.passes]
    rfl

theorem rereads_text (s : String) : Rereads Check.text .str s := ⟨nofun, rfl⟩

theorem rereads_filledText {s : String} (h : s ≠ "") : Rereads Check.filledText .str s :=
  ⟨nofun, if_neg h⟩

theorem rereads_integer (n : Int) : Rereads Check.integer .int n := ⟨nofun, rfl⟩

theorem rereads_atLeast {low n : Int} {check : Check Int} {write : Int → Json}
    (h : Rereads check write n) (above : low ≤ n) :
    Rereads (Check.atLeast low check) write n := by
  refine ⟨h.filled, ?_⟩
  unfold Check.atLeast
  rw [h.passes]
  exact if_neg (by omega)

theorem rereads_atMost {high n : Int} {check : Check Int} {write : Int → Json}
    (h : Rereads check write n) (below : n ≤ high) :
    Rereads (Check.atMost high check) write n := by
  refine ⟨h.filled, ?_⟩
  unfold Check.atMost
  rw [h.passes]
  exact if_neg (by omega)

theorem rereads_ipv4 (address : Ipv4) :
    Rereads Check.ipv4 (fun address => .str address.toText) address := by
  refine ⟨nofun, ?_⟩
  show Check.ipv4.ofOption (Ipv4.ofText? address.toText) = .valid address
  rw [Ipv4.ofText?_toText]
  rfl

theorem items_again {l : List α} (h : ∀ a ∈ l, Rereads check write a) (index : Nat) :
    Check.items check index (l.map write) = .valid l := by
  induction l generalizing index with
  | nil => rfl
  | cons a rest ih =>
    rw [List.forall_mem_cons] at h
    rw [List.map_cons, Check.items, h.1.passes, ih h.2]
    rfl

theorem rereads_list {l : List α} (h : ∀ a ∈ l, Rereads check write a) :
    Rereads (Check.list check) (fun l => .arr (l.map write)) l :=
  ⟨nofun, items_again h 0⟩

theorem rereads_filledList {l : List α} (filled : l ≠ []) (h : ∀ a ∈ l, Rereads check write a) :
    Rereads (Check.filledList check) (fun l => .arr (l.map write)) l := by
  refine ⟨nofun, ?_⟩
  unfold Check.filledList
  rw [(rereads_list h).passes]
  exact if_neg (by simpa using filled)

theorem entries_again {l : List (String × α)} (h : ∀ entry ∈ l, Rereads check write entry.2) :
    Check.entries check (l.map fun entry => (entry.1, write entry.2)) = .valid l := by
  induction l with
  | nil => rfl
  | cons entry rest ih =>
    rw [List.forall_mem_cons] at h
    rw [List.map_cons, Check.entries, h.1.passes, ih h.2]
    rfl

theorem rereads_dictionary {l : List (String × α)}
    (h : ∀ entry ∈ l, Rereads check write entry.2) :
    Rereads (Check.dictionary check)
      (fun l => .obj (l.map fun entry => (entry.1, write entry.2))) l :=
  ⟨nofun, entries_again h⟩

end LakeAdmin.Schema
