import LakeAdmin.Json.Document

/-!
Objects that are read have each name once. A repeated name gives its last value to the place
of the first, so what the reader holds of an object may repeat names, and the object that is
made of it at the closing bracket does not.
-/

namespace LakeAdmin

variable {τ : Type}

namespace Json

/-- Every object in a value has each name once. -/
inductive Distinct : Json τ → Prop
  | null : Distinct .null
  | bool (b : Bool) : Distinct (.bool b)
  | int (n : Int) : Distinct (.int n)
  | float (x : Binary64) : Distinct (.float x)
  | str (s : τ) : Distinct (.str s)
  | arr {items : List (Json τ)} (values : ∀ item ∈ items, Distinct item) : Distinct (.arr items)
  | obj {members : Members τ} (names : (members.map Prod.fst).Nodup)
      (values : ∀ member ∈ members, Distinct member.2) : Distinct (.obj members)

/-- Every object in the values of members has each name once. The names of the members
themselves may repeat. -/
def DistinctValues (members : Members τ) : Prop := ∀ member ∈ members, member.2.Distinct

theorem distinctValues_nil : DistinctValues ([] : Members τ) := fun _ hm => absurd hm List.not_mem_nil

theorem distinctValues_cons {member : τ × Json τ} {members : Members τ}
    (value : member.2.Distinct) (rest : DistinctValues members) :
    DistinctValues (member :: members) := by
  intro other hm
  rcases List.mem_cons.mp hm with rfl | hm
  · exact value
  · exact rest other hm

end Json

open Json

/-! ## Members -/

namespace Members

variable [DecidableEq τ]

/-- Where no name repeats, a name has the value that stands beside it. -/
theorem get?_iff {members : Members τ} (names : (members.map Prod.fst).Nodup) {name : τ}
    {value : Json τ} : members.get? name = some value ↔ (name, value) ∈ members := by
  unfold get?
  induction members with
  | nil => simp
  | cons member rest ih =>
    obtain ⟨other, first⟩ := member
    rw [List.map_cons, List.nodup_cons] at names
    by_cases same : other = name
    · subst same
      have gone : (other, value) ∉ rest := fun hm => names.1 (List.mem_map.mpr ⟨_, hm, rfl⟩)
      simp [gone, eq_comm]
    · have apart : ¬name = other := fun h => same h.symm
      have passed : (other == name) = false := by simpa using same
      rw [List.find?_cons_of_neg (by simp [passed])]
      simpa [apart] using ih names.2

omit [DecidableEq τ] in
theorem mem_present {members : Members τ} {member : τ × Json τ} :
    member ∈ members.present ↔ member ∈ members ∧ member.2 ≠ .null := by
  unfold present
  rw [List.mem_filter]
  obtain ⟨name, value⟩ := member
  cases value <;> simp

theorem names_insert (name : τ) (value : Json τ) (members : Members τ) :
    (members.insert name value).map Prod.fst =
      if name ∈ members.map Prod.fst then members.map Prod.fst
      else members.map Prod.fst ++ [name] := by
  induction members with
  | nil => rfl
  | cons member rest ih =>
    obtain ⟨other, old⟩ := member
    by_cases same : other = name
    · simp [insert, same]
    · have apart : ¬name = other := fun h => same h.symm
      simp only [insert, beq_iff_eq, same, if_false, List.map_cons, List.mem_cons, apart,
        false_or, ih]
      split <;> simp

theorem nodup_insert {members : Members τ} (name : τ) (value : Json τ)
    (h : (members.map Prod.fst).Nodup) : ((members.insert name value).map Prod.fst).Nodup := by
  rw [names_insert]
  split
  · exact h
  · rename_i fresh
    rw [List.nodup_append]
    refine ⟨h, by simp, fun other hm last hl => ?_⟩
    rintro rfl
    exact fresh (List.mem_singleton.mp hl ▸ hm)

theorem mem_insert {name : τ} {value : Json τ} {members : Members τ} {member : τ × Json τ}
    (h : member ∈ members.insert name value) : member = (name, value) ∨ member ∈ members := by
  induction members with
  | nil => exact .inl (List.mem_singleton.mp h)
  | cons first rest ih =>
    unfold insert at h
    split at h
    · rcases List.mem_cons.mp h with rfl | hm
      · exact .inl rfl
      · exact .inr (List.mem_cons_of_mem _ hm)
    · rcases List.mem_cons.mp h with rfl | hm
      · exact .inr List.mem_cons_self
      · exact (ih hm).imp_right (List.mem_cons_of_mem _)

/-- What is made of pairs has each name once, and no value but theirs. -/
theorem ofPairs_distinct {pairs : List (τ × Json τ)} (values : DistinctValues pairs) :
    (Json.obj (ofPairs pairs)).Distinct := by
  have from_any (members : Members τ) (names : (members.map Prod.fst).Nodup)
      (held : DistinctValues members) :
      (Json.obj (pairs.foldl (fun members pair => Members.insert pair.1 pair.2 members)
        members)).Distinct := by
    induction pairs generalizing members with
    | nil => exact .obj names held
    | cons pair rest ih =>
      refine ih (fun other hm => values other (List.mem_cons_of_mem _ hm)) _
        (nodup_insert _ _ names) fun other hm => ?_
      rcases mem_insert hm with rfl | old
      · exact values pair List.mem_cons_self
      · exact held other old
  exact from_any [] List.nodup_nil distinctValues_nil

end Members

/-! ## The reader -/

namespace Json.Reader

/-- What an open array or object holds so far has each name once, in every object in it. -/
def Frame.Distinct : Frame → Prop
  | array items => ∀ item ∈ items, item.Distinct
  | object members _ => DistinctValues members

/-- What is expected next comes behind such values. -/
def Expected.Distinct : Expected → Prop
  | value => True
  | firstItem => True
  | firstName => True
  | name members => DistinctValues members
  | colon members _ => DistinctValues members
  | rest read => read.Distinct

/-- All values that a state holds have each name once. -/
structure State.Distinct (s : State) : Prop where
  expected : s.expected.Distinct
  stack : ∀ frame ∈ s.stack, frame.Distinct

theorem number_distinct {l : List Char} {value : Document} {size : Nat}
    (h : number? l = some (.ok value, size)) : value.Distinct := by
  unfold number? at h
  extract_lets negative body whole signSize places at h
  split at h
  · cases h
  · split at h
    · split at h
      · cases h
      · obtain ⟨same, -⟩ := Prod.mk.inj (Option.some.inj h)
        cases same
        exact .int _
    · obtain ⟨same, -⟩ := Prod.mk.inj (Option.some.inj h)
      cases same
      exact .float _

theorem word_distinct {word : String} {value : Document} (h : (word, value) ∈ words) :
    value.Distinct := by
  simp only [words, List.mem_cons, Prod.mk.injEq, List.not_mem_nil, or_false] at h
  rcases h with ⟨-, rfl⟩ | ⟨-, rfl⟩ | ⟨-, rfl⟩ | ⟨-, rfl⟩ | ⟨-, rfl⟩ | ⟨-, rfl⟩
  · exact .null
  · exact .bool _
  · exact .bool _
  · exact .float _
  · exact .float _
  · exact .float _

theorem scalar_distinct {position size : Nat} {l : List Point} {value : Document}
    (h : scalar position l = .ok (value, size)) : value.Distinct := by
  unfold scalar at h
  split at h
  · rename_i rest
    cases read : text position (position + 1) 0 rest with
    | error e =>
      rw [read] at h
      cases h
    | ok found =>
      rw [read] at h
      cases h
      exact .str _
  · dsimp only at h
    split at h
    · rename_i found
      cases h
      exact word_distinct (List.mem_of_find?_eq_some found)
    · split at h
      · rename_i found
        cases h
        exact number_distinct found
      · cases h
      · cases h

theorem opened_distinct {levels skip : Nat} {array : Bool} {stack : List Frame} {next : State}
    (held : ∀ frame ∈ stack, frame.Distinct)
    (h : opened levels array stack = .ok (next, skip)) : next.Distinct := by
  unfold opened at h
  split at h
  · cases h
  · split at h
    · cases h
      refine ⟨trivial, fun frame hm => ?_⟩
      rcases List.mem_cons.mp hm with rfl | hm
      · exact nofun
      · exact held frame hm
    · cases h
      exact ⟨trivial, held⟩

theorem startValue_distinct {levels position skip : Nat} {stack : List Frame} {c : Point}
    {rest : List Point} {next : State} (held : ∀ frame ∈ stack, frame.Distinct)
    (h : startValue levels stack position c rest = .ok (next, skip)) : next.Distinct := by
  unfold startValue at h
  split at h
  · exact opened_distinct held h
  · split at h
    · exact opened_distinct held h
    · cases read : scalar position (c :: rest) with
      | error e =>
        rw [read] at h
        cases h
      | ok found =>
        rw [read] at h
        cases h
        exact ⟨scalar_distinct read, held⟩

theorem startName_distinct {members : Members Wide} {stack : List Frame} {position skip : Nat}
    {c : Point} {rest : List Point} {next : State} (values : DistinctValues members)
    (held : ∀ frame ∈ stack, frame.Distinct)
    (h : startName members stack position c rest = .ok (next, skip)) : next.Distinct := by
  unfold startName at h
  split at h
  · cases read : text position (position + 1) 0 rest with
    | error e =>
      rw [read] at h
      cases h
    | ok found =>
      rw [read] at h
      cases h
      exact ⟨values, held⟩
  · cases h

/-- A step keeps the values of a state, adds scalars, and closes objects. -/
theorem step_distinct {levels position skip : Nat} {s next : State} {c : Point}
    {rest : List Point} (held : s.Distinct) (h : step levels s position c rest = .ok (next, skip)) : next.Distinct := by
  obtain ⟨expected, stack⟩ := s
  obtain ⟨first, frames⟩ := held
  dsimp only at first frames
  unfold step at h
  split at h
  · cases h
    exact ⟨first, frames⟩
  · dsimp only at h
    split at h
    · exact startValue_distinct frames h
    · split at h
      · cases h
        exact ⟨.arr nofun, fun frame hm => frames frame (List.mem_cons_of_mem _ hm)⟩
      · exact startValue_distinct frames h
    · split at h
      · cases h
        exact ⟨.obj List.nodup_nil distinctValues_nil, frames⟩
      · exact startName_distinct distinctValues_nil frames h
    · exact startName_distinct first frames h
    · split at h
      · cases h
        refine ⟨trivial, fun frame hm => ?_⟩
        rcases List.mem_cons.mp hm with rfl | hm
        · exact first
        · exact frames frame hm
      · cases h
    · rename_i value items outer
      have items : ∀ item ∈ value :: items, item.Distinct := by
        simpa using ⟨first, frames (.array items) List.mem_cons_self⟩
      have below (frame : Frame) (hm : frame ∈ outer) := frames frame (List.mem_cons_of_mem _ hm)
      split at h
      · cases h
        exact ⟨.arr fun item hm => items item (List.mem_reverse.mp hm), below⟩
      · split at h
        · cases h
          refine ⟨trivial, fun frame hm => ?_⟩
          rcases List.mem_cons.mp hm with rfl | hm
          · exact items
          · exact below frame hm
        · cases h
    · rename_i value members name outer
      have values : DistinctValues ((name, value) :: members) :=
        distinctValues_cons first (frames (.object members name) List.mem_cons_self)
      have below (frame : Frame) (hm : frame ∈ outer) := frames frame (List.mem_cons_of_mem _ hm)
      split at h
      · cases h
        exact ⟨Members.ofPairs_distinct fun member hm => values member (List.mem_reverse.mp hm),
          below⟩
      · split at h
        · cases h
          exact ⟨values, below⟩
        · cases h
    · cases h

theorem run_distinct {levels position skip : Nat} {s : State} {l : List Point} {value : Document}
    (held : s.Distinct) (h : run levels s position skip l = .ok value) : value.Distinct := by
  induction l generalizing s position skip with
  | nil =>
    unfold run at h
    split at h
    · rename_i expected _
      cases h
      have value := held.expected
      rwa [expected] at value
    · cases h
  | cons c rest ih =>
    cases skip with
    | succ skip => exact ih held h
    | zero =>
      unfold run at h
      cases stepped : step levels s position c rest with
      | error e =>
        rw [stepped] at h
        cases h
      | ok found =>
        rw [stepped] at h
        exact ih (step_distinct held stepped) h

end Json.Reader

/-! ## Documents -/

/-- Every object in a document has each name once. -/
theorem Json.ofBytes_distinct {levels : Nat} {bytes : List UInt8} {value : Document}
    (h : Json.ofBytes levels bytes = .ok value) : value.Distinct := by
  unfold ofBytes at h
  split at h
  · cases h
  · split at h
    · rename_i read
      cases h
      have start : Reader.State.Distinct ⟨.value, []⟩ :=
        ⟨trivial, fun _ hm => absurd hm List.not_mem_nil⟩
      exact Reader.run_distinct start read
    · cases h
    · cases h

end LakeAdmin
