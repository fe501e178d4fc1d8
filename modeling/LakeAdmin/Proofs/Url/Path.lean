import LakeAdmin.Proofs.Text.Split
import LakeAdmin.Url.Reference

/-!
Paths whose dot segments are removed. Nothing changes in a path without any; where there
is one, the path gets shorter or ends in an empty segment, so that its segments are no
longer those that were given.
-/

namespace LakeAdmin.Url

open Text

/-- A dot segment: it stands for the folder itself, or for the one above. -/
def IsDots (segment : List Char) : Prop := segment = ['.'] ∨ segment = ['.', '.']

instance (segment : List Char) : Decidable (IsDots segment) :=
  inferInstanceAs (Decidable (_ ∨ _))

theorem not_isDots_nil : ¬IsDots [] := by decide

/-! ## Reading a path -/

/-- What is kept of segments when one more is read. -/
def follow (kept : List (List Char)) (segment : List Char) : List (List Char) :=
  if segment = ['.'] then kept
  else if segment = ['.', '.'] then (if kept = [[]] then kept else kept.dropLast)
  else kept ++ [segment]

theorem removeDots_eq (path : List Char) :
    removeDots path = joinWith '/' ((splitAt '/' path).foldl follow []) := rfl

theorem follow_plain {kept : List (List Char)} {segment : List Char} (h : ¬IsDots segment) :
    follow kept segment = kept ++ [segment] := by
  rw [IsDots, not_or] at h
  rw [follow, if_neg h.1, if_neg h.2]

/-- Nothing leads out of the root. -/
theorem follow_root (segments rest : List (List Char)) :
    ∃ others, segments.foldl follow ([] :: rest) = [] :: others := by
  induction segments generalizing rest with
  | nil => exact ⟨rest, rfl⟩
  | cons segment segments ih =>
    rw [List.foldl_cons]
    unfold follow
    split
    · exact ih rest
    · split
      · split
        · exact ih rest
        · cases rest with
          | nil => contradiction
          | cons next rest => exact ih _
      · exact ih (rest ++ [segment])

theorem splitAt_rooted (rest : List Char) : splitAt '/' ('/' :: rest) = [] :: splitAt '/' rest := by
  simp [splitAt]

/-- A path without dot segments is read as it is. -/
theorem removeDots_self {path : List Char} (h : ∀ segment ∈ splitAt '/' path, ¬IsDots segment) :
    removeDots path = path := by
  have kept (segments kept : List (List Char)) (h : ∀ segment ∈ segments, ¬IsDots segment) :
      segments.foldl follow kept = kept ++ segments := by
    induction segments generalizing kept with
    | nil => simp
    | cons segment rest ih =>
      rw [List.foldl_cons, follow_plain (h segment (by simp)),
        ih _ fun other ho => h other (by simp [ho])]
      simp
  rw [removeDots_eq, kept _ _ h, List.nil_append, joinWith_splitAt]

/-- No dot segment is left in a path that was read. -/
theorem removeDots_undotted (path : List Char) :
    ∀ segment ∈ splitAt '/' (removeDots path), ¬IsDots segment := by
  have kept (segments kept : List (List Char)) (hk : ∀ s ∈ kept, ¬IsDots s ∧ '/' ∉ s)
      (hs : ∀ s ∈ segments, '/' ∉ s) :
      ∀ s ∈ segments.foldl follow kept, ¬IsDots s ∧ '/' ∉ s := by
    induction segments generalizing kept with
    | nil => exact hk
    | cons segment rest ih =>
      rw [List.foldl_cons]
      refine ih _ ?_ fun s hm => hs s (by simp [hm])
      unfold follow
      split
      · exact hk
      · split
        · split
          · exact hk
          · exact fun s hm => hk s (List.dropLast_subset _ hm)
        · rename_i one two
          intro s hm
          rcases List.mem_append.mp hm with hm | hm
          · exact hk s hm
          · rw [List.mem_singleton] at hm
            subst hm
            exact ⟨fun dots => dots.elim one two, hs _ (by simp)⟩
  intro segment hm
  rw [removeDots_eq] at hm
  have all := kept (splitAt '/' path) [] (by simp) fun s hs => not_mem_splitAt hs
  generalize (splitAt '/' path).foldl follow [] = final at hm all
  cases final with
  | nil =>
    simp only [joinWith, splitAt, List.mem_singleton] at hm
    rw [hm]
    exact not_isDots_nil
  | cons first rest =>
    rw [splitAt_joinWith (by simp) fun s hs => (all s hs).2] at hm
    exact (all segment hm).1

/-- A path without its dot segments begins at the root if it did so with them. -/
theorem removeDots_rooted {path : List Char} (h : path = [] ∨ path.head? = some '/') :
    removeDots path = [] ∨ (removeDots path).head? = some '/' := by
  have joined (others : List (List Char)) :
      joinWith '/' ([] :: others) = [] ∨ (joinWith '/' ([] :: others)).head? = some '/' := by
    cases others with
    | nil => exact .inl rfl
    | cons next others => exact .inr rfl
  rcases h with rfl | root
  · exact .inl rfl
  · cases path with
    | nil => cases root
    | cons c rest =>
      cases root
      rw [removeDots_eq, splitAt_rooted, List.foldl_cons, follow_plain not_isDots_nil,
        List.nil_append]
      obtain ⟨others, whole⟩ := follow_root (splitAt '/' rest) []
      rw [whole]
      exact joined others

theorem joinWith_folder (segments : List (List Char)) (segment : List Char) :
    (joinWith '/' (segment :: segments ++ [[]])).getLast? = some '/' := by
  induction segments generalizing segment with
  | nil => simp [joinWith]
  | cons next rest ih =>
    have later := ih next
    rw [List.cons_append, List.cons_append, joinWith, ← List.cons_append]
    rw [List.getLast?_append, List.getLast?_cons, later]
    rfl

/-- A folder from the root is one without its dot segments as well. -/
theorem removeDots_folder {path : List Char} (root : path.head? = some '/')
    (folder : path.getLast? = some '/') : (removeDots path).getLast? = some '/' := by
  obtain ⟨front, rfl⟩ := List.getLast?_eq_some_iff.mp folder
  have kept : ∃ first others, (splitAt '/' front).foldl follow [] = first :: others := by
    cases front with
    | nil => exact ⟨[], [], rfl⟩
    | cons c rest =>
      cases root
      obtain ⟨others, whole⟩ := follow_root (splitAt '/' rest) []
      refine ⟨[], others, ?_⟩
      rw [splitAt_rooted, List.foldl_cons, follow_plain not_isDots_nil, List.nil_append, whole]
  obtain ⟨first, others, whole⟩ := kept
  rw [removeDots_eq, splitAt_append, List.foldl_append, whole]
  change (joinWith '/' (follow (first :: others) [])).getLast? = some '/'
  rw [follow_plain not_isDots_nil]
  exact joinWith_folder others first

/-! ## Merging paths -/

namespace Reference

/-- What is kept of segments when one more is passed. -/
def keep (kept : List (List Char)) (segment : List Char) : List (List Char) :=
  if segment = ['.'] then kept
  else if segment = ['.', '.'] then kept.dropLast
  else kept ++ [segment]

theorem removeDots_eq (segments : List (List Char)) :
    removeDots segments =
      if IsDots (segments.getLastD []) then segments.foldl keep [] ++ [[]]
      else segments.foldl keep [] := rfl

theorem keep_dots {kept : List (List Char)} {segment : List Char} (h : ¬IsDots segment) :
    keep kept segment = kept ++ [segment] := by
  rw [IsDots, not_or] at h
  rw [keep, if_neg h.1, if_neg h.2]

theorem keep_undotted (segments kept : List (List Char)) (h : ∀ s ∈ segments, ¬IsDots s) :
    segments.foldl keep kept = kept ++ segments := by
  induction segments generalizing kept with
  | nil => simp
  | cons segment rest ih =>
    rw [List.foldl_cons, keep_dots (h segment (by simp)), ih _ fun s hs => h s (by simp [hs])]
    simp

theorem mem_keep {segments kept : List (List Char)} {segment : List Char}
    (h : segment ∈ segments.foldl keep kept) :
    segment ∈ kept ∨ (segment ∈ segments ∧ ¬IsDots segment) := by
  induction segments generalizing kept with
  | nil => exact .inl h
  | cons first rest ih =>
    rcases ih h with hm | ⟨hm, dots⟩
    · unfold keep at hm
      split at hm
      · exact .inl hm
      · split at hm
        · exact .inl (List.dropLast_subset _ hm)
        · rename_i one two
          rcases List.mem_append.mp hm with hm | hm
          · exact .inl hm
          · rw [List.mem_singleton] at hm
            subst hm
            exact .inr ⟨by simp, fun dots => dots.elim one two⟩
    · exact .inr ⟨by simp [hm], dots⟩

/-- Every dot segment costs at least its own place. -/
theorem keep_length (segments kept : List (List Char)) :
    (segments.foldl keep kept).length + segments.countP (IsDots ·) ≤
      kept.length + segments.length := by
  induction segments generalizing kept with
  | nil => simp
  | cons segment rest ih =>
    have later := ih (keep kept segment)
    rw [List.foldl_cons, List.countP_cons, List.length_cons]
    by_cases dots : IsDots segment
    · have shorter : (keep kept segment).length ≤ kept.length := by
        unfold keep
        rcases dots with rfl | rfl
        · simp
        · simp
      simp only [dots, decide_true, if_true]
      omega
    · have longer : (keep kept segment).length = kept.length + 1 := by
        rw [keep_dots dots]
        simp
      simp only [dots, decide_false, Bool.false_eq_true, if_false]
      omega

/-- Segments of which each dot segment follows another one. -/
def Steady : Bool → List (List Char) → Prop
  | _, [] => True
  | follows, segment :: rest =>
    if IsDots segment then follows = true ∧ Steady false rest else Steady true rest

/-- Dot segments that follow others lead no further than what is kept before them, and no dot
segment is kept behind it. -/
theorem keep_front {front segments rest : List (List Char)} {follows : Bool}
    (h : Steady follows segments) (hf : follows = true → rest ≠ []) :
    ∃ others, segments.foldl keep (front ++ rest) = front ++ others ∧
      ∀ s ∈ others, s ∈ rest ∨ (s ∈ segments ∧ ¬IsDots s) := by
  induction segments generalizing rest follows with
  | nil => exact ⟨rest, rfl, fun s hs => .inl hs⟩
  | cons segment segments ih =>
    unfold Steady at h
    rw [List.foldl_cons]
    by_cases dots : IsDots segment
    · rw [if_pos dots] at h
      -- The segment drops at most the last of the rest, of which there is one.
      obtain ⟨fewer, kept, sub⟩ : ∃ fewer, keep (front ++ rest) segment = front ++ fewer ∧
          fewer ⊆ rest := by
        rcases dots with rfl | rfl
        · exact ⟨rest, rfl, List.Subset.refl rest⟩
        · exact ⟨rest.dropLast, List.dropLast_append_of_ne_nil (hf h.1),
            List.dropLast_subset rest⟩
      obtain ⟨others, whole, all⟩ := @ih fewer false h.2 nofun
      refine ⟨others, by rw [kept, whole], fun s hs => ?_⟩
      rcases all s hs with old | ⟨new, plain⟩
      · exact .inl (sub old)
      · exact .inr ⟨List.mem_cons_of_mem _ new, plain⟩
    · rw [if_neg dots] at h
      obtain ⟨others, whole, all⟩ := @ih (rest ++ [segment]) true h (by simp)
      refine ⟨others, by rw [keep_dots dots, List.append_assoc, whole], fun s hs => ?_⟩
      rcases all s hs with old | ⟨new, plain⟩
      · rcases List.mem_append.mp old with old | same
        · exact .inl old
        · rw [List.mem_singleton.mp same]
          exact .inr ⟨List.mem_cons_self, dots⟩
      · exact .inr ⟨List.mem_cons_of_mem _ new, plain⟩

/-- They lead no further than the root. -/
theorem keep_rooted {segments rest : List (List Char)} {follows : Bool}
    (h : Steady follows segments) (hf : follows = true → rest ≠ []) :
    ∃ others, segments.foldl keep ([] :: rest) = [] :: others := by
  obtain ⟨others, whole, -⟩ := @keep_front [[]] segments rest follows h hf
  exact ⟨others, whole⟩

theorem steady_mono {segments : List (List Char)} (h : Steady false segments) (follows : Bool) :
    Steady follows segments := by
  cases segments with
  | nil => exact trivial
  | cons segment rest =>
    unfold Steady at h ⊢
    split at h
    · exact absurd h.1 Bool.false_ne_true
    · rw [if_neg (by assumption)]
      exact h

theorem steady_append {front segments : List (List Char)} (hf : ∀ s ∈ front, ¬IsDots s)
    (h : Steady false segments) (follows : Bool) : Steady follows (front ++ segments) := by
  induction front generalizing follows with
  | nil => exact steady_mono h follows
  | cons segment rest ih =>
    rw [List.cons_append, Steady, if_neg (hf segment (by simp))]
    exact ih (fun s hs => hf s (by simp [hs])) true

/-- A path from the root to a folder, in its segments. -/
theorem splitAt_folder {path : List Char} (root : path.head? = some '/')
    (folder : path.getLast? = some '/') :
    ∃ inner, splitAt '/' path = [] :: (inner ++ [[]]) := by
  cases path with
  | nil => cases root
  | cons c rest =>
    cases root
    rw [splitAt_rooted]
    cases rest with
    | nil => exact ⟨[], rfl⟩
    | cons d rest =>
      rw [List.getLast?_cons_cons] at folder
      obtain ⟨front, whole⟩ := List.getLast?_eq_some_iff.mp folder
      refine ⟨splitAt '/' front, ?_⟩
      rw [whole, splitAt_append]
      rfl

/-- Beside a folder, a path follows the segments of the folder that are not empty. -/
theorem mergeSegments_folder {base path : List Char} {inner : List (List Char)}
    (hb : splitAt '/' base = [] :: (inner ++ [[]])) (relative : path.head? ≠ some '/')
    (filled : ∀ s ∈ splitAt '/' path, s ≠ []) :
    mergeSegments base path = [] :: (inner.filter (!·.isEmpty) ++ splitAt '/' path) := by
  unfold mergeSegments
  rw [if_neg relative, hb]
  have last : ([] :: (inner ++ [[]]) : List (List Char)).getLast? = some [] := by
    rw [← List.cons_append, List.getLast?_append]
    rfl
  dsimp only
  rw [if_pos last]
  obtain ⟨front, final, whole⟩ : ∃ front final, splitAt '/' path = front ++ [final] :=
    ⟨_, _, (List.dropLast_concat_getLast (splitAt_ne_nil '/' path)).symm⟩
  rw [whole] at filled ⊢
  have kept : front.filter (!·.isEmpty) = front := by
    rw [List.filter_eq_self]
    intro s hs
    simpa using filled s (by simp [hs])
  have all : ([] :: (inner ++ [[]]) : List (List Char)) ++ (front ++ [final]) =
      [] :: ((inner ++ [[]] ++ front) ++ [final]) := by simp
  rw [all]
  cases hr : (inner ++ [[]] ++ front) ++ [final] with
  | nil => simp at hr
  | cons next rest =>
    dsimp only
    rw [← hr, List.dropLast_concat, List.getLastD_eq_getLast?, List.getLast?_concat,
      List.filter_append, List.filter_append, kept]
    simp

/-- Segments beside a folder, with dot segments only behind others: they all stay from
the root on, and there is at least one behind it. -/
theorem removeDots_rooted {front segments : List (List Char)} (hf : ∀ s ∈ front, ¬IsDots s)
    (steady : Steady false segments) (hne : segments ≠ []) (filled : ∀ s ∈ segments, s ≠ []) :
    ∃ others, removeDots ([] :: (front ++ segments)) = [] :: others ∧ others ≠ [] := by
  obtain ⟨others, kept⟩ : ∃ others, ([] :: (front ++ segments)).foldl keep [] = [] :: others := by
    rw [List.foldl_cons, keep_dots not_isDots_nil]
    exact keep_rooted (steady_append hf steady false) (fun h => absurd h Bool.false_ne_true)
  rw [removeDots_eq, kept]
  split
  · exact ⟨others ++ [[]], by simp, by simp⟩
  · rename_i last
    refine ⟨others, rfl, ?_⟩
    rintro rfl
    obtain ⟨init, final, whole⟩ : ∃ init final, segments = init ++ [final] :=
      ⟨_, _, (List.dropLast_concat_getLast hne).symm⟩
    have shape : ([] :: (front ++ segments) : List (List Char)) =
        ([] :: (front ++ init)) ++ [final] := by simp [whole]
    rw [shape] at kept last
    rw [List.getLastD_eq_getLast?, List.getLast?_concat, Option.getD_some] at last
    rw [List.foldl_append, List.foldl_cons, List.foldl_nil, keep_dots last] at kept
    have empty : final = [] := by
      have lengths := congrArg List.getLast? kept
      simpa using lengths
    exact filled final (by simp [whole]) empty

/-- Segments without dot segments stay in front of others in which dot segments only follow
others, and what is left of those is no dot segment. -/
theorem removeDots_front {front segments : List (List Char)} (hf : ∀ s ∈ front, ¬IsDots s)
    (steady : Steady false segments) :
    ∃ others, removeDots (front ++ segments) = front ++ others ∧
      ∀ s ∈ others, s = [] ∨ (s ∈ segments ∧ ¬IsDots s) := by
  obtain ⟨others, kept, all⟩ := @keep_front front segments [] false steady nofun
  have whole : (front ++ segments).foldl keep [] = front ++ others := by
    rw [List.foldl_append, keep_undotted front [] hf, List.nil_append, ← kept, List.append_nil]
  have left (s : List Char) (hs : s ∈ others) : s = [] ∨ (s ∈ segments ∧ ¬IsDots s) :=
    .inr ((all s hs).resolve_left List.not_mem_nil)
  rw [removeDots_eq, whole]
  split
  · refine ⟨others ++ [[]], List.append_assoc _ _ _, fun s hs => ?_⟩
    exact (List.mem_append.mp hs).elim (left s) fun last => .inl (List.mem_singleton.mp last)
  · exact ⟨others, rfl, left⟩

/-- Without dot segments, and without empty ones in the folder, nothing is lost. -/
theorem removeDots_same {front segments : List (List Char)} (hf : ∀ s ∈ front, ¬IsDots s)
    (hs : ∀ s ∈ segments, ¬IsDots s) :
    removeDots ([] :: (front ++ segments)) = [] :: (front ++ segments) := by
  have all : ∀ s ∈ ([] :: (front ++ segments) : List (List Char)), ¬IsDots s := by
    intro s hm
    rcases List.mem_cons.mp hm with rfl | hm
    · exact not_isDots_nil
    · exact (List.mem_append.mp hm).elim (hf s) (hs s)
  have last : ¬IsDots (([] :: (front ++ segments)).getLastD []) := by
    rw [List.getLastD_cons]
    cases hl : (front ++ segments).getLast? with
    | none => simp_all [List.getLastD_eq_getLast?, not_isDots_nil]
    | some final =>
      rw [List.getLastD_eq_getLast?, hl]
      exact all final (List.mem_cons_of_mem _ (List.mem_of_getLast? hl))
  rw [removeDots_eq, if_neg last, keep_undotted _ _ all, List.nil_append]

/-- With a dot segment, or an empty one in the folder, something is lost, or the last
segment has become empty. -/
theorem removeDots_loses {inner segments : List (List Char)}
    (h : (∃ s ∈ inner, s = []) ∨ ∃ s ∈ segments, IsDots s) :
    (removeDots ([] :: (inner.filter (!·.isEmpty) ++ segments))).length <
        1 + inner.length + segments.length ∨
      (removeDots ([] :: (inner.filter (!·.isEmpty) ++ segments))).getLast? = some [] := by
  have bound := keep_length ([] :: (inner.filter (!·.isEmpty) ++ segments)) []
  have filtered : (inner.filter (!·.isEmpty)).length ≤ inner.length := List.length_filter_le _ _
  rw [removeDots_eq]
  split
  · exact .inr (by simp)
  · left
    simp only [List.length_cons, List.length_append, List.countP_cons, List.countP_append,
      List.length_nil] at bound
    rcases h with ⟨s, hs, rfl⟩ | ⟨s, hs, dots⟩
    · have less : (inner.filter (!·.isEmpty)).length < inner.length := by
        refine Nat.lt_of_le_of_ne filtered fun same => ?_
        have := List.length_filter_eq_length_iff.mp same [] hs
        simp at this
      omega
    · have counted : 0 < segments.countP (IsDots ·) :=
        List.countP_pos_iff.mpr ⟨s, hs, by simpa using dots⟩
      omega

end Reference

end LakeAdmin.Url
