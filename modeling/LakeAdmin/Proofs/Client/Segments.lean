import LakeAdmin.Proofs.Client.Path
import LakeAdmin.Proofs.Text.Percent
import LakeAdmin.Proofs.Url.Join

/-!
Paths of segments beside a base URL. Sound segments make up a relative path that is cut
where it was put together, whatever their names stand for. Encoding leaves the dots of a
value as they are: these are the only values whose segments a URL does not keep.
-/

namespace LakeAdmin

open LakeAdmin.Path Text Url

/-! ## Sound segments -/

/-- Segments that can stand beside a base: fixed texts that are the same in every part of
a URL, and plain names, each behind a fixed text. -/
def Path.isSound : Bool → List Segment → Bool
  | _, [] => true
  | _, .fixed text :: rest =>
    text ≠ "" && text.toList.all Percent.isUnreserved && !decide (IsDots text.toList) &&
      isSound true rest
  | follows, .named name :: rest => follows && isPlain name && isSound false rest

theorem sound_plain {follows : Bool} {segments : List Segment}
    (h : isSound follows segments = true) : ∀ name ∈ namesOf segments, isPlain name = true := by
  induction segments generalizing follows with
  | nil => simp [namesOf]
  | cons segment rest ih =>
    cases segment with
    | fixed text =>
      simp only [isSound, Bool.and_eq_true] at h
      exact ih h.2
    | named name =>
      simp only [isSound, Bool.and_eq_true] at h
      intro other ho
      rcases List.mem_cons.mp ho with rfl | ho
      · exact h.1.2
      · exact ih h.2 other ho

/-! ## Values -/

theorem nameValue_ne {names : List String} {identity : Identity} {query : Option QueryOptions}
    {extra : Client.PathValues}
    (h : Client.pathProblems names (some identity) query extra = []) :
    ∀ name ∈ names, Client.nameValue (some identity) extra name ≠ "" := by
  unfold Client.pathProblems at h
  rw [List.append_eq_nil_iff, List.append_eq_nil_iff] at h
  obtain ⟨⟨named, -⟩, given⟩ := h
  intro name hn
  unfold Client.nameValue
  cases hl : extra.lookup name with
  | some value =>
    have pair : (name, value) ∈ extra := by
      obtain ⟨before, after, whole, -⟩ := List.lookup_eq_some_iff.mp hl
      simp [whole]
    have filled := List.flatMap_eq_nil_iff.mp given _ pair
    dsimp only at filled ⊢
    cases value with
    | none => simp at filled
    | some text =>
      rintro rfl
      simp [allBlank] at filled
  | none =>
    have own : (!extra.any (·.1 == name)) = true := by
      simp only [Bool.not_eq_true', List.any_eq_false]
      intro pair hp same
      rw [List.lookup_eq_none_iff] at hl
      have other := hl pair hp
      simp_all
    have filled := List.flatMap_eq_nil_iff.mp named name (List.mem_filter.mpr ⟨hn, own⟩)
    dsimp only [Option.bind_some]
    cases hv : identity.lookUp name with
    | none =>
      rw [hv] at filled
      cases filled
    | some text =>
      rintro rfl
      rw [hv] at filled
      simp [Problem.ofName, allBlank] at filled

/-- Characters of a segment that was written for a value or a fixed text. -/
theorem encode_steady (s : String) :
    ∀ c ∈ (Percent.encode Percent.isUnreserved s).toList, isSteadyChar c = true ∧ c ≠ '/' := by
  intro c hc
  have reserved : c ≠ '/' := by
    rintro rfl
    rcases Percent.mem_encode hc with ⟨kept, -⟩ | triple
    · exact absurd kept (by decide)
    · exact absurd triple (by decide)
  refine ⟨?_, reserved⟩
  rcases Percent.mem_encode hc with ⟨kept, -⟩ | triple
  · simp [isSteadyChar, kept]
  · exact ascii_cases (p := fun c => Percent.isTripleChar c = true → isSteadyChar c = true)
      (by decide) (tripleChar_ascii triple) triple

/-- Encoding leaves dots as they are, and makes none. -/
theorem encode_dots (s : String) :
    IsDots (Percent.encode Percent.isUnreserved s).toList ↔ IsDots s.toList := by
  constructor
  · intro dots
    have plain : '%' ∉ (Percent.encode Percent.isUnreserved s).toList := by
      rcases dots with dot | dot <;> rw [dot] <;> decide
    rwa [Percent.encode_unmarked plain] at dots
  · intro dots
    have kept : ∀ c ∈ s.toList, Percent.isUnreserved c = true := by
      rcases dots with dot | dot <;> rw [dot] <;> exact List.all_eq_true.mp (by decide)
    rwa [Percent.encode_eq_self kept]

/-! ## Segments -/

/-- The segments of a path beside a base. -/
def Path.textsOf (identity : Option Identity) (extra : Client.PathValues)
    (segments : List Segment) : List (List Char) :=
  segments.map fun segment => (segment.text (Client.pathValue identity extra)).toList

/-- Texts are those of segments whose names have these values. -/
inductive Path.Fills (value : String → String) : List Segment → List (List Char) → Prop
  | nil : Path.Fills value [] []
  | fixed {text : String} {segments : List Segment} {texts : List (List Char)}
      (rest : Path.Fills value segments texts) :
      Path.Fills value (.fixed text :: segments) (text.toList :: texts)
  | named {name : String} {part : List Char} {segments : List Segment}
      {texts : List (List Char)} (same : Percent.decode (String.ofList part) = value name)
      (rest : Path.Fills value segments texts) :
      Path.Fills value (.named name :: segments) (part :: texts)

/-- From the text of a name its value is read. -/
theorem pathValue_decode (identity : Option Identity) (extra : Client.PathValues)
    (name : String) :
    Percent.decode (String.ofList (Client.pathValue identity extra name).toList) =
      Client.nameValue identity extra name := by
  rw [String.ofList_toList]
  exact Percent.decode_encode (by decide) _

theorem fills_texts (identity : Option Identity) (extra : Client.PathValues)
    (segments : List Segment) :
    Path.Fills (Client.nameValue identity extra) segments (textsOf identity extra segments) := by
  induction segments with
  | nil => exact .nil
  | cons segment rest ih =>
    cases segment with
    | fixed text => exact .fixed ih
    | named name => exact .named (pathValue_decode identity extra name) ih

theorem fills_length {value : String → String} {segments : List Segment}
    {texts : List (List Char)} (h : Path.Fills value segments texts) :
    texts.length = segments.length := by
  induction h with
  | nil => rfl
  | fixed rest ih => simp [ih]
  | named same rest ih => simp [ih]

/-- No text is empty where no value is. -/
theorem fills_filled {value : String → String} {follows : Bool} {segments : List Segment}
    {texts : List (List Char)} (sound : isSound follows segments = true)
    (filled : ∀ name ∈ namesOf segments, value name ≠ "")
    (h : Path.Fills value segments texts) : [] ∉ texts := by
  induction h generalizing follows with
  | nil => simp
  | fixed rest ih =>
    simp only [isSound, Bool.and_eq_true, decide_eq_true_eq] at sound
    rw [List.mem_cons, not_or]
    refine ⟨fun empty => sound.1.1.1 (String.toList_eq_nil_iff.mp empty.symm), ?_⟩
    exact ih sound.2 filled
  | @named name part segments texts same rest ih =>
    simp only [isSound, Bool.and_eq_true] at sound
    rw [List.mem_cons, not_or]
    refine ⟨?_, ih sound.2 fun other ho => filled other (List.mem_cons_of_mem _ ho)⟩
    rintro rfl
    exact filled name (List.mem_cons_self) (same.symm.trans (by decide))

/-- The texts of sound segments hold nothing that a URL reads otherwise. -/
theorem texts_steady {follows : Bool} {segments : List Segment} (identity : Option Identity)
    (extra : Client.PathValues) (sound : isSound follows segments = true) :
    ∀ text ∈ textsOf identity extra segments, ∀ c ∈ text, isSteadyChar c = true ∧ c ≠ '/' := by
  induction segments generalizing follows with
  | nil => simp [textsOf]
  | cons segment rest ih =>
    intro text hm
    cases segment with
    | fixed fixed =>
      simp only [isSound, Bool.and_eq_true] at sound
      rcases List.mem_cons.mp hm with rfl | hm
      · intro c hc
        have kept := List.all_eq_true.mp sound.1.1.2 c hc
        refine ⟨by simp [isSteadyChar, kept], ?_⟩
        rintro rfl
        exact absurd kept (by decide)
      · exact ih sound.2 text hm
    | named name =>
      simp only [isSound, Bool.and_eq_true] at sound
      rcases List.mem_cons.mp hm with rfl | hm
      · exact encode_steady _
      · exact ih sound.2 text hm

/-- Where a text is a dot segment, it stands for a name, behind a fixed text. -/
theorem texts_dots {follows : Bool} {segments : List Segment} (identity : Option Identity)
    (extra : Client.PathValues) (sound : isSound follows segments = true) :
    Reference.Steady follows (textsOf identity extra segments) ∧
      ((∃ text ∈ textsOf identity extra segments, IsDots text) ↔
        ∃ name ∈ namesOf segments, IsDots (Client.nameValue identity extra name).toList) := by
  induction segments generalizing follows with
  | nil => simp [textsOf, namesOf, Reference.Steady]
  | cons segment rest ih =>
    cases segment with
    | fixed text =>
      simp only [isSound, Bool.and_eq_true, Bool.not_eq_eq_eq_not, Bool.not_true,
        decide_eq_false_iff_not] at sound
      obtain ⟨steady, dots⟩ := ih sound.2
      have plain : ¬IsDots text.toList := sound.1.2
      refine ⟨?_, ?_⟩
      · change Reference.Steady follows (text.toList :: textsOf identity extra rest)
        rw [Reference.Steady, if_neg plain]
        exact steady
      · change (∃ part ∈ text.toList :: textsOf identity extra rest, IsDots part) ↔
          ∃ name ∈ namesOf rest, _
        rw [← dots]
        simp [plain]
    | named name =>
      simp only [isSound, Bool.and_eq_true] at sound
      obtain ⟨steady, dots⟩ := ih sound.2
      have same : IsDots (Client.pathValue identity extra name).toList ↔
          IsDots (Client.nameValue identity extra name).toList := encode_dots _
      refine ⟨?_, ?_⟩
      · change Reference.Steady follows
          ((Client.pathValue identity extra name).toList :: textsOf identity extra rest)
        rw [Reference.Steady]
        split
        · exact ⟨sound.1.1, steady⟩
        · exact Reference.steady_mono steady true
      · change (∃ part ∈ (Client.pathValue identity extra name).toList ::
            textsOf identity extra rest, IsDots part) ↔ ∃ other ∈ name :: namesOf rest, _
        simp only [List.mem_cons, exists_eq_or_imp, dots, same]

/-- Sound segments begin with a fixed text. -/
theorem sound_first {segments : List Segment} (sound : isSound false segments = true)
    (nonempty : segments ≠ []) : ∃ text rest, segments = .fixed text :: rest ∧ text ≠ "" := by
  cases segments with
  | nil => exact absurd rfl nonempty
  | cons segment rest =>
    cases segment with
    | fixed text =>
      simp only [isSound, Bool.and_eq_true, decide_eq_true_eq] at sound
      exact ⟨text, rest, rfl, sound.1.1.1⟩
    | named name =>
      simp only [isSound, Bool.false_and] at sound
      cases sound

/-- The path that is built for sound segments is relative, and is cut where it was put
together. -/
theorem pathText_relative {segments : List Segment} (identity : Option Identity)
    (extra : Client.PathValues) (sound : isSound false segments = true) (nonempty : segments ≠ []) :
    IsRelative (Client.pathText identity extra segments) ∧
      splitAt '/' (Client.pathText identity extra segments).toList =
        textsOf identity extra segments := by
  have steady := texts_steady identity extra sound
  have whole : (Client.pathText identity extra segments).toList =
      joinWith '/' (textsOf identity extra segments) := by
    unfold Client.pathText textsOf
    rw [String.toList_ofList]
  refine ⟨⟨?_, ?_⟩, ?_⟩
  · intro c hc
    rw [whole] at hc
    rcases mem_joinWith hc with rfl | ⟨part, hp, hc⟩
    · decide
    · exact (steady part hp c hc).1
  · obtain ⟨text, rest, rfl, named⟩ := sound_first sound nonempty
    cases hl : text.toList with
    | nil => exact absurd (String.toList_eq_nil_iff.mp hl) named
    | cons c others =>
      have first : ∃ behind, joinWith '/' (textsOf identity extra (.fixed text :: rest)) =
          text.toList ++ behind := by
        cases rest with
        | nil => exact ⟨[], (List.append_nil _).symm⟩
        | cons next rest => exact ⟨_, rfl⟩
      obtain ⟨behind, first⟩ := first
      refine ⟨c, ?_, (steady text.toList (by simp [textsOf, Segment.text]) c (by simp [hl])).2⟩
      rw [whole, first, hl]
      rfl
  · rw [whole, splitAt_joinWith (by simpa [textsOf] using nonempty)]
    exact fun part hp slash => (steady part hp '/' slash).2 rfl

/-- Where no value is empty, the path can be followed from a folder. -/
theorem pathText_below {segments : List Segment} {identity : Option Identity}
    {extra : Client.PathValues} (sound : isSound false segments = true) (nonempty : segments ≠ [])
    (filled : ∀ name ∈ namesOf segments, Client.nameValue identity extra name ≠ "") :
    IsBelow (Client.pathText identity extra segments) := by
  obtain ⟨relative, parts⟩ := pathText_relative identity extra sound nonempty
  have texts := fills_filled sound filled (fills_texts identity extra segments)
  obtain ⟨steady, -⟩ := texts_dots identity extra sound
  exact {
    relative with
    filled := fun s hs empty => texts (by rwa [← parts, ← empty])
    steady := by rwa [parts] }

end LakeAdmin
