import Mathlib.Data.List.Forall2
import Mathlib.Data.List.Nodup
import LakeAdmin.Proofs.Path.Written
import LakeAdmin.Proofs.Service.Addressing

/-!
Paths as codes of the values in them. A path is cut into the segments of its template, and each
segment that stands for a name is read back as the value that was given for the name. So no value
reaches beyond its segment, and two paths are the same only if the values are. What is wrong with
the values is said once each, and nothing else is said.
-/

namespace LakeAdmin

open LakeAdmin.Path Text

/-! ## Values -/

/-- The value that is supplied for a name, if there is one: that of the caller, or that of the
identity. -/
def Client.supplied (identity : Option Identity) (extra : Client.PathValues) (name : String) :
    Option String :=
  match extra.lookup name with
  | some value => value
  | none => identity.bind (·.lookUp name)

theorem nameValue_supplied (identity : Option Identity) (extra : Client.PathValues)
    (name : String) :
    Client.nameValue identity extra name = (Client.supplied identity extra name).getD "None" :=
  rfl

/-- A part of a path is a segment as it is, or the code of the value for its name. -/
def Path.Encodes (value : String → Option String) : Segment → List Char → Prop
  | .fixed text, part => part = text.toList
  | .named name, part =>
    Percent.Escaped part ∧ value name = some (Percent.decode (String.ofList part))

/-! ## Problems -/

/-- What a problem of a path is about: a name without a value, or an option. -/
inductive Subject where
  | place (name : String)
  | option (name : String)
  deriving DecidableEq

def Problem.subject? : Problem → Option Subject
  | missing name | blank name => some (.place name)
  | negative name => some (.option name)
  | _ => none

/-- Something is wrong with the values for a path: a name of the path, or one that the caller
gave a value for, has no value or a blank one; or an option that may not be negative is. -/
def Subject.IsWrong (names : List String) (identity : Identity) (query : Option QueryOptions)
    (extra : Client.PathValues) : Subject → Prop
  | place name => (name ∈ names ∨ name ∈ extra.map (·.1)) ∧
      (Client.supplied (some identity) extra name).all allBlank = true
  | option name => ∃ options ∈ query,
      (name = "top" ∧ ∃ n ∈ options.top, n < 0) ∨ (name = "skip" ∧ ∃ n ∈ options.skip, n < 0)

variable {names : List String} {name : String} {identity : Identity} {query : Option QueryOptions}
  {extra : Client.PathValues}

theorem ofName_subjects (name : String) (value : Option String) :
    (Problem.ofName name value).map Problem.subject? =
      if value.all allBlank then [some (.place name)] else [] := by
  cases value with
  | none => rfl
  | some text =>
    unfold Problem.ofName
    dsimp only [Option.all_some]
    split <;> rfl

/-- The subjects of problems that are found item by item. -/
theorem flatMap_subjects {ι : Type} {l : List ι} {found : ι → List Problem} {wrong : ι → Bool}
    {subject : ι → Subject}
    (each : ∀ i, (found i).map Problem.subject? = if wrong i then [some (subject i)] else []) :
    (l.flatMap found).map Problem.subject? = ((l.filter wrong).map subject).map some := by
  induction l with
  | nil => rfl
  | cons i rest ih =>
    rw [List.flatMap_cons, List.map_append, each, ih]
    cases h : wrong i with
    | false => rw [List.filter_cons_of_neg (by simp [h])]; rfl
    | true => rw [List.filter_cons_of_pos h]; rfl

def QueryOptions.subjects (options : QueryOptions) : List Subject :=
  (if options.top.any (· < 0) then [.option "top"] else []) ++
    if options.skip.any (· < 0) then [.option "skip"] else []

theorem query_subjects (options : QueryOptions) :
    options.problems.map Problem.subject? = options.subjects.map some := by
  unfold QueryOptions.problems QueryOptions.subjects
  rw [List.map_append, List.map_append]
  split <;> split <;> rfl

/-- The subjects of all that is wrong with the values for a path, in order. -/
def Path.subjects (names : List String) (identity : Identity) (query : Option QueryOptions)
    (extra : Client.PathValues) : List Subject :=
  (((names.filter fun name => !extra.any (·.1 == name)).filter fun name =>
      (identity.lookUp name).all allBlank).map .place) ++
    query.elim [] QueryOptions.subjects ++
    ((extra.filter fun pair => pair.2.all allBlank).map fun pair => .place pair.1)

theorem problems_subjects (names : List String) (identity : Identity)
    (query : Option QueryOptions) (extra : Client.PathValues) :
    (Client.pathProblems names (some identity) query extra).map Problem.subject? =
      (Path.subjects names identity query extra).map some := by
  unfold Client.pathProblems Path.subjects Identity.problems
  dsimp only
  rw [List.map_append, List.map_append, List.map_append, List.map_append]
  congr 1
  · congr 1
    · exact flatMap_subjects fun name => ofName_subjects name _
    · cases query with
      | none => rfl
      | some options => exact query_subjects options
  · apply flatMap_subjects
    intro pair
    split <;> rfl

theorem supplied_own (h : name ∉ extra.map (·.1)) :
    Client.supplied (some identity) extra name = identity.lookUp name := by
  have none : extra.lookup name = none := by
    rw [List.lookup_eq_none_iff]
    intro pair hp
    have differs : name ≠ pair.1 := by
      rintro rfl
      exact h (List.mem_map.mpr ⟨pair, hp, rfl⟩)
    simpa using differs
  unfold Client.supplied
  rw [none]
  rfl

theorem supplied_extra (distinct : (extra.map (·.1)).Nodup) {value : Option String}
    (h : (name, value) ∈ extra) : Client.supplied (some identity) extra name = value := by
  have found : extra.lookup name = some value := by
    induction extra with
    | nil => cases h
    | cons pair rest ih =>
      obtain ⟨fresh, others⟩ := List.nodup_cons.mp distinct
      rcases List.mem_cons.mp h with rfl | later
      · simp
      · have differs : name ≠ pair.1 := by
          rintro rfl
          exact fresh (List.mem_map.mpr ⟨_, later, rfl⟩)
        rw [List.lookup_cons, beq_eq_false_iff_ne.mpr differs]
        exact ih others later
  unfold Client.supplied
  rw [found]

theorem given_any (extra : Client.PathValues) (name : String) :
    (!extra.any (·.1 == name)) = true ↔ name ∉ extra.map (·.1) := by
  rw [Bool.not_eq_true', List.any_eq_false]
  constructor
  · intro absent hm
    obtain ⟨pair, hp, rfl⟩ := List.mem_map.mp hm
    exact absent pair hp (beq_self_eq_true _)
  · intro absent pair hp same
    exact absent (List.mem_map.mpr ⟨pair, hp, eq_of_beq same⟩)

theorem mem_query (options : QueryOptions) (subject : Subject) :
    subject ∈ options.subjects ↔
      (subject = .option "top" ∧ ∃ n ∈ options.top, n < 0) ∨
        (subject = .option "skip" ∧ ∃ n ∈ options.skip, n < 0) := by
  have one (negative : Bool) (text : String) :
      subject ∈ (if negative then [.option text] else []) ↔
        subject = .option text ∧ negative = true := by
    cases negative <;> simp
  have any (given : Option Int) : given.any (· < 0) = true ↔ ∃ n ∈ given, n < 0 := by
    cases given <;> simp
  unfold QueryOptions.subjects
  rw [List.mem_append, one, one, any, any]

theorem place_options (query : Option QueryOptions) (name : String) :
    Subject.place name ∉ query.elim [] QueryOptions.subjects := by
  cases query with
  | none => simp
  | some options => simp [mem_query]

/-- The subjects of what is wrong are those about which something is wrong. -/
theorem mem_subjects (distinct : (extra.map (·.1)).Nodup) (subject : Subject) :
    subject ∈ Path.subjects names identity query extra ↔
      subject.IsWrong names identity query extra := by
  unfold Path.subjects Subject.IsWrong
  rw [List.mem_append, List.mem_append]
  cases subject with
  | option name =>
    cases query with
    | none => simp
    | some options => simp [mem_query]
  | place name =>
    simp only [place_options, or_false, List.mem_map, List.mem_filter, Subject.place.injEq,
      exists_eq_right, given_any]
    by_cases own : ∃ pair ∈ extra, pair.1 = name
    · obtain ⟨⟨name, value⟩, held, rfl⟩ := own
      have given : Client.supplied (some identity) extra name = value :=
        supplied_extra distinct held
      rw [given]
      constructor
      · rintro (⟨⟨-, absent⟩, -⟩ | ⟨⟨_, other⟩, ⟨hp, blank⟩, rfl⟩)
        · exact absurd ⟨_, held, rfl⟩ absent
        · have second : Client.supplied (some identity) extra _ = other :=
            supplied_extra distinct hp
          rw [← given, second]
          exact ⟨.inr ⟨_, hp, rfl⟩, blank⟩
      · rintro ⟨-, blank⟩
        exact .inr ⟨_, ⟨held, blank⟩, rfl⟩
    · have absent : name ∉ extra.map (·.1) := fun hm => own (List.mem_map.mp hm)
      rw [supplied_own absent]
      constructor
      · rintro (⟨⟨needed, -⟩, blank⟩ | ⟨pair, ⟨hp, -⟩, same⟩)
        · exact ⟨.inl needed, blank⟩
        · exact absurd ⟨pair, hp, same⟩ own
      · rintro ⟨needed | given, blank⟩
        · exact .inl ⟨⟨needed, own⟩, blank⟩
        · exact absurd given own

/-- No subject is named twice. -/
theorem subjects_nodup (once : names.Nodup) (distinct : (extra.map (·.1)).Nodup) :
    (Path.subjects names identity query extra).Nodup := by
  have injective : Function.Injective Subject.place := fun a b same => Subject.place.inj same
  have places : (((names.filter fun name => !extra.any (·.1 == name)).filter fun name =>
      (identity.lookUp name).all allBlank).map Subject.place).Nodup :=
    List.Nodup.map injective ((once.filter _).filter _)
  have options : (query.elim [] QueryOptions.subjects).Nodup := by
    cases query with
    | none => exact List.nodup_nil
    | some options =>
      show options.subjects.Nodup
      unfold QueryOptions.subjects
      split <;> split <;> simp
  have extras : ((extra.filter fun pair => pair.2.all allBlank).map fun pair =>
      Subject.place pair.1).Nodup := by
    have keys : ((extra.filter fun pair => pair.2.all allBlank).map (·.1)).Nodup :=
      distinct.sublist (List.filter_sublist.map _)
    have whole := List.Nodup.map injective keys
    rwa [List.map_map] at whole
  unfold Path.subjects
  rw [List.nodup_append, List.nodup_append]
  refine ⟨⟨places, options, ?_⟩, extras, ?_⟩
  · rintro _ hp other ho rfl
    obtain ⟨name, -, rfl⟩ := List.mem_map.mp hp
    exact place_options query name ho
  · rintro _ first _ second rfl
    obtain ⟨pair, hp, rfl⟩ := List.mem_map.mp second
    rcases List.mem_append.mp first with own | option
    · obtain ⟨name, hn, same⟩ := List.mem_map.mp own
      cases same
      have absent := (given_any extra _).mp (List.mem_filter.mp (List.mem_filter.mp hn).1).2
      exact absent (List.mem_map.mpr ⟨pair, (List.mem_filter.mp hp).1, rfl⟩)
    · exact place_options query _ option

/-- What is said is about each thing that is wrong once, and about nothing else. -/
theorem problems_exact (once : names.Nodup) (distinct : (extra.map (·.1)).Nodup) :
    ((Client.pathProblems names (some identity) query extra).map Problem.subject?).Nodup ∧
      ∀ found, found ∈ (Client.pathProblems names (some identity) query extra).map
          Problem.subject? ↔
        ∃ subject, found = some subject ∧ subject.IsWrong names identity query extra := by
  rw [problems_subjects]
  constructor
  · exact List.Nodup.map (fun _ _ => Option.some.inj) (subjects_nodup once distinct)
  · intro found
    rw [List.mem_map]
    apply exists_congr
    intro subject
    rw [mem_subjects distinct, and_comm, eq_comm]

theorem problems_none (distinct : (extra.map (·.1)).Nodup) :
    Client.pathProblems names (some identity) query extra = [] ↔
      ∀ subject : Subject, ¬subject.IsWrong names identity query extra := by
  rw [← List.map_eq_nil_iff, problems_subjects, List.map_eq_nil_iff, List.eq_nil_iff_forall_not_mem]
  apply forall_congr'
  intro subject
  rw [mem_subjects distinct]

/-! ## Codes -/

variable {segments : List Segment}

/-- Where nothing is wrong with the values, the path holds the codes of the values. -/
theorem texts_encode (distinct : (extra.map (·.1)).Nodup)
    (right : Client.pathProblems (namesOf segments) (some identity) query extra = []) :
    List.Forall₂ (Path.Encodes (Client.supplied (some identity) extra)) segments
      (textsOf (some identity) extra segments) := by
  unfold textsOf
  rw [List.forall₂_map_right_iff, List.forall₂_same]
  intro segment hs
  cases segment with
  | fixed text => rfl
  | named name =>
    have needed : name ∈ namesOf segments := List.mem_filterMap.mpr ⟨_, hs, rfl⟩
    have filled := (problems_none distinct).mp right (.place name)
    refine ⟨Percent.encode_escaped _, ?_⟩
    show Client.supplied (some identity) extra name = some (Percent.decode _)
    cases given : Client.supplied (some identity) extra name with
    | none =>
      rw [Subject.IsWrong, given] at filled
      exact absurd ⟨.inl needed, rfl⟩ filled
    | some value =>
      rw [Segment.text, pathValue_decode, nameValue_supplied, given]
      rfl

/-- From codes the values are read back. -/
theorem encodes_injective {value value' : String → Option String} {parts : List (List Char)}
    (first : List.Forall₂ (Path.Encodes value) segments parts)
    (second : List.Forall₂ (Path.Encodes value') segments parts) :
    ∀ name ∈ namesOf segments, value name = value' name := by
  induction first with
  | nil => simp [namesOf]
  | @cons segment part rest parts code others ih =>
    cases second with
    | cons code' others' =>
      have behind := ih others'
      cases segment with
      | fixed text => exact behind
      | named name =>
        have same : value name = value' name := code.2.trans code'.2.symm
        exact List.forall_mem_cons.mpr ⟨same, behind⟩

theorem path_simple (operation : Operation) :
    ∀ segment ∈ operation.path, segment.isSimple = true := by
  cases operation with
  | list operation => cases operation <;> decide
  | call operation => cases operation <;> decide
  | long operation =>
    show ∀ segment ∈ Path.account, segment.isSimple = true
    decide

theorem path_once (operation : Operation) : (namesOf operation.path).Nodup := by
  cases operation with
  | list operation => cases operation <;> decide
  | call operation => cases operation <;> decide
  | long operation =>
    show (namesOf Path.account).Nodup
    decide

theorem steady_unmarked {c : Char} (h : Url.isSteadyChar c = true) : c ≠ '?' ∧ c ≠ '#' := by
  constructor <;> rintro rfl <;> exact absurd h (by decide)

/-- The template of the accounts of a subscription. -/
example : String.ofList (writtenOf (Operation.list .accounts).path) =
    "subscriptions/\x7bsubscription_id\x7d/providers/Microsoft.DataLakeAnalytics/accounts" := by
  decide +kernel

/-- The path of an operation, whose template is read as it is written, says what the values are.
It has as many segments as the template, each as it is or the code of a value, and no mark of a
query or a fragment; paths are the same only where the values are. It is built if nothing is wrong
with the values, and refused with all that is, each thing named once. Values that the caller gives
have to be values, whether the template has a place for them or not. -/
theorem buildPath_faithful (operation : Operation) :
    ∃ template, Template.ofText (writtenOf operation.path) = .ok template ∧
      ∀ (identity : Identity) (query : Option QueryOptions) (extra : Client.PathValues),
        (extra.map (·.1)).Nodup →
        (∀ path, Client.buildPath template (some identity) query extra = .ok path →
          List.Forall₂ (Path.Encodes (Client.supplied (some identity) extra)) operation.path
            (splitAt '/' path.toList) ∧
          (∀ c ∈ path.toList, c ≠ '?' ∧ c ≠ '#') ∧
          ∀ identity' query' extra', (extra'.map (·.1)).Nodup →
            Client.buildPath template (some identity') query' extra' = .ok path →
            ∀ name ∈ namesOf operation.path, Client.supplied (some identity) extra name =
              Client.supplied (some identity') extra' name) ∧
        ((∃ path, Client.buildPath template (some identity) query extra = .ok path) ↔
          ∀ subject : Subject, ¬subject.IsWrong (namesOf operation.path) identity query extra) ∧
        ∀ failure, Client.buildPath template (some identity) query extra = .error failure →
          ∃ problems, failure = .invalidArgument problems ∧
            (problems.map Problem.subject?).Nodup ∧
            ∀ found, found ∈ problems.map Problem.subject? ↔ ∃ subject, found = some subject ∧
              subject.IsWrong (namesOf operation.path) identity query extra := by
  obtain ⟨template, read, builds⟩ := ofText_segments (path_simple operation)
  have sound := path_sound operation
  have encoded (identity : Identity) (query : Option QueryOptions) (extra : Client.PathValues)
      (distinct : (extra.map (·.1)).Nodup) (path : String)
      (built : Client.buildPath template (some identity) query extra = .ok path) :
      Url.IsRelative path ∧
        List.Forall₂ (Path.Encodes (Client.supplied (some identity) extra)) operation.path
          (splitAt '/' path.toList) := by
    rw [builds] at built
    obtain ⟨right, rfl⟩ := buildPath_ok (sound_plain sound) built
    obtain ⟨relative, parts⟩ := pathText_relative (some identity) extra sound (path_ne operation)
    rw [parts]
    exact ⟨relative, texts_encode distinct right⟩
  refine ⟨template, read, fun identity query extra distinct => ⟨?_, ?_, ?_⟩⟩
  · intro path built
    obtain ⟨relative, codes⟩ := encoded identity query extra distinct path built
    refine ⟨codes, fun c hc => steady_unmarked (relative.1 c hc), ?_⟩
    intro identity' query' extra' distinct' built'
    exact encodes_injective codes (encoded identity' query' extra' distinct' path built').2
  · rw [builds, buildPath_ofSegments (sound_plain sound), ← problems_none distinct]
    cases Client.pathProblems (namesOf operation.path) (some identity) query extra <;> simp
  · intro failure refused
    rw [builds, buildPath_ofSegments (sound_plain sound)] at refused
    split at refused
    · cases refused
    · cases refused
      exact ⟨_, rfl, problems_exact (path_once operation) distinct⟩

/-- A subscription that would be several segments, a query and a field, if it were not encoded. -/
theorem buildPath_faithful_marks :
    ∃ template path, Template.ofText (writtenOf (Operation.list .accounts).path) = .ok template ∧
      (([] : Client.PathValues).map (·.1)).Nodup ∧
      Client.buildPath template (some { Identity.empty with subscription := some "../a?\x7bb\x7d%" })
        none [] = .ok path ∧
      (splitAt '/' path.toList).length = 5 := by
  obtain ⟨template, read, faithful⟩ := buildPath_faithful (.list .accounts)
  have distinct : (([] : Client.PathValues).map (·.1)).Nodup := List.nodup_nil
  obtain ⟨codes, builds, -⟩ := faithful
    { Identity.empty with subscription := some "../a?\x7bb\x7d%" } none [] distinct
  have right : ∀ subject : Subject, ¬subject.IsWrong (namesOf (Operation.list .accounts).path)
      { Identity.empty with subscription := some "../a?\x7bb\x7d%" } none [] := by
    rintro (name | name) wrong
    · obtain ⟨needed | given, blank⟩ := wrong
      · cases List.mem_singleton.mp needed
        exact absurd blank (by decide)
      · cases given
    · obtain ⟨options, none, -⟩ := wrong
      cases none
  obtain ⟨path, built⟩ := builds.mpr right
  exact ⟨template, path, read, distinct, built, (codes path built).1.length_eq.symm⟩

/-- A value without a place in the template is asked for as well, once it is given as null. -/
theorem stray_value_reported :
    ∃ template problems,
      Template.ofText (writtenOf (Operation.list .accounts).path) = .ok template ∧
      Client.buildPath template (some Identity.empty) none [("region", none)] =
        .error (.invalidArgument problems) ∧
      Problem.missing "region" ∈ problems ∧
      "region" ∉ namesOf (Operation.list .accounts).path := by
  obtain ⟨template, read, builds⟩ := ofText_segments (path_simple (.list .accounts))
  have refused : Client.buildPath template (some Identity.empty) none [("region", none)] =
      .error (.invalidArgument [.missing "subscription_id", .missing "region"]) := by
    rw [builds, buildPath_ofSegments (sound_plain (path_sound (.list .accounts)))]
    rfl
  exact ⟨template, _, read, refused, by decide, by decide⟩

end LakeAdmin
