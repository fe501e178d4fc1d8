import LakeAdmin.Service.Operation
import Mathlib.Data.List.TakeWhile

/-!
The paths of operations. A template made of segments has a field for each segment that
is named, and filling it gives the segments with slashes between them, each value
encoded as a whole.
-/

namespace LakeAdmin

open LakeAdmin.Path Text

/-! ## Filling segments -/

/-- A name that stands in a template for the value of just this name: one that is not
empty, does not select a part of a value, and is no position. -/
def Path.isPlain (name : String) : Bool :=
  name.toList.all (fun c => c ≠ '.' && c ≠ '[') && !name.toList.all Char.isDigit

def Path.namesOf (segments : List Segment) : List String :=
  segments.filterMap fun
    | .fixed _ => none
    | .named name => some name

/-- The text of a segment, where names have these values. -/
def Path.Segment.text (value : String → String) : Segment → String
  | fixed text => text
  | named name => value name

theorem plain_ne {name : String} (h : isPlain name = true) : name ≠ "" := by
  rintro rfl
  simp [isPlain] at h

theorem valueOf_plain {lookUp : String → Option String} {name value : String}
    (hp : isPlain name = true) (hv : lookUp name = some value) :
    valueOf lookUp name = .ok value := by
  simp only [isPlain, Bool.and_eq_true] at hp
  unfold valueOf
  rw [List.takeWhile_eq_self_iff.mpr (List.all_eq_true.mp hp.1), String.ofList_toList]
  dsimp only
  rw [if_neg (by simpa using hp.2), hv]

theorem fillPiece_segment {lookUp : String → Option String} {value : String → String}
    {segment : Segment}
    (h : ∀ name, segment = .named name → isPlain name = true ∧ lookUp name = some (value name)) :
    fillPiece lookUp segment.piece = .ok (segment.text value) := by
  cases segment with
  | fixed text => simp [Segment.piece, fillPiece, Segment.text]
  | named name =>
    obtain ⟨hp, hv⟩ := h name rfl
    simp only [Segment.piece, fillPiece, valueOf_plain hp hv, bind, Except.bind]
    rfl

theorem mapM_ofSegments {lookUp : String → Option String} {value : String → String}
    {segments : List Segment}
    (h : ∀ name ∈ namesOf segments, isPlain name = true ∧ lookUp name = some (value name)) :
    (Template.ofSegments segments).mapM (fillPiece lookUp) =
      .ok ((segments.map (Segment.text value)).intersperse "/") := by
  unfold Template.ofSegments
  induction segments with
  | nil => rfl
  | cons segment rest ih =>
    have first : fillPiece lookUp segment.piece = .ok (segment.text value) :=
      fillPiece_segment fun name he => h name (by simp [namesOf, he])
    have others := ih fun name hn =>
      h name (by cases segment <;> simp [namesOf] at hn ⊢ <;> simp [hn])
    cases rest with
    | nil =>
      simp only [List.map_cons, List.map_nil, List.intersperse_singleton, List.mapM_cons, first]
      rfl
    | cons next rest =>
      simp only [List.map_cons, List.intersperse_cons_cons, List.mapM_cons, first] at others ⊢
      rw [others]
      rfl

theorem join_intersperse (parts : List String) :
    String.join (parts.intersperse "/") = String.ofList (joinWith '/' (parts.map String.toList)) := by
  rw [← String.toList_inj, String.toList_ofList]
  induction parts with
  | nil => rfl
  | cons part rest ih =>
    cases rest with
    | nil => simp [joinWith]
    | cons next rest =>
      simp only [List.intersperse_cons_cons, String.join_cons, String.toList_append,
        List.map_cons, joinWith] at ih ⊢
      rw [ih]
      rfl

/-- Filling segments gives their texts with slashes between them. -/
theorem fill_ofSegments {lookUp : String → Option String} {value : String → String}
    {segments : List Segment}
    (h : ∀ name ∈ namesOf segments, isPlain name = true ∧ lookUp name = some (value name)) :
    (Template.ofSegments segments).fill lookUp =
      .ok (String.ofList (joinWith '/' (segments.map fun s => (s.text value).toList))) := by
  unfold Template.fill
  rw [mapM_ofSegments h]
  simp only [bind, Except.bind, pure, Except.pure]
  rw [join_intersperse, List.map_map]
  rfl

theorem names_ofSegments {segments : List Segment}
    (h : ∀ name ∈ namesOf segments, isPlain name = true) :
    (Template.ofSegments segments).names = namesOf segments := by
  unfold Template.ofSegments
  induction segments with
  | nil => rfl
  | cons segment rest ih =>
    have others := ih fun name hn =>
      h name (by cases segment <;> simp [namesOf] at hn ⊢ <;> simp [hn])
    have first : Template.names [segment.piece] = namesOf [segment] := by
      cases segment with
      | fixed text => rfl
      | named name =>
        have hne : name ≠ "" := plain_ne (h name (by simp [namesOf]))
        simp [Template.names, namesOf, Segment.piece, hne]
    cases rest with
    | nil => exact first
    | cons next rest =>
      have joint (pieces : Template) :
          Template.names (segment.piece :: .literal ['/'] :: pieces) =
            Template.names [segment.piece] ++ Template.names pieces := by
        simp [Template.names, List.filterMap_cons]
        split <;> simp
      have split : namesOf (segment :: next :: rest) =
          namesOf [segment] ++ namesOf (next :: rest) := by
        cases segment <;> simp [namesOf]
      rw [List.map_cons, List.map_cons, List.intersperse_cons_cons, joint, first, split]
      rw [List.map_cons] at others
      rw [others]

/-! ## Paths of operations -/

/-- The value that a name of a path stands for, before it is encoded. -/
def Client.nameValue (identity : Option Identity) (extra : Client.PathValues) (name : String) :
    String :=
  (match extra.lookup name with
    | some value => value
    | none => identity.bind (·.lookUp name)).getD "None"

/-- The path of segments: each is fixed text or an encoded value, with slashes between. -/
def Client.pathText (identity : Option Identity) (extra : Client.PathValues)
    (segments : List Segment) : String :=
  String.ofList (joinWith '/' (segments.map fun segment =>
    (segment.text (Client.pathValue identity extra)).toList))

/-- A path is built if nothing is wrong with its values, and refused with all that is. -/
theorem buildPath_ofSegments {segments : List Segment}
    (plain : ∀ name ∈ namesOf segments, isPlain name = true) (identity : Option Identity)
    (query : Option QueryOptions) (extra : Client.PathValues) :
    Client.buildPath (Template.ofSegments segments) identity query extra =
      match Client.pathProblems (namesOf segments) identity query extra with
      | [] => .ok (Client.pathText identity extra segments)
      | problems => .error (.invalidArgument problems) := by
  unfold Client.buildPath
  rw [names_ofSegments plain]
  dsimp only
  cases Client.pathProblems (namesOf segments) identity query extra with
  | nil =>
    rw [fill_ofSegments fun name hn => ⟨plain name hn, if_pos (by simpa using hn)⟩]
    rfl
  | cons problem rest => rfl

theorem buildPath_ok {segments : List Segment} {identity : Option Identity}
    {query : Option QueryOptions} {extra : Client.PathValues} {path : String}
    (plain : ∀ name ∈ namesOf segments, isPlain name = true)
    (h : Client.buildPath (Template.ofSegments segments) identity query extra = .ok path) :
    Client.pathProblems (namesOf segments) identity query extra = [] ∧
      path = Client.pathText identity extra segments := by
  rw [buildPath_ofSegments plain] at h
  split at h
  · exact ⟨‹_›, (Except.ok.inj h).symm⟩
  · cases h

/-- A path whose first segment is fixed and not empty is not empty. -/
theorem pathText_ne {identity : Option Identity} {extra : Client.PathValues} {text : String}
    {segments : List Segment} (h : text ≠ "") :
    Client.pathText identity extra (.fixed text :: segments) ≠ "" := by
  intro he
  have hl := congrArg String.toList he
  unfold Client.pathText at hl
  rw [String.toList_ofList] at hl
  cases segments with
  | nil => exact h (String.toList_inj.mp hl)
  | cons next rest => simp [joinWith] at hl

end LakeAdmin
