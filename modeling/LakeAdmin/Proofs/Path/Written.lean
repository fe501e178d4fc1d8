import LakeAdmin.Proofs.Client.Path

/-!
Templates as they are written. A template that is written out, its fields in braces, is read as
itself, except that neighbouring texts are read as one. This makes no difference to its names,
nor to what it is filled to.
-/

namespace LakeAdmin.Path

open Text

def Piece.written : Piece → List Char
  | .literal text => text
  | .field name _ _ => '\x7b' :: name.toList ++ ['\x7d']

def Template.written (template : Template) : List Char := template.flatMap Piece.written

/-- Segments as they are written: names in braces, with slashes between. -/
def writtenOf (segments : List Segment) : List Char := (Template.ofSegments segments).written

/-- A character that stands for itself in a name. -/
def isNameChar (c : Char) : Bool := c.isAlphanum || c == '_'

/-- A part that is written without doubled braces, conversions and layouts: text without braces,
or a field with a name of letters, digits and underscores. -/
def Piece.isSimple : Piece → Bool
  | .literal text => text.all fun c => !isBrace c
  | .field name conversion layout =>
    name ≠ "" && name.toList.all isNameChar && conversion.isNone && layout.isEmpty

/-- A template with neighbouring texts put together, and a text in front of it. -/
def Template.merged (front : List Char) : Template → Template
  | [] => if front.isEmpty then [] else [.literal front]
  | .literal text :: rest => Template.merged (front ++ text) rest
  | .field name conversion layout :: rest =>
    .literal front :: .field name conversion layout :: Template.merged [] rest

/-! ## Reading -/

theorem nameChar_plain {c : Char} (h : isNameChar c = true) :
    isBrace c = false ∧ c ≠ '\x7b' ∧ c ≠ '\x7d' ∧ c ≠ ':' ∧ c ≠ '!' ∧ c ≠ '[' := by
  refine ⟨?_, ?_, ?_, ?_, ?_, ?_⟩
  · cases brace : isBrace c with
    | false => rfl
    | true =>
      simp only [isBrace, Bool.or_eq_true, beq_iff_eq] at brace
      rcases brace with rfl | rfl <;> exact absurd h (by decide)
  all_goals
    rintro rfl
    exact absurd h (by decide)

theorem cutName_plain {name : List Char} (plain : ∀ c ∈ name, isNameChar c = true)
    (rest : List Char) : cutName false (name ++ '\x7d' :: rest) = .ok (name, '\x7d', rest) := by
  induction name with
  | nil => simp [cutName]
  | cons c name ih =>
    obtain ⟨-, opens, closes, colon, mark, bracket⟩ := nameChar_plain (plain c List.mem_cons_self)
    have others := ih fun c hc => plain c (List.mem_cons_of_mem _ hc)
    simp [cutName, opens, closes, colon, mark, bracket, others, Except.map]

theorem cutField_plain {name : String} (plain : ∀ c ∈ name.toList, isNameChar c = true)
    (rest : List Char) :
    cutField (name.toList ++ '\x7d' :: rest) = .ok (.field name none [], rest) := by
  unfold cutField
  rw [cutName_plain plain]
  simp [bind, Except.bind, pure, Except.pure]

theorem takeWhile_plain {front : List Char} (plain : ∀ c ∈ front, isBrace c = false)
    (brace : Char) (hb : isBrace brace = true) (rest : List Char) :
    (front ++ brace :: rest).takeWhile (fun c => !isBrace c) = front ∧
      (front ++ brace :: rest).dropWhile (fun c => !isBrace c) = brace :: rest := by
  have kept : ∀ c ∈ front, (!isBrace c) = true := by
    intro c hc
    rw [plain c hc]
    rfl
  constructor
  · rw [List.takeWhile_append_of_pos kept, List.takeWhile_cons_of_neg (by simp [hb])]
    simp
  · rw [List.dropWhile_append_of_pos kept, List.dropWhile_cons_of_neg (by simp [hb])]

theorem ofText_plain {front : List Char} (plain : ∀ c ∈ front, isBrace c = false) :
    Template.ofText front = .ok (Template.merged front []) := by
  have kept : ∀ c ∈ front, (!isBrace c) = true := by
    intro c hc
    rw [plain c hc]
    rfl
  have none : front.dropWhile (fun c => !isBrace c) = [] := List.dropWhile_eq_nil_iff.mpr kept
  have all : front.takeWhile (fun c => !isBrace c) = front := List.takeWhile_eq_self_iff.mpr kept
  rw [Template.ofText]
  split
  · rw [all]
    rfl
  · rename_i brace rest found
    rw [none] at found
    cases found

/-- A field is read behind the text in front of it. -/
theorem ofText_field {front : List Char} (plain : ∀ c ∈ front, isBrace c = false) {name : String}
    (filled : name ≠ "") (word : ∀ c ∈ name.toList, isNameChar c = true) (rest : List Char) :
    Template.ofText (front ++ '{' :: (name.toList ++ '}' :: rest)) =
      (Template.ofText rest).map fun others => .literal front :: .field name none [] :: others := by
  obtain ⟨text, behind⟩ :=
    takeWhile_plain plain '{' (by decide) (name.toList ++ '}' :: rest)
  obtain ⟨c, others, first⟩ := List.exists_cons_of_ne_nil
    (fun none => filled (String.toList_eq_nil_iff.mp none) : name.toList ≠ [])
  have opens : c ≠ '{' := (nameChar_plain (word c (by simp [first]))).2.1
  rw [Template.ofText]
  split
  · rename_i none
    rw [behind] at none
    cases none
  · rename_i brace after found
    rw [behind] at found
    cases found
    have single : (name.toList ++ '}' :: rest).head? ≠ some '{' := by
      rw [first]
      simpa using opens
    have shorter : rest.length < (front ++ '{' :: (name.toList ++ '}' :: rest)).length := by
      simp
      omega
    rw [if_neg single, if_neg (by decide), if_neg (by simp), cutField_plain word, text]
    simp only [bind, Except.bind, pure, Except.pure]
    rw [dif_pos shorter]
    cases Template.ofText rest <;> rfl

/-- A template that is written out is read as itself, with neighbouring texts put together. The
induction is on the template; the text that has been read is in front of it. -/
theorem ofText_written {template : Template} (simple : ∀ piece ∈ template, piece.isSimple = true)
    {front : List Char} (plain : ∀ c ∈ front, isBrace c = false) :
    Template.ofText (front ++ template.written) = .ok (template.merged front) := by
  induction template generalizing front with
  | nil =>
    rw [Template.written, List.flatMap_nil, List.append_nil]
    exact ofText_plain plain
  | cons piece rest ih =>
    have others := fun piece hp => simple piece (List.mem_cons_of_mem _ hp)
    have first := simple piece List.mem_cons_self
    cases piece with
    | literal text =>
      have kept : ∀ c ∈ front ++ text, isBrace c = false := by
        intro c hc
        rcases List.mem_append.mp hc with before | here
        · exact plain c before
        · simpa using List.all_eq_true.mp first c here
      have read := ih others kept
      rw [List.append_assoc] at read
      exact read
    | field name conversion layout =>
      simp only [Piece.isSimple, Bool.and_eq_true, decide_eq_true_eq, Option.isNone_iff_eq_none,
        List.isEmpty_iff] at first
      obtain ⟨⟨⟨filled, word⟩, rfl⟩, rfl⟩ := first
      have read : Template.ofText ([] ++ Template.written rest) = .ok (Template.merged [] rest) :=
        ih others (by simp)
      have whole : Template.written (.field name none [] :: rest) =
          '{' :: (name.toList ++ '}' :: Template.written rest) := by
        simp [Template.written, Piece.written]
      rw [whole, ofText_field plain filled (List.all_eq_true.mp word)]
      rw [List.nil_append] at read
      rw [read]
      rfl

/-! ## Filling -/

theorem merged_names (front : List Char) (template : Template) :
    (template.merged front).names = template.names := by
  induction template generalizing front with
  | nil =>
    unfold Template.merged
    split <;> rfl
  | cons piece rest ih =>
    cases piece with
    | literal text => exact ih (front ++ text)
    | field name conversion layout =>
      have others := ih []
      unfold Template.names at others ⊢
      simp only [Template.merged, List.filterMap_cons, others]

theorem fill_cons (lookUp : String → Option String) (piece : Piece) (rest : Template) :
    Template.fill lookUp (piece :: rest) =
      (fillPiece lookUp piece).bind fun text => (Template.fill lookUp rest).map (text ++ ·) := by
  unfold Template.fill
  rw [List.mapM_cons]
  cases fillPiece lookUp piece with
  | error fault => rfl
  | ok text =>
    cases rest.mapM (fillPiece lookUp) with
    | error fault => rfl
    | ok texts =>
      simp [bind, Except.bind, pure, Except.pure, Except.map, String.join_cons]

/-- A merged template is filled to the text in front of what the template is filled to. -/
theorem merged_fill (lookUp : String → Option String) (front : List Char) (template : Template) :
    (template.merged front).fill lookUp =
      (template.fill lookUp).map fun text => String.ofList front ++ text := by
  have literal (text : List Char) : fillPiece lookUp (.literal text) = .ok (String.ofList text) :=
    rfl
  have empty : Template.fill lookUp [] = .ok "" := rfl
  induction template generalizing front with
  | nil =>
    unfold Template.merged
    split
    · rename_i none
      rw [List.isEmpty_iff.mp none]
      rfl
    · rw [fill_cons, literal, empty]
      rfl
  | cons piece rest ih =>
    rw [fill_cons]
    cases piece with
    | literal text =>
      rw [Template.merged, ih, literal]
      cases Template.fill lookUp rest with
      | error fault => rfl
      | ok behind => simp [Except.map, Except.bind, String.append_assoc]
    | field name conversion layout =>
      rw [Template.merged, fill_cons, fill_cons, literal, ih]
      cases fillPiece lookUp (.field name conversion layout) with
      | error fault => rfl
      | ok text => cases Template.fill lookUp rest <;> simp [Except.map, Except.bind]

/-! ## Segments -/

/-- Segments that can be written out: fixed texts without braces, and names of letters, digits
and underscores. -/
def Segment.isSimple (segment : Segment) : Bool := segment.piece.isSimple

theorem intersperse_simple {template : Template}
    (simple : ∀ piece ∈ template, piece.isSimple = true) :
    ∀ piece ∈ List.intersperse (.literal ['/']) template, piece.isSimple = true := by
  induction template with
  | nil => simp
  | cons piece rest ih =>
    have others := ih fun other ho => simple other (List.mem_cons_of_mem _ ho)
    cases rest with
    | nil => simpa using simple
    | cons next rest =>
      rw [List.intersperse_cons_cons]
      refine List.forall_mem_cons.mpr ⟨simple piece List.mem_cons_self, ?_⟩
      exact List.forall_mem_cons.mpr ⟨by decide, others⟩

/-- Segments that are written out are read as a template that is filled as they are. -/
theorem ofText_segments {segments : List Segment}
    (simple : ∀ segment ∈ segments, segment.isSimple = true) :
    ∃ template, Template.ofText (writtenOf segments) = .ok template ∧
      ∀ identity query extra, Client.buildPath template identity query extra =
        Client.buildPath (Template.ofSegments segments) identity query extra := by
  have pieces : ∀ piece ∈ Template.ofSegments segments, piece.isSimple = true := by
    apply intersperse_simple
    intro piece hp
    obtain ⟨segment, hs, rfl⟩ := List.mem_map.mp hp
    exact simple segment hs
  refine ⟨(Template.ofSegments segments).merged [], ?_, ?_⟩
  · have read : Template.ofText ([] ++ (Template.ofSegments segments).written) =
        .ok ((Template.ofSegments segments).merged []) := ofText_written pieces (by simp)
    rwa [List.nil_append] at read
  · intro identity query extra
    have filled (lookUp : String → Option String) :
        ((Template.ofSegments segments).merged []).fill lookUp =
          (Template.ofSegments segments).fill lookUp := by
      rw [merged_fill]
      cases (Template.ofSegments segments).fill lookUp <;> simp [Except.map]
    unfold Client.buildPath
    simp only [merged_names, filled]

end LakeAdmin.Path
