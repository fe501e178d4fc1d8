import LakeAdmin.Json.Display
import LakeAdmin.Proofs.Json.Equivalence
import LakeAdmin.Proofs.Text.Quoted

/-!
What the form of a value in a message tells. Values that denote the same may look different: a
number as an integer, a double or a truth value, a zero with or without its sign, an object in
another order. Where they look the same they are the very same value. Forms end by themselves
inside a list or an object, so this holds part by part.
-/

namespace LakeAdmin

/-! ## Numbers -/

/-- Digits and the minus sign. -/
def isFigure (c : Char) : Bool := c.isDigit || c = '-'

theorem toDigits_figures (n : Nat) : ∀ c ∈ Nat.toDigits 10 n, isFigure c = true := by
  intro c member
  have digit := Nat.isDigit_of_mem_toDigits (by decide) (by decide) member
  simp [isFigure, digit]

theorem toString_figures (n : Int) : ∀ c ∈ (toString n).toList, isFigure c = true := by
  rw [Int.toString_eq_repr, Int.repr_eq_if]
  split
  · rw [Nat.toList_repr]
    exact toDigits_figures _
  · rw [String.toList_append, Nat.toList_repr]
    intro c member
    rcases List.mem_append.mp member with sign | digit
    · rw [List.mem_singleton.mp sign]
      rfl
    · exact toDigits_figures _ c digit

namespace Binary64

/-- Figures with a point or an exponent behind them, and whatever follows. -/
inductive IsMarked : List Char → Prop
  | point (rest : List Char) : IsMarked ('.' :: rest)
  | power (rest : List Char) : IsMarked ('e' :: rest)
  | figure {c : Char} {l : List Char} (figure : isFigure c = true) (more : IsMarked l) :
      IsMarked (c :: l)

theorem IsMarked.front {front l : List Char} (figures : ∀ c ∈ front, isFigure c = true)
    (h : IsMarked l) : IsMarked (front ++ l) := by
  induction front with
  | nil => exact h
  | cons c front ih =>
    exact .figure (figures c List.mem_cons_self)
      (ih fun d member => figures d (List.mem_cons_of_mem _ member))

theorem IsMarked.append {l : List Char} (h : IsMarked l) (rest : List Char) :
    IsMarked (l ++ rest) := by
  induction h with
  | point l => exact .point (l ++ rest)
  | power l => exact .power (l ++ rest)
  | figure figure _ ih => exact .figure figure ih

theorem layout_marked (d : Decimal) : IsMarked d.layout.toList := by
  have figures : ∀ c ∈ Nat.toDigits 10 d.significand, isFigure c = true := toDigits_figures _
  have first (n : Nat) : ∀ c ∈ (Nat.toDigits 10 d.significand).take n, isFigure c = true :=
    fun c member => figures c (List.mem_of_mem_take member)
  unfold Decimal.layout
  dsimp only
  split
  · split
    · rw [String.toList_append]
      exact .figure (rfl : isFigure '0' = true) (.point _)
    · split
      · rw [String.toList_append, String.toList_ofList, List.append_assoc]
        refine .front figures (.front ?_ (.point _))
        intro c member
        rw [List.eq_of_mem_replicate member]
        rfl
      · rw [String.toList_append, String.toList_append, String.toList_ofList, List.append_assoc]
        exact .front (first _) (.point _)
  · rw [String.toList_append, String.toList_append, String.toList_append, String.toList_ofList,
      List.append_assoc, List.append_assoc]
    refine .front (first _) ?_
    split
    · split
      · exact .power _
      · exact .power _
    · rw [String.toList_append]
      exact .point _

/-- The text of a finite double is marked, and that of no integer is. -/
theorem toText_marked {x : Binary64} (finite : x.isFinite = true) : IsMarked x.toText.toList := by
  cases x with
  | finite n =>
    simp only [toText]
    split
    · exact .figure (rfl : isFigure '0' = true) (.point _)
    · rw [String.toList_append]
      refine .front ?_ (layout_marked _)
      split
      · simp [isFigure]
      · simp
  | negZero =>
    exact .figure (rfl : isFigure '-' = true) (.figure (rfl : isFigure '0' = true) (.point _))
  | infinite negative => cases finite
  | nan => cases finite

end Binary64

namespace Json

open Binary64

/-- What may follow the form of a value. -/
def IsEnd (l : List Char) : Prop := ∀ c ∈ l.head?, c = ',' ∨ c = ']' ∨ c = '}'

theorem isEnd_cons {c : Char} (h : c = ',' ∨ c = ']' ∨ c = '}') (l : List Char) :
    IsEnd (c :: l) := by
  rintro _ ⟨⟩
  exact h

theorem end_unmarked {l : List Char} (ends : IsEnd l) : ¬IsMarked l := by
  intro marked
  cases marked with
  | point => simpa using ends '.' rfl
  | power => simpa using ends 'e' rfl
  | figure figure =>
    rcases ends _ rfl with rfl | rfl | rfl <;> cases figure

/-- Figures that what is not marked follows are not marked. -/
theorem figures_unmarked {l r : List Char} (figures : ∀ c ∈ l, isFigure c = true)
    (behind : ¬IsMarked r) : ¬IsMarked (l ++ r) := by
  intro marked
  induction l with
  | nil => exact behind marked
  | cons c l ih =>
    cases marked with
    | point => cases figures '.' List.mem_cons_self
    | power => cases figures 'e' List.mem_cons_self
    | figure _ more => exact ih (fun d member => figures d (List.mem_cons_of_mem _ member)) more

/-- The form of a truth value starts with a letter. -/
theorem bool_head (b : Bool) :
    ∃ c l, (bool b : Document).display.toList = c :: l ∧ isFigure c = false ∧ c ≠ '.' ∧ c ≠ 'e' := by
  cases b with
  | false => exact ⟨'F', _, rfl, by decide⟩
  | true => exact ⟨'T', _, rfl, by decide⟩

theorem bool_unmarked (b : Bool) (r : List Char) : ¬IsMarked ((bool b : Document).display.toList ++ r) := by
  obtain ⟨c, l, starts, letter, point, power⟩ := bool_head b
  rw [starts]
  intro marked
  cases marked with
  | point => exact point rfl
  | power => exact power rfl
  | figure figure =>
    rw [letter] at figure
    cases figure

theorem bool_int (b : Bool) (n : Int) (r r' : List Char) :
    (bool b : Document).display.toList ++ r ≠ (toString n).toList ++ r' := by
  obtain ⟨c, l, starts, letter, -⟩ := bool_head b
  have filled : (toString n).toList ≠ [] := by
    rw [Int.toString_eq_repr, Int.repr_eq_if]
    split <;> simp
  obtain ⟨d, m, first⟩ := List.exists_cons_of_ne_nil filled
  have figure := toString_figures n d (first ▸ List.mem_cons_self)
  rw [starts, first]
  rintro same
  rw [(List.cons.inj same).1, figure] at letter
  cases letter

theorem same_finite {x y : Binary64} (h : x.same y = true) : x.isFinite = y.isFinite := by
  cases x <;> cases y <;> simp_all [Binary64.same, Binary64.isFinite, units?]

theorem same_units {m n : Int} (h : (Binary64.finite m).same (.finite n) = true) : m = n := by
  simpa [Binary64.same, units?] using h

theorem one_pos : 0 < Binary64.one := by
  unfold one
  generalize 1074 = digits
  exact Nat.two_pow_pos digits

/-- Doubles of one value with one text are the same double. -/
theorem double_front {x y : Binary64} (h : x.same y = true) {r r' : List Char}
    (texts : x.toText.toList ++ r = y.toText.toList ++ r') : x = y := by
  have zeros : ∀ r r', (Binary64.finite 0).toText.toList ++ r ≠ negZero.toText.toList ++ r' := by
    intro r r' same
    exact absurd (List.cons.inj same).1 (by decide)
  rw [Binary64.same_unsigned] at h
  cases x with
  | negZero =>
    cases y with
    | finite n =>
      cases h
      exact absurd texts.symm (zeros r' r)
    | _ => simp_all [unsigned]
  | finite n =>
    cases y with
    | negZero =>
      cases h
      exact absurd texts (zeros r r')
    | _ => simp_all [unsigned]
  | _ => cases y <;> simp_all [unsigned]

/-- Numbers of one value with one form are the same number, written in the same way. -/
theorem number_front {x y : Document} {v w : Binary64} (hx : x.number? = some v)
    (hy : y.number? = some w) (same : v.same w = true) {r r' : List Char} (ends : IsEnd r)
    (ends' : IsEnd r') (h : x.display.toList ++ r = y.display.toList ++ r') : x = y := by
  have finite := same_finite same
  cases x with
  | bool b =>
    cases hx
    cases y with
    | bool c =>
      cases hy
      have units := same_units same
      have pos := one_pos
      cases b with
      | false =>
        cases c with
        | false => rfl
        | true =>
          have units : (0 : Int) = one := units
          omega
      | true =>
        cases c with
        | false =>
          have units : (one : Int) = 0 := units
          omega
        | true => rfl
    | int n => exact absurd h (bool_int b n r r')
    | float z =>
      cases hy
      have marked := (toText_marked finite.symm).append r'
      exact absurd (h ▸ marked) (bool_unmarked b r)
    | _ => cases hy
  | int n =>
    cases hx
    have unmarked : ¬IsMarked ((int n : Document).display.toList ++ r) :=
      figures_unmarked (toString_figures n) (end_unmarked ends)
    cases y with
    | bool c => exact absurd h.symm (bool_int c n r' r)
    | int m =>
      cases hy
      have pos := one_pos
      rw [Int.eq_of_mul_eq_mul_right (by omega) (same_units same)]
    | float z =>
      cases hy
      have marked := (toText_marked finite.symm).append r'
      exact absurd (h ▸ marked) unmarked
    | _ => cases hy
  | float z =>
    cases hx
    cases y with
    | bool c =>
      cases hy
      have marked := (toText_marked finite).append r
      exact absurd (h ▸ marked) (bool_unmarked c r')
    | int m =>
      cases hy
      have unmarked : ¬IsMarked ((int m : Document).display.toList ++ r') :=
        figures_unmarked (toString_figures m) (end_unmarked ends')
      have marked := (toText_marked finite).append r
      exact absurd (h ▸ marked) unmarked
    | float z' =>
      cases hy
      rw [double_front same h]
    | _ => cases hy
  | _ => cases hx

/-! ## Lists and objects -/

section Joined

variable {α : Type} {text : α → String} {xs ys : List α}

/-- Texts that end by themselves also do so behind one another, with commas between them. -/
theorem joined_front {close : Char} (closes : close = ',' ∨ close = ']' ∨ close = '}')
    (sizes : xs.length = ys.length)
    (each : ∀ (i : Nat) (x y : α), xs[i]? = some x → ys[i]? = some y → ∀ r r', IsEnd r → IsEnd r' →
      (text x).toList ++ r = (text y).toList ++ r' → x = y ∧ r = r') {r r' : List Char}
    (h : (", ".intercalate (xs.map text)).toList ++ close :: r =
      (", ".intercalate (ys.map text)).toList ++ close :: r') : xs = ys ∧ r = r' := by
  have comma (l : List Char) : IsEnd (", ".toList ++ l) := isEnd_cons (.inl rfl) _
  induction xs generalizing ys with
  | nil =>
    rw [List.length_eq_zero_iff.mp sizes.symm] at h ⊢
    exact ⟨rfl, (List.cons.inj (List.append_cancel_left h)).2⟩
  | cons x xs ih =>
    cases ys with
    | nil => cases sizes
    | cons y ys =>
      have fewer : xs.length = ys.length := Nat.succ.inj sizes
      have first := each 0 x y rfl rfl
      have others := fun i => each (i + 1)
      -- What follows the first text is a comma or the end of the list.
      cases xs with
      | nil =>
        cases ys with
        | cons y' ys => cases fewer
        | nil =>
          simp only [List.map_cons, List.map_nil, String.intercalate_singleton] at h
          obtain ⟨rfl, rest⟩ := first _ _ (isEnd_cons closes _) (isEnd_cons closes _) h
          exact ⟨rfl, (List.cons.inj rest).2⟩
      | cons x' xs =>
        cases ys with
        | nil => cases fewer
        | cons y' ys =>
          simp only [List.map_cons, String.intercalate_cons_cons, String.toList_append,
            List.append_assoc] at h
          obtain ⟨rfl, rest⟩ := first _ _ (comma _) (comma _) h
          obtain ⟨same, rfl⟩ := ih fewer others (List.append_cancel_left rest)
          rw [same]
          exact ⟨rfl, rfl⟩

end Joined

theorem displayItems_map (l : List (Document)) : displayItems l = l.map display := by
  induction l with
  | nil => rfl
  | cons x l ih => rw [displayItems, ih, List.map_cons]

def memberText (member : Wide × Document) : String :=
  TextLike.quoted member.1 ++ ": " ++ member.2.display

theorem displayMembers_map (l : Members Wide) : displayMembers l = l.map memberText := by
  induction l with
  | nil => rfl
  | cons member l ih =>
    obtain ⟨name, value⟩ := member
    rw [displayMembers, ih, List.map_cons]
    rfl

theorem sameItems_get {xs ys : List (Document)} (h : sameItems xs ys = true) :
    xs.length = ys.length ∧
      ∀ (i : Nat) (x y : Document), xs[i]? = some x → ys[i]? = some y → x.same y = true := by
  induction xs generalizing ys with
  | nil =>
    cases ys with
    | nil => simp
    | cons y ys => cases h
  | cons x xs ih =>
    cases ys with
    | nil => cases h
    | cons y ys =>
      unfold sameItems at h
      rw [Bool.and_eq_true] at h
      obtain ⟨sizes, each⟩ := ih h.2
      refine ⟨congrArg Nat.succ sizes, ?_⟩
      rintro (_ | i) a b ha hb
      · cases ha
        cases hb
        exact h.1
      · exact each i a b ha hb

/-! ## Values -/

/-- Values that denote the same and have one form, whatever follows it, are the same value. The
induction is on what makes the names of the first one distinct. -/
theorem display_front {x y : Document} (distinct : x.Distinct) (distinct' : y.Distinct)
    (h : x.same y = true) {r r' : List Char} (ends : IsEnd r) (ends' : IsEnd r')
    (forms : x.display.toList ++ r = y.display.toList ++ r') : x = y ∧ r = r' := by
  have number {x y : Document} {v : Binary64} (hx : x.number? = some v)
      (h : sameNumber x y = true) {r r' : List Char} (ends : IsEnd r) (ends' : IsEnd r')
      (forms : x.display.toList ++ r = y.display.toList ++ r') : x = y ∧ r = r' := by
    unfold sameNumber at h
    rw [hx] at h
    cases hy : y.number? with
    | none =>
      rw [hy] at h
      cases h
    | some w =>
      rw [hy] at h
      obtain rfl := number_front hx hy h ends ends' forms
      exact ⟨rfl, List.append_cancel_left forms⟩
  induction distinct generalizing y r r' with
  | null =>
    cases y with
    | null => exact ⟨rfl, List.append_cancel_left forms⟩
    | _ => cases h
  | bool b => exact number rfl (by rwa [same] at h) ends ends' forms
  | int n => exact number rfl (by rwa [same] at h) ends ends' forms
  | float z => exact number rfl (by rwa [same] at h) ends ends' forms
  | str s =>
    cases y with
    | str t =>
      unfold same at h
      rw [beq_iff_eq.mp h] at forms ⊢
      exact ⟨rfl, List.append_cancel_left forms⟩
    | _ => cases h
  | @arr xs values ih =>
    obtain ⟨ys, rfl, items⟩ := arr_same h
    cases distinct' with
    | arr values' =>
      obtain ⟨sizes, each⟩ := sameItems_get items
      simp only [display, displayItems_map, String.toList_append, List.append_assoc] at forms
      have inside := List.append_cancel_left forms
      obtain ⟨rfl, rfl⟩ := joined_front (.inr (.inl rfl)) sizes
        (fun i x y hx hy r r' ends ends' => ih x (List.mem_of_getElem? hx)
          (values' y (List.mem_of_getElem? hy)) (each i x y hx hy) ends ends') inside
      exact ⟨rfl, rfl⟩
  | @obj xs names values ih =>
    obtain ⟨ys, rfl⟩ := obj_same h
    have whole : (obj xs).Distinct := .obj names values
    have held := (obj_same_iff whole distinct').mp h
    cases distinct' with
    | obj names' values' =>
      unfold same at h
      rw [Bool.and_eq_true, beq_iff_eq] at h
      simp only [display, displayMembers_map, String.toList_append, List.append_assoc] at forms
      have inside := List.append_cancel_left forms
      have each : ∀ (i : Nat) (x y : Wide × Document), xs[i]? = some x → ys[i]? = some y →
          ∀ r r', IsEnd r → IsEnd r' →
            (memberText x).toList ++ r = (memberText y).toList ++ r' → x = y ∧ r = r' := by
        rintro i ⟨name, x⟩ ⟨name', y⟩ hx hy r r' ends ends' forms
        simp only [memberText, String.toList_append, List.append_assoc] at forms
        obtain ⟨rfl, rest⟩ := Text.Quoted.quoted_front forms
        have rel := held name
        rw [(Members.get?_iff names).mpr (List.mem_of_getElem? hx),
          (Members.get?_iff names').mpr (List.mem_of_getElem? hy)] at rel
        cases rel with
        | some same =>
          obtain ⟨rfl, rfl⟩ := ih _ (List.mem_of_getElem? hx)
            (values' _ (List.mem_of_getElem? hy)) same ends ends' (List.append_cancel_left rest)
          exact ⟨rfl, rfl⟩
      obtain ⟨rfl, rfl⟩ := joined_front (.inr (.inr rfl)) h.1 each inside
      exact ⟨rfl, rfl⟩

end Json

end LakeAdmin
