import LakeAdmin.Proofs.ListCache

/-!
When two keys are one. A number as a key stands for its value, whether it is written as an
integer, as a double or as a truth value, and with or without a sign of zero. Keys are one if
what they stand for is the same, part by part. So to be one key is an equivalence, although
keys that are one may be different keys.
-/

namespace LakeAdmin

namespace Binary64

/-- The number without the sign of a zero. -/
def unsigned : Binary64 → Binary64
  | negZero => finite 0
  | x => x

theorem same_unsigned (x y : Binary64) : x.same y = true ↔ x.unsigned = y.unsigned := by
  cases x <;> cases y <;> simp [same, units?, unsigned]

end Binary64

namespace Json

variable {τ : Type}

/-- Neither a list nor an object. -/
def IsScalar : Json τ → Prop
  | arr _ | obj _ => False
  | _ => True

/-- What a value stands for as a key: of a number, its value. -/
def worth (value : Json τ) : Json τ :=
  match value.number? with
  | some x => .float x.unsigned
  | none => value

theorem worth_number {value : Json τ} {x : Binary64} (h : value.number? = some x) :
    value.worth = .float x.unsigned := by
  unfold worth
  rw [h]

theorem worth_other {value : Json τ} (h : value.number? = none) : value.worth = value := by
  unfold worth
  rw [h]

theorem worth_differs {a b : Json τ} {x : Binary64} (ha : a.number? = some x)
    (hb : b.number? = none) : a.worth ≠ b.worth := by
  rw [worth_number ha, worth_other hb]
  rintro rfl
  cases hb

/-- Numbers are the same if they have one value, and no number is the same as something else. -/
theorem sameNumber_worth {a : Json τ} {x : Binary64} (ha : a.number? = some x) (b : Json τ) :
    sameNumber a b = true ↔ a.worth = b.worth := by
  unfold sameNumber
  rw [ha]
  cases hb : b.number? with
  | some y => simp [worth_number ha, worth_number hb, Binary64.same_unsigned]
  | none => simp [worth_differs ha hb]

variable [DecidableEq τ]

/-- What is no number is not the same as a number. -/
theorem same_number {a b : Json τ} {x : Binary64} (ha : a.number? = none) (hb : b.number? = some x) :
    a.same b = false := by
  cases a with
  | bool flag => cases ha
  | int n => cases ha
  | float y => cases ha
  | _ =>
    cases b with
    | bool flag => simp [same]
    | int n => simp [same]
    | float y => simp [same]
    | _ => cases hb

/-- What is no number is the same as what is equal to it, if it has no parts. -/
theorem same_other {a b : Json τ} (ha : a.number? = none) (scalar : a.IsScalar) :
    a.same b = true ↔ a = b := by
  cases a with
  | null => cases b <;> simp [same]
  | str s => cases b <;> simp [same]
  | arr items => cases scalar
  | obj members => cases scalar
  | _ => cases ha

/-- Values without parts are the same if they stand for the same. -/
theorem same_worth {a : Json τ} (scalar : a.IsScalar) (b : Json τ) :
    a.same b = true ↔ a.worth = b.worth := by
  cases ha : a.number? with
  | some x =>
    rw [← sameNumber_worth ha b]
    cases a with
    | bool flag => rw [same]
    | int n => rw [same]
    | float y => rw [same]
    | _ => cases ha
  | none =>
    cases hb : b.number? with
    | some y =>
      rw [same_number ha hb]
      exact iff_of_false Bool.false_ne_true (worth_differs hb ha).symm
    | none => rw [same_other ha scalar, worth_other ha, worth_other hb]

end Json

namespace CacheKey

mutual

/-- What a key stands for. -/
def worth : CacheKey → CacheKey
  | plain value => plain value.worth
  | query options => query options
  | tuple parts => tuple (worthParts parts)

def worthParts : List CacheKey → List CacheKey
  | [] => []
  | part :: rest => worth part :: worthParts rest

end

/-- Keys that can be hashed: plain values that are neither lists nor objects, options, and
tuples of such keys. -/
inductive Hashable : CacheKey → Prop
  | plain {value : Json} (scalar : value.IsScalar) : Hashable (.plain value)
  | query (options : QueryOptions) : Hashable (.query options)
  | tuple {parts : List CacheKey} (each : ∀ part ∈ parts, Hashable part) : Hashable (.tuple parts)

theorem sameParts_worth {parts : List CacheKey}
    (each : ∀ part ∈ parts, ∀ other, part.same other = true ↔ part.worth = other.worth)
    (others : List CacheKey) :
    sameParts parts others = true ↔ worthParts parts = worthParts others := by
  induction parts generalizing others with
  | nil => cases others <;> simp [sameParts, worthParts]
  | cons part rest ih =>
    cases others with
    | nil => simp [sameParts, worthParts]
    | cons other others =>
      have first := each part List.mem_cons_self other
      have behind := ih (fun part hm => each part (List.mem_cons_of_mem _ hm)) others
      simp [sameParts, worthParts, first, behind]

/-- Keys are one if they stand for the same. The induction is on what makes the first one
hashable. -/
theorem same_worth {key : CacheKey} (hashable : key.Hashable) (other : CacheKey) :
    key.same other = true ↔ key.worth = other.worth := by
  induction hashable generalizing other with
  | plain scalar => cases other <;> simp [same, worth, Json.same_worth scalar]
  | query options => cases other <;> simp [same, worth]
  | tuple each ih =>
    cases other with
    | tuple others => simp [same, worth, sameParts_worth ih others]
    | _ => simp [same, worth]

theorem worthParts_take (n : Nat) (parts : List CacheKey) :
    worthParts (parts.take n) = (worthParts parts).take n := by
  induction parts generalizing n with
  | nil => simp [worthParts]
  | cons part rest ih => cases n <;> simp [worthParts, ih]

/-- Keys that are one begin with the same parts. -/
theorem beginsWith_congr {parts : List CacheKey} (hp : ∀ part ∈ parts, part.Hashable)
    {a b : CacheKey} (ha : a.Hashable) (same : (a == b) = true) :
    a.beginsWith parts = b.beginsWith parts := by
  have each : ∀ part ∈ parts, ∀ other, part.same other = true ↔ part.worth = other.worth :=
    fun part hm => same_worth (hp part hm)
  have worth : a.worth = b.worth := (same_worth ha b).mp same
  cases a with
  | tuple all =>
    cases b with
    | tuple all' =>
      have whole : worthParts all = worthParts all' := tuple.inj worth
      rw [Bool.eq_iff_iff]
      unfold beginsWith
      rw [sameParts_worth each, sameParts_worth each, worthParts_take, worthParts_take, whole]
    | _ => cases worth
  | _ =>
    cases b with
    | tuple all => cases worth
    | _ => rfl

/-- To be one key is an equivalence of the keys that can be hashed. -/
theorem hashable_lawful : Lawful Hashable where
  refl a ha := (same_worth ha a).mpr rfl
  symm a b ha hb same := (same_worth hb a).mpr ((same_worth ha b).mp same).symm
  trans _ b c ha hb _ first second :=
    (same_worth ha c).mpr (((same_worth ha b).mp first).trans ((same_worth hb c).mp second))

/-- An integer, a double and a truth value of one value are one key. -/
example : (tuple [plain (.int 1)] == tuple [plain (.bool true)]) = true := by
  decide +kernel

end CacheKey

end LakeAdmin
