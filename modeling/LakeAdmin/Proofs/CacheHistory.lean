import Mathlib.Data.List.Basic
import Mathlib.Data.List.Induction
import LakeAdmin.Proofs.CacheKey

/-!
What a cache remembers. A cache gives back what was last stored under a key, as long as nothing
dropped the key and not more than the time to live has passed. Entries that are too old go when
they are read, so the cache depends on the reads; what it gives back does not. The cache is
compared with the history of what was done with it, which forgets nothing.
-/

namespace LakeAdmin

namespace Binary64

/-- Whether `x` is at most `y`. Nothing is at most `nan`, nor `nan` at most anything. -/
def le : Binary64 → Binary64 → Bool
  | nan, _ => false
  | _, nan => false
  | infinite s, infinite t => s || !t
  | infinite s, _ => s
  | _, infinite t => !t
  | x, y => decide (x.units?.getD 0 ≤ y.units?.getD 0)

theorem lt_not_le {x y : Binary64} (hx : x ≠ nan) (hy : y ≠ nan) : lt y x = !le x y := by
  have units (m n : Int) : decide (n < m) = !decide (m ≤ n) := by
    rw [← decide_not]
    exact decide_eq_decide.mpr Int.not_le.symm
  cases x with
  | nan => exact absurd rfl hx
  | infinite s =>
    cases y with
    | nan => exact absurd rfl hy
    | infinite t => cases s <;> cases t <;> rfl
    | _ => cases s <;> rfl
  | finite m =>
    cases y with
    | nan => exact absurd rfl hy
    | infinite t => cases t <;> rfl
    | finite n => exact units m n
    | negZero => exact units m 0
  | negZero =>
    cases y with
    | nan => exact absurd rfl hy
    | infinite t => cases t <;> rfl
    | finite n => exact units 0 n
    | negZero => rfl

theorem round_ne_nan (n : Int) : round n ≠ nan := by
  intro undefined
  rcases round_cases n with ⟨-, same⟩ | ⟨-, same⟩ | ⟨-, -, same⟩
  all_goals
    rw [undefined] at same
    cases same

theorem sub_ne_nan (m n : Int) : finite m - finite n ≠ nan := by
  by_cases zero : n = 0
  · subst zero
    rw [sub_zero]
    simp
  · rw [sub_round zero]
    exact round_ne_nan _

end Binary64

namespace ListCache

/-! ## Histories -/

inductive Step (α : Type) where
  | put (key : CacheKey) (value : Option α)
  | get (key : CacheKey)
  | contains (key : CacheKey)
  | clear (key : CacheKey)

namespace Step

variable {α : Type}

def after (now : Binary64) (cache : ListCache α) : Step α → ListCache α
  | put key value => cache.put now key value
  | get key => (cache.get now key).2
  | contains key => (cache.contains now key).2
  | clear key => (cache.clear key).2

def key : Step α → CacheKey
  | put key _ | get key | contains key | clear key => key

/-- Whether a step only looks. -/
def isRead : Step α → Bool
  | get _ | contains _ => true
  | put _ _ | clear _ => false

/-- A step decides what is stored under a key: it stores something there, or drops the key, by
its name or with all others. -/
def Settles (key : CacheKey) : Step α → Prop
  | put other _ => (other == key) = true
  | get _ | contains _ => False
  | clear other => other = .plain .null ∨ (other == key) = true

theorem read_settles {step : Step α} (h : step.isRead = true) (key : CacheKey) :
    ¬step.Settles key := by
  cases step with
  | put key value => cases h
  | clear key => cases h
  | get key => exact id
  | contains key => exact id

end Step

structure Moment (α : Type) where
  time : Int
  step : Step α

variable {α : Type}

def after (ttl : Option Binary64) (moments : List (Moment α)) : ListCache α :=
  moments.foldl (fun cache moment => moment.step.after (.finite moment.time) cache) (empty ttl)

/-- The clock never went back, up to a time. -/
def InOrder (moments : List (Moment α)) (now : Int) : Prop :=
  (moments.map (·.time) ++ [now]).Pairwise (· ≤ ·)

/-- A value, or null, was stored under a key at a time, and nothing since has decided what is
stored there. -/
def Stored (moments : List (Moment α)) (key : CacheKey) (value : Option α) (time : Int) : Prop :=
  ∃ earlier later other, moments = earlier ++ ⟨time, .put other value⟩ :: later ∧
    (other == key) = true ∧ ∀ moment ∈ later, ¬moment.step.Settles key

/-- What was stored at a time may still be read: there is no time to live, or what has passed is
at most that. A time to live that is not a number is never over. -/
def Lasts (ttl : Option Binary64) (now time : Int) : Prop :=
  ∀ limit ∈ ttl, limit = .nan ∨ Binary64.le (.finite now - .finite time) limit = true

theorem lasts_fresh (ttl : Option Binary64) (now time : Int) :
    Lasts ttl now time ↔ Fresh ttl (.finite now) (.finite time) := by
  unfold Lasts Fresh
  apply forall₂_congr
  intro limit _
  by_cases undefined : limit = .nan
  · subst undefined
    simp [Binary64.lt]
  · rw [Binary64.lt_not_le (Binary64.sub_ne_nan now time) undefined]
    simp [undefined]

theorem inOrder_snoc {moments : List (Moment α)} {last : Moment α} {now : Int}
    (order : InOrder (moments ++ [last]) now) : InOrder moments last.time ∧ last.time ≤ now := by
  unfold InOrder at order ⊢
  rw [List.map_append, List.pairwise_append] at order
  obtain ⟨before, -, all⟩ := order
  exact ⟨before, all last.time (by simp) now (by simp)⟩

theorem stored_nil (key : CacheKey) (value : Option α) (time : Int) :
    ¬Stored [] key value time := by
  rintro ⟨earlier, later, other, split, -⟩
  simp at split

/-- What is stored after one more moment was stored then, or before and not touched then. -/
theorem stored_snoc {moments : List (Moment α)} {last : Moment α} {key : CacheKey}
    {value : Option α} {time : Int} :
    Stored (moments ++ [last]) key value time ↔
      (∃ other, last = ⟨time, .put other value⟩ ∧ (other == key) = true) ∨
        (Stored moments key value time ∧ ¬last.step.Settles key) := by
  constructor
  · rintro ⟨earlier, later, other, split, same, quiet⟩
    rcases List.eq_nil_or_concat later with rfl | ⟨front, final, rfl⟩
    · obtain ⟨-, ends⟩ := List.append_inj' split rfl
      cases ends
      exact .inl ⟨other, rfl, same⟩
    · rw [List.concat_eq_append] at split quiet
      rw [← List.cons_append, ← List.append_assoc] at split
      obtain ⟨rfl, ends⟩ := List.append_inj' split rfl
      cases ends
      refine .inr ⟨⟨earlier, front, other, rfl, same, ?_⟩, quiet last (by simp)⟩
      intro moment hm
      exact quiet moment (List.mem_append_left _ hm)
  · rintro (⟨other, rfl, same⟩ | ⟨⟨earlier, later, other, rfl, same, quiet⟩, silent⟩)
    · exact ⟨moments, [], other, rfl, same, by simp⟩
    · refine ⟨earlier, later ++ [last], other, by simp, same, ?_⟩
      intro moment hm
      rcases List.mem_append.mp hm with old | new
      · exact quiet moment old
      · rw [List.mem_singleton.mp new]
        exact silent

/-- Reads are no part of what is stored. -/
theorem stored_unread {moments : List (Moment α)} {key : CacheKey} {value : Option α}
    {time : Int} :
    Stored (moments.filter fun moment => !moment.step.isRead) key value time ↔
      Stored moments key value time := by
  induction moments using List.reverseRecOn with
  | nil => rfl
  | append_singleton moments last ih =>
    rw [List.filter_append, stored_snoc]
    cases reads : last.step.isRead with
    | true =>
      have looks : ¬∃ other, last = ⟨time, .put other value⟩ ∧ (other == key) = true := by
        rintro ⟨other, rfl, -⟩
        cases reads
      simp [reads, ih, looks, Step.read_settles reads key]
    | false => simp [reads, stored_snoc, ih]

theorem inOrder_filter {moments : List (Moment α)} {now : Int} (order : InOrder moments now)
    (keep : Moment α → Bool) : InOrder (moments.filter keep) now := by
  unfold InOrder at order ⊢
  exact order.sublist ((List.filter_sublist.map _).append_right _)

/-! ## What a cache holds of its history -/

/-- What a cache has under a key was stored there, and what was stored is there, unless it is
too old at a time. -/
structure Agrees (moments : List (Moment α)) (cache : ListCache α) (now : Int) (key : CacheKey) :
    Prop where
  held : ∀ entry, cache.find? key = some entry →
    ∃ time, entry.storedAt = .finite time ∧ Stored moments key entry.value time
  kept : ∀ value time, Stored moments key value time →
    Fresh cache.ttl (.finite now) (.finite time) →
      ∃ entry, cache.find? key = some entry ∧ entry.value = value ∧ entry.storedAt = .finite time

def Single (cache : ListCache α) : Prop := cache.keys.Pairwise fun a b => (a == b) = false

/-- A cache is what its history makes it, as far as a time can tell. -/
structure Recalls (ttl : Option Binary64) (moments : List (Moment α)) (cache : ListCache α)
    (now : Int) : Prop where
  ttl : cache.ttl = ttl
  holds : cache.Holds CacheKey.Hashable
  single : cache.Single
  agrees : ∀ key, key.Hashable → Agrees moments cache now key

variable {ttl : Option Binary64} {moments : List (Moment α)} {cache : ListCache α} {now : Int}
  {key : CacheKey}

theorem single_sublist {after : ListCache α} (single : cache.Single)
    (h : after.entries.Sublist cache.entries) : after.Single :=
  single.sublist (h.map _)

/-- The keys after something was stored are the keys before, with a new one at the end if it is
new. -/
theorem keys_put (cache : ListCache α) (now : Binary64) (key : CacheKey) (value : Option α) :
    (cache.put now key value).keys = cache.keys ∨
      (cache.put now key value).keys = cache.keys ++ [key] ∧
        ∀ other ∈ cache.keys, (other == key) = false := by
  obtain ⟨ttl, entries⟩ := cache
  show (putEntry ⟨key, value, now⟩ entries).map (·.key) = entries.map (·.key) ∨
    (putEntry ⟨key, value, now⟩ entries).map (·.key) = entries.map (·.key) ++ [key] ∧
      ∀ other ∈ entries.map (·.key), (other == key) = false
  induction entries with
  | nil => exact .inr ⟨rfl, by simp⟩
  | cons first rest ih =>
    unfold putEntry
    by_cases same : (first.key == key) = true
    · rw [if_pos same]
      exact .inl rfl
    · rw [if_neg same]
      rcases ih with old | ⟨new, apart⟩
      · left
        rw [List.map_cons, List.map_cons, old]
      · right
        rw [List.map_cons, List.map_cons, new]
        refine ⟨rfl, List.forall_mem_cons.mpr ⟨Bool.eq_false_iff.mpr same, apart⟩⟩

theorem single_put (single : cache.Single) (now : Binary64) (key : CacheKey) (value : Option α) :
    (cache.put now key value).Single := by
  unfold Single
  rcases keys_put cache now key value with old | ⟨new, apart⟩
  · rw [old]
    exact single
  · rw [new, List.pairwise_append]
    refine ⟨single, List.pairwise_singleton _ _, ?_⟩
    intro a ha b hb
    rw [List.mem_singleton.mp hb]
    exact apart a ha

/-! ## Steps -/

/-- A moment that does not decide what is stored under a key leaves the agreement as it is, if
the cache lost nothing there but what is too old. -/
theorem agrees_quiet {after : ListCache α} {last : Moment α}
    (agrees : Agrees moments cache now key) (same : after.ttl = cache.ttl)
    (found : ∀ entry, after.find? key = some entry → cache.find? key = some entry)
    (kept : ∀ entry, cache.find? key = some entry → Fresh cache.ttl (.finite now) entry.storedAt →
      after.find? key = some entry)
    (silent : ¬last.step.Settles key) : Agrees (moments ++ [last]) after now key where
  held entry there := by
    obtain ⟨time, began, stored⟩ := agrees.held entry (found entry there)
    exact ⟨time, began, stored_snoc.mpr (.inr ⟨stored, silent⟩)⟩
  kept value time stored fresh := by
    rcases stored_snoc.mp stored with ⟨other, rfl, settles⟩ | ⟨old, -⟩
    · exact absurd settles silent
    · rw [same] at fresh
      obtain ⟨entry, there, rfl, began⟩ := agrees.kept value time old fresh
      rw [← began] at fresh
      exact ⟨entry, kept entry there fresh, rfl, began⟩

theorem agrees_same {after : ListCache α} {last : Moment α}
    (agrees : Agrees moments cache now key) (found : after.find? key = cache.find? key)
    (same : after.ttl = cache.ttl) (silent : ¬last.step.Settles key) :
    Agrees (moments ++ [last]) after now key := by
  apply agrees_quiet agrees same _ _ silent
  · intro entry there
    rwa [← found]
  · intro entry there _
    rwa [found]

/-- Nothing is stored under a key that a step dropped. -/
theorem agrees_cleared {after : ListCache α} {other : CacheKey}
    (settles : (Step.clear (α := α) other).Settles key) (gone : after.find? key = none) :
    Agrees (moments ++ [⟨now, .clear other⟩]) after now key where
  held entry there := by
    rw [gone] at there
    cases there
  kept value time stored _ := by
    rcases stored_snoc.mp stored with ⟨_, put, -⟩ | ⟨-, silent⟩
    · cases put
    · exact absurd settles silent

theorem agrees_put {after : ListCache α} {other place : CacheKey} {value : Option α}
    (same : (other == key) = true) (found : after.find? key = some ⟨place, value, .finite now⟩) :
    Agrees (moments ++ [⟨now, .put other value⟩]) after now key where
  held entry there := by
    rw [found] at there
    cases there
    exact ⟨now, rfl, stored_snoc.mpr (.inl ⟨other, rfl, same⟩)⟩
  kept newer time stored _ := by
    rcases stored_snoc.mp stored with ⟨_, put, -⟩ | ⟨-, silent⟩
    · cases put
      exact ⟨_, found, rfl, rfl⟩
    · exact absurd same silent

theorem recalls_put (recalls : Recalls ttl moments cache now) (hashable : key.Hashable)
    (value : Option α) :
    Recalls ttl (moments ++ [⟨now, .put key value⟩]) (cache.put (.finite now) key value) now where
  ttl := recalls.ttl
  holds := holds_put recalls.holds hashable
  single := single_put recalls.single _ key value
  agrees other ho := by
    have lawful := CacheKey.hashable_lawful
    have held : (cache.put (.finite now) key value).Holds CacheKey.Hashable :=
      holds_put recalls.holds hashable
    cases same : key == other with
    | true =>
      obtain ⟨place, -, -, found⟩ := find?_put_same lawful recalls.holds hashable
      rw [find?_congr lawful held hashable ho same] at found
      exact agrees_put same found
    | false =>
      have found : (cache.put (.finite now) key value).find? other = cache.find? other :=
        find?_put_apart lawful recalls.holds hashable ho same
      apply agrees_same (recalls.agrees other ho) found rfl
      intro settles
      rw [show (key == other) = true from settles] at same
      cases same

theorem recalls_read (recalls : Recalls ttl moments cache now) (hashable : key.Hashable)
    {step : Step α} (reads : step.isRead = true) :
    Recalls ttl (moments ++ [⟨now, step⟩]) (cache.get (.finite now) key).2 now := by
  have trimmed := get_trimmed CacheKey.hashable_lawful recalls.holds hashable (.finite now)
  exact {
    ttl := trimmed.ttl.trans recalls.ttl
    holds := holds_sublist trimmed.entries recalls.holds
    single := single_sublist recalls.single trimmed.entries
    agrees := fun other ho =>
      agrees_quiet (recalls.agrees other ho) trimmed.ttl (trimmed.found other ho)
        (trimmed.kept other ho) (Step.read_settles reads other) }

theorem recalls_clear (recalls : Recalls ttl moments cache now) (hashable : key.Hashable) :
    Recalls ttl (moments ++ [⟨now, .clear key⟩]) (cache.clear key).2 now := by
  by_cases all : key = .plain .null
  · subst all
    exact {
      ttl := recalls.ttl
      holds := fun entry hm => absurd hm List.not_mem_nil
      single := List.Pairwise.nil
      agrees := fun other ho => agrees_cleared (.inl rfl) rfl }
  · rw [clear_key cache all, clearKey_snd]
    have lawful := CacheKey.hashable_lawful
    have less := erase_sublist cache key
    refine {
      ttl := recalls.ttl
      holds := holds_sublist less recalls.holds
      single := single_sublist recalls.single less
      agrees := fun other ho => ?_ }
    cases same : key == other with
    | true =>
      have gone := find?_erase_self cache key
      rw [find?_congr lawful (holds_sublist less recalls.holds) hashable ho same] at gone
      exact agrees_cleared (.inr same) gone
    | false =>
      have found := find?_erase_apart lawful recalls.holds hashable ho same
      apply agrees_same (recalls.agrees other ho) found rfl
      rintro (null | settles)
      · exact all null
      · rw [settles] at same
        cases same

/-- Time passes. -/
theorem recalls_later (recalls : Recalls ttl moments cache now) {next : Int} (order : now ≤ next) :
    Recalls ttl moments cache next where
  ttl := recalls.ttl
  holds := recalls.holds
  single := recalls.single
  agrees key hashable := {
    held := (recalls.agrees key hashable).held
    kept := fun value time stored fresh =>
      (recalls.agrees key hashable).kept value time stored (fresh_earlier order fresh) }

theorem recalls_step (recalls : Recalls ttl moments cache now) (step : Step α)
    (hashable : step.key.Hashable) :
    Recalls ttl (moments ++ [⟨now, step⟩]) (step.after (.finite now) cache) now := by
  cases step with
  | put key value => exact recalls_put recalls hashable value
  | get key => exact recalls_read recalls hashable rfl
  | contains key => exact recalls_read recalls hashable rfl
  | clear key => exact recalls_clear recalls hashable

/-- After any history, a cache is what the history makes it. The induction is on the history from
its end. -/
theorem after_recalls (ttl : Option Binary64) (order : InOrder moments now)
    (hashable : ∀ moment ∈ moments, moment.step.key.Hashable) :
    Recalls ttl moments (after ttl moments) now := by
  induction moments using List.reverseRecOn generalizing now with
  | nil =>
    exact {
      ttl := rfl
      holds := fun entry hm => absurd hm List.not_mem_nil
      single := List.Pairwise.nil
      agrees := fun key _ => {
        held := fun entry found => by cases found
        kept := fun value time stored _ => absurd stored (stored_nil key value time) } }
  | append_singleton moments last ih =>
    obtain ⟨before, passed⟩ := inOrder_snoc order
    have recalls := ih before fun moment hm => hashable moment (List.mem_append_left _ hm)
    have stepped := recalls_step recalls last.step (hashable last (by simp))
    unfold after
    rw [List.foldl_append]
    exact recalls_later stepped passed

/-! ## What a cache gives back -/

theorem get_stored (order : InOrder moments now)
    (hashable : ∀ moment ∈ moments, moment.step.key.Hashable) (hk : key.Hashable) (value : α) :
    ((after ttl moments).get (.finite now) key).1 = some value ↔
      ∃ time, Stored moments key (some value) time ∧ Lasts ttl now time := by
  have recalls := after_recalls ttl order hashable
  have agrees := recalls.agrees key hk
  rw [get_some]
  constructor
  · rintro ⟨entry, found, fresh, held⟩
    obtain ⟨time, began, stored⟩ := agrees.held entry found
    rw [isExpired_fresh, recalls.ttl, began] at fresh
    rw [held] at stored
    exact ⟨time, stored, (lasts_fresh ttl now time).mpr fresh⟩
  · rintro ⟨time, stored, lasts⟩
    have fresh := (lasts_fresh ttl now time).mp lasts
    rw [← recalls.ttl] at fresh
    obtain ⟨entry, found, held, began⟩ := agrees.kept (some value) time stored fresh
    rw [← began] at fresh
    exact ⟨entry, found, (isExpired_fresh _ _ _).mpr fresh, held⟩

/-- What is read does not depend on the reads before. -/
theorem get_unread (order : InOrder moments now)
    (hashable : ∀ moment ∈ moments, moment.step.key.Hashable) (hk : key.Hashable) :
    ((after ttl (moments.filter fun moment => !moment.step.isRead)).get (.finite now) key).1 =
      ((after ttl moments).get (.finite now) key).1 := by
  have order' := inOrder_filter order fun moment => !moment.step.isRead
  have hashable' : ∀ moment ∈ moments.filter fun moment => !moment.step.isRead,
      moment.step.key.Hashable := fun moment hm => hashable moment (List.mem_filter.mp hm).1
  ext value
  rw [get_stored order' hashable' hk, get_stored order hashable hk]
  simp only [stored_unread]

theorem contains_get (cache : ListCache α) (now : Binary64) (key : CacheKey) :
    (cache.contains now key).1 = (cache.get now key).1.isSome := rfl

/-! ## How much is dropped -/

/-- The entries of one key are at most one. -/
theorem single_matches (holds : cache.Holds CacheKey.Hashable) (single : cache.Single)
    (hk : key.Hashable) : (cache.entries.filter fun entry => entry.key == key).length ≤ 1 := by
  have apart := List.pairwise_map.mp single
  have matching (entry) (hm : entry ∈ cache.entries.filter fun entry => entry.key == key) :=
    List.mem_filter.mp hm
  have pairs := apart.sublist (List.filter_sublist (p := fun entry => entry.key == key))
  generalize cache.entries.filter (fun entry => entry.key == key) = found at matching pairs ⊢
  match found with
  | [] => simp
  | [_] => simp
  | a :: b :: _ =>
    obtain ⟨ha, first⟩ := matching a (by simp)
    obtain ⟨hb, second⟩ := matching b (by simp)
    have lawful := CacheKey.hashable_lawful
    have back := lawful.symm _ _ (holds b hb) hk second
    have same := lawful.trans _ _ _ (holds a ha) hk (holds b hb) first back
    rw [(List.pairwise_cons.mp pairs).1 b (by simp)] at same
    cases same

theorem clearKey_fst (holds : cache.Holds CacheKey.Hashable) (single : cache.Single)
    (hk : key.Hashable) :
    (cache.clearKey key).1 = (cache.entries.filter fun entry => entry.key == key).length := by
  unfold clearKey
  cases found : cache.find? key with
  | none =>
    have absent := List.find?_eq_none.mp found
    rw [List.filter_eq_nil_iff.mpr absent]
    rfl
  | some entry =>
    have held : entry ∈ cache.entries.filter fun entry => entry.key == key :=
      List.mem_filter.mpr ⟨List.mem_of_find?_eq_some found, find?_key found⟩
    have some := List.length_pos_of_mem held
    have most := single_matches holds single hk
    show 1 = _
    omega

/-- What is dropped is gone from the size. -/
theorem clear_size (holds : cache.Holds CacheKey.Hashable) (single : cache.Single)
    (hk : key.Hashable) : (cache.clear key).2.size + (cache.clear key).1 = cache.size := by
  by_cases all : key = .plain .null
  · subst all
    exact Nat.zero_add _
  · rw [clear_key cache all, clearKey_snd, clearKey_fst holds single hk]
    have parts :=
      List.length_eq_length_filter_add (l := cache.entries) fun entry => entry.key == key
    unfold size erase
    dsimp only
    omega

/-- A key other than null is dropped exactly if it was there. -/
theorem clear_present (cache : ListCache α) (h : key ≠ .plain .null) :
    (cache.clear key).1 = if cache.keys.any (· == key) then 1 else 0 := by
  rw [clear_key cache h]
  unfold clearKey keys
  rw [List.any_map]
  cases found : cache.find? key with
  | none =>
    have absent := List.find?_eq_none.mp found
    rw [if_neg]
    simpa using absent
  | some entry =>
    have held := List.mem_of_find?_eq_some found
    rw [if_pos]
    exact List.any_eq_true.mpr ⟨entry, held, find?_key found⟩

/-! ## The whole of it -/

/-- After any history of a cache, with any time to live and with a clock that never went back, a
key gives back a value exactly if that is what was last stored under it, nothing since has
dropped it, and at most the time to live has passed. The reads before make no difference. The
cache has each key once; dropping a key drops what is there, and the size tells how much. -/
theorem cache_refines (ttl : Option Binary64) {moments : List (Moment α)} {now : Int}
    (order : InOrder moments now) (hashable : ∀ moment ∈ moments, moment.step.key.Hashable) :
    (∀ key : CacheKey, key.Hashable →
      (∀ value, ((after ttl moments).get (.finite now) key).1 = some value ↔
        ∃ time, Stored moments key (some value) time ∧ Lasts ttl now time) ∧
      (((after ttl moments).contains (.finite now) key).1 = true ↔
        ∃ value time, Stored moments key (some value) time ∧ Lasts ttl now time) ∧
      ((after ttl (moments.filter fun moment => !moment.step.isRead)).get (.finite now) key).1 =
        ((after ttl moments).get (.finite now) key).1 ∧
      (key ≠ .plain .null → ((after ttl moments).clear key).1 =
        if (after ttl moments).keys.any (· == key) then 1 else 0) ∧
      ((after ttl moments).clear key).2.size + ((after ttl moments).clear key).1 =
        (after ttl moments).size) ∧
    (after ttl moments).keys.Pairwise fun a b => (a == b) = false := by
  have recalls := after_recalls ttl order hashable
  refine ⟨fun key hk => ⟨get_stored order hashable hk, ?_, get_unread order hashable hk,
    clear_present _, clear_size recalls.holds recalls.single hk⟩, recalls.single⟩
  rw [contains_get, Option.isSome_iff_exists]
  apply exists_congr
  intro value
  exact get_stored order hashable hk value

/-- A value read when exactly the time to live has passed since it was stored, after reads of
another key and of its own. -/
theorem cache_refines_boundary :
    ∃ (moments : List (Moment Nat)), InOrder moments 6 ∧
      (∀ moment ∈ moments, moment.step.key.Hashable) ∧
      ((after (some (.finite 5)) moments).get (.finite 6) (.plain (.int 1))).1 = some 7 := by
  have number : (CacheKey.plain (.int 1)).Hashable := .plain trivial
  have truth : (CacheKey.plain (.bool true)).Hashable := .plain trivial
  have order : InOrder [⟨1, .put (.plain (.bool true)) (some 7)⟩,
      ⟨2, .get (.plain (.int 1))⟩, ⟨6, .contains (.plain (.bool true))⟩] 6 := by
    unfold InOrder
    decide
  have hashable : ∀ moment ∈ ([⟨1, .put (.plain (.bool true)) (some 7)⟩,
      ⟨2, .get (.plain (.int 1))⟩, ⟨6, .contains (.plain (.bool true))⟩] : List (Moment Nat)),
      moment.step.key.Hashable := by
    simp [Step.key, number, truth]
  refine ⟨_, order, hashable, ?_⟩
  apply (((cache_refines (some (.finite 5)) order hashable).1 _ number).1 7).mpr
  refine ⟨1, ⟨[], _, _, rfl, by decide +kernel, by simp [Step.Settles]⟩, ?_⟩
  intro limit hl
  cases hl
  exact .inr (by decide +kernel)

/-- One unit later, nothing is read. -/
example : ((after (some (.finite 5)) [⟨1, .put (.plain (.bool true)) (some 7)⟩]).get (.finite 7)
    (.plain (.int 1))).1 = none := by
  decide +kernel

end ListCache

end LakeAdmin
