import LakeAdmin.Proofs.CacheHistory
import LakeAdmin.Proofs.Service.Browsing

/-!
Dropping the lists of one subscription. Keys are picked from the cache and dropped one after
the other, so what is left is what was not picked, as it was and in the order in which it was,
and the number that is told is the number of entries that went. Nothing is asked about the age
of an entry. No picked key is null, so none of them stands for the whole cache.
-/

namespace LakeAdmin

namespace ListCache

variable {α : Type} {cache : ListCache α}

/-! ## Dropping picked keys -/

/-- What is left when keys are dropped are the entries of no such key. -/
theorem clearKeys_entries {keys : List CacheKey} (named : ∀ key ∈ keys, key ≠ .plain .null) :
    (cache.clearKeys keys).2.entries =
      cache.entries.filter fun entry => !keys.any fun key => entry.key == key := by
  induction keys generalizing cache with
  | nil => exact (List.filter_eq_self.mpr fun _ _ => rfl).symm
  | cons first rest ih =>
    have dropped : (cache.clear first).2 = cache.erase first := by
      rw [clear_key cache (named first List.mem_cons_self), clearKey_snd]
    show ((cache.clear first).2.clearKeys rest).2.entries = _
    rw [ih fun key hm => named key (List.mem_cons_of_mem first hm), dropped]
    unfold erase
    rw [List.filter_filter]
    refine List.filter_congr fun entry _ => ?_
    rw [List.any_cons, Bool.not_or, Bool.and_comm]

/-- The number that is told is what the cache has become smaller by. -/
theorem clearKeys_size {keys : List CacheKey} (holds : cache.Holds CacheKey.Hashable)
    (single : cache.Single) (hashable : ∀ key ∈ keys, key.Hashable) :
    (cache.clearKeys keys).2.size + (cache.clearKeys keys).1 = cache.size := by
  induction keys generalizing cache with
  | nil => rfl
  | cons first rest ih =>
    have less := clear_sublist cache first
    have step := clear_size holds single (hashable first List.mem_cons_self)
    have later := ih (holds_sublist less holds) (single_sublist single less)
      fun key hm => hashable key (List.mem_cons_of_mem first hm)
    show ((cache.clear first).2.clearKeys rest).2.size +
      ((cache.clear first).1 + ((cache.clear first).2.clearKeys rest).1) = cache.size
    omega

/-- Keys are picked from a cache by something that holds of all keys that are one, and not of
null. Dropping them takes out the entries whose keys are picked, and tells how many there were. -/
theorem clearKeys_picked {pick : CacheKey → Bool} (holds : cache.Holds CacheKey.Hashable)
    (single : cache.Single) (null : pick (.plain .null) = false)
    (respects : ∀ a b, a.Hashable → (a == b) = true → pick a = pick b) :
    cache.clearKeys (cache.keys.filter pick) =
      (cache.entries.countP fun entry => pick entry.key,
        { cache with entries := cache.entries.filter fun entry => !pick entry.key }) := by
  have picked (key) (hm : key ∈ cache.keys.filter pick) : key.Hashable ∧ pick key = true := by
    obtain ⟨present, chosen⟩ := List.mem_filter.mp hm
    obtain ⟨entry, he, rfl⟩ := List.mem_map.mp present
    exact ⟨holds entry he, chosen⟩
  have named (key) (hm : key ∈ cache.keys.filter pick) : key ≠ .plain .null := by
    rintro rfl
    rw [(picked _ hm).2] at null
    cases null
  have left : (cache.clearKeys (cache.keys.filter pick)).2.entries =
      cache.entries.filter fun entry => !pick entry.key := by
    rw [clearKeys_entries named]
    refine List.filter_congr fun entry he => congrArg not ?_
    rw [Bool.eq_iff_iff, List.any_eq_true]
    constructor
    · rintro ⟨key, hm, same⟩
      rw [respects _ _ (holds entry he) same]
      exact (picked key hm).2
    · intro chosen
      have present : entry.key ∈ cache.keys := List.mem_map_of_mem he
      exact ⟨entry.key, List.mem_filter.mpr ⟨present, chosen⟩,
        CacheKey.hashable_lawful.refl _ (holds entry he)⟩
  have total := clearKeys_size holds single fun key hm => (picked key hm).1
  have parts := List.length_eq_length_filter_add (l := cache.entries) fun entry => pick entry.key
  have ttl := clearKeys_ttl cache (cache.keys.filter pick)
  unfold size at total
  rw [left] at total
  rw [List.countP_eq_length_filter]
  generalize cache.clearKeys (cache.keys.filter pick) = outcome at left total ttl ⊢
  obtain ⟨gone, ttl', entries⟩ := outcome
  dsimp only at left total ttl
  rw [left, ttl]
  congr 1
  omega

end ListCache

namespace Explorer

open Http

/-! ## Keys of a subscription -/

/-- A key is of a subscription if it is a tuple that begins with the mark of account lists and
with the subscription. -/
def IsOf (sub : Option String) (key : CacheKey) : Prop :=
  ∃ rest, key = .tuple (accountsKey :: .plain (Json.ofText? sub) :: rest)

theorem same_text (text : Option String) (key : CacheKey) :
    CacheKey.same (.plain (Json.ofText? text)) key = true ↔ key = .plain (Json.ofText? text) := by
  cases key with
  | plain value =>
    have scalar : (Json.ofText? text).IsScalar ∧ (Json.ofText? text).number? = none := by
      cases text <;> exact ⟨trivial, rfl⟩
    rw [CacheKey.same, Json.same_other scalar.2 scalar.1, CacheKey.plain.injEq, eq_comm]
  | _ => simp [CacheKey.same]

theorem subscriptionKey_hashable (sub : Option String) :
    ∀ part ∈ subscriptionKey sub, part.Hashable := by
  intro part hm
  rcases List.mem_cons.mp hm with rfl | hm
  · exact .plain trivial
  · rw [List.mem_singleton.mp hm]
    cases sub <;> exact .plain trivial

/-- What browsing stores a list under can be hashed. -/
theorem listKey_hashable (sub : Option String) (query : Option QueryOptions) :
    (listKey sub query).Hashable := by
  refine .tuple fun part hm => ?_
  rcases List.mem_append.mp hm with front | last
  · exact subscriptionKey_hashable sub part front
  · rw [List.mem_singleton.mp last]
    cases query with
    | none => exact .plain trivial
    | some options => exact .query options

theorem beginsWith_iff (sub : Option String) (key : CacheKey) :
    key.beginsWith (subscriptionKey sub) = true ↔ IsOf sub key := by
  unfold IsOf
  cases key with
  | tuple parts =>
    match parts with
    | [] => simp [CacheKey.beginsWith, subscriptionKey, CacheKey.sameParts]
    | [_] => simp [CacheKey.beginsWith, subscriptionKey, CacheKey.sameParts]
    | mark :: name :: rest =>
      have marked : CacheKey.same accountsKey mark = true ↔ mark = accountsKey :=
        same_text (some "accounts") mark
      have named := same_text sub name
      show (CacheKey.same accountsKey mark &&
        (CacheKey.same (.plain (Json.ofText? sub)) name && true)) = true ↔ _
      rw [Bool.and_true, Bool.and_eq_true, marked, named]
      constructor
      · rintro ⟨rfl, rfl⟩
        exact ⟨rest, rfl⟩
      · rintro ⟨_, same⟩
        cases same
        exact ⟨rfl, rfl⟩
  | _ => simp [CacheKey.beginsWith]

instance (sub : Option String) : DecidablePred (IsOf sub) := fun key =>
  decidable_of_iff _ (beginsWith_iff sub key)

/-! ## Dropping the lists of a subscription -/

/-- A cache without the entries of a subscription: the others, as they are and in their order. -/
def without (sub : Option String) (lists : ListCache (List Resource)) :
    ListCache (List Resource) :=
  { lists with entries := lists.entries.filter fun entry => ¬IsOf sub entry.key }

theorem without_sublist (sub : Option String) (lists : ListCache (List Resource)) :
    (without sub lists).entries.Sublist lists.entries := List.filter_sublist

/-- A cache without the entries of a subscription has none of them to lose. -/
theorem without_again (sub : Option String) (lists : ListCache (List Resource)) :
    (without sub lists).entries.countP (fun entry => IsOf sub entry.key) = 0 ∧
      without sub (without sub lists) = without sub lists := by
  constructor
  · rw [List.countP_eq_zero]
    intro entry hm
    simpa using (List.mem_filter.mp hm).2
  · unfold without
    dsimp only
    rw [List.filter_filter]
    simp only [Bool.and_self]

theorem clearKeys_subscription (sub : Option String) {lists : ListCache (List Resource)}
    (hashable : lists.Holds CacheKey.Hashable) (single : lists.Single) :
    lists.clearKeys (lists.keys.filter (·.beginsWith (subscriptionKey sub))) =
      (lists.entries.countP fun entry => IsOf sub entry.key, without sub lists) := by
  have begins (key : CacheKey) : key.beginsWith (subscriptionKey sub) = decide (IsOf sub key) := by
    rw [Bool.eq_iff_iff, decide_eq_true_eq]
    exact beginsWith_iff sub key
  have respects (a b : CacheKey) (ha : a.Hashable) (same : (a == b) = true) :
      a.beginsWith (subscriptionKey sub) = b.beginsWith (subscriptionKey sub) :=
    CacheKey.beginsWith_congr (subscriptionKey_hashable sub) ha same
  rw [ListCache.clearKeys_picked hashable single rfl respects]
  unfold without
  simp only [begins, decide_not]

theorem invalidate_without (client : Client) (subscription : Option String) {world : World}
    (hashable : world.lists.Holds CacheKey.Hashable) (single : world.lists.Single) :
    (invalidate client subscription).run world =
      (.ok (world.lists.entries.countP fun entry =>
          IsOf (subscriptionOf client subscription) entry.key),
        { world with lists := without (subscriptionOf client subscription) world.lists }) := by
  have dropped := clearKeys_subscription (subscriptionOf client subscription) hashable single
  show (Except.ok (world.lists.clearKeys _).1,
    { world with lists := (world.lists.clearKeys _).2 }) = _
  rw [dropped]

/-- In a cache with any entries, of whatever keys and however old, dropping the lists of a
subscription drops the entries whose keys are of the subscription, tells how many these were,
and leaves all others as they are and in their order. The second time, there is nothing to
drop. Each key is dropped by itself: none of them is null, which would stand for all. -/
theorem invalidate_targets (client : Client) (subscription : Option String) {world : World}
    (hashable : world.lists.Holds CacheKey.Hashable) (single : world.lists.Single) :
    let sub := subscriptionOf client subscription
    let after := { world with lists := without sub world.lists }
    (invalidate client subscription).run world =
        (.ok (world.lists.entries.countP fun entry => IsOf sub entry.key), after) ∧
      (invalidate client subscription).run after = (.ok 0, after) ∧
      ∃ keys, (invalidate client subscription).run world =
          (.ok (world.lists.clearKeys keys).1,
            { world with lists := (world.lists.clearKeys keys).2 }) ∧
        ∀ key ∈ keys, IsOf sub key ∧
          ∀ lists : ListCache (List Resource), lists.clear key = lists.clearKey key := by
  intro sub after
  have less := without_sublist sub world.lists
  obtain ⟨none, same⟩ := without_again sub world.lists
  refine ⟨invalidate_without client subscription hashable single, ?_, _, rfl, fun key hm => ?_⟩
  · have again : (invalidate client subscription).run after =
        (.ok ((without sub world.lists).entries.countP fun entry => IsOf sub entry.key),
          { after with lists := without sub (without sub world.lists) }) :=
      invalidate_without client subscription (ListCache.holds_sublist less hashable)
        (ListCache.single_sublist single less)
    rw [again, none, same]
  · have mine : IsOf sub key := (beginsWith_iff sub key).mp (List.mem_filter.mp hm).2
    refine ⟨mine, fun lists => lists.clear_key ?_⟩
    obtain ⟨rest, whole⟩ := mine
    rw [whole]
    exact CacheKey.noConfusion

/-- Keys of two subscriptions, one that is too short to be of any, one that is no tuple and one
that is null; the entries are too old but for the last. -/
theorem invalidate_targets_mixed :
    ∃ (client : Client) (world : World), world.lists.Holds CacheKey.Hashable ∧
      world.lists.Single ∧ world.lists.keys = [.tuple [accountsKey, .plain (.str "s")],
        .plain .null, .tuple [accountsKey], listKey (some "t") none, listKey (some "s") none,
        accountsKey] ∧
      ∃ after, (invalidate client (some "s")).run world = (.ok 2, after) ∧
        after.lists.keys =
          [.plain .null, .tuple [accountsKey], listKey (some "t") none, accountsKey] ∧
        after.lists.entries.map (·.storedAt) = [.finite 2, .finite 3, .finite 4, .finite 6] := by
  let client := Client.ofSettings .standard
  let keys : List CacheKey := [.tuple [accountsKey, .plain (.str "s")], .plain .null,
    .tuple [accountsKey], listKey (some "t") none, listKey (some "s") none, accountsKey]
  let entries : List (CacheEntry (List Resource)) :=
    keys.mapIdx fun index key => ⟨key, some [], .finite (index + 1)⟩
  let world := { World.fresh [] (.finite 7) (some (.finite 1)) with
    lists := ⟨some (.finite 1), entries⟩ }
  have each : ∀ key ∈ keys, key.Hashable := by
    have mark : accountsKey.Hashable := .plain trivial
    have null : (CacheKey.plain .null).Hashable := .plain trivial
    have name : (CacheKey.plain (.str "s")).Hashable := .plain trivial
    have short : (CacheKey.tuple [accountsKey]).Hashable := .tuple (by simpa using mark)
    have pair : (CacheKey.tuple [accountsKey, .plain (.str "s")]).Hashable :=
      .tuple (by simp [mark, name])
    simp [keys, mark, null, short, pair, listKey_hashable]
  have hashable : world.lists.Holds CacheKey.Hashable := fun entry hm =>
    each entry.key (List.mem_map_of_mem hm)
  have single : world.lists.Single := by
    unfold ListCache.Single
    decide +kernel
  have ran := (invalidate_targets client (some "s") hashable single).1
  exact ⟨client, world, hashable, single, rfl, _, ran, rfl, rfl⟩

end Explorer

end LakeAdmin
