import LakeAdmin.ListCache
import LakeAdmin.Proofs.Numeric.Order

/-!
What a cache gives back. For keys that are told apart by what they are, a cache is a partial
function from keys to entries: storing changes it at one key, dropping takes keys out of it, and
reading changes nothing unless it finds the entry too old and drops it.
-/

namespace LakeAdmin

/-- Keys of a kind are told apart by what they are. -/
def CacheKey.ToldApart (kind : CacheKey → Prop) : Prop :=
  ∀ a b, kind a → kind b → ((a == b) = true ↔ a = b)

/-- To be one key is an equivalence of the keys of a kind. -/
structure CacheKey.Lawful (kind : CacheKey → Prop) : Prop where
  refl : ∀ a, kind a → (a == a) = true
  symm : ∀ a b, kind a → kind b → (a == b) = true → (b == a) = true
  trans : ∀ a b c, kind a → kind b → kind c → (a == b) = true → (b == c) = true → (a == c) = true

theorem CacheKey.ToldApart.lawful {kind : CacheKey → Prop} (apart : ToldApart kind) :
    Lawful kind where
  refl a ha := (apart a a ha ha).mpr rfl
  symm a b ha hb same := (apart b a hb ha).mpr ((apart a b ha hb).mp same).symm
  trans a b c ha hb hc first second :=
    (apart a c ha hc).mpr (((apart a b ha hb).mp first).trans ((apart b c hb hc).mp second))

theorem CacheKey.ToldApart.differs {kind : CacheKey → Prop} (apart : ToldApart kind)
    {a b : CacheKey} (ha : kind a) (hb : kind b) (h : b ≠ a) : (a == b) = false :=
  Bool.eq_false_iff.mpr fun same => h ((apart a b ha hb).mp same).symm

namespace ListCache

variable {α : Type} {kind : CacheKey → Prop}

def Holds (cache : ListCache α) (kind : CacheKey → Prop) : Prop :=
  ∀ entry ∈ cache.entries, kind entry.key

/-- An entry of a time may still be read: what has passed since is not more than the time to
live. -/
def Fresh (ttl : Option Binary64) (now storedAt : Binary64) : Prop :=
  ∀ limit ∈ ttl, Binary64.lt limit (now - storedAt) = false

theorem isExpired_fresh (cache : ListCache α) (now : Binary64) (entry : CacheEntry α) :
    cache.isExpired now entry = false ↔ Fresh cache.ttl now entry.storedAt := by
  unfold isExpired Fresh
  cases cache.ttl with
  | none => simp
  | some limit => simp

/-- What is fresh later was fresh before. -/
theorem fresh_earlier {ttl : Option Binary64} {now next start : Int} (order : now ≤ next)
    (fresh : Fresh ttl (.finite next) (.finite start)) :
    Fresh ttl (.finite now) (.finite start) := by
  intro limit hl
  cases passed : Binary64.lt limit (.finite now - .finite start) with
  | false => rfl
  | true =>
    rw [← fresh limit hl]
    exact (Binary64.lt_sub_mono order start passed).symm

/-! ## Looking for a key -/

theorem find?_first {ttl : Option Binary64} {first : CacheEntry α} {key : CacheKey}
    (same : (first.key == key) = true) (rest : List (CacheEntry α)) :
    find? ⟨ttl, first :: rest⟩ key = some first := by
  unfold find?
  exact List.find?_cons_of_pos same

theorem find?_behind {ttl : Option Binary64} {first : CacheEntry α} {key : CacheKey}
    (differs : ¬(first.key == key) = true) (rest : List (CacheEntry α)) :
    find? ⟨ttl, first :: rest⟩ key = find? ⟨ttl, rest⟩ key := by
  unfold find?
  exact List.find?_cons_of_neg differs

theorem find?_cons (ttl : Option Binary64) (first : CacheEntry α) {rest rest' : List (CacheEntry α)}
    {key : CacheKey} (h : find? ⟨ttl, rest⟩ key = find? ⟨ttl, rest'⟩ key) :
    find? ⟨ttl, first :: rest⟩ key = find? ⟨ttl, first :: rest'⟩ key := by
  by_cases same : (first.key == key) = true
  · rw [find?_first same, find?_first same]
  · rw [find?_behind same, find?_behind same, h]

theorem find?_none_of_keys {cache : ListCache α} {key : CacheKey}
    (apart : CacheKey.ToldApart kind) (holds : cache.Holds kind) (hk : kind key)
    (h : key ∉ cache.keys) : cache.find? key = none := by
  refine List.find?_eq_none.mpr fun entry hm same => h ?_
  have : entry.key = key := (apart _ _ (holds entry hm) hk).mp same
  exact List.mem_map.mpr ⟨entry, hm, this⟩

theorem find?_key {cache : ListCache α} {key : CacheKey} {entry : CacheEntry α}
    (h : cache.find? key = some entry) : (entry.key == key) = true := by
  unfold find? at h
  simpa using List.find?_some h

/-- One key finds what the other finds. -/
theorem find?_congr {cache : ListCache α} {key other : CacheKey} (lawful : CacheKey.Lawful kind)
    (holds : cache.Holds kind) (hk : kind key) (ho : kind other) (same : (key == other) = true) :
    cache.find? key = cache.find? other := by
  obtain ⟨ttl, entries⟩ := cache
  have keys : ∀ entry ∈ entries, kind entry.key := holds
  clear holds
  induction entries with
  | nil => rfl
  | cons first rest ih =>
    have hf := keys first List.mem_cons_self
    by_cases here : (first.key == key) = true
    · rw [find?_first here, find?_first (lawful.trans _ _ _ hf hk ho here same)]
    · have there : ¬(first.key == other) = true := fun there =>
        here (lawful.trans _ _ _ hf ho hk there (lawful.symm _ _ hk ho same))
      rw [find?_behind here, find?_behind there]
      exact ih fun entry hm => keys entry (List.mem_cons_of_mem first hm)

/-! ## Dropping a key -/

theorem erase_sublist (cache : ListCache α) (key : CacheKey) :
    (cache.erase key).entries.Sublist cache.entries := List.filter_sublist

theorem holds_sublist {cache other : ListCache α} (h : other.entries.Sublist cache.entries)
    (holds : cache.Holds kind) : other.Holds kind :=
  fun entry hm => holds entry (h.subset hm)

theorem find?_erase_self (cache : ListCache α) (key : CacheKey) :
    (cache.erase key).find? key = none := by
  refine List.find?_eq_none.mpr fun entry hm same => ?_
  have kept : (!(entry.key == key)) = true := (List.mem_filter.mp hm).2
  rw [same] at kept
  cases kept

/-- Dropping a key does not touch other keys. -/
theorem find?_erase_apart {cache : ListCache α} {key other : CacheKey}
    (lawful : CacheKey.Lawful kind) (holds : cache.Holds kind) (hk : kind key) (ho : kind other)
    (h : (key == other) = false) : (cache.erase key).find? other = cache.find? other := by
  obtain ⟨ttl, entries⟩ := cache
  have keys : ∀ entry ∈ entries, kind entry.key := holds
  clear holds
  show find? ⟨ttl, entries.filter fun entry => !(entry.key == key)⟩ other = _
  induction entries with
  | nil => rfl
  | cons first rest ih =>
    have ih := ih fun entry hm => keys entry (List.mem_cons_of_mem first hm)
    have hf := keys first List.mem_cons_self
    by_cases gone : (first.key == key) = true
    · have differs : ¬(first.key == other) = true := by
        intro same
        have back := lawful.symm _ _ hf hk gone
        rw [lawful.trans _ _ _ hk hf ho back same] at h
        cases h
      rw [List.filter_cons_of_neg (by rw [gone]; decide), find?_behind differs, ih]
    · rw [List.filter_cons_of_pos (by rw [Bool.eq_false_iff.mpr gone]; rfl)]
      exact find?_cons ttl first ih

theorem find?_erase_other {cache : ListCache α} {key other : CacheKey}
    (apart : CacheKey.ToldApart kind) (holds : cache.Holds kind) (hk : kind key)
    (ho : kind other) (h : other ≠ key) :
    (cache.erase key).find? other = cache.find? other :=
  find?_erase_apart apart.lawful holds hk ho (apart.differs hk ho h)

theorem clearKey_snd (cache : ListCache α) (key : CacheKey) :
    (cache.clearKey key).2 = cache.erase key := by
  unfold clearKey
  cases h : cache.find? key with
  | some entry => rfl
  | none =>
    have absent := List.find?_eq_none.mp h
    have same : cache.entries.filter (fun entry => !(entry.key == key)) = cache.entries :=
      List.filter_eq_self.mpr fun entry hm => by
        rw [Bool.eq_false_iff.mpr (absent entry hm)]
        rfl
    unfold erase
    rw [same]

theorem clear_key (cache : ListCache α) {key : CacheKey} (h : key ≠ .plain .null) :
    cache.clear key = cache.clearKey key := by
  unfold clear
  split
  · exact absurd rfl h
  · rfl

theorem clear_ttl (cache : ListCache α) (key : CacheKey) : (cache.clear key).2.ttl = cache.ttl := by
  by_cases all : key = .plain .null
  · rw [all]
    rfl
  · rw [clear_key cache all, clearKey_snd]
    rfl

theorem clear_sublist (cache : ListCache α) (key : CacheKey) :
    (cache.clear key).2.entries.Sublist cache.entries := by
  by_cases all : key = .plain .null
  · rw [all]
    exact List.nil_sublist _
  · rw [clear_key cache all, clearKey_snd]
    exact erase_sublist cache key

theorem find?_clear_self (cache : ListCache α) (key : CacheKey) :
    (cache.clear key).2.find? key = none := by
  by_cases all : key = .plain .null
  · rw [all]
    rfl
  · rw [clear_key cache all, clearKey_snd]
    exact find?_erase_self cache key

/-! ## Dropping several keys -/

theorem clearKeys_ttl (cache : ListCache α) (keys : List CacheKey) :
    (cache.clearKeys keys).2.ttl = cache.ttl := by
  induction keys generalizing cache with
  | nil => rfl
  | cons key rest ih =>
    show ((cache.clear key).2.clearKeys rest).2.ttl = cache.ttl
    rw [ih, clear_ttl]

theorem clearKeys_sublist (cache : ListCache α) (keys : List CacheKey) :
    (cache.clearKeys keys).2.entries.Sublist cache.entries := by
  induction keys generalizing cache with
  | nil => exact List.Sublist.refl _
  | cons key rest ih => exact (ih (cache.clear key).2).trans (clear_sublist cache key)

theorem find?_clearKeys_none {cache : ListCache α} {keys : List CacheKey} {key : CacheKey}
    (h : cache.find? key = none) : (cache.clearKeys keys).2.find? key = none := by
  have absent := List.find?_eq_none.mp h
  exact List.find?_eq_none.mpr fun entry hm =>
    absent entry ((clearKeys_sublist cache keys).subset hm)

theorem find?_clearKeys_mem {cache : ListCache α} {keys : List CacheKey} {key : CacheKey}
    (h : key ∈ keys) : (cache.clearKeys keys).2.find? key = none := by
  induction keys generalizing cache with
  | nil => cases h
  | cons first rest ih =>
    show ((cache.clear first).2.clearKeys rest).2.find? key = none
    rcases List.mem_cons.mp h with rfl | later
    · exact find?_clearKeys_none (find?_clear_self cache key)
    · exact ih later

theorem find?_clearKeys_other {cache : ListCache α} {keys : List CacheKey} {key : CacheKey}
    (apart : CacheKey.ToldApart kind) (proper : ¬kind (.plain .null)) (holds : cache.Holds kind)
    (hk : kind key) (all : ∀ other ∈ keys, kind other ∧ key ≠ other) :
    (cache.clearKeys keys).2.find? key = cache.find? key := by
  induction keys generalizing cache with
  | nil => rfl
  | cons first rest ih =>
    obtain ⟨hf, differs⟩ := all first List.mem_cons_self
    have named : first ≠ .plain .null := fun null => proper (null ▸ hf)
    show ((cache.clear first).2.clearKeys rest).2.find? key = cache.find? key
    rw [clear_key cache named, clearKey_snd,
      ih (holds_sublist (erase_sublist cache first) holds)
        fun other hm => all other (List.mem_cons_of_mem first hm)]
    exact find?_erase_other apart holds hf hk differs

/-! ## Storing -/

variable {now : Binary64} {value : Option α}

theorem mem_putEntry {new entry : CacheEntry α} {entries : List (CacheEntry α)}
    (h : entry ∈ putEntry new entries) :
    entry = new ∨ entry ∈ entries ∨ ∃ other ∈ entries, entry.key = other.key := by
  induction entries with
  | nil => exact .inl (List.mem_singleton.mp h)
  | cons first rest ih =>
    unfold putEntry at h
    split at h
    · rcases List.mem_cons.mp h with rfl | later
      · exact .inr (.inr ⟨first, List.mem_cons_self, rfl⟩)
      · exact .inr (.inl (List.mem_cons_of_mem first later))
    · rcases List.mem_cons.mp h with rfl | later
      · exact .inr (.inl List.mem_cons_self)
      · rcases ih later with new | old | ⟨other, hm, same⟩
        · exact .inl new
        · exact .inr (.inl (List.mem_cons_of_mem first old))
        · exact .inr (.inr ⟨other, List.mem_cons_of_mem first hm, same⟩)

theorem holds_put {cache : ListCache α} {key : CacheKey} (holds : cache.Holds kind)
    (hk : kind key) : (cache.put now key value).Holds kind := by
  intro entry hm
  rcases mem_putEntry hm with rfl | old | ⟨other, ho, same⟩
  · exact hk
  · exact holds entry old
  · rw [same]
    exact holds other ho

/-- What is stored is found under its key, where an entry of that key may have been before. The
induction is on the entries before its place. -/
theorem find?_put_same {cache : ListCache α} {key : CacheKey} (lawful : CacheKey.Lawful kind)
    (holds : cache.Holds kind) (hk : kind key) :
    ∃ place, kind place ∧ (place == key) = true ∧
      (cache.put now key value).find? key = some ⟨place, value, now⟩ := by
  obtain ⟨ttl, entries⟩ := cache
  have keys : ∀ entry ∈ entries, kind entry.key := holds
  clear holds
  show ∃ place, kind place ∧ (place == key) = true ∧
    find? ⟨ttl, putEntry ⟨key, value, now⟩ entries⟩ key = _
  induction entries with
  | nil => exact ⟨key, hk, lawful.refl key hk, find?_first (lawful.refl key hk) []⟩
  | cons first rest ih =>
    unfold putEntry
    by_cases same : (first.key == key) = true
    · have placed : find? ⟨ttl, ⟨first.key, value, now⟩ :: rest⟩ key =
          some ⟨first.key, value, now⟩ := find?_first (by exact same) rest
      rw [if_pos same]
      exact ⟨first.key, keys first List.mem_cons_self, same, placed⟩
    · rw [if_neg same, find?_behind same]
      exact ih fun entry hm => keys entry (List.mem_cons_of_mem first hm)

theorem find?_put_self {cache : ListCache α} {key : CacheKey} (apart : CacheKey.ToldApart kind)
    (holds : cache.Holds kind) (hk : kind key) :
    (cache.put now key value).find? key = some ⟨key, value, now⟩ := by
  obtain ⟨place, hp, same, found⟩ := find?_put_same apart.lawful holds hk
  rwa [(apart place key hp hk).mp same] at found

/-- What is stored does not touch other keys. -/
theorem find?_put_apart {cache : ListCache α} {key other : CacheKey}
    (lawful : CacheKey.Lawful kind) (holds : cache.Holds kind) (hk : kind key) (ho : kind other)
    (h : (key == other) = false) :
    (cache.put now key value).find? other = cache.find? other := by
  obtain ⟨ttl, entries⟩ := cache
  have keys : ∀ entry ∈ entries, kind entry.key := holds
  clear holds
  show find? ⟨ttl, putEntry ⟨key, value, now⟩ entries⟩ other = _
  induction entries with
  | nil => exact find?_behind (Bool.eq_false_iff.mp h) []
  | cons first rest ih =>
    unfold putEntry
    by_cases same : (first.key == key) = true
    · have hf := keys first List.mem_cons_self
      have differs : ¬(first.key == other) = true := by
        intro there
        rw [lawful.trans _ _ _ hk hf ho (lawful.symm _ _ hf hk same) there] at h
        cases h
      have passed : find? ⟨ttl, ⟨first.key, value, now⟩ :: rest⟩ other = find? ⟨ttl, rest⟩ other :=
        find?_behind (by exact differs) rest
      rw [if_pos same, passed, find?_behind differs]
    · rw [if_neg same]
      exact find?_cons ttl first (ih fun entry hm => keys entry (List.mem_cons_of_mem first hm))

theorem find?_put_other {cache : ListCache α} {key other : CacheKey}
    (apart : CacheKey.ToldApart kind) (holds : cache.Holds kind) (hk : kind key)
    (ho : kind other) (h : other ≠ key) :
    (cache.put now key value).find? other = cache.find? other :=
  find?_put_apart apart.lawful holds hk ho (apart.differs hk ho h)

/-! ## Reading -/

theorem get_absent {cache : ListCache α} {key : CacheKey} (h : cache.find? key = none)
    (now : Binary64) : cache.get now key = (none, cache) := by
  unfold get
  rw [h]

theorem get_expired {cache : ListCache α} {key : CacheKey} {entry : CacheEntry α}
    (h : cache.find? key = some entry) (old : cache.isExpired now entry = true) :
    cache.get now key = (none, cache.erase key) := by
  unfold get
  rw [h]
  exact if_pos old

theorem get_present {cache : ListCache α} {key : CacheKey} {entry : CacheEntry α}
    (h : cache.find? key = some entry) (fresh : cache.isExpired now entry = false) :
    cache.get now key = (entry.value, cache) := by
  unfold get
  rw [h]
  exact if_neg (Bool.eq_false_iff.mp fresh)

/-- What is read is the value of an entry that is not too old. -/
theorem get_some {cache : ListCache α} {key : CacheKey} {value : α} :
    (cache.get now key).1 = some value ↔
      ∃ entry, cache.find? key = some entry ∧ cache.isExpired now entry = false ∧
        entry.value = some value := by
  constructor
  · intro read
    cases hf : cache.find? key with
    | none =>
      rw [get_absent hf] at read
      cases read
    | some entry =>
      cases ho : cache.isExpired now entry with
      | true =>
        rw [get_expired hf ho] at read
        cases read
      | false =>
        rw [get_present hf ho] at read
        exact ⟨entry, rfl, ho, read⟩
  · rintro ⟨entry, found, fresh, held⟩
    rw [get_present found fresh]
    exact held

/-- A cache from which nothing has gone but entries that were too old. -/
structure Trimmed (kind : CacheKey → Prop) (now : Binary64) (before after : ListCache α) :
    Prop where
  ttl : after.ttl = before.ttl
  entries : after.entries.Sublist before.entries
  found : ∀ key, kind key → ∀ entry, after.find? key = some entry → before.find? key = some entry
  kept : ∀ key, kind key → ∀ entry, before.find? key = some entry →
    Fresh before.ttl now entry.storedAt → after.find? key = some entry

theorem trimmed_refl (kind : CacheKey → Prop) (now : Binary64) (cache : ListCache α) :
    Trimmed kind now cache cache where
  ttl := rfl
  entries := List.Sublist.refl _
  found _ _ _ h := h
  kept _ _ _ h _ := h

/-- Reading a key takes nothing out of a cache but an entry that is too old. -/
theorem get_trimmed {cache : ListCache α} {key : CacheKey} (lawful : CacheKey.Lawful kind)
    (holds : cache.Holds kind) (hk : kind key) (now : Binary64) :
    Trimmed kind now cache (cache.get now key).2 := by
  cases hf : cache.find? key with
  | none =>
    rw [get_absent hf]
    exact trimmed_refl kind now cache
  | some old =>
    cases ho : cache.isExpired now old with
    | false =>
      rw [get_present hf ho]
      exact trimmed_refl kind now cache
    | true =>
      rw [get_expired hf ho]
      refine ⟨rfl, erase_sublist cache key, fun other hother entry h => ?_,
        fun other hother entry h fresh => ?_⟩
      · cases same : key == other with
        | true =>
          have held := holds_sublist (erase_sublist cache key) holds
          rw [← find?_congr lawful held hk hother same, find?_erase_self] at h
          cases h
        | false => rwa [find?_erase_apart lawful holds hk hother same] at h
      · cases same : key == other with
        | true =>
          rw [← find?_congr lawful holds hk hother same, hf] at h
          cases h
          rw [(isExpired_fresh cache now old).mpr fresh] at ho
          cases ho
        | false => rwa [find?_erase_apart lawful holds hk hother same]

end ListCache

end LakeAdmin
