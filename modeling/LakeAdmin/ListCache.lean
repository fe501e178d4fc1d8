import LakeAdmin.Model.Query
import LakeAdmin.Json.Equal

/-!
A cache with a time to live. Entries stay in the order in which their keys came in.
An entry that is too old is dropped when it is read, and only then, so the cache may
hold entries that no read returns. A key may be stored without a value; reading it
is like reading a key that is not there.
-/

namespace LakeAdmin

/-- Keys that callers choose: a plain value, list options, or a tuple of keys. -/
inductive CacheKey where
  | plain (value : Json)
  | query (options : QueryOptions)
  | tuple (parts : List CacheKey)
  deriving Inhabited

namespace CacheKey

mutual

/-- Whether two keys are one: plain values by what they denote, tuples part by part. -/
def same : CacheKey → CacheKey → Bool
  | plain a, plain b => a.same b
  | query a, query b => a == b
  | tuple a, tuple b => sameParts a b
  | _, _ => false

def sameParts : List CacheKey → List CacheKey → Bool
  | [], [] => true
  | a :: as, b :: bs => same a b && sameParts as bs
  | _, _ => false

end

instance : BEq CacheKey := ⟨same⟩

def beginsWith (parts : List CacheKey) : CacheKey → Bool
  | tuple all => sameParts parts (all.take parts.length)
  | _ => false

end CacheKey

structure CacheEntry (α : Type u) where
  key : CacheKey
  value : Option α
  storedAt : Binary64

/-- A cache. Without a time to live, entries stay until they are cleared. -/
structure ListCache (α : Type u) where
  ttl : Option Binary64
  entries : List (CacheEntry α)

namespace ListCache

def empty (ttl : Option Binary64) : ListCache α := ⟨ttl, []⟩

/-- The entry of a key, however old. -/
def find? (cache : ListCache α) (key : CacheKey) : Option (CacheEntry α) :=
  cache.entries.find? (·.key == key)

def erase (cache : ListCache α) (key : CacheKey) : ListCache α :=
  { cache with entries := cache.entries.filter fun entry => !(entry.key == key) }

/-- Whether an entry is too old to be read. -/
def isExpired (cache : ListCache α) (now : Binary64) (entry : CacheEntry α) : Bool :=
  match cache.ttl with
  | none => false
  | some ttl => Binary64.lt ttl (now - entry.storedAt)

/-- The value of a key at a time, and the cache after it was read. -/
def get (cache : ListCache α) (now : Binary64) (key : CacheKey) : Option α × ListCache α :=
  match cache.find? key with
  | none => (none, cache)
  | some entry =>
    if cache.isExpired now entry then (none, cache.erase key) else (entry.value, cache)

/-- Whether a key has a value at a time, and the cache after it was read. -/
def contains (cache : ListCache α) (now : Binary64) (key : CacheKey) : Bool × ListCache α :=
  let (value, cache) := cache.get now key
  (value.isSome, cache)

/-- Entries with one of a key: at its place if the key is there, at the end if not. -/
def putEntry (entry : CacheEntry α) : List (CacheEntry α) → List (CacheEntry α)
  | [] => [entry]
  | other :: rest =>
    if other.key == entry.key then { entry with key := other.key } :: rest
    else other :: putEntry entry rest

def put (cache : ListCache α) (now : Binary64) (key : CacheKey) (value : Option α) :
    ListCache α :=
  { cache with entries := putEntry ⟨key, value, now⟩ cache.entries }

/-- Drops one key. The number tells how many entries went. -/
def clearKey (cache : ListCache α) (key : CacheKey) : Nat × ListCache α :=
  match cache.find? key with
  | none => (0, cache)
  | some _ => (1, cache.erase key)

def clearAll (cache : ListCache α) : Nat × ListCache α :=
  (cache.entries.length, { cache with entries := [] })

/-- Drops one key, or everything when the key is null. -/
def clear (cache : ListCache α) : CacheKey → Nat × ListCache α
  | .plain .null => cache.clearAll
  | key => cache.clearKey key

def clearKeys (cache : ListCache α) : List CacheKey → Nat × ListCache α
  | [] => (0, cache)
  | key :: rest =>
    let (gone, cache) := cache.clear key
    let (more, cache) := cache.clearKeys rest
    (gone + more, cache)

def keys (cache : ListCache α) : List CacheKey := cache.entries.map (·.key)

def size (cache : ListCache α) : Nat := cache.entries.length

/-- Changes the value of a key where it is stored, as one who holds on to it may. -/
def modify (cache : ListCache α) (key : CacheKey) (f : α → α) : ListCache α :=
  { cache with
    entries := cache.entries.map fun entry =>
      if entry.key == key then { entry with value := entry.value.map f } else entry }

end ListCache

end LakeAdmin
