import NamedSchema.Storage.Files
import NamedSchema.Storage.PathKey

/-!
# The cache of validators

Keeps the validator of each schema file that has been loaded, by the file's canonical path; a path
that has none stands for itself where a validator is looked up or dropped. A file is compiled on first
use only, and what is kept does not change with the file.
-/
namespace NamedSchema

/-- A validator in a cache; its number tells it from all others that the cache has compiled. -/
structure CachedValidator where
  number : Nat
  validator : Validator

/-- Validators by key, at most one for each, and how many have been compiled so far. -/
structure SchemaCache where
  config : ValidatorConfig
  entries : List (PathKey × CachedValidator)
  compiled : Nat
  nodup_keys : (entries.map (·.1)).Nodup
  number_lt : ∀ entry ∈ entries, entry.2.number < compiled

namespace SchemaCache

def empty (config : ValidatorConfig) : SchemaCache where
  config := config
  entries := []
  compiled := 0
  nodup_keys := List.nodup_nil
  number_lt := fun _ hentry => nomatch hentry

def key (files : Files) (path : String) : PathKey :=
  match files.canonical path with
  | .ok canonical => .ofText canonical
  | .error _ => .ofText path

def find? (c : SchemaCache) (k : PathKey) : Option CachedValidator :=
  (c.entries.find? (·.1 = k)).map (·.2)

def keys (c : SchemaCache) : List PathKey := c.entries.map (·.1)

theorem mem_keys_iff {c : SchemaCache} {k : PathKey} : k ∈ c.keys ↔ ∃ v, c.find? k = some v := by
  rw [keys, find?, List.mem_map]
  constructor
  · rintro ⟨entry, hentry, rfl⟩
    have hsome : (c.entries.find? (·.1 = entry.1)).isSome = true := by
      rw [List.find?_isSome]
      exact ⟨entry, hentry, by simp⟩
    obtain ⟨found, hfound⟩ := Option.isSome_iff_exists.mp hsome
    exact ⟨found.2, by rw [hfound]; rfl⟩
  · rintro ⟨v, hv⟩
    obtain ⟨entry, hentry, _⟩ := Option.map_eq_some_iff.mp hv
    exact ⟨entry, List.mem_of_find?_eq_some hentry, by simpa using List.find?_some hentry⟩

theorem find?_eq_none_iff {c : SchemaCache} {k : PathKey} : c.find? k = none ↔ k ∉ c.keys := by
  rw [mem_keys_iff, not_exists, ← Option.eq_none_iff_forall_ne_some]

/-- Keeps a validator that has just been compiled under a key that has none. -/
def store (c : SchemaCache) (k : PathKey) (validator : Validator) (hnew : k ∉ c.keys) :
    SchemaCache where
  config := c.config
  entries := c.entries ++ [(k, ⟨c.compiled, validator⟩)]
  compiled := c.compiled + 1
  nodup_keys := by
    rw [List.map_append, List.nodup_append]
    refine ⟨c.nodup_keys, by simp, fun key hkey key' hkey' heq => ?_⟩
    have hk : key' = k := by simpa using hkey'
    exact hnew (hk ▸ heq ▸ hkey)
  number_lt := by
    intro entry hentry
    rcases List.mem_append.mp hentry with hold | hstored
    · exact Nat.lt_succ_of_lt (c.number_lt entry hold)
    · rw [List.mem_singleton.mp hstored]
      exact Nat.lt_succ_self _

/-- The validator of a schema file, which is compiled if there is none. -/
def load (c : SchemaCache) (files : Files) (path : String) :
    Except SchemaError (CachedValidator × SchemaCache) :=
  match files.view path with
  | .absent => .error (.notAFile path)
  | _ =>
    match files.canonical path with
    | .error reason => .error (.unreadable path reason)
    | .ok canonical =>
      match hfind : c.find? (.ofText canonical) with
      | some v => .ok (v, c)
      | none => do
        let validator : Validator := ⟨← files.loadSchema canonical, c.config⟩
        let kept := c.store (.ofText canonical) validator (find?_eq_none_iff.mp hfind)
        return (⟨c.compiled, validator⟩, kept)

def get? (c : SchemaCache) (files : Files) (path : String) : Option CachedValidator :=
  c.find? (key files path)

def erase (c : SchemaCache) (k : PathKey) : SchemaCache where
  config := c.config
  entries := c.entries.filter (·.1 ≠ k)
  compiled := c.compiled
  nodup_keys := c.nodup_keys.sublist (List.filter_sublist.map _)
  number_lt := fun entry hentry => c.number_lt entry (List.mem_filter.mp hentry).1

/-- Drops the validator that is kept for a path, and says whether there was one. -/
def invalidate (c : SchemaCache) (files : Files) (path : String) : Bool × SchemaCache :=
  ((c.get? files path).isSome, c.erase (key files path))

def clear (c : SchemaCache) : SchemaCache where
  config := c.config
  entries := []
  compiled := c.compiled
  nodup_keys := List.nodup_nil
  number_lt := fun _ hentry => nomatch hentry

def size (c : SchemaCache) : Nat := c.entries.length

def isEmpty (c : SchemaCache) : Bool := c.entries.isEmpty

end SchemaCache

end NamedSchema
