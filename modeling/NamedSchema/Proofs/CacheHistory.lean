import Mathlib.Data.List.Find
import Mathlib.Data.List.Induction
import Mathlib.Data.List.Nodup
import NamedSchema.Proofs.CanonicalPaths
import NamedSchema.Proofs.ErrorSources
import NamedSchema.Storage.Cache

/-!
# The history of a cache

A cache is used step by step, while files are written and removed in between. Whatever the order of
the steps, it is a map from keys to the first validator that was compiled for each: what is kept does
not change with the file, a step that fails changes nothing, and a key has one validator from when it
is loaded until it is removed.
-/
namespace NamedSchema
open Outcome

structure CacheStage where
  files : Files
  coherent : files.Coherent
  cache : SchemaCache

/-- A step of a program that uses a cache, or a change of the files by anyone. -/
inductive CacheAction where
  | load (path : String)
  | get (path : String)
  | invalidate (path : String)
  | clear
  | change (files : Files) (coherent : files.Coherent)

namespace CacheStage

def start (config : ValidatorConfig) (files : Files) (coherent : files.Coherent) : CacheStage :=
  ⟨files, coherent, .empty config⟩

def key (s : CacheStage) (path : String) : PathKey := SchemaCache.key s.files path

/-- The stage after an action; a load that fails leaves it as it is. -/
def after (s : CacheStage) : CacheAction → CacheStage
  | .load path =>
    match s.cache.load s.files path with
    | .ok (_, cache) => { s with cache }
    | .error _ => s
  | .get _ => s
  | .invalidate path => { s with cache := (s.cache.invalidate s.files path).2 }
  | .clear => { s with cache := s.cache.clear }
  | .change files coherent => { s with files, coherent }

def run (s : CacheStage) (actions : List CacheAction) : CacheStage := actions.foldl after s

/-- The validator that a lookup returns, if it returns one; a lookup is a load or a get. -/
def answer? (s : CacheStage) : CacheAction → Option CachedValidator
  | .load path => (s.cache.load s.files path).toOption.map (·.1)
  | .get path => s.cache.get? s.files path
  | _ => none

def lookupKey? (s : CacheStage) : CacheAction → Option PathKey
  | .load path | .get path => some (s.key path)
  | _ => none

def Removes (s : CacheStage) (k : PathKey) : CacheAction → Prop
  | .invalidate path => s.key path = k
  | .clear => True
  | _ => False

/-- No action of a run removes the key. -/
def Keeps (k : PathKey) : CacheStage → List CacheAction → Prop
  | _, [] => True
  | s, action :: rest => ¬ s.Removes k action ∧ Keeps k (s.after action) rest

/-- Some load of a run was answered for the key, and nothing has removed the key since. -/
def Holds (s : CacheStage) (actions : List CacheAction) (k : PathKey) : Prop :=
  ∃ earlier path later, actions = earlier ++ .load path :: later ∧
    ((s.run earlier).answer? (.load path)).isSome = true ∧ (s.run earlier).key path = k ∧
    Keeps k ((s.run earlier).after (.load path)) later

end CacheStage

namespace SchemaCache
variable {c : SchemaCache} {k : PathKey} {validator : Validator}

/-- A new validator is found under its key, and all others where they were. -/
theorem find?_store (hnew : k ∉ c.keys) (k' : PathKey) :
    (c.store k validator hnew).find? k' =
      if k' = k then some ⟨c.compiled, validator⟩ else c.find? k' := by
  rw [find?, store, List.find?_append, Option.map_or]
  change (c.find? k').or _ = _
  split
  next h =>
    subst h
    simp [find?_eq_none_iff.mpr hnew]
  next h =>
    have hne : ¬ k = k' := fun heq => h heq.symm
    simp [hne]

theorem find?_erase (c : SchemaCache) (k k' : PathKey) :
    (c.erase k).find? k' = if k = k' then none else c.find? k' := by
  rw [erase, find?, List.find?_filter]
  split
  next h =>
    rw [Option.map_eq_none_iff, List.find?_eq_none]
    intro entry _ hentry
    simp [h] at hentry
  next h =>
    refine congrArg _ (List.find?_congr fun entry _ => ?_)
    by_cases hentry : entry.1 = k'
    · have hne : ¬ k' = k := fun heq => h heq.symm
      simp [hentry, hne]
    · simp [hentry]

end SchemaCache

namespace CacheStage
variable {s : CacheStage} {path canonical : String} {k : PathKey} {v v' : CachedValidator}
  {action : CacheAction}

theorem key_of_canonical (h : s.files.canonical path = .ok canonical) :
    s.key path = .ofText canonical := by
  rw [key, SchemaCache.key, h]

/-- A schema file is read under its canonical path as under any other. -/
theorem loadSchema_eq_ok_iff {schema : Schema} (h : s.files.canonical path = .ok canonical) :
    s.files.loadSchema canonical = .ok schema ↔
      ∃ content, s.files.view path = .text content ∧ Schema.ofText content = .ok schema := by
  rw [Files.loadSchema_eq_ok_iff, s.coherent h]

/-- What a load returns: the validator that is kept, and else one compiled from the file. -/
theorem load_eq_ok_iff {cache : SchemaCache} :
    s.cache.load s.files path = .ok (v, cache) ↔
      s.files.view path ≠ .absent ∧ (∃ canonical, s.files.canonical path = .ok canonical) ∧
        (s.cache.find? (s.key path) = some v ∧ cache = s.cache ∨
          ∃ hnew : s.key path ∉ s.cache.keys, ∃ content schema,
            s.files.view path = .text content ∧ Schema.ofText content = .ok schema ∧
              v = ⟨s.cache.compiled, ⟨schema, s.cache.config⟩⟩ ∧
              cache = s.cache.store (s.key path) ⟨schema, s.cache.config⟩ hnew) := by
  rw [SchemaCache.load]
  split
  next habsent => simp [habsent]
  next hpresent =>
    rw [and_iff_right hpresent]
    split
    next hcanonical => simp [hcanonical]
    next canonical hcanonical =>
      rw [and_iff_right ⟨canonical, hcanonical⟩, key_of_canonical hcanonical]
      split
      next kept hfind =>
        have hkeys : .ofText canonical ∈ s.cache.keys := SchemaCache.mem_keys_iff.mpr ⟨kept, hfind⟩
        simp [hfind, hkeys, eq_comm]
      next hfind =>
        simp only [hfind, bind_eq_ok_iff, loadSchema_eq_ok_iff hcanonical]
        constructor
        · rintro ⟨schema, ⟨content, hcontent, hschema⟩, h⟩
          cases h
          have hnew := SchemaCache.find?_eq_none_iff.mp hfind
          exact .inr ⟨hnew, content, schema, hcontent, hschema, rfl, rfl⟩
        · rintro (⟨h, _⟩ | ⟨_, content, schema, hcontent, hschema, rfl, rfl⟩)
          · cases h
          · exact ⟨schema, ⟨content, hcontent, hschema⟩, rfl⟩

theorem answer?_load_eq_some_iff :
    s.answer? (.load path) = some v ↔
      s.files.view path ≠ .absent ∧ (∃ canonical, s.files.canonical path = .ok canonical) ∧
        (s.cache.find? (s.key path) = some v ∨
          s.cache.find? (s.key path) = none ∧
            ∃ content schema, s.files.view path = .text content ∧
              Schema.ofText content = .ok schema ∧
              v = ⟨s.cache.compiled, ⟨schema, s.cache.config⟩⟩) := by
  have hanswer : s.answer? (.load path) = some v ↔
      ∃ cache, s.cache.load s.files path = .ok (v, cache) := by
    rw [answer?]
    cases s.cache.load s.files path with
    | ok result =>
        obtain ⟨v', cache⟩ := result
        simp [Except.toOption]
    | error e => simp [Except.toOption]
  rw [hanswer]
  simp only [load_eq_ok_iff, exists_and_left]
  refine and_congr_right fun _ => and_congr_right fun _ => ?_
  constructor
  · rintro ⟨cache, ⟨hfind, _⟩ | ⟨hnew, content, schema, hcontent, hschema, hv, _⟩⟩
    · exact .inl hfind
    · exact .inr ⟨SchemaCache.find?_eq_none_iff.mpr hnew, content, schema, hcontent, hschema, hv⟩
  · rintro (hfind | ⟨hnone, content, schema, hcontent, hschema, hv⟩)
    · exact ⟨_, .inl ⟨hfind, rfl⟩⟩
    · have hnew := SchemaCache.find?_eq_none_iff.mp hnone
      exact ⟨_, .inr ⟨hnew, content, schema, hcontent, hschema, hv, rfl⟩⟩

theorem cache_after_load (s : CacheStage) (path : String) :
    (s.after (.load path)).cache = s.cache ∧
        (∀ v, s.answer? (.load path) = some v → s.cache.find? (s.key path) = some v) ∨
      ∃ validator, ∃ hnew : s.key path ∉ s.cache.keys,
        s.answer? (.load path) = some ⟨s.cache.compiled, validator⟩ ∧
          (s.after (.load path)).cache = s.cache.store (s.key path) validator hnew := by
  rw [answer?, after]
  cases hload : s.cache.load s.files path with
  | error e => exact .inl ⟨rfl, by simp [Except.toOption]⟩
  | ok result =>
      obtain ⟨v, cache⟩ := result
      obtain ⟨_, _, ⟨hfind, rfl⟩ | ⟨hnew, _, schema, _, _, rfl, rfl⟩⟩ := load_eq_ok_iff.mp hload
      · refine .inl ⟨rfl, fun v' hv' => ?_⟩
        cases hv'
        exact hfind
      · exact .inr ⟨⟨schema, s.cache.config⟩, hnew, rfl, rfl⟩

theorem find?_after_load (h : s.answer? (.load path) = some v) (k : PathKey) :
    (s.after (.load path)).cache.find? k = if k = s.key path then some v else s.cache.find? k := by
  rcases cache_after_load s path with ⟨hcache, hfind⟩ | ⟨validator, hnew, hanswer, hcache⟩
  · rw [hcache]
    split
    next hk => rw [hk, hfind v h]
    next => rfl
  · cases h.symm.trans hanswer
    rw [hcache, SchemaCache.find?_store hnew]

theorem cache_after_failed_load (h : s.answer? (.load path) = none) :
    (s.after (.load path)).cache = s.cache := by
  rcases cache_after_load s path with ⟨hcache, _⟩ | ⟨v, _, hv, _⟩
  · exact hcache
  · cases h.symm.trans hv

@[simp] theorem find?_after_invalidate (s : CacheStage) (path : String) (k : PathKey) :
    (s.after (.invalidate path)).cache.find? k =
      if s.key path = k then none else s.cache.find? k :=
  SchemaCache.find?_erase ..

/-- What is kept for a key stays until the key is removed. -/
theorem find?_after (h : s.cache.find? k = some v) (hkeep : ¬ s.Removes k action) :
    (s.after action).cache.find? k = some v := by
  cases action with
  | load path =>
      rcases cache_after_load s path with ⟨hcache, _⟩ | ⟨_, hnew, _, hcache⟩
      · rw [hcache, h]
      · rw [hcache, SchemaCache.find?_store hnew]
        split
        next hk => exact (hnew (hk ▸ SchemaCache.mem_keys_iff.mpr ⟨v, h⟩)).elim
        next => exact h
  | get path => exact h
  | invalidate path =>
      have hne : ¬ s.key path = k := hkeep
      rw [find?_after_invalidate, if_neg hne, h]
  | clear => exact (hkeep trivial).elim
  | change files coherent => exact h

theorem find?_run {actions : List CacheAction} (h : s.cache.find? k = some v)
    (hkeep : Keeps k s actions) : (s.run actions).cache.find? k = some v := by
  induction actions generalizing s with
  | nil => exact h
  | cons action rest ih => exact ih (find?_after h hkeep.1) hkeep.2

theorem eq_of_answer? (h : s.cache.find? k = some v) (hkey : s.lookupKey? action = some k)
    (hanswer : s.answer? action = some v') : v' = v := by
  cases action with
  | load path =>
      cases hkey
      obtain ⟨_, _, hfind | ⟨hnone, _⟩⟩ := answer?_load_eq_some_iff.mp hanswer
      · exact Option.some.inj (hfind.symm.trans h)
      · cases hnone.symm.trans h
  | get path =>
      cases hkey
      exact Option.some.inj (hanswer.symm.trans h)
  | _ => cases hkey

theorem find?_after_answer (hkey : s.lookupKey? action = some k)
    (hanswer : s.answer? action = some v) : (s.after action).cache.find? k = some v := by
  cases action with
  | load path =>
      cases hkey
      rw [find?_after_load hanswer, if_pos rfl]
  | get path =>
      cases hkey
      exact hanswer
  | _ => cases hkey

variable {config : ValidatorConfig} {files : Files} {coherent : files.Coherent}

theorem config_after (s : CacheStage) (action : CacheAction) :
    (s.after action).cache.config = s.cache.config := by
  cases action with
  | load path =>
      rcases cache_after_load s path with ⟨hcache, _⟩ | ⟨validator, hnew, _, hcache⟩ <;> rw [hcache]
      rfl
  | _ => rfl

theorem config_run (s : CacheStage) (actions : List CacheAction) :
    (s.run actions).cache.config = s.cache.config := by
  induction actions generalizing s with
  | nil => rfl
  | cons action rest ih => exact (ih (s.after action)).trans (config_after s action)

@[simp] theorem run_append (s : CacheStage) (first second : List CacheAction) :
    s.run (first ++ second) = (s.run first).run second := List.foldl_append

@[simp] theorem keeps_append {first second : List CacheAction} :
    Keeps k s (first ++ second) ↔ Keeps k s first ∧ Keeps k (s.run first) second := by
  induction first generalizing s with
  | nil => simp [Keeps, CacheStage.run]
  | cons action rest ih =>
      rw [List.cons_append, Keeps, Keeps, ih, and_assoc]
      rfl

/-- A key is held after an action if the action loads it, or if it was held and is not removed. -/
theorem holds_append_singleton {actions : List CacheAction} :
    s.Holds (actions ++ [action]) k ↔
      (∃ path, action = .load path ∧ ((s.run actions).answer? (.load path)).isSome = true ∧
        (s.run actions).key path = k) ∨
      s.Holds actions k ∧ ¬ (s.run actions).Removes k action := by
  constructor
  · rintro ⟨earlier, path, later, heq, hanswer, hkey, hkeep⟩
    -- The last action is the load itself, or one of those that follow it.
    rcases List.eq_nil_or_concat later with rfl | ⟨before, last, rfl⟩
    · obtain ⟨rfl, hlast⟩ := List.append_inj' heq rfl
      cases hlast
      exact .inl ⟨path, rfl, hanswer, hkey⟩
    · rw [List.concat_eq_append, ← List.cons_append, ← List.append_assoc] at heq
      obtain ⟨rfl, hlast⟩ := List.append_inj' heq rfl
      cases hlast
      rw [List.concat_eq_append, keeps_append] at hkeep
      refine .inr ⟨⟨earlier, path, before, rfl, hanswer, hkey, hkeep.1⟩, ?_⟩
      rw [run_append]
      exact hkeep.2.1
  · rintro (⟨path, rfl, hanswer, hkey⟩ | ⟨⟨earlier, path, later, rfl, hanswer, hkey, hkeep⟩, hnot⟩)
    · exact ⟨actions, path, [], rfl, hanswer, hkey, trivial⟩
    · refine ⟨earlier, path, later ++ [action], by simp, hanswer, hkey, keeps_append.mpr ⟨hkeep, ?_⟩⟩
      rw [run_append] at hnot
      exact ⟨hnot, trivial⟩

theorem mem_keys_after :
    k ∈ (s.after action).cache.keys ↔
      (∃ path, action = .load path ∧ (s.answer? (.load path)).isSome = true ∧ s.key path = k) ∨
        k ∈ s.cache.keys ∧ ¬ s.Removes k action := by
  constructor
  · intro h
    cases action with
    | load path =>
        rcases cache_after_load s path with ⟨hcache, _⟩ | ⟨_, hnew, hanswer, hcache⟩
        · rw [hcache] at h
          exact .inr ⟨h, id⟩
        · obtain ⟨v', hv'⟩ := SchemaCache.mem_keys_iff.mp h
          rw [hcache, SchemaCache.find?_store hnew] at hv'
          split at hv'
          next hk => exact .inl ⟨path, rfl, by rw [hanswer]; rfl, hk.symm⟩
          next => exact .inr ⟨SchemaCache.mem_keys_iff.mpr ⟨v', hv'⟩, id⟩
    | get path => exact .inr ⟨h, id⟩
    | invalidate path =>
        obtain ⟨v', hv'⟩ := SchemaCache.mem_keys_iff.mp h
        rw [find?_after_invalidate] at hv'
        split at hv'
        next => cases hv'
        next hne => exact .inr ⟨SchemaCache.mem_keys_iff.mpr ⟨v', hv'⟩, hne⟩
    | clear => cases h
    | change files coherent => exact .inr ⟨h, id⟩
  · rintro (⟨path, rfl, hanswer, rfl⟩ | ⟨hmem, hkeep⟩)
    · obtain ⟨v, hv⟩ := Option.isSome_iff_exists.mp hanswer
      exact SchemaCache.mem_keys_iff.mpr ⟨v, find?_after_answer rfl hv⟩
    · obtain ⟨v, hv⟩ := SchemaCache.mem_keys_iff.mp hmem
      exact SchemaCache.mem_keys_iff.mpr ⟨v, find?_after hv hkeep⟩

/-- The keys that have a validator are those that have been loaded and not removed since. -/
theorem mem_keys_run_iff (actions : List CacheAction) :
    k ∈ ((start config files coherent).run actions).cache.keys ↔
      (start config files coherent).Holds actions k := by
  induction actions using List.reverseRecOn with
  | nil =>
      refine iff_of_false (fun h => nomatch h) ?_
      rintro ⟨earlier, path, later, heq, _⟩
      simp at heq
  | append_singleton actions action ih =>
      rw [run_append, holds_append_singleton, ← ih]
      exact mem_keys_after

/-- What lookups answer at a stage, and what each action leaves of the entries. -/
structure Lawful (config : ValidatorConfig) (s : CacheStage) : Prop where
  /-- A load returns what is kept for the key, whatever the file holds. If nothing is kept, it
  compiles the file as it is; this is the only case where the content matters. -/
  load_answer : ∀ path v, s.answer? (.load path) = some v ↔
    s.files.view path ≠ .absent ∧ (∃ canonical, s.files.canonical path = .ok canonical) ∧
      (s.cache.find? (s.key path) = some v ∨
        s.cache.find? (s.key path) = none ∧
          ∃ content schema, s.files.view path = .text content ∧
            Schema.ofText content = .ok schema ∧ v = ⟨s.cache.compiled, ⟨schema, config⟩⟩)
  /-- The number that the next validator gets is new. -/
  number_lt : ∀ k v, s.cache.find? k = some v → v.number < s.cache.compiled
  load_stores : ∀ path v, s.answer? (.load path) = some v → ∀ k,
    (s.after (.load path)).cache.find? k = if k = s.key path then some v else s.cache.find? k
  failed_load_keeps : ∀ path, s.answer? (.load path) = none →
    (s.after (.load path)).cache = s.cache
  get_answer : ∀ path, s.answer? (.get path) = s.cache.find? (s.key path)
  get_keeps : ∀ path, (s.after (.get path)).cache = s.cache
  invalidate_removes : ∀ path k, (s.after (.invalidate path)).cache.find? k =
    if s.key path = k then none else s.cache.find? k
  clear_removes : ∀ k, (s.after .clear).cache.find? k = none
  change_keeps : ∀ files coherent, (s.after (.change files coherent)).cache = s.cache

theorem lawful_of_config (h : s.cache.config = config) : s.Lawful config where
  load_answer := by
    intro path v
    rw [answer?_load_eq_some_iff, h]
  number_lt := by
    intro k v hfind
    obtain ⟨entry, hentry, rfl⟩ := Option.map_eq_some_iff.mp hfind
    exact s.cache.number_lt entry (List.mem_of_find?_eq_some hentry)
  load_stores := fun _ _ => find?_after_load
  failed_load_keeps := fun _ => cache_after_failed_load
  get_answer := fun _ => rfl
  get_keeps := fun _ => rfl
  invalidate_removes := find?_after_invalidate s
  clear_removes := fun _ => rfl
  change_keeps := fun _ _ => rfl

/-- Two lookups with one key return the same validator, unless the key is removed in between. -/
theorem answers_agree {first last : CacheAction} {between : List CacheAction}
    (hkey : s.lookupKey? first = some k) (hanswer : s.answer? first = some v)
    (hkeep : Keeps k (s.after first) between)
    (hkey' : ((s.after first).run between).lookupKey? last = some k)
    (hanswer' : ((s.after first).run between).answer? last = some v') : v' = v :=
  eq_of_answer? (find?_run (find?_after_answer hkey hanswer) hkeep) hkey' hanswer'

/-- A cache is a map from keys to the first validators compiled for them, in every run of loads,
lookups, removals and changes of the files. -/
theorem cache_is_map (config : ValidatorConfig) (files : Files) (coherent : files.Coherent) :
    let s := start config files coherent
    (∀ actions, (s.run actions).Lawful config) ∧
      (∀ earlier first between last k v v',
        (s.run earlier).lookupKey? first = some k → (s.run earlier).answer? first = some v →
        Keeps k (s.run (earlier ++ [first])) between →
        (s.run (earlier ++ first :: between)).lookupKey? last = some k →
        (s.run (earlier ++ first :: between)).answer? last = some v' → v' = v) ∧
      ∀ actions, ∃ keys : List PathKey, keys.Nodup ∧ (∀ k, k ∈ keys ↔ s.Holds actions k) ∧
        (s.run actions).cache.size = keys.length := by
  intro s
  refine ⟨fun actions => lawful_of_config (config_run s actions), ?_, fun actions => ?_⟩
  · intro earlier first between last k v v' hkey hanswer hkeep hkey' hanswer'
    rw [run_append] at hkeep hkey' hanswer'
    exact answers_agree hkey hanswer hkeep hkey' hanswer'
  · have hlength : (s.run actions).cache.size = (s.run actions).cache.keys.length :=
      (List.length_map _).symm
    exact ⟨_, (s.run actions).cache.nodup_keys, fun k => mem_keys_run_iff actions, hlength⟩

def singleFile (content : String) : FileTree := ⟨"@", [(["s.json"], .file content.toUTF8)]⟩

theorem named_singleFile (content : String) : (singleFile content).Named where
  ne_empty := by
    change "@" ≠ ""
    decide
  no_slash := by
    change '/' ∉ "@".toList
    decide +kernel

/-- A file that is loaded by one path, then broken, and looked up by another path. -/
theorem cache_is_map_rewritten :
    let intact := singleFile "\x7b\"types\": \x7b\x7d, \"root\": \"int\"\x7d"
    let broken := singleFile "int"
    let s := start ⟨3⟩ intact.files (FileTree.coherent_files (named_singleFile _))
    let rewrite := CacheAction.change broken.files (FileTree.coherent_files (named_singleFile _))
    ∃ v, s.answer? (.load "./s.json") = some v ∧
      (s.run [.load "./s.json", rewrite]).answer? (.load "@/s.json") = some v := by
  intro intact broken s rewrite
  have hfirst : (s.answer? (.load "./s.json")).isSome = true := by decide +kernel
  have hlast : ((s.run [.load "./s.json", rewrite]).answer? (.load "@/s.json")).isSome = true := by
    decide +kernel
  obtain ⟨v, hv⟩ := Option.isSome_iff_exists.mp hfirst
  obtain ⟨v', hv'⟩ := Option.isSome_iff_exists.mp hlast
  have hkey : s.lookupKey? (.load "./s.json") = some (.ofText "@/s.json") := by
    decide +kernel
  have hkey' : (s.run [.load "./s.json", rewrite]).lookupKey? (.load "@/s.json") =
      some (.ofText "@/s.json") := by
    decide +kernel
  have hcoherent : intact.files.Coherent := FileTree.coherent_files (named_singleFile _)
  have hsame : v' = v := (cache_is_map ⟨3⟩ intact.files hcoherent).2.1 [] (.load "./s.json")
    [rewrite] (.load "@/s.json") (.ofText "@/s.json") v v' hkey hv ⟨id, trivial⟩ hkey' hv'
  exact ⟨v, hv, hsame ▸ hv'⟩

end CacheStage

end NamedSchema
