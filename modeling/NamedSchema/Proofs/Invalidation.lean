import NamedSchema.Proofs.CacheHistory

/-!
# What becomes of invalidated validators

Every validator that a cache compiles has a number of its own and is kept under one key at most. When
that key is removed, the validator is in the cache no more, and no lookup returns it again, whatever
happens afterwards. A path removes the key that it has at that moment; if this is the key under which
it was loaded, then the next load for the key compiles the file as it is.
-/
namespace NamedSchema.CacheStage

variable {s : CacheStage} {action : CacheAction} {k : PathKey} {n : Nat} {v w : CachedValidator}

/-- The action is a load for a key that is answered. -/
def Loads (s : CacheStage) (k : PathKey) (action : CacheAction) : Prop :=
  ∃ path, action = .load path ∧ (s.answer? (.load path)).isSome = true ∧ s.key path = k

/-- No load for the key is answered in a run. -/
def LoadsNone (k : PathKey) : CacheStage → List CacheAction → Prop
  | _, [] => True
  | s, action :: rest => ¬ s.Loads k action ∧ LoadsNone k (s.after action) rest

/-- A validator with this number has been compiled, and wherever it is kept, the key is one of the
given keys. -/
structure KeptWithin (s : CacheStage) (n : Nat) (allowed : PathKey → Prop) : Prop where
  lt : n < s.cache.compiled
  allowed : ∀ k v, s.cache.find? k = some v → v.number = n → allowed k

/-- What is kept after an action was kept before, or a load has just compiled it. -/
theorem find?_after_cases (h : (s.after action).cache.find? k = some v) :
    s.cache.find? k = some v ∨
      v.number = s.cache.compiled ∧ (s.after action).cache.compiled = s.cache.compiled + 1 ∧
        ∃ path, action = .load path ∧ s.key path = k := by
  cases action with
  | load path =>
      rcases cache_after_load s path with ⟨hcache, _⟩ | ⟨validator, hnew, _, hcache⟩
      · rw [hcache] at h
        exact .inl h
      · rw [hcache, SchemaCache.find?_store hnew] at h
        split at h
        next hk =>
          cases h
          exact .inr ⟨rfl, by rw [hcache]; rfl, path, rfl, hk.symm⟩
        next => exact .inl h
  | invalidate path =>
      rw [find?_after_invalidate] at h
      split at h
      · cases h
      · exact .inl h
  | clear => cases h
  | get path => exact .inl h
  | change files coherent => exact .inl h

theorem compiled_le_after (s : CacheStage) (action : CacheAction) :
    s.cache.compiled ≤ (s.after action).cache.compiled := by
  cases action with
  | load path =>
      rcases cache_after_load s path with ⟨hcache, _⟩ | ⟨_, _, _, hcache⟩
      · rw [hcache]
      · rw [hcache]
        exact Nat.le_succ _
  | _ => exact Nat.le_refl _

section Within
variable {allowed : PathKey → Prop}

/-- A validator never moves to another key: what is stored later has a number of its own. -/
theorem KeptWithin.after (h : s.KeptWithin n allowed) (action : CacheAction) :
    (s.after action).KeptWithin n allowed := by
  refine ⟨Nat.lt_of_lt_of_le h.lt (compiled_le_after s action), fun k v hfind hnumber => ?_⟩
  rcases find?_after_cases hfind with hbefore | ⟨hnew, _⟩
  · exact h.allowed k v hbefore hnumber
  · have hlt := h.lt
    omega

theorem KeptWithin.run (h : s.KeptWithin n allowed) (actions : List CacheAction) :
    (s.run actions).KeptWithin n allowed := by
  induction actions generalizing s with
  | nil => exact h
  | cons action rest ih => exact ih (h.after action)

theorem KeptWithin.invalidate (h : s.KeptWithin n (· = k)) {path : String} (hkey : s.key path = k) :
    (s.after (.invalidate path)).KeptWithin n fun _ => False := by
  refine ⟨h.lt, fun k' v hfind hnumber => ?_⟩
  rw [find?_after_invalidate] at hfind
  split at hfind
  · cases hfind
  next hne => exact hne (hkey.trans (h.allowed k' v hfind hnumber).symm)

theorem KeptWithin.answer_ne (h : s.KeptWithin n fun _ => False)
    (hanswer : s.answer? action = some w) : w.number ≠ n := by
  intro hnumber
  have hkept : ∀ k, s.lookupKey? action = some k → False := fun k hkey =>
    (h.after action).allowed k w (find?_after_answer hkey hanswer) hnumber
  cases action with
  | load path | get path => exact hkept _ rfl
  | invalidate | clear | change => cases hanswer

end Within

def OneKeyEach (s : CacheStage) : Prop :=
  ∀ k v, s.cache.find? k = some v → s.KeptWithin v.number (· = k)

theorem OneKeyEach.after (h : s.OneKeyEach) (action : CacheAction) :
    (s.after action).OneKeyEach := by
  intro k v hfind
  rcases find?_after_cases hfind with hbefore | ⟨hnew, hcompiled, path, rfl, hkey⟩
  · exact (h k v hbefore).after action
  · refine ⟨by omega, fun k' v' hfind' hnumber => ?_⟩
    rcases find?_after_cases hfind' with hbefore' | ⟨_, _, path', hpath, hkey'⟩
    · have hlt := (h k' v' hbefore').lt
      omega
    · cases hpath
      exact hkey'.symm.trans hkey

theorem OneKeyEach.run (h : s.OneKeyEach) (actions : List CacheAction) :
    (s.run actions).OneKeyEach := by
  induction actions generalizing s with
  | nil => exact h
  | cons action rest ih => exact ih (h.after action)

theorem find?_run_of_loadsNone {actions : List CacheAction} (h : s.cache.find? k = none)
    (hnone : LoadsNone k s actions) : (s.run actions).cache.find? k = none := by
  induction actions generalizing s with
  | nil => exact h
  | cons action rest ih =>
      refine ih ?_ hnone.2
      rw [Option.eq_none_iff_forall_ne_some] at h ⊢
      intro v hv
      have hmem := mem_keys_after.mp (SchemaCache.mem_keys_iff.mpr ⟨v, hv⟩)
      rcases hmem with hloads | ⟨hkept, _⟩
      · exact hnone.1 hloads
      · obtain ⟨v', hv'⟩ := SchemaCache.mem_keys_iff.mp hkept
        exact h v' hv'

theorem run_cons (s : CacheStage) (action : CacheAction) (rest : List CacheAction) :
    s.run (action :: rest) = (s.after action).run rest := rfl

theorem answer?_eq_some {lookup : CacheAction} (h : s.cache.find? k = some v)
    (hkey : s.lookupKey? lookup = some k) (hsome : (s.answer? lookup).isSome = true) :
    s.answer? lookup = some v := by
  obtain ⟨w, hw⟩ := Option.isSome_iff_exists.mp hsome
  rw [hw, eq_of_answer? h hkey hw]

/-- If a path has the key at its invalidation under which it was loaded, then the validator of that
load is returned by no lookup afterwards, and the next load for the key that is answered compiles the
file as it is. -/
theorem invalidated_stays_gone (config : ValidatorConfig) (files : Files)
    (coherent : files.Coherent) :
    let s := start config files coherent
    ∀ earlier path between v,
      (s.run earlier).answer? (.load path) = some v →
      (s.run (earlier ++ .load path :: between)).key path = (s.run earlier).key path →
      let t := s.run (earlier ++ .load path :: between ++ [.invalidate path])
      (∀ later lookup w, (t.run later).answer? lookup = some w → w.number ≠ v.number) ∧
      ∀ later other w, LoadsNone ((s.run earlier).key path) t later →
        (t.run later).key other = (s.run earlier).key path →
        (t.run later).answer? (.load other) = some w →
        ∃ content schema, (t.run later).files.view other = .text content ∧
          Schema.ofText content = .ok schema ∧
          w = ⟨(t.run later).cache.compiled, ⟨schema, config⟩⟩ := by
  intro s earlier path between v hanswer hkey t
  have ht : t = (s.run (earlier ++ .load path :: between)).after (.invalidate path) :=
    run_append s (earlier ++ .load path :: between) [.invalidate path]
  have hrun : s.run (earlier ++ .load path :: between) =
      ((s.run earlier).after (.load path)).run between :=
    run_append s earlier (.load path :: between)
  have hkept : ((s.run earlier).after (.load path)).KeptWithin v.number
      (· = (s.run earlier).key path) := by
    have hone : s.OneKeyEach := fun _ _ hfind => nomatch hfind
    exact ((hone.run earlier).after (.load path)) _ v (find?_after_answer rfl hanswer)
  constructor
  · intro later lookup w hw
    have hgone : t.KeptWithin v.number fun _ => False := by
      rw [ht]
      exact (hrun ▸ hkept.run between).invalidate hkey
    exact (hgone.run later).answer_ne hw
  · intro later other w hnone hother hw
    have hremoved : t.cache.find? ((s.run earlier).key path) = none := by
      rw [ht, find?_after_invalidate, if_pos hkey]
    have hconfig : (t.run later).cache.config = config :=
      (config_run t later).trans (config_run s _)
    obtain ⟨_, _, hfind | ⟨_, hcompiled⟩⟩ := answer?_load_eq_some_iff.mp hw
    · rw [hother, find?_run_of_loadsNone hremoved hnone] at hfind
      cases hfind
    · rwa [hconfig] at hcompiled

def noFile : FileTree := .empty "@"

theorem named_noFile : noFile.Named :=
  ⟨(named_singleFile "").ne_empty, (named_singleFile "").no_slash⟩

def anyInt : String := "\x7b\"types\": \x7b\x7d, \"root\": \"int\"\x7d"

/-- The file is gone when its canonical path is invalidated in another spelling, and it is loaded again
by another path. -/
theorem invalidated_stays_gone_removed :
    let s := start ⟨3⟩ (singleFile anyInt).files (FileTree.coherent_files (named_singleFile _))
    let remove := CacheAction.change noFile.files (FileTree.coherent_files named_noFile)
    let restore := CacheAction.change (singleFile anyInt).files
      (FileTree.coherent_files (named_singleFile _))
    ∃ v w, s.answer? (.load "@//s.json") = some v ∧
      (s.run [.load "@//s.json", remove, .invalidate "@//s.json", restore]).answer?
        (.load "./s.json") = some w ∧ w.number ≠ v.number := by
  intro s remove restore
  have hfirst : (s.answer? (.load "@//s.json")).isSome = true := by decide +kernel
  have hagain : ((s.run [.load "@//s.json", remove, .invalidate "@//s.json", restore]).answer?
      (.load "./s.json")).isSome = true := by
    decide +kernel
  have hkey : (s.run [.load "@//s.json", remove]).key "@//s.json" = s.key "@//s.json" := by
    decide +kernel
  obtain ⟨v, hv⟩ := Option.isSome_iff_exists.mp hfirst
  obtain ⟨w, hw⟩ := Option.isSome_iff_exists.mp hagain
  have hgone := (invalidated_stays_gone ⟨3⟩ (singleFile anyInt).files
    (FileTree.coherent_files (named_singleFile _)) [] "@//s.json" [remove] v hv hkey).1
  have hrun := run_append s [.load "@//s.json", remove, .invalidate "@//s.json"] [restore]
  refine ⟨v, w, hv, hw, hgone [restore] (.load "./s.json") w ?_⟩
  rw [← hw]
  exact congrArg (·.answer? (.load "./s.json")) hrun.symm

/-- A path that is not canonical names another key while its file is gone: the validator is returned
again. And a load by another path may come before the next load by the same path, which then does not
compile the file as it is, were it broken. -/
theorem invalidated_comes_back :
    let s := start ⟨3⟩ (singleFile anyInt).files (FileTree.coherent_files (named_singleFile _))
    let remove := CacheAction.change noFile.files (FileTree.coherent_files named_noFile)
    let restore := CacheAction.change (singleFile anyInt).files
      (FileTree.coherent_files (named_singleFile _))
    let spoil := CacheAction.change (singleFile "int").files
      (FileTree.coherent_files (named_singleFile _))
    (∃ v, s.answer? (.load "s.json") = some v ∧
      (s.run [.load "s.json", remove, .invalidate "s.json", restore]).answer?
        (.load "s.json") = some v ∧
      (s.run [.load "s.json", remove, .invalidate "s.json", restore]).answer?
        (.get "s.json") = some v) ∧
    ((s.run [.load "s.json", .invalidate "s.json", .load "./s.json", spoil]).answer?
        (.load "s.json")).isSome = true ∧
      ∀ schema, Schema.ofText "int" ≠ .ok schema := by
  intro s remove restore spoil
  have hfirst : (s.answer? (.load "s.json")).isSome = true := by decide +kernel
  obtain ⟨v, hv⟩ := Option.isSome_iff_exists.mp hfirst
  let k : PathKey := .ofText "@/s.json"
  have hkey : s.lookupKey? (.load "s.json") = some k := by decide +kernel
  have haside : ¬ (s.run [.load "s.json", remove]).key "s.json" = k := by decide +kernel
  have hkeeps : Keeps k (s.after (.load "s.json"))
      [remove, .invalidate "s.json", restore] := ⟨id, haside, id, trivial⟩
  have hkept : (s.run [.load "s.json", remove, .invalidate "s.json", restore]).cache.find? k =
      some v := by
    rw [run_cons]
    exact find?_run (find?_after_answer hkey hv) hkeeps
  have hback : (s.run [.load "s.json", remove, .invalidate "s.json", restore]).key "s.json" = k := by
    decide +kernel
  have hload : ((s.run [.load "s.json", remove, .invalidate "s.json", restore]).answer?
      (.load "s.json")).isSome = true := by
    decide +kernel
  have hlookup : (s.run [.load "s.json", remove, .invalidate "s.json", restore]).lookupKey?
      (.load "s.json") = some k := by
    rw [lookupKey?, hback]
  have hspoiled : ((s.run [.load "s.json", .invalidate "s.json", .load "./s.json", spoil]).answer?
      (.load "s.json")).isSome = true := by
    decide +kernel
  have hrefused : (Schema.ofText "int").isOk = false := by decide +kernel
  refine ⟨⟨v, hv, ?_, ?_⟩, hspoiled, fun schema hschema => ?_⟩
  · exact answer?_eq_some hkept hlookup hload
  · rw [answer?, SchemaCache.get?, ← CacheStage.key, hback]
    exact hkept
  · rw [hschema] at hrefused
    cases hrefused

end NamedSchema.CacheStage
