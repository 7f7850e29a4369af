import Mathlib.Data.List.Basic
import Mathlib.Data.List.Induction
import NamedSchema.Proofs.PathSpelling
import NamedSchema.Storage.Cache
import NamedSchema.Storage.FileTree

/-!
# Canonical paths

A canonical path leads to the place that it was made for: it is split into the names that it was
joined from, and each of them leads one step further. So what is seen at a canonical path is what is
seen at every path to the same place, and paths that lead somewhere have one key exactly if they lead
to the same place.
-/
namespace NamedSchema

/-- A canonical path shows what every path to the same place shows. -/
def Files.Coherent (files : Files) : Prop :=
  ∀ ⦃path canonical : String⦄, files.canonical path = .ok canonical →
    files.view canonical = files.view path

namespace FileTree
variable {t : FileTree} {place next : List String} {path part : String}

/-- Each name of the place leads from a directory to something in it. -/
def Stands (t : FileTree) (place : List String) : Prop :=
  ∀ before name after, place = before ++ name :: after →
    t.isDirectory before = true ∧ name ∉ ["", ".", ".."] ∧ '/' ∉ name.toList ∧
      (t.node? (before ++ [name])).isSome = true

theorem stands_nil : t.Stands [] := by
  intro before name after h
  cases before <;> cases h

theorem Stands.init {name : String} (h : t.Stands (place ++ [name])) : t.Stands place := by
  rintro before other after rfl
  exact h before other (after ++ [name]) (by simp)

theorem Stands.dropLast (h : t.Stands place) : t.Stands place.dropLast := by
  rcases List.eq_nil_or_concat place with rfl | ⟨init, last, rfl⟩
  · exact stands_nil
  · rw [List.concat_eq_append] at h ⊢
    rw [List.dropLast_concat]
    exact h.init

theorem Stands.append {name : String} (h : t.Stands place) (hdirectory : t.isDirectory place = true)
    (hname : name ∉ ["", ".", ".."]) (hslash : '/' ∉ name.toList)
    (hnode : (t.node? (place ++ [name])).isSome = true) : t.Stands (place ++ [name]) := by
  intro before other after heq
  rcases List.eq_nil_or_concat after with rfl | ⟨middle, last, rfl⟩
  · obtain ⟨rfl, hlast⟩ := List.append_inj' heq rfl
    cases hlast
    exact ⟨hdirectory, hname, hslash, hnode⟩
  · rw [List.concat_eq_append, ← List.cons_append, ← List.append_assoc] at heq
    obtain ⟨rfl, _⟩ := List.append_inj' heq rfl
    exact h before other middle rfl

theorem Stands.step (h : t.Stands place) (hpart : '/' ∉ part.toList)
    (hstep : t.step? place part = some next) : t.Stands next := by
  rw [step?] at hstep
  split at hstep
  · cases hstep
  next hdirectory =>
    rw [Bool.not_eq_true', Bool.not_eq_false] at hdirectory
    split at hstep
    · cases hstep
      exact h
    next hdot =>
      split at hstep
      next =>
        split at hstep
        · cases hstep
        · cases hstep
          exact h.dropLast
      next hdots =>
        dsimp only at hstep
        split at hstep
        next hnode =>
          cases hstep
          exact h.append hdirectory (by simp_all) hpart hnode
        next => cases hstep

theorem stands_of_foldlM {parts : List String} (h : t.Stands place)
    (hparts : ∀ part ∈ parts, '/' ∉ part.toList) (hwalk : parts.foldlM t.step? place = some next) :
    t.Stands next := by
  induction parts generalizing place with
  | nil =>
      cases hwalk
      exact h
  | cons part parts ih =>
      obtain ⟨hpart, hparts⟩ := List.forall_mem_cons.mp hparts
      rw [List.foldlM_cons] at hwalk
      obtain ⟨middle, hmiddle, hwalk⟩ := Option.bind_eq_some_iff.mp hwalk
      exact ih (h.step hpart hmiddle) hparts hwalk

theorem Stands.foldlM (h : t.Stands place) : place.foldlM t.step? [] = some place := by
  induction place using List.reverseRecOn with
  | nil => rfl
  | append_singleton init name ih =>
      obtain ⟨hdirectory, hname, _, hnode⟩ := h init name [] rfl
      simp only [List.mem_cons, List.not_mem_nil, or_false, not_or] at hname
      obtain ⟨hempty, hdot, hdots⟩ := hname
      have hstep : t.step? init name = some (init ++ [name]) := by
        simp [step?, hdirectory, hempty, hdot, hdots, hnode]
      rw [List.foldlM_append, ih h.init]
      change (t.step? init name).bind _ = _
      rw [hstep]
      rfl

theorem stands_of_resolve? (h : t.resolve? path = some place) : t.Stands place := by
  rw [resolve?] at h
  split at h
  · cases h
  next =>
    split at h
    · cases h
    next hparts _ =>
      refine stands_of_foldlM stands_nil (fun part hpart => ?_) h
      have hmem : part ∈ Text.parts '/' path := by
        split at hpart
        · exact List.mem_of_mem_drop hpart
        · exact hpart
      exact Text.not_mem_of_mem_parts hmem

structure Named (t : FileTree) : Prop where
  ne_empty : t.base ≠ ""
  no_slash : '/' ∉ t.base.toList

theorem parts_pathOf (hnamed : t.Named) (h : t.Stands place) :
    Text.parts '/' (t.pathOf place) = t.base :: place := by
  refine Text.parts_intercalate hnamed.no_slash fun name hname => ?_
  obtain ⟨before, after, rfl⟩ := List.append_of_mem hname
  exact (h before name after rfl).2.2.1

theorem resolve?_pathOf (hnamed : t.Named) (h : t.Stands place) :
    t.resolve? (t.pathOf place) = some place := by
  have hparts := parts_pathOf hnamed h
  have hne : t.pathOf place ≠ "" := by
    intro hempty
    rw [hempty] at hparts
    have hbase : "" = t.base := (List.cons.inj hparts).1
    exact hnamed.ne_empty hbase.symm
  rw [resolve?, if_neg hne, hparts]
  split
  next heq => exact (hnamed.ne_empty (List.cons.inj heq).1).elim
  next => simpa using h.foldlM

/-- What is seen at a canonical path is what is seen at the path. -/
theorem coherent_files (hnamed : t.Named) : t.files.Coherent := by
  intro path key h
  change t.canonical path = _ at h
  rw [canonical] at h
  split at h
  next place hplace =>
    cases h
    change t.view (t.pathOf place) = t.view path
    rw [view, view, hplace, resolve?_pathOf hnamed (stands_of_resolve? hplace)]
  next => cases h

theorem key_of_resolve? (h : t.resolve? path = some place) :
    SchemaCache.key t.files path = .ofText (t.pathOf place) := by
  have hcanonical : t.files.canonical path = .ok (t.pathOf place) := by
    change t.canonical path = _
    rw [canonical, h]
  rw [SchemaCache.key, hcanonical]

/-- The names of a place are the components of its canonical path, behind those of the root. -/
theorem components_pathOf (hnamed : t.Named) (h : t.Stands place) :
    (PathKey.ofText (t.pathOf place)).components =
      (PathKey.ofText t.base).components ++ place.map .name := by
  have hplace : place.filterMap PathComponent.ofPart? = place.map .name := by
    refine List.filterMap_eq_map_iff_forall_eq_some.mpr fun name hname => ?_
    obtain ⟨before, after, rfl⟩ := List.append_of_mem hname
    exact PathComponent.ofPart?_of_notMem (h before name after rfl).2.1
  rw [PathKey.components_of_parts (parts_pathOf hnamed h) hnamed.ne_empty, hplace]

/-- A part that does not lead back appends what it stands for. -/
theorem map_name_step? (hstep : t.step? place part = some next) (hback : part ≠ "..") :
    next.map PathComponent.name = place.map .name ++ (PathComponent.ofPart? part).toList := by
  rw [step?, if_neg hback] at hstep
  rw [PathComponent.ofPart?, if_neg hback]
  split at hstep
  · cases hstep
  · split at hstep
    next hdot =>
      cases hstep
      simp [hdot]
    next hname =>
      dsimp only at hstep
      split at hstep
      · cases hstep
        simp [hname]
      · cases hstep

theorem map_name_foldlM {parts : List String} (hwalk : parts.foldlM t.step? place = some next)
    (hback : ".." ∉ parts) :
    next.map PathComponent.name = place.map .name ++ parts.filterMap PathComponent.ofPart? := by
  induction parts generalizing place with
  | nil =>
      cases hwalk
      simp
  | cons part parts ih =>
      rw [List.mem_cons, not_or] at hback
      obtain ⟨hpart, hparts⟩ := hback
      rw [List.foldlM_cons] at hwalk
      obtain ⟨middle, hmiddle, hwalk⟩ := Option.bind_eq_some_iff.mp hwalk
      rw [ih hwalk hparts, map_name_step? hmiddle (Ne.symm hpart), List.append_assoc]
      cases hcomponent : PathComponent.ofPart? part <;> simp [hcomponent]

/-- A path from the root that never leads back is its own key, whatever stands in the tree. -/
theorem key_of_parts (hnamed : t.Named) {parts : List String}
    (hparts : Text.parts '/' path = t.base :: parts) (hback : ".." ∉ parts) :
    SchemaCache.key t.files path = .ofText path := by
  cases hplace : t.resolve? path with
  | none =>
      have hcanonical : t.files.canonical path = .error nothingThereReason := by
        change t.canonical path = _
        rw [canonical, hplace]
      rw [SchemaCache.key, hcanonical]
  | some place =>
      have hwalk : parts.foldlM t.step? [] = some place := by
        rw [resolve?, hparts] at hplace
        split at hplace
        · cases hplace
        · split at hplace
          · cases hplace
          · simpa using hplace
      rw [key_of_resolve? hplace, PathKey.ext_iff,
        components_pathOf hnamed (stands_of_resolve? hplace), map_name_foldlM hwalk hback,
        PathKey.components_of_parts hparts hnamed.ne_empty]
      rfl

/-- Paths that lead somewhere have the same key exactly if they lead to the same place. -/
theorem key_eq_key_iff (hnamed : t.Named) {path' : String} {place' : List String}
    (h : t.resolve? path = some place) (h' : t.resolve? path' = some place') :
    SchemaCache.key t.files path = SchemaCache.key t.files path' ↔ place = place' := by
  rw [key_of_resolve? h, key_of_resolve? h', PathKey.ext_iff,
    components_pathOf hnamed (stands_of_resolve? h),
    components_pathOf hnamed (stands_of_resolve? h'), List.append_cancel_left_eq]
  exact List.map_injective_iff.mpr (fun _ _ heq => by cases heq; rfl) |>.eq_iff

end FileTree

end NamedSchema
