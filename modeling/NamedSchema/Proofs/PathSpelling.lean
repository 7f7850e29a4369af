import NamedSchema.Storage.PathKey

/-!
# The spelling of a path

What does not count in a path when it is used as a key: that a separator is repeated, that one stands
at the end, and that a dot stands between two of them.
-/
namespace NamedSchema

namespace Text
variable {separator : Char} {part : List Char}

theorem charParts_self (h : separator ∉ part) : charParts separator part = (part, []) := by
  induction part with
  | nil => rfl
  | cons c part ih =>
      rw [List.mem_cons, not_or] at h
      obtain ⟨hne, hpart⟩ := h
      rw [charParts, ih hpart]
      exact if_neg fun heq => hne heq.symm

theorem parts_self {s : String} (h : separator ∉ s.toList) : parts separator s = [s] := by
  rw [parts, charParts_self h]
  simp

theorem charParts_append (separator : Char) (before after : List Char) :
    charParts separator (before ++ separator :: after) =
      ((charParts separator before).1, (charParts separator before).2 ++
        (charParts separator after).1 :: (charParts separator after).2) := by
  induction before with
  | nil => simp [charParts]
  | cons c before ih =>
      rw [List.cons_append, charParts, charParts, ih]
      by_cases hc : c = separator <;> simp [hc]

@[simp] theorem parts_empty (separator : Char) : parts separator "" = [""] := rfl

theorem parts_ne_nil (separator : Char) (s : String) : parts separator s ≠ [] := by simp [parts]

theorem charParts_eq_nil {chars : List Char} (h : charParts separator chars = ([], [])) :
    chars = [] := by
  cases chars with
  | nil => rfl
  | cons c rest =>
      rw [charParts] at h
      split at h
      split at h <;> cases h

theorem parts_ne_singleton_empty {s : String} (h : s ≠ "") : parts separator s ≠ [""] := by
  intro hparts
  have hchars : charParts separator s.toList = ([], []) := by
    simp only [parts, List.map_cons, List.cons.injEq, List.map_eq_nil_iff] at hparts
    exact Prod.ext (by simpa using hparts.1) hparts.2
  exact h (by simpa using charParts_eq_nil hchars)

theorem parts_append (before after : String) :
    parts '/' (before ++ "/" ++ after) = parts '/' before ++ parts '/' after := by
  have hchars : (before ++ "/" ++ after).toList = before.toList ++ '/' :: after.toList := by simp
  rw [parts, hchars, charParts_append]
  simp [parts]

@[simp] theorem parts_slash_append (after : String) :
    parts '/' ("/" ++ after) = "" :: parts '/' after := by
  simpa using parts_append "" after

theorem not_mem_charParts (separator : Char) (chars : List Char) :
    separator ∉ (charParts separator chars).1 ∧
      ∀ other ∈ (charParts separator chars).2, separator ∉ other := by
  induction chars with
  | nil => exact ⟨List.not_mem_nil, fun other hother => nomatch hother⟩
  | cons c rest ih =>
      obtain ⟨hfirst, hothers⟩ := ih
      rw [charParts]
      split
      next first others heq =>
        rw [heq] at hfirst hothers
        split
        next => exact ⟨List.not_mem_nil, List.forall_mem_cons.mpr ⟨hfirst, hothers⟩⟩
        next hne =>
          rw [List.mem_cons, not_or]
          exact ⟨⟨fun h => hne h.symm, hfirst⟩, hothers⟩

theorem not_mem_of_mem_parts {s part : String} (h : part ∈ parts separator s) :
    separator ∉ part.toList := by
  obtain ⟨hfirst, hothers⟩ := not_mem_charParts separator s.toList
  obtain ⟨chars, hchars, rfl⟩ := List.mem_map.mp h
  rw [String.toList_ofList]
  rcases List.mem_cons.mp hchars with rfl | hchars
  · exact hfirst
  · exact hothers chars hchars

/-- Texts that are joined are taken apart again, if the separator is in none of them. -/
theorem parts_intercalate {part : String} {others : List String} (h : '/' ∉ part.toList)
    (hothers : ∀ other ∈ others, '/' ∉ other.toList) :
    parts '/' ("/".intercalate (part :: others)) = part :: others := by
  induction others generalizing part with
  | nil => simpa using parts_self h
  | cons other others ih =>
      obtain ⟨hother, hothers⟩ := List.forall_mem_cons.mp hothers
      rw [String.intercalate_cons_cons, parts_append, parts_self h, ih hother hothers]
      rfl

end Text

namespace PathComponent

@[simp] theorem ofPart?_empty : ofPart? "" = none := rfl

@[simp] theorem ofPart?_dot : ofPart? "." = none := rfl

theorem ofPart?_of_notMem {part : String} (h : part ∉ ["", ".", ".."]) :
    ofPart? part = some (.name part) := by
  simp only [List.mem_cons, List.not_mem_nil, or_false, not_or] at h
  simp [ofPart?, h]

/-- What a path starts with does not depend on what follows its first separator. -/
theorem start?_append {parts others others' : List String} (h : parts ≠ []) (hothers : others ≠ [])
    (hothers' : others' ≠ []) : start? (parts ++ others) = start? (parts ++ others') := by
  obtain ⟨first, rest, rfl⟩ := List.exists_cons_of_ne_nil h
  have hlong : ∀ {others : List String}, others ≠ [] → 0 < rest.length + others.length := by
    intro others hothers
    have hpos := List.length_pos_iff.mpr hothers
    omega
  simp [start?, hlong hothers, hlong hothers']

/-- Only of an empty path does a separator behind it make anything else. -/
theorem start?_append_singleton {parts : List String} (hnil : parts ≠ []) (hempty : parts ≠ [""]) :
    start? (parts ++ [""]) = start? parts := by
  obtain ⟨first, rest, rfl⟩ := List.exists_cons_of_ne_nil hnil
  cases rest with
  | nil =>
      have hfirst : first ≠ "" := fun h => hempty (by rw [h])
      simp [start?, hfirst]
  | cons _ _ => simp [start?]

end PathComponent

namespace PathKey
open PathComponent

theorem components_append (before after : String) :
    (ofText (before ++ "/" ++ after)).components =
      (ofText (before ++ "/")).components ++ (Text.parts '/' after).filterMap ofPart? := by
  have hparts : Text.parts '/' (before ++ "/") = Text.parts '/' before ++ [""] := by
    simpa using Text.parts_append before ""
  have hstart := start?_append (Text.parts_ne_nil '/' before) (Text.parts_ne_nil '/' after)
    (List.cons_ne_nil "" [])
  simp [ofText, hparts, Text.parts_append, hstart]

/-- The components of a path by those of its first part, if it starts with a name or with dots. -/
theorem components_of_parts {path first : String} {others : List String}
    (hparts : Text.parts '/' path = first :: others) (hfirst : first ≠ "") :
    (ofText path).components = (ofText first).components ++ others.filterMap ofPart? := by
  have hslash : '/' ∉ first.toList := Text.not_mem_of_mem_parts (hparts ▸ List.mem_cons_self)
  have hstart : start? (first :: others) = start? [first] := by simp [start?, hfirst]
  have hself : Text.parts '/' first = [first] := Text.parts_self hslash
  simp only [ofText, hparts, hself, hstart, List.append_assoc, ← List.filterMap_append,
    List.singleton_append]

/-- A separator at the end does not count. -/
theorem ofText_append_slash {path : String} (h : path ≠ "") :
    ofText (path ++ "/") = ofText path := by
  have hparts : Text.parts '/' (path ++ "/") = Text.parts '/' path ++ [""] := by
    simpa using Text.parts_append path ""
  have hstart := start?_append_singleton (Text.parts_ne_nil '/' path)
    (Text.parts_ne_singleton_empty h)
  simp [ofText, hparts, hstart]

/-- A repeated separator does not count. -/
theorem ofText_slash_slash (before after : String) :
    ofText (before ++ "/" ++ ("/" ++ after)) = ofText (before ++ "/" ++ after) := by
  have hcomponents := components_append before ("/" ++ after)
  rw [Text.parts_slash_append, List.filterMap_cons_none ofPart?_empty, ← components_append]
    at hcomponents
  exact PathKey.ext hcomponents

/-- A dot between separators does not count. -/
theorem ofText_slash_dot (before after : String) :
    ofText (before ++ "/" ++ ("." ++ "/" ++ after)) = ofText (before ++ "/" ++ after) := by
  have hcomponents := components_append before ("." ++ "/" ++ after)
  have hdot : Text.parts '/' ("." ++ "/" ++ after) = "." :: Text.parts '/' after := by
    rw [Text.parts_append]
    rfl
  rw [hdot, List.filterMap_cons_none ofPart?_dot, ← components_append] at hcomponents
  exact PathKey.ext hcomponents

example : ofText "@/./s.json/" = ofText "@//s.json" := by decide +kernel

example : ofText "./s.json" ≠ ofText "s.json" := by decide +kernel

end PathKey

end NamedSchema
