import NamedSchema.Proofs.DistinctKeys
import NamedSchema.Proofs.Places

/-!
# Places and their texts

The text of a place tells the steps that lead to it, if the keys on the way are not empty and hold
neither a slash nor an opening bracket. Such a key ends where the next step begins, and an index
ends at its closing bracket; so the steps are read off the text from left to right. Only the first
step is written in its own way, since no slash is added at the root.
-/
namespace NamedSchema

/-- A key that a path shows as it is: it is not empty, and nothing in it begins another step. -/
def OrdinaryKey (key : String) : Prop := key ≠ "" ∧ '/' ∉ key.toList ∧ '[' ∉ key.toList

def OrdinaryKeys (steps : List PathStep) : Prop := ∀ k, PathStep.key k ∈ steps → OrdinaryKey k

namespace OrdinaryKeys
variable {next : PathStep} {rest : List PathStep} {k : String}

theorem head (h : OrdinaryKeys (.key k :: rest)) : OrdinaryKey k := h k List.mem_cons_self

theorem cons_key (hk : OrdinaryKey k) (h : OrdinaryKeys rest) : OrdinaryKeys (.key k :: rest) := by
  intro k' hmem
  rcases List.mem_cons.mp hmem with heq | hrest
  · cases heq
    exact hk
  · exact h k' hrest

theorem cons_index {i : Nat} (h : OrdinaryKeys rest) : OrdinaryKeys (.index i :: rest) := by
  intro k hmem
  rcases List.mem_cons.mp hmem with heq | hrest
  · cases heq
  · exact h k hrest

theorem of_cons (h : OrdinaryKeys (next :: rest)) : OrdinaryKeys rest :=
  fun k hmem => h k (List.mem_cons_of_mem _ hmem)

end OrdinaryKeys

section Words
variable {p : Char → Bool} {word word' rest rest' : List Char}

theorem takeWhile_append_of_stop (hword : ∀ c ∈ word, p c = true)
    (hrest : ∀ c ∈ rest.head?, p c = false) : (word ++ rest).takeWhile p = word := by
  rw [List.takeWhile_append_of_pos hword]
  cases rest with
  | nil => rw [List.takeWhile_nil, List.append_nil]
  | cons c rest =>
      have hc : p c = false := hrest c rfl
      rw [List.takeWhile_cons_of_neg (by rw [hc]; exact Bool.false_ne_true), List.append_nil]

theorem append_inj_of_stop (hword : ∀ c ∈ word, p c = true) (hword' : ∀ c ∈ word', p c = true)
    (hrest : ∀ c ∈ rest.head?, p c = false) (hrest' : ∀ c ∈ rest'.head?, p c = false)
    (h : word ++ rest = word' ++ rest') : word = word' ∧ rest = rest' := by
  have hsame : word = word' := by
    rw [← takeWhile_append_of_stop hword hrest, h, takeWhile_append_of_stop hword' hrest']
  subst hsame
  exact ⟨rfl, List.append_cancel_left h⟩

end Words

namespace PathStep

def label : PathStep → List Char
  | .key k => k.toList
  | .index i => '[' :: Nat.toDigits 10 i ++ [']']

def suffix : PathStep → List Char
  | .key k => '/' :: label (.key k)
  | .index i => label (.index i)

/-- Whether no step begins with a character. -/
def plain (c : Char) : Bool := c ≠ '/' && c ≠ '['

variable {k k' : String} {i i' : Nat} {next next' : PathStep} {first second : List PathStep}
  {rest rest' : List Char}

/-- Behind a step stands nothing, or what begins another step. -/
theorem plain_head?_suffixes (steps : List PathStep) :
    ∀ c ∈ (steps.flatMap suffix).head?, plain c = false := by
  cases steps with
  | nil => nofun
  | cons next rest =>
      intro c hc
      cases next with
      | key k =>
          cases Option.mem_some.mp hc
          rfl
      | index i =>
          cases Option.mem_some.mp hc
          rfl

theorem plain_of_ordinary (h : OrdinaryKey k) : ∀ c ∈ k.toList, plain c = true := by
  intro c hc
  have hslash : c ≠ '/' := fun heq => h.2.1 (heq ▸ hc)
  have hbracket : c ≠ '[' := fun heq => h.2.2 (heq ▸ hc)
  simp [plain, hslash, hbracket]

theorem key_append_inj (h : OrdinaryKey k) (h' : OrdinaryKey k')
    (heq : k.toList ++ first.flatMap suffix = k'.toList ++ second.flatMap suffix) :
    k = k' ∧ first.flatMap suffix = second.flatMap suffix := by
  obtain ⟨hkey, hrest⟩ := append_inj_of_stop (plain_of_ordinary h) (plain_of_ordinary h')
    (plain_head?_suffixes first) (plain_head?_suffixes second) heq
  exact ⟨String.toList_inj.mp hkey, hrest⟩

/-- An index ends at its closing bracket, which is no digit. -/
theorem index_append_inj (heq : label (.index i) ++ rest = label (.index i') ++ rest') :
    i = i' ∧ rest = rest' := by
  have hdigit : ∀ {n : Nat}, ∀ c ∈ Nat.toDigits 10 n, c.isDigit = true :=
    fun c hc => Nat.isDigit_of_mem_toDigits (by decide) (by decide) hc
  have hstop : ∀ {rest : List Char}, ∀ c ∈ (']' :: rest).head?, c.isDigit = false := by
    intro rest c hc
    cases hc
    rfl
  simp only [label, List.cons_append, List.append_assoc, List.nil_append] at heq
  obtain ⟨hdigits, hrest⟩ :=
    append_inj_of_stop hdigit hdigit hstop hstop (List.cons_eq_cons.mp heq).2
  have hindex : i = i' :=
    calc
      i = Nat.ofDigitChars 10 (Nat.toDigits 10 i) 0 := Nat.ofDigitChars_ten_toDigits.symm
      _ = Nat.ofDigitChars 10 (Nat.toDigits 10 i') 0 := by rw [hdigits]
      _ = i' := Nat.ofDigitChars_ten_toDigits
  exact ⟨hindex, (List.cons_eq_cons.mp hrest).2⟩

theorem label_ne_nil (h : OrdinaryKeys (next :: first)) : next.label ≠ [] := by
  cases next with
  | key k => exact fun hnil => h.head.1 (String.toList_eq_nil_iff.mp hnil)
  | index i => exact List.cons_ne_nil _ _

/-- No ordinary key is taken for an index. -/
theorem key_append_ne_index (h : OrdinaryKey k) : k.toList ++ rest ≠ label (.index i) ++ rest' := by
  intro heq
  cases hkey : k.toList with
  | nil => exact h.1 (String.toList_eq_nil_iff.mp hkey)
  | cons c cs =>
      rw [hkey] at heq
      have hc : c = '[' := (List.cons_eq_cons.mp heq).1
      exact h.2.2 (hkey ▸ hc ▸ List.mem_cons_self)

/-- The first of some ordinary steps is read off what is written of them at the root. -/
theorem label_append_inj (hfirst : OrdinaryKeys (next :: first))
    (hsecond : OrdinaryKeys (next' :: second))
    (h : next.label ++ first.flatMap suffix = next'.label ++ second.flatMap suffix) :
    next = next' ∧ first.flatMap suffix = second.flatMap suffix := by
  cases next with
  | key k =>
      cases next' with
      | key k' =>
          obtain ⟨rfl, hrest⟩ := key_append_inj hfirst.head hsecond.head h
          exact ⟨rfl, hrest⟩
      | index i' => exact (key_append_ne_index hfirst.head h).elim
  | index i =>
      cases next' with
      | key k' => exact (key_append_ne_index hsecond.head h.symm).elim
      | index i' =>
          obtain ⟨rfl, hrest⟩ := index_append_inj h
          exact ⟨rfl, hrest⟩

/-- Behind a place it stands the same way, since a slash is in front of keys only. -/
theorem label_append_eq_of_suffix (h : next.suffix ++ rest = next'.suffix ++ rest') :
    next.label ++ rest = next'.label ++ rest' := by
  cases next with
  | key k =>
      cases next' with
      | key k' => exact (List.cons_eq_cons.mp h).2
      | index i' => cases h
  | index i =>
      cases next' with
      | key k' => cases h
      | index i' => exact h

theorem flatMap_suffix_inj (hfirst : OrdinaryKeys first) (hsecond : OrdinaryKeys second)
    (h : first.flatMap suffix = second.flatMap suffix) : first = second := by
  induction first generalizing second with
  | nil =>
      cases second with
      | nil => rfl
      | cons next' _ => cases next' <;> cases h
  | cons next rest ih =>
      cases second with
      | nil => cases next <;> cases h
      | cons next' rest' =>
          rw [List.flatMap_cons, List.flatMap_cons] at h
          obtain ⟨rfl, hrest⟩ := label_append_inj hfirst hsecond (label_append_eq_of_suffix h)
          rw [ih hfirst.of_cons hsecond.of_cons hrest]

end PathStep

namespace Path
variable {path : Path}

theorem toList_text_step (h : path.text ≠ rootText) (next : PathStep) :
    (path.step next).text.toList = path.text.toList ++ next.suffix := by
  cases next with
  | key k =>
      rw [step, text, memberText, if_neg h, String.toList_append, String.toList_append]
      simp [PathStep.suffix, PathStep.label]
  | index i => simp [step, text, entryText, PathStep.suffix, PathStep.label]

theorem toList_text_root_step (next : PathStep) :
    (root.step next).text.toList = '/' :: next.label := by
  cases next with
  | key k => simp [step, text, memberText, root, rootText, PathStep.label]
  | index i => simp [step, text, entryText, root, rootText, PathStep.label]

theorem toList_text_along (h : 1 < path.text.length) (steps : List PathStep) :
    (path.along steps).text.toList = path.text.toList ++ steps.flatMap PathStep.suffix := by
  -- Places only get longer, so that none on the way is the root, where a key adds no slash.
  induction steps generalizing path with
  | nil => exact (List.append_nil _).symm
  | cons next rest ih =>
      have hroot : path.text ≠ rootText := by
        intro heq
        rw [heq] at h
        exact absurd h (by decide)
      have hstep := toList_text_step hroot next
      have hlong : 1 < (path.step next).text.length := by
        rw [← String.length_toList, hstep, List.length_append, String.length_toList]
        omega
      change ((path.step next).along rest).text.toList = _
      rw [ih hlong, hstep, List.flatMap_cons, List.append_assoc]

theorem toList_text_root_along {next : PathStep} {rest : List PathStep}
    (h : OrdinaryKeys (next :: rest)) :
    (root.along (next :: rest)).text.toList =
      '/' :: next.label ++ rest.flatMap PathStep.suffix := by
  have hstep := toList_text_root_step next
  have hlong : 1 < (root.step next).text.length := by
    rw [← String.length_toList, hstep, List.length_cons, Nat.lt_add_left_iff_pos]
    exact List.length_pos_of_ne_nil (PathStep.label_ne_nil h)
  change ((root.step next).along rest).text.toList = _
  rw [toList_text_along hlong, hstep]

theorem text_root_along_ne_rootText {next : PathStep} {rest : List PathStep}
    (h : OrdinaryKeys (next :: rest)) : (root.along (next :: rest)).text ≠ rootText := by
  intro heq
  have hchars := toList_text_root_along h
  rw [heq] at hchars
  exact List.append_ne_nil_of_left_ne_nil (PathStep.label_ne_nil h) _
    (List.cons_eq_cons.mp hchars).2.symm

/-- Ordinary steps are read off the text of the place that they lead to. -/
theorem eq_of_text_root_along {first second : List PathStep} (hfirst : OrdinaryKeys first)
    (hsecond : OrdinaryKeys second) (h : (root.along first).text = (root.along second).text) :
    first = second := by
  cases first with
  | nil =>
      cases second with
      | nil => rfl
      | cons next' rest' => exact (text_root_along_ne_rootText hsecond h.symm).elim
  | cons next rest =>
      cases second with
      | nil => exact (text_root_along_ne_rootText hfirst h).elim
      | cons next' rest' =>
          have hchars := congrArg String.toList h
          rw [toList_text_root_along hfirst, toList_text_root_along hsecond] at hchars
          obtain ⟨rfl, hrest⟩ :=
            PathStep.label_append_inj hfirst hsecond (List.cons_eq_cons.mp hchars).2
          rw [PathStep.flatMap_suffix_inj hfirst.of_cons hsecond.of_cons hrest]

end Path

namespace Json

inductive KeysOrdinary : Json → Prop
  | null : KeysOrdinary .null
  | bool (b : Bool) : KeysOrdinary (.bool b)
  | num (n : JsonNumber) : KeysOrdinary (.num n)
  | str (s : String) : KeysOrdinary (.str s)
  | arr {items : List Json} (hitems : ∀ v ∈ items, KeysOrdinary v) : KeysOrdinary (.arr items)
  | obj {members : List (String × Json)} (hkeys : ∀ m ∈ members, OrdinaryKey m.1)
      (hmembers : ∀ m ∈ members, KeysOrdinary m.2) : KeysOrdinary (.obj members)

variable {v child child' part part' : Json} {next : PathStep} {steps : List PathStep}

theorem KeysOrdinary.of_reaches (hv : v.KeysOrdinary) (h : v.Reaches steps part) :
    OrdinaryKeys steps := by
  induction h with
  | here => nofun
  | onward hnext _ ih =>
      cases hnext with
      | member hmem =>
          cases hv with
          | obj hkeys hmembers => exact .cons_key (hkeys _ hmem) (ih (hmembers _ hmem))
      | item hitem =>
          cases hv with
          | arr hitems => exact .cons_index (ih (hitems _ (List.mem_of_getElem? hitem)))

theorem Child.keysDistinct (h : Child next v child) (hv : v.KeysDistinct) : child.KeysDistinct := by
  cases h with
  | member hmem => exact (keysDistinct_obj_iff.mp hv).2 _ hmem
  | item hitem => exact keysDistinct_arr_iff.mp hv _ (List.mem_of_getElem? hitem)

theorem Child.unique (h : Child next v child) (h' : Child next v child') (hv : v.KeysDistinct) :
    child = child' := by
  cases h with
  | member hmem =>
      cases h' with
      | member hmem' =>
          have hkeys := (keysDistinct_obj_iff.mp hv).1
          have hlookup := (lookup_eq_some_iff hkeys).mpr hmem
          rw [(lookup_eq_some_iff hkeys).mpr hmem'] at hlookup
          exact (Option.some.inj hlookup).symm
  | item hitem =>
      cases h' with
      | item hitem' => exact Option.some.inj (hitem.symm.trans hitem')

theorem Reaches.unique (h : v.Reaches steps part) (h' : v.Reaches steps part')
    (hv : v.KeysDistinct) : part = part' := by
  induction h with
  | here =>
      cases h'
      rfl
  | onward hnext _ ih =>
      cases h' with
      | onward hnext' hrest' =>
          cases hnext.unique hnext' hv
          exact ih hrest' (hnext.keysDistinct hv)

end Json

/-- Steps with ordinary keys are the same if they have one text as a path from the root. So within
a document whose keys are ordinary no two places have one path, and if no object repeats a key, no
two parts have. -/
theorem ordinary_paths_unambiguous :
    (∀ first second, OrdinaryKeys first → OrdinaryKeys second →
      (Path.root.along first).text = (Path.root.along second).text → first = second) ∧
    ∀ document : Json, document.KeysOrdinary → ∀ first second part part',
      document.Reaches first part → document.Reaches second part' →
      (Path.root.along first).text = (Path.root.along second).text →
        first = second ∧ (document.KeysDistinct → part = part') := by
  refine ⟨fun first second => Path.eq_of_text_root_along, ?_⟩
  intro document hkeys first second part part' hfirst hsecond htext
  obtain rfl :=
    Path.eq_of_text_root_along (hkeys.of_reaches hfirst) (hkeys.of_reaches hsecond) htext
  exact ⟨rfl, hfirst.unique hsecond⟩

/-- No other steps have the path of the second cell in the first row of a grid. -/
theorem ordinary_paths_unambiguous_grid :
    let grid : Json := .obj [("grid", .arr [.arr [.bool true, .bool false]])]
    let cell : List PathStep := [.key "grid", .index 0, .index 1]
    OrdinaryKeys cell ∧ grid.KeysOrdinary ∧ grid.KeysDistinct ∧ grid.Reaches cell (.bool false) ∧
      (Path.root.along cell).text = "/grid[0][1]" ∧
      (∀ steps, OrdinaryKeys steps → (Path.root.along steps).text = "/grid[0][1]" →
        steps = cell) ∧
      ∀ steps part, grid.Reaches steps part → (Path.root.along steps).text = "/grid[0][1]" →
        steps = cell ∧ part = .bool false := by
  intro grid cell
  have hkey : OrdinaryKey "grid" := ⟨by decide, by decide, by decide⟩
  have hordinary : grid.KeysOrdinary := by
    refine .obj (List.forall_mem_singleton.mpr hkey) (List.forall_mem_singleton.mpr (.arr ?_))
    refine List.forall_mem_singleton.mpr (.arr ?_)
    exact List.forall_mem_cons.mpr ⟨.bool true, List.forall_mem_singleton.mpr (.bool false)⟩
  have hdistinct : grid.KeysDistinct := by simp [grid, Json.keys]
  have hreaches : grid.Reaches cell (.bool false) :=
    .onward (.member List.mem_cons_self) (.onward (.item rfl) (.onward (.item rfl) .here))
  have htext : (Path.root.along cell).text = "/grid[0][1]" := by decide
  have hcell : OrdinaryKeys cell := hordinary.of_reaches hreaches
  refine ⟨hcell, hordinary, hdistinct, hreaches, htext, ?_, ?_⟩
  · intro steps hsteps hsame
    exact ordinary_paths_unambiguous.1 steps cell hsteps hcell (hsame.trans htext.symm)
  · intro steps part hsteps hsame
    obtain ⟨rfl, hpart⟩ := ordinary_paths_unambiguous.2 grid hordinary steps cell part (.bool false)
      hsteps hreaches (hsame.trans htext.symm)
    exact ⟨rfl, hpart hdistinct⟩

/-- A key that holds a slash is taken for two. -/
example : (Path.root.along [.key "a/b"]).text = (Path.root.along [.key "a", .key "b"]).text := by
  decide

end NamedSchema
