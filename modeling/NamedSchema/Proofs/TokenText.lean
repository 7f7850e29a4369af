import Mathlib.Data.List.Forall2
import NamedSchema.Proofs.Lexemes

/-!
# The tokens of written values

A value without fractions is written so that cutting its text gives back the tokens it consists of.
The compact and the indented text of a value differ in blanks only, so they have the same tokens.
-/
namespace NamedSchema.Json

section Kinds

/-- Tokens of several parts, with a comma before each but the first of a container. -/
def separated (first : Bool) : List (List TokenKind) → List TokenKind
  | [] => []
  | kinds :: rest => (if first then kinds else .comma :: kinds) ++ separated false rest

mutual

def kinds : Json → List TokenKind
  | null => [.null]
  | bool b => [.bool b]
  | num n => [.number (.ok n)]
  | str s => [.string (.ok s)]
  | arr items => .openArray :: (separated true (itemKinds items) ++ [.closeArray])
  | obj members => .openObject :: (separated true (memberKinds members) ++ [.closeObject])

def itemKinds : List Json → List (List TokenKind)
  | [] => []
  | v :: rest => v.kinds :: itemKinds rest

def memberKinds : List (String × Json) → List (List TokenKind)
  | [] => []
  | (key, v) :: rest => (.string (.ok key) :: .colon :: v.kinds) :: memberKinds rest

end

/-- Values whose numbers are integers between zero and the largest of 64 bits. -/
inductive Plain : Json → Prop
  | null : Plain .null
  | bool (b : Bool) : Plain (.bool b)
  | count {n : Nat} (h : n < 2 ^ 64) : Plain (.num (.int n))
  | str (s : String) : Plain (.str s)
  | arr {items : List Json} (h : ∀ v ∈ items, Plain v) : Plain (.arr items)
  | obj {members : List (String × Json)} (h : ∀ m ∈ members, Plain m.2) : Plain (.obj members)

end Kinds

section Values
variable {c c' : Char} {kind kind' : TokenKind} {texts : List (List Char)}
  {parts : List (List TokenKind)}

theorem compactItems_eq_map (items : List Json) : compactItems items = items.map compact := by
  induction items with
  | nil => rw [compactItems, List.map_nil]
  | cons v rest ih => rw [compactItems, ih, List.map_cons]

theorem compactMembers_eq_map (members : List (String × Json)) :
    compactMembers members = members.map fun m => quote m.1 ++ ":" ++ compact m.2 := by
  induction members with
  | nil => rw [compactMembers, List.map_nil]
  | cons m rest ih => rw [compactMembers, ih, List.map_cons]

theorem prettyItems_eq_map (margin : String) (items : List Json) :
    prettyItems margin items = items.map (prettyAt margin) := by
  induction items with
  | nil => rw [prettyItems, List.map_nil]
  | cons v rest ih => rw [prettyItems, ih, List.map_cons]

theorem prettyMembers_eq_map (margin : String) (members : List (String × Json)) :
    prettyMembers margin members =
      members.map fun m => quote m.1 ++ ": " ++ prettyAt margin m.2 := by
  induction members with
  | nil => rw [prettyMembers, List.map_nil]
  | cons m rest ih => rw [prettyMembers, ih, List.map_cons]

@[simp] theorem itemKinds_eq_map (items : List Json) : itemKinds items = items.map Json.kinds := by
  induction items with
  | nil => rw [itemKinds, List.map_nil]
  | cons v rest ih => rw [itemKinds, ih, List.map_cons]

@[simp] theorem memberKinds_eq_map (members : List (String × Json)) :
    memberKinds members =
      members.map fun m => .string (.ok m.1) :: .colon :: m.2.kinds := by
  induction members with
  | nil => rw [memberKinds, List.map_nil]
  | cons m rest ih => rw [memberKinds, ih, List.map_cons]

/-- Parts with commas between them have the tokens of the parts and of the commas. -/
theorem lexes_flatMap (h : List.Forall₂ Lexes texts parts) :
    Lexes (texts.flatMap (',' :: ·)) (separated false parts) ∧
      EndsNumber (texts.flatMap (',' :: ·)) := by
  induction h with
  | nil => exact ⟨lexes_nil, fun c hc => nomatch hc⟩
  | cons htext _ ih =>
      refine ⟨?_, Sign.comma.endsNumber⟩
      exact (Sign.comma.lexes_cons htext).append ih.1 ih.2

theorem intercalate_comma (text : List Char) (texts : List (List Char)) :
    [','].intercalate (text :: texts) = text ++ texts.flatMap (',' :: ·) := by
  induction texts generalizing text with
  | nil => simp
  | cons next texts ih => simp [List.intercalate_cons_cons, ih]

theorem lexes_intercalate (h : List.Forall₂ Lexes texts parts) :
    Lexes ([','].intercalate texts) (separated true parts) := by
  cases h with
  | nil => exact lexes_nil
  | cons htext htexts =>
      rw [intercalate_comma]
      obtain ⟨hlexes, hends⟩ := lexes_flatMap htexts
      exact htext.append hlexes hends

theorem Blank.append {margin margin' : List Char} (h : Blank margin) (h' : Blank margin') :
    Blank (margin ++ margin') := by
  intro c hc
  rcases List.mem_append.mp hc with hc | hc
  · exact h c hc
  · exact h' c hc

def indented (margin line : String) : String := "\n" ++ margin ++ "  " ++ line

theorem forall₂_lexes_map {α : Type} {f : α → String} {g : α → List TokenKind} {xs : List α}
    (h : ∀ x ∈ xs, Lexes (f x).toList (g x)) :
    List.Forall₂ Lexes ((xs.map f).map String.toList) (xs.map g) := by
  rw [List.map_map, List.forall₂_map_left_iff, List.forall₂_map_right_iff, List.forall₂_same]
  exact h

/-- A key, a colon and a value, with blanks in front of the value. -/
theorem lexes_member (key : String) {text : String} {sep : List Char} {v : Json}
    (hsep : Blank sep) (h : Lexes text.toList v.kinds) :
    Lexes ((quote key).toList ++ ':' :: (sep ++ text.toList))
      (.string (.ok key) :: .colon :: v.kinds) :=
  (lexes_quote key).append (Sign.colon.lexes_cons (h.indent hsep)) Sign.colon.endsNumber

section Brackets
variable {opening closing margin : String} {lines : List String}
  (hopening : opening.toList = [c]) (hclosing : closing.toList = [c']) (hc : Sign c kind)
  (hc' : Sign c' kind') (h : List.Forall₂ Lexes (lines.map String.toList) parts)
include hopening hclosing hc hc' h

/-- Parts between brackets, on one line. -/
theorem lexes_brackets :
    Lexes (opening ++ ",".intercalate lines ++ closing).toList
      (kind :: (separated true parts ++ [kind'])) := by
  have htext : (opening ++ ",".intercalate lines ++ closing).toList =
      c :: ([','].intercalate (lines.map String.toList) ++ [c']) := by
    simp [String.toList_intercalate, hopening, hclosing]
  rw [htext]
  exact hc.lexes_cons ((lexes_intercalate h).append hc'.lexes hc'.endsNumber)

/-- Parts between brackets, with a line for each part and one for the closing bracket. -/
theorem lexes_block (hmargin : Blank margin.toList) :
    Lexes (block opening closing margin lines).toList
      (kind :: (separated true parts ++ [kind'])) := by
  have hbreak : Blank ('\n' :: margin.toList) := by
    intro d hd
    rcases List.mem_cons.mp hd with rfl | hd
    · rfl
    · exact hmargin d hd
  have hindented : List.Forall₂ Lexes ((lines.map (indented margin)).map String.toList) parts := by
    rw [List.map_map, List.forall₂_map_left_iff]
    rw [List.forall₂_map_left_iff] at h
    refine h.imp fun line part hline => ?_
    have hspaces : Blank [' ', ' '] := by decide
    have hline := hline.indent (hbreak.append hspaces)
    simpa [indented] using hline
  cases lines with
  | nil =>
      -- An empty block has no line breaks either.
      cases h
      have htext : (block opening closing margin []).toList = [c, c'] := by
        simp [block, hopening, hclosing]
      rw [htext]
      exact hc.lexes_cons hc'.lexes
  | cons line lines =>
      have htext : (block opening closing margin (line :: lines)).toList =
          c :: ([','].intercalate (((line :: lines).map (indented margin)).map String.toList) ++
            (('\n' :: margin.toList) ++ [c'])) := by
        simp only [block, String.toList_append, String.toList_intercalate, hopening, hclosing]
        simp [indented, Function.comp_def]
      rw [htext]
      refine hc.lexes_cons ((lexes_intercalate hindented).append (hc'.lexes.indent hbreak) ?_)
      exact endsNumber_of_blank rfl

end Brackets

theorem lexes_compact {v : Json} (h : Plain v) : Lexes v.compact.toList v.kinds := by
  induction h with
  | null =>
      rw [compact, Json.kinds]
      exact lexes_null
  | bool b =>
      cases b with
      | true =>
          rw [compact, Json.kinds]
          exact lexes_true
      | false =>
          rw [compact, Json.kinds]
          exact lexes_false
  | count h =>
      rw [compact, Json.kinds]
      exact lexes_count h
  | str s =>
      rw [compact, Json.kinds]
      exact lexes_quote s
  | arr _ ih =>
      rw [compact, Json.kinds, compactItems_eq_map, itemKinds_eq_map]
      exact lexes_brackets rfl rfl .openArray .closeArray (forall₂_lexes_map ih)
  | obj _ ih =>
      rw [compact, Json.kinds, compactMembers_eq_map, memberKinds_eq_map]
      refine lexes_brackets rfl rfl .openObject .closeObject (forall₂_lexes_map fun m hm => ?_)
      have hnone : Blank [] := by decide
      have hmember := lexes_member m.1 hnone (ih m hm)
      simpa using hmember

theorem blank_deeper {margin : String} (h : Blank margin.toList) :
    Blank (margin ++ "  ").toList := by
  rw [String.toList_append]
  exact h.append (by decide)

theorem lexes_prettyAt {v : Json} (h : Plain v) (margin : String) (hmargin : Blank margin.toList) :
    Lexes (prettyAt margin v).toList v.kinds := by
  induction h generalizing margin with
  | null =>
      rw [prettyAt, Json.kinds]
      exact lexes_null
  | bool b =>
      rw [prettyAt]
      exact lexes_compact (.bool b)
  | count h =>
      rw [prettyAt, Json.kinds]
      exact lexes_count h
  | str s =>
      rw [prettyAt, Json.kinds]
      exact lexes_quote s
  | arr _ ih =>
      have hitems := forall₂_lexes_map fun v hv => ih v hv _ (blank_deeper hmargin)
      rw [prettyAt, Json.kinds, prettyItems_eq_map, itemKinds_eq_map]
      exact lexes_block rfl rfl .openArray .closeArray hitems hmargin
  | obj _ ih =>
      rw [prettyAt, Json.kinds, prettyMembers_eq_map, memberKinds_eq_map]
      refine lexes_block rfl rfl .openObject .closeObject (forall₂_lexes_map fun m hm => ?_) hmargin
      have hspace : Blank [' '] := by decide
      have hmember := lexes_member m.1 hspace (ih m hm _ (blank_deeper hmargin))
      simpa using hmember

/-- A text that is a value's in either form. -/
def Writes (text : String) (v : Json) : Prop := text = v.compact ∨ text = v.pretty

theorem tokens_of_writes {v : Json} {text : String} (hv : Plain v) (h : Writes text v) :
    (tokens text).map Token.kind = v.kinds ++ [.done] := by
  have hlexes : Lexes text.toList v.kinds := by
    cases h with
    | inl hcompact => exact hcompact ▸ lexes_compact hv
    | inr hpretty => exact hpretty ▸ lexes_prettyAt hv "" nofun
  have hcuts := hlexes [] [.done] nofun cuts_nil
  rw [List.append_nil] at hcuts
  exact hcuts _ _ (Nat.lt_succ_self _)

end Values

end NamedSchema.Json
