import NamedSchema.Json.Decoder
import NamedSchema.Proofs.TokenText

/-!
# Reading written values into types

A decoder decodes a value into a result if, started at the tokens of the value, it gives the result
and leaves what follows, however deep containers may be opened beyond those of the value. Decoders
of lists inherit this from those of their elements, and the decoder of a structure from those of its
fields: a member fills its field in the draft, and what is left out leaves the draft as it was.
-/
namespace NamedSchema.Json

section Nesting

mutual

/-- How many containers of a value are open at once where it is deepest. -/
def nesting : Json → Nat
  | arr items => itemsNesting items + 1
  | obj members => membersNesting members + 1
  | _ => 0

def itemsNesting : List Json → Nat
  | [] => 0
  | v :: rest => max v.nesting (itemsNesting rest)

def membersNesting : List (String × Json) → Nat
  | [] => 0
  | (_, v) :: rest => max v.nesting (membersNesting rest)

end

theorem nesting_lt_of_mem_items {items : List Json} {v : Json} (h : v ∈ items) :
    v.nesting < (arr items).nesting := by
  rw [nesting]
  induction items with
  | nil => cases h
  | cons first rest ih =>
      rw [itemsNesting]
      rcases List.mem_cons.mp h with rfl | hrest
      · omega
      · have hlt := ih hrest
        omega

theorem nesting_lt_of_mem_members {members : List (String × Json)} {m : String × Json}
    (h : m ∈ members) : m.2.nesting < (obj members).nesting := by
  rw [nesting]
  induction members with
  | nil => cases h
  | cons first rest ih =>
      rw [membersNesting]
      rcases List.mem_cons.mp h with rfl | hrest
      · omega
      · have hlt := ih hrest
        omega

end Nesting

section Decoders
variable {σ α : Type} {d : Decoder α} {v : Json} {x : α}

/-- At the tokens of a value the decoder gives the result and leaves what follows, if the containers
of the value may be opened. -/
def Decodes (d : Decoder α) (v : Json) (x : α) : Prop :=
  ∀ depth ts rest, v.nesting ≤ depth → ts.map Token.kind = v.kinds →
    d depth (ts ++ rest) = .ok (x, rest)

/-- The kinds of tokens with which a value starts. -/
def TokenKind.opensValue : TokenKind → Bool
  | .null | .bool _ | .number _ | .string _ | .openArray | .openObject => true
  | _ => false

theorem exists_kinds_eq_cons (v : Json) :
    ∃ kind rest, v.kinds = kind :: rest ∧ kind.opensValue = true := by
  cases v <;> exact ⟨_, _, by rw [kinds], rfl⟩

theorem decodes_bool (b : Bool) : Decodes decodeBool (.bool b) b := by
  intro depth ts rest _ hts
  rw [kinds, List.map_eq_singleton_iff] at hts
  obtain ⟨t, rfl, ht⟩ := hts
  simp [decodeBool, ht]

theorem decodes_string (s : String) : Decodes decodeString (.str s) s := by
  intro depth ts rest _ hts
  rw [kinds, List.map_eq_singleton_iff] at hts
  obtain ⟨t, rfl, ht⟩ := hts
  simp [decodeString, ht]

theorem decodes_count (n : Nat) : Decodes decodeCount (.num (.int n)) n := by
  intro depth ts rest _ hts
  rw [kinds, List.map_eq_singleton_iff] at hts
  obtain ⟨t, rfl, ht⟩ := hts
  simp [decodeCount, ht]

theorem decodes_none (d : Decoder α) : Decodes (decodeOption d) .null none := by
  intro depth ts rest _ hts
  rw [kinds, List.map_eq_singleton_iff] at hts
  obtain ⟨t, rfl, ht⟩ := hts
  simp [decodeOption, ht]

theorem Decodes.some (h : Decodes d v x) (hv : v.isNull = false) :
    Decodes (decodeOption d) v (some x) := by
  intro depth ts rest hdepth hts
  have hread := h depth ts rest hdepth hts
  cases ts with
  | nil =>
      obtain ⟨kind, tail, hkinds, _⟩ := exists_kinds_eq_cons v
      rw [hkinds] at hts
      cases hts
  | cons t ts =>
      have hplain : decodeOption d depth (t :: (ts ++ rest)) =
          (d depth (t :: (ts ++ rest))).map fun read => (Option.some read.1, read.2) := by
        rw [List.map_cons] at hts
        cases v with
        | null => cases hv
        | _ =>
            rw [kinds] at hts
            have ht := (List.cons.inj hts).1
            simp [decodeOption, ht]
      rw [List.cons_append, hplain, ← List.cons_append, hread]
      rfl

theorem nextElement?_first {t : Token} {ts : List Token} (ht : t.kind.opensValue = true) :
    nextElement? true (t :: ts) = .ok (true, t :: ts) := by
  unfold nextElement?
  cases hkind : t.kind <;> simp [hkind, TokenKind.opensValue] at ht ⊢

theorem nextElement?_comma {comma t : Token} {ts : List Token} (hcomma : comma.kind = .comma)
    (ht : t.kind.opensValue = true) :
    nextElement? false (comma :: t :: ts) = .ok (true, t :: ts) := by
  unfold nextElement?
  simp only [hcomma]
  cases hkind : t.kind <;> simp [hkind, TokenKind.opensValue] at ht ⊢

/-- Where an element is next, the comma before it is taken off. -/
theorem nextElement?_eq {first : Bool} {ts : List Token}
    (hts : ts.map Token.kind = if first then v.kinds else .comma :: v.kinds) :
    ∃ us, us.map Token.kind = v.kinds ∧ us.length ≤ ts.length ∧ us ≠ [] ∧
      ∀ rest, nextElement? first (ts ++ rest) = .ok (true, us ++ rest) := by
  obtain ⟨kind, tail, hkinds, hopens⟩ := exists_kinds_eq_cons v
  rw [hkinds] at hts ⊢
  cases first with
  | true =>
      obtain ⟨t, us, rfl, rfl, hus⟩ := List.map_eq_cons_iff.mp hts
      refine ⟨t :: us, hts, Nat.le_refl _, List.cons_ne_nil t us, fun rest => ?_⟩
      exact nextElement?_first hopens
  | false =>
      obtain ⟨comma, ts, rfl, hcomma, hts⟩ := List.map_eq_cons_iff.mp hts
      obtain ⟨t, us, rfl, rfl, hus⟩ := List.map_eq_cons_iff.mp hts
      refine ⟨t :: us, hts, by simp, List.cons_ne_nil t us, fun rest => ?_⟩
      exact nextElement?_comma hcomma hopens

theorem nextElement?_close {first : Bool} {t : Token} {rest : List Token}
    (ht : t.kind = .closeArray) : nextElement? first (t :: rest) = .ok (false, t :: rest) := by
  unfold nextElement?
  simp only [ht]

theorem decodeItems_eq {values : List Json} {xs : List α}
    (h : List.Forall₂ (Decodes d) values xs) (depth : Nat)
    (hdepth : ∀ v ∈ values, v.nesting ≤ depth) (fuel : Nat) (first : Bool) (ts rest : List Token)
    (hfuel : ts.length ≤ fuel)
    (hts : ts.map Token.kind = separated first (values.map kinds) ++ [.closeArray]) :
    decodeItems d depth fuel first (ts ++ rest) = .ok (xs, rest) := by
  induction h generalizing fuel first ts with
  | nil =>
      rw [List.map_nil, separated, List.nil_append, List.map_eq_singleton_iff] at hts
      obtain ⟨t, rfl, ht⟩ := hts
      cases fuel with
      | zero => cases hfuel
      | succ fuel =>
          simp only [decodeItems, List.cons_append, nextElement?_close ht, bind, Except.bind]
          rfl
  | @cons v x values xs hv _ ih =>
      rw [List.map_cons, separated, List.append_assoc, List.map_eq_append_iff] at hts
      obtain ⟨us, rest', rfl, hus, hrest'⟩ := hts
      obtain ⟨ws, hws, hlength, hne, hnext⟩ := nextElement?_eq hus
      have hpos : 0 < ws.length := List.length_pos_iff.mpr hne
      rw [List.length_append] at hfuel
      cases fuel with
      | zero => omega
      | succ fuel =>
          have hitem := hv depth ws (rest' ++ rest) (hdepth v List.mem_cons_self) hws
          have hitems := ih (fun w hw => hdepth w (List.mem_cons_of_mem v hw)) fuel false rest'
            (by omega) hrest'
          simp only [decodeItems, List.append_assoc, hnext, hitem, hitems, bind, Except.bind,
            if_true]
          rfl

theorem decodes_list {values : List Json} {xs : List α}
    (h : List.Forall₂ (Decodes d) values xs) : Decodes (decodeList d) (.arr values) xs := by
  intro depth ts rest hdepth hts
  rw [kinds, itemKinds_eq_map] at hts
  obtain ⟨t, us, rfl, ht, hus⟩ := List.map_eq_cons_iff.mp hts
  cases depth with
  | zero => simp [nesting] at hdepth
  | succ depth =>
      have hvalues : ∀ v ∈ values, v.nesting ≤ depth := by
        intro v hv
        have hlt := nesting_lt_of_mem_items hv
        omega
      simp only [decodeList, List.cons_append, ht]
      exact decodeItems_eq h depth hvalues _ _ _ _ (by simp; omega) hus

end Decoders

section Structures
variable {σ α β : Type} {s : Shape σ α} {draft draft' draft'' : σ} {key : String} {v : Json}
  {members members' : List (String × Json)} {x : α}

/-- From a draft on, members fill one field after another and lead to another draft. -/
inductive Fills (s : Shape σ α) : σ → List (String × Json) → σ → Prop
  | nil (draft : σ) : Fills s draft [] draft
  | cons {draft draft' draft'' : σ} {key : String} {v : Json} {members : List (String × Json)}
      {field : Field σ} (hfield : s.fields.find? (fun f => f.name == key) = some field)
      (hfresh : field.filled draft = false) (hvalue : Decodes (field.decode draft) v draft')
      (h : Fills s draft' members draft'') : Fills s draft ((key, v) :: members) draft''

theorem Fills.append (h : Fills s draft members draft') (h' : Fills s draft' members' draft'') :
    Fills s draft (members ++ members') draft'' := by
  induction h with
  | nil => exact h'
  | cons hfield hfresh hvalue _ ih => exact .cons hfield hfresh hvalue (ih h')

theorem Decodes.into {d : Decoder β} {y : β} (h : Decodes d v y) (name : String) (optional : Bool)
    (get : σ → Option β) (set : σ → β → σ) (draft : σ) :
    Decodes ((Field.into name optional get set d).decode draft) v (set draft y) := by
  intro depth ts rest hdepth hts
  have hread := h depth ts rest hdepth hts
  simp only [Field.into, hread]
  rfl

theorem nextKey?_first {t : Token} {ts : List Token} (ht : t.kind = .string (.ok key)) :
    nextKey? true (t :: ts) = .ok (some key, ts) := by
  simp [nextKey?, readKey, ht, Except.map]

theorem nextKey?_comma {comma t : Token} {ts : List Token} (hcomma : comma.kind = .comma)
    (ht : t.kind = .string (.ok key)) :
    nextKey? false (comma :: t :: ts) = .ok (some key, ts) := by
  simp [nextKey?, readKey, ht, hcomma, Except.map]

theorem nextKey?_close {first : Bool} {t : Token} {rest : List Token}
    (ht : t.kind = .closeObject) : nextKey? first (t :: rest) = .ok (none, t :: rest) := by
  unfold nextKey?
  simp only [ht]

/-- Where a member is next, the comma before it and its key are taken off. -/
theorem nextKey?_eq {first : Bool} {part : List TokenKind} {ts : List Token}
    (hts : ts.map Token.kind = if first then .string (.ok key) :: part
      else .comma :: .string (.ok key) :: part) :
    ∃ us, us.map Token.kind = part ∧ us.length < ts.length ∧
      ∀ rest, nextKey? first (ts ++ rest) = .ok (some key, us ++ rest) := by
  cases first with
  | true =>
      obtain ⟨t, us, rfl, ht, hus⟩ := List.map_eq_cons_iff.mp hts
      exact ⟨us, hus, by simp, fun rest => nextKey?_first ht⟩
  | false =>
      obtain ⟨comma, ts, rfl, hcomma, hts⟩ := List.map_eq_cons_iff.mp hts
      obtain ⟨t, us, rfl, ht, hus⟩ := List.map_eq_cons_iff.mp hts
      exact ⟨us, hus, by simp only [List.length_cons]; omega, fun rest => nextKey?_comma hcomma ht⟩

theorem decodeMembers_eq (h : Fills s draft members draft') (hfinish : s.finish draft' = .ok x)
    (depth : Nat) (hdepth : ∀ m ∈ members, m.2.nesting ≤ depth) (fuel : Nat) (first : Bool)
    (ts rest : List Token) (hfuel : ts.length ≤ fuel)
    (hts : ts.map Token.kind = separated first
      (members.map fun m => .string (.ok m.1) :: .colon :: m.2.kinds) ++ [.closeObject]) :
    s.decodeMembers depth fuel first draft (ts ++ rest) = .ok (x, rest) := by
  induction h generalizing fuel first ts with
  | nil draft =>
      rw [List.map_nil, separated, List.nil_append, List.map_eq_singleton_iff] at hts
      obtain ⟨t, rfl, ht⟩ := hts
      cases fuel with
      | zero => cases hfuel
      | succ fuel =>
          simp only [Shape.decodeMembers, List.cons_append, nextKey?_close ht, hfinish, bind,
            Except.bind]
          rfl
  | @cons draft draft' draft'' key v members field hfield hfresh hvalue _ ih =>
      rw [List.map_cons, separated, List.append_assoc, List.map_eq_append_iff] at hts
      obtain ⟨us, rest', rfl, hus, hrest'⟩ := hts
      obtain ⟨ws, hws, hlength, hnext⟩ := nextKey?_eq hus
      obtain ⟨colon, value, rfl, hcolon, hvalueTokens⟩ := List.map_eq_cons_iff.mp hws
      rw [List.length_append] at hfuel
      cases fuel with
      | zero => omega
      | succ fuel =>
          have hread := hvalue depth value (rest' ++ rest) (hdepth _ List.mem_cons_self)
            hvalueTokens
          have hmembers := ih hfinish (fun m hm => hdepth m (List.mem_cons_of_mem _ hm)) fuel false
            rest' (by omega) hrest'
          simp only [Shape.decodeMembers, List.append_assoc, hnext, hfield, hfresh, bind,
            Except.bind, List.cons_append, readColon, hcolon, hread]
          exact hmembers

theorem Fills.decodes (h : Fills s s.draft members draft) (hfinish : s.finish draft = .ok x) :
    Decodes s.decode (.obj members) x := by
  intro depth ts rest hdepth hts
  rw [kinds, memberKinds_eq_map] at hts
  obtain ⟨t, us, rfl, ht, hus⟩ := List.map_eq_cons_iff.mp hts
  cases depth with
  | zero => simp [nesting] at hdepth
  | succ depth =>
      have hmembers : ∀ m ∈ members, m.2.nesting ≤ depth := by
        intro m hm
        have hlt := nesting_lt_of_mem_members hm
        omega
      simp only [Shape.decode, List.cons_append, ht]
      exact decodeMembers_eq h hfinish depth hmembers _ _ _ _ (by simp; omega) hus

end Structures

/-- A written value is read back by a decoder that decodes it, if it is not nested too deep. -/
theorem decodeText_eq {α : Type} {d : Decoder α} {v : Json} {x : α} {text : String}
    (h : Decodes d v x) (hplain : Plain v) (hnesting : v.nesting ≤ nestingLimit)
    (htext : Writes text v) : decodeText d text = .ok x := by
  have htokens := tokens_of_writes hplain htext
  rw [List.map_eq_append_iff] at htokens
  obtain ⟨ts, last, heq, hts, hlast⟩ := htokens
  obtain ⟨t, rfl, ht⟩ := List.map_eq_singleton_iff.mp hlast
  have hread := h nestingLimit ts [t] hnesting hts
  simp only [decodeText, heq, hread, bind, Except.bind, readEnd, ht]
  rfl

end NamedSchema.Json
