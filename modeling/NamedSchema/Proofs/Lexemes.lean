import Mathlib.Algebra.Group.Nat.Defs
import Mathlib.Data.Nat.Init
import NamedSchema.Json.Printer
import NamedSchema.Json.Token

/-!
# Written tokens

Strings, whole numbers and words are written so that cutting a text takes each of them off as the
one token it is, whatever follows: only a number must not be followed by something that would
prolong it. Blanks in front of a token do not count.
-/
namespace NamedSchema.Json

section Cutting
variable {c : Char} {cs text rest : List Char} {kind : TokenKind} {kinds : List TokenKind}

/-- Cut into tokens, a text gives tokens of these kinds, wherever it starts and with any fuel that
suffices. -/
def Cuts (cs : List Char) (kinds : List TokenKind) : Prop :=
  ∀ fuel m, cs.length < fuel → (cutAll fuel m cs).map Token.kind = kinds

theorem cuts_nil : Cuts [] [.done] := by
  intro fuel m hfuel
  cases fuel with
  | zero => cases hfuel
  | succ fuel => rfl

theorem Cuts.blank (hc : isBlank c = true) (h : Cuts cs kinds) : Cuts (c :: cs) kinds := by
  intro fuel m hfuel
  cases fuel with
  | zero => cases hfuel
  | succ fuel =>
      simp only [cutAll, hc, if_true]
      exact h fuel _ (Nat.lt_of_succ_lt_succ hfuel)

/-- No token starts at such a place. -/
def TokenKind.isBroken : TokenKind → Bool
  | .broken .. => true
  | _ => false

theorem Cuts.token (hblank : isBlank c = false) (hsound : kind.isBroken = false)
    (hcut : ∀ m, ∃ start stop, cutToken m c cs = ⟨⟨kind, start, stop⟩, rest⟩)
    (hlength : rest.length ≤ cs.length) (h : Cuts rest kinds) :
    Cuts (c :: cs) (kind :: kinds) := by
  intro fuel m hfuel
  cases fuel with
  | zero => cases hfuel
  | succ fuel =>
      obtain ⟨start, stop, hcut⟩ := hcut m
      have hrest := h fuel stop (by simp only [List.length_cons] at hfuel; omega)
      simp only [cutAll, hblank, hcut]
      cases kind with
      | broken => cases hsound
      | _ => simp [hrest]

inductive Sign : Char → TokenKind → Prop
  | openArray : Sign '[' .openArray
  | closeArray : Sign ']' .closeArray
  | openObject : Sign '\x7b' .openObject
  | closeObject : Sign '\x7d' .closeObject
  | colon : Sign ':' .colon
  | comma : Sign ',' .comma

theorem Sign.cuts (hsign : Sign c kind) (h : Cuts cs kinds) : Cuts (c :: cs) (kind :: kinds) := by
  have hcut : ∀ m, ∃ start stop, cutToken m c cs = ⟨⟨kind, start, stop⟩, cs⟩ := by
    intro m
    refine ⟨m, m.advance c, ?_⟩
    cases hsign <;> simp [cutToken]
  have hblank : isBlank c = false := by cases hsign <;> decide
  have hsound : kind.isBroken = false := by cases hsign <;> rfl
  exact Cuts.token hblank hsound hcut (Nat.le_refl _) h

/-- The characters that prolong a number. -/
def prolongs (c : Char) : Bool := isDigit c || c = '.' || c = 'e' || c = 'E'

theorem prolongs_eq_false_iff :
    prolongs c = false ↔ isDigit c = false ∧ c ≠ '.' ∧ c ≠ 'e' ∧ c ≠ 'E' := by
  simp [prolongs, and_assoc]

def EndsNumber (cs : List Char) : Prop := ∀ c ∈ cs.head?, prolongs c = false

theorem EndsNumber.append (htext : EndsNumber text) (hrest : EndsNumber rest) :
    EndsNumber (text ++ rest) := by
  cases text with
  | nil => exact hrest
  | cons c text => exact htext

theorem Sign.endsNumber (hsign : Sign c kind) : EndsNumber (c :: cs) := by
  intro d hd
  cases hd
  cases hsign <;> rfl

theorem endsNumber_of_blank (hc : isBlank c = true) : EndsNumber (c :: cs) := by
  intro d hd
  cases hd
  simp only [isBlank, decide_eq_true_eq] at hc
  obtain rfl | rfl | rfl | rfl := hc <;> rfl

/-- In front of any text that does not prolong a number, the text is cut into tokens of these
kinds. -/
def Lexes (text : List Char) (kinds : List TokenKind) : Prop :=
  ∀ rest ks, EndsNumber rest → Cuts rest ks → Cuts (text ++ rest) (kinds ++ ks)

theorem lexes_nil : Lexes [] [] := fun _ _ _ h => h

theorem Lexes.append {text' : List Char} {kinds' : List TokenKind} (h : Lexes text kinds)
    (h' : Lexes text' kinds') (hends : EndsNumber text') :
    Lexes (text ++ text') (kinds ++ kinds') := by
  intro rest ks hrest hcuts
  rw [List.append_assoc, List.append_assoc]
  exact h _ _ (hends.append hrest) (h' _ _ hrest hcuts)

theorem Sign.lexes_cons (hsign : Sign c kind) (h : Lexes text kinds) :
    Lexes (c :: text) (kind :: kinds) :=
  fun rest ks hrest hcuts => hsign.cuts (h rest ks hrest hcuts)

theorem Sign.lexes (hsign : Sign c kind) : Lexes [c] [kind] := hsign.lexes_cons lexes_nil

def Blank (cs : List Char) : Prop := ∀ c ∈ cs, isBlank c = true

instance : DecidablePred Blank := fun cs => List.decidableBAll (fun c => isBlank c = true) cs

theorem Lexes.indent {margin : List Char} (hmargin : Blank margin) (h : Lexes text kinds) :
    Lexes (margin ++ text) kinds := by
  intro rest ks hrest hcuts
  induction margin with
  | nil => exact h rest ks hrest hcuts
  | cons c margin ih =>
      have hc := hmargin c List.mem_cons_self
      exact (ih fun d hd => hmargin d (List.mem_cons_of_mem c hd)).blank hc

end Cutting

section Strings
variable {m : Mark} {c e : Char} {content tail : List Char}

theorem escapeChar_cases (c : Char) :
    (∃ e, simpleEscape? e = some c ∧ escapeChar c = ['\\', e]) ∨
    (c.toNat < 32 ∧ escapeChar c =
      ['\\', 'u', '0', '0', hexDigit (c.toNat / 16), hexDigit (c.toNat % 16)]) ∨
    (c ≠ '"' ∧ c ≠ '\\' ∧ 32 ≤ c.toNat ∧ escapeChar c = [c]) := by
  by_cases hspecial : c ∈ ['"', '\\', '\n', '\r', '\t', '\x08', '\x0c']
  · simp only [List.mem_cons, List.not_mem_nil, or_false] at hspecial
    left
    obtain rfl | rfl | rfl | rfl | rfl | rfl | rfl := hspecial <;> exact ⟨_, rfl, rfl⟩
  · simp only [List.mem_cons, List.not_mem_nil, or_false, not_or] at hspecial
    right
    by_cases hcontrol : c.toNat < 32
    · left
      simp [escapeChar, hspecial, hcontrol]
    · right
      simp [escapeChar, hspecial, hcontrol, Nat.le_of_not_lt hcontrol]

/-- The letter `u` announces a number, so that no character is written with it as its letter. -/
theorem readString_letter (h : simpleEscape? e = some c) :
    readString content m ('\\' :: e :: tail) =
      readString (c :: content) ((m.advance '\\').advance e) tail := by
  have hu : e ≠ 'u' := by
    rintro rfl
    cases h
  rw [readString]
  · rw [h]
  all_goals simp [hu]

theorem hexQuad?_control : ∀ n < 32,
    hexQuad? '0' '0' (hexDigit (n / 16)) (hexDigit (n % 16)) = some n := by
  decide

theorem readString_control (h : c.toNat < 32) :
    readString content m
        ('\\' :: 'u' :: '0' :: '0' :: hexDigit (c.toNat / 16) :: hexDigit (c.toNat % 16) :: tail) =
      readString (c :: content) (m.advanceAll
        ['\\', 'u', '0', '0', hexDigit (c.toNat / 16), hexDigit (c.toNat % 16)]) tail := by
  have hquad := hexQuad?_control c.toNat h
  have hlow : ¬ (0xDC00 ≤ c.toNat ∧ c.toNat ≤ 0xDFFF) := by omega
  have hhigh : ¬ (0xD800 ≤ c.toNat ∧ c.toNat ≤ 0xDBFF) := by omega
  rw [readString]
  simp only [hquad, if_neg hlow, if_neg hhigh, Char.ofNat_toNat]

theorem readString_same (hquote : c ≠ '"') (hslash : c ≠ '\\') (hcontrol : 32 ≤ c.toNat) :
    readString content m (c :: tail) = readString (c :: content) (m.advance c) tail := by
  rw [readString]
  · rw [if_neg (Nat.not_lt.mpr hcontrol)]
  all_goals simp [hquote, hslash]

theorem readString_escapeChar (content : List Char) (m : Mark) (c : Char) (tail : List Char) :
    ∃ m', readString content m (escapeChar c ++ tail) = readString (c :: content) m' tail := by
  rcases escapeChar_cases c with ⟨e, he, hc⟩ | ⟨hcontrol, hc⟩ | ⟨hquote, hslash, hcontrol, hc⟩
  · rw [hc]
    exact ⟨_, readString_letter he⟩
  · rw [hc]
    exact ⟨_, readString_control hcontrol⟩
  · rw [hc]
    exact ⟨_, readString_same hquote hslash hcontrol⟩

/-- The written characters of a string are read up to the quote behind them. -/
theorem readString_flatMap (s content : List Char) (m : Mark) (rest : List Char) :
    ∃ stop, readString content m (s.flatMap escapeChar ++ '"' :: rest) =
      .ok (String.ofList (content.reverse ++ s), rest, stop) := by
  induction s generalizing content m with
  | nil =>
      refine ⟨m.advance '"', ?_⟩
      simp [readString]
  | cons c s ih =>
      obtain ⟨m', hc⟩ := readString_escapeChar content m c (s.flatMap escapeChar ++ '"' :: rest)
      obtain ⟨stop, hs⟩ := ih (c :: content) m'
      refine ⟨stop, ?_⟩
      rw [List.flatMap_cons, List.append_assoc, hc, hs]
      simp

theorem lexes_quote (s : String) : Lexes (quote s).toList [.string (.ok s)] := by
  intro rest ks _ hcuts
  have htext : (quote s).toList ++ rest = '"' :: (s.toList.flatMap escapeChar ++ '"' :: rest) := by
    simp [quote]
  rw [htext]
  have hcut : ∀ m, ∃ start stop, cutToken m '"' (s.toList.flatMap escapeChar ++ '"' :: rest) =
      ⟨⟨.string (.ok s), start, stop⟩, rest⟩ := by
    intro m
    obtain ⟨stop, hread⟩ := readString_flatMap s.toList [] (m.advance '"') rest
    refine ⟨m, stop, ?_⟩
    simp [cutToken, cutString, hread]
  refine Cuts.token (by decide) rfl hcut ?_ hcuts
  simp only [List.length_append, List.length_cons]
  omega

end Strings

section Numbers
variable {n : Nat} {ds rest : List Char}

theorem isDigit_of_mem_toDigits {c : Char} (h : c ∈ Nat.toDigits 10 n) : isDigit c = true := by
  have hdigit := Nat.isDigit_of_mem_toDigits (by decide) (by decide) h
  simpa [isDigit, Char.isDigit, Char.le_def] using hdigit

theorem toDigits_eq_cons (hn : 0 < n) :
    ∃ d tail, Nat.toDigits 10 n = d :: tail ∧ d ≠ '0' := by
  induction n using Nat.strong_induction_on with
  | _ n ih =>
      by_cases hsmall : n < 10
      · refine ⟨n.digitChar, [], Nat.toDigits_of_lt_base hsmall, ?_⟩
        rw [ne_eq, Nat.digitChar_eq_zero]
        omega
      · obtain ⟨d, tail, hdigits, hd⟩ := ih (n / 10) (by omega) (by omega)
        refine ⟨d, tail ++ [(n % 10).digitChar], ?_, hd⟩
        rw [Nat.toDigits_of_base_le (by decide) (by omega), hdigits]
        rfl

theorem splitDigits_append (hdigits : ∀ c ∈ ds, isDigit c = true) (hrest : EndsNumber rest) :
    splitDigits (ds ++ rest) = (ds.map digitValue, rest) := by
  have hhead : ∀ c ∈ rest.head?, isDigit c = false := by
    intro c hc
    exact (prolongs_eq_false_iff.mp (hrest c hc)).1
  have htake : rest.takeWhile isDigit = [] := by
    cases rest with
    | nil => rfl
    | cons c rest => rw [List.takeWhile_cons_of_neg (by simp [hhead c rfl])]
  have hdrop : rest.dropWhile isDigit = rest := by
    cases rest with
    | nil => rfl
    | cons c rest => rw [List.dropWhile_cons_of_neg (by simp [hhead c rfl])]
  simp only [splitDigits, List.takeWhile_append_of_pos hdigits,
    List.dropWhile_append_of_pos hdigits, htake, hdrop, List.append_nil]

theorem splitWhole_toDigits (hrest : EndsNumber rest) :
    splitWhole (Nat.toDigits 10 n ++ rest) = .ok ((Nat.toDigits 10 n).map digitValue, rest) := by
  by_cases hn : n = 0
  · subst hn
    rw [Nat.toDigits_zero]
    cases rest with
    | nil => rfl
    | cons c rest =>
        have hc := prolongs_eq_false_iff.mp (hrest c rfl)
        simp [splitWhole, hc.1, digitValue]
  · obtain ⟨d, tail, hdigits, hd⟩ := toDigits_eq_cons (Nat.pos_of_ne_zero hn)
    have hall : ∀ c ∈ d :: tail, isDigit c = true := by
      intro c hc
      exact isDigit_of_mem_toDigits (hdigits ▸ hc)
    have hsplit := splitDigits_append hall hrest
    rw [hdigits]
    rw [List.cons_append] at hsplit ⊢
    simp [splitWhole, hall d List.mem_cons_self, hsplit]

theorem gatherWhole_map (ds : List Char) (s : Nat) (h : Nat.ofDigitChars 10 ds s ≤ maxSignificand) :
    gatherWhole s (ds.map digitValue) = (Nat.ofDigitChars 10 ds s, 0) := by
  induction ds generalizing s with
  | nil => simp [gatherWhole]
  | cons c ds ih =>
      have hstep : Nat.ofDigitChars 10 (c :: ds) s =
          Nat.ofDigitChars 10 ds (s * 10 + digitValue c) := by
        rw [Nat.ofDigitChars_cons, Nat.mul_comm]
        rfl
      have hle : s * 10 + digitValue c ≤ Nat.ofDigitChars 10 ds (s * 10 + digitValue c) := by
        rw [Nat.ofDigitChars_eq_ofDigitChars_zero]
        have hpow : 0 < 10 ^ ds.length := Nat.pow_pos (by decide)
        have hfactor := Nat.le_mul_of_pos_left (s * 10 + digitValue c) hpow
        omega
      rw [hstep] at h ⊢
      rw [List.map_cons, gatherWhole, if_pos (Nat.le_trans hle h), ih _ h]

/-- The digits of a number are a literal without sign, fraction and exponent. -/
theorem split_toDigits (hrest : EndsNumber rest) :
    Numeral.split (Nat.toDigits 10 n ++ rest) =
      .ok (⟨false, (Nat.toDigits 10 n).map digitValue, none, none⟩, rest) := by
  have hwhole := splitWhole_toDigits (n := n) hrest
  cases hdigits : Nat.toDigits 10 n with
  | nil => exact absurd hdigits Nat.toDigits_ne_nil
  | cons d tail =>
      have hd : isDigit d = true := isDigit_of_mem_toDigits (hdigits ▸ List.mem_cons_self)
      have hminus : d ≠ '-' := by
        rintro rfl
        cases hd
      rw [hdigits, List.cons_append] at hwhole
      unfold Numeral.split
      split
      next negative cs hsign =>
        split at hsign
        next rest h => exact absurd (List.cons.inj h).1 hminus
        next =>
          cases hsign
          simp only [List.cons_append, hwhole, bind, Except.bind, pure, Except.pure]
          cases rest with
          | nil => rfl
          | cons c rest =>
              obtain ⟨_, hpoint, hsmall, hlarge⟩ := prolongs_eq_false_iff.mp (hrest c rfl)
              split
              next rest' h => exact absurd (List.cons.inj h).1 hpoint
              next => simp [hsmall, hlarge]

theorem value_toDigits (h : n < 2 ^ 64) :
    Numeral.value ⟨false, (Nat.toDigits 10 n).map digitValue, none, none⟩ = .ok (.int n) := by
  have hfits : Nat.ofDigitChars 10 (Nat.toDigits 10 n) 0 ≤ maxSignificand := by
    rw [Nat.ofDigitChars_ten_toDigits]
    exact Nat.le_sub_one_of_lt h
  have hgather := gatherWhole_map _ _ hfits
  rw [Nat.ofDigitChars_ten_toDigits] at hgather
  simp [Numeral.value, hgather]

theorem digit_ne_of_all {d : Char} {cs : List Char} (hd : isDigit d = true)
    (hcs : (cs.all fun c => !isDigit c) = true) : ∀ c ∈ cs, d ≠ c := by
  intro c hc hdc
  have hnot := List.all_eq_true.mp hcs c hc
  rw [← hdc, hd] at hnot
  cases hnot

theorem isBlank_digit {d : Char} (hd : isDigit d = true) : isBlank d = false := by
  have hother : ∀ c ∈ [' ', '\n', '\t', '\r'], d ≠ c := digit_ne_of_all hd rfl
  simp only [List.forall_mem_cons] at hother
  simp [isBlank, hother]

theorem cutToken_digit {d : Char} {m : Mark} {text : List Char} (hd : isDigit d = true) :
    cutToken m d text = cutNumber m (d :: text) := by
  have hother : ∀ c ∈ ['[', ']', '\x7b', '\x7d', ':', ',', '"', 'n', 't', 'f'], d ≠ c :=
    digit_ne_of_all hd rfl
  simp only [List.forall_mem_cons] at hother
  simp [cutToken, hother, hd]

/-- A count of 64 bits is one token; a larger one would be read as a float. -/
theorem lexes_count (h : n < 2 ^ 64) :
    Lexes (JsonNumber.int n).text.toList [.number (.ok (.int n))] := by
  intro rest ks hrest hcuts
  have htext : (JsonNumber.int n).text.toList = Nat.toDigits 10 n := by
    simp [JsonNumber.text, Int.toString_eq_repr, Int.repr_eq_if]
  have hsplit := split_toDigits (n := n) hrest
  have hvalue := value_toDigits h
  rw [htext]
  cases hdigits : Nat.toDigits 10 n with
  | nil => exact absurd hdigits Nat.toDigits_ne_nil
  | cons d tail =>
      have hd : isDigit d = true := isDigit_of_mem_toDigits (hdigits ▸ List.mem_cons_self)
      rw [hdigits, List.cons_append] at hsplit
      rw [hdigits] at hvalue
      have hcut : ∀ m, ∃ start stop, cutToken m d (tail ++ rest) =
          ⟨⟨.number (.ok (.int n)), start, stop⟩, rest⟩ := by
        intro m
        rw [cutToken_digit hd]
        simp only [cutNumber, hsplit, hvalue]
        exact ⟨_, _, rfl⟩
      refine Cuts.token (isBlank_digit hd) rfl hcut ?_ hcuts
      simp

end Numbers

section Words
variable {kind : TokenKind} {word : String}

theorem wordFault_append (letters rest : List Char) (m : Mark) :
    wordFault m letters (letters ++ rest) = none := by
  induction letters generalizing m with
  | nil => rfl
  | cons c letters ih => simp [wordFault, ih]

theorem lexes_word (c : Char) (letters : List Char) (hword : word.toList = c :: letters)
    (hblank : isBlank c = false) (hsound : kind.isBroken = false)
    (hcut : ∀ m text, cutToken m c text = cutWord kind word m (c :: text)) :
    Lexes word.toList [kind] := by
  intro rest ks _ hcuts
  have hfault : ∀ m, wordFault m word.toList (c :: (letters ++ rest)) = none := by
    intro m
    rw [← List.cons_append, ← hword]
    exact wordFault_append _ _ _
  have hdrop : (c :: (letters ++ rest)).drop word.length = rest := by
    rw [← List.cons_append, ← hword, ← String.length_toList, List.drop_left]
  have htoken : ∀ m, ∃ start stop, cutToken m c (letters ++ rest) =
      ⟨⟨kind, start, stop⟩, rest⟩ := by
    intro m
    refine ⟨m, m.advanceAll word.toList, ?_⟩
    simp only [hcut, cutWord, hfault, hdrop]
  rw [hword]
  exact Cuts.token hblank hsound htoken (by simp) hcuts

theorem lexes_null : Lexes "null".toList [.null] :=
  lexes_word 'n' ['u', 'l', 'l'] rfl (by decide) rfl fun m text => by simp [cutToken]

theorem lexes_true : Lexes "true".toList [.bool true] :=
  lexes_word 't' ['r', 'u', 'e'] rfl (by decide) rfl fun m text => by simp [cutToken]

theorem lexes_false : Lexes "false".toList [.bool false] :=
  lexes_word 'f' ['a', 'l', 's', 'e'] rfl (by decide) rfl fun m text => by simp [cutToken]

end Words

end NamedSchema.Json
