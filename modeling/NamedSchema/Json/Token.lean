import NamedSchema.Json.Numeral

/-!
# Tokens of JSON text

A text is cut into brackets, separators, words, numbers and strings, each with the place where it
starts and the place where it ends. The cut stops at the first character that belongs to no token.
A number that is too large and a string with an unpaired surrogate are tokens without a value: a
reader that wants the value reports the fault, one that skips the token goes on behind it.
-/
namespace NamedSchema.Json

inductive TokenKind where
  | openArray
  | closeArray
  | openObject
  | closeObject
  | colon
  | comma
  | null
  | bool (value : Bool)
  | number (value : Except Fault JsonNumber)
  | string (value : Except Fault String)
  /-- No token starts here; `fault` is met by a reader that wants a value and `skipFault` by one
  that skips it. `quoted` says whether a string was begun. -/
  | broken (quoted : Bool) (fault skipFault : Fault)
  /-- The end of the text. -/
  | done

structure Token where
  kind : TokenKind
  start : Mark
  stop : Mark

/-- The place after the first byte of a token; at the end of the text, the end itself. -/
def Token.beyond (t : Token) : Mark :=
  match t.kind with
  | .done => t.start
  | _ => ⟨t.start.line, t.start.column + 1⟩

def hexValue? (c : Char) : Option Nat :=
  if '0' ≤ c ∧ c ≤ '9' then some (c.toNat - 48)
  else if 'a' ≤ c ∧ c ≤ 'f' then some (c.toNat - 87)
  else if 'A' ≤ c ∧ c ≤ 'F' then some (c.toNat - 55)
  else none

def hexQuad? (a b c d : Char) : Option Nat := do
  return (((← hexValue? a) * 16 + (← hexValue? b)) * 16 + (← hexValue? c)) * 16 + (← hexValue? d)

/-- The fault of an escape whose four digits are cut short or not hexadecimal. -/
def quadFault (m : Mark) (cs : List Char) : Fault :=
  if (cs.map Char.utf8Size).foldl (· + ·) 0 < 4 then ⟨.eofInString, m.advanceAll cs⟩
  else ⟨.invalidEscape, m.skipBytes 4 cs⟩

def simpleEscape? : Char → Option Char
  | '"' => some '"'
  | '\\' => some '\\'
  | '/' => some '/'
  | 'b' => some '\x08'
  | 'f' => some '\x0c'
  | 'n' => some '\n'
  | 'r' => some '\r'
  | 't' => some '\t'
  | _ => none

/-- The rest of a string after its opening quote: `content` holds the characters read so far, last
one first. -/
def readString (content : List Char) (m : Mark) :
    List Char → Except Fault (String × List Char × Mark)
  | [] => .error ⟨.eofInString, m⟩
  | '"' :: rest => .ok (String.ofList content.reverse, rest, m.advance '"')
  | '\\' :: 'u' :: a :: b :: c :: d :: rest =>
    let after := m.advanceAll ['\\', 'u', a, b, c, d]
    match hexQuad? a b c d with
    | none => .error (quadFault ((m.advance '\\').advance 'u') (a :: b :: c :: d :: rest))
    | some n =>
      if 0xDC00 ≤ n ∧ n ≤ 0xDFFF then .error ⟨.unpairedSurrogate, after⟩
      else if 0xD800 ≤ n ∧ n ≤ 0xDBFF then
        match rest with
        | '\\' :: 'u' :: e :: f :: g :: h :: rest =>
          let afterPair := after.advanceAll ['\\', 'u', e, f, g, h]
          match hexQuad? e f g h with
          | none =>
            .error (quadFault ((after.advance '\\').advance 'u') (e :: f :: g :: h :: rest))
          | some k =>
            if 0xDC00 ≤ k ∧ k ≤ 0xDFFF then
              readString (Char.ofNat ((n - 0xD800) * 1024 + (k - 0xDC00) + 0x10000) :: content)
                afterPair rest
            else .error ⟨.unpairedSurrogate, afterPair⟩
        | '\\' :: 'u' :: rest => .error (quadFault ((after.advance '\\').advance 'u') rest)
        | '\\' :: [] => .error ⟨.eofInString, after.advance '\\'⟩
        | '\\' :: rest => .error ⟨.unfinishedSurrogatePair, (after.advance '\\').skipBytes 1 rest⟩
        | [] => .error ⟨.eofInString, after⟩
        | rest => .error ⟨.unfinishedSurrogatePair, after.skipBytes 1 rest⟩
      else readString (Char.ofNat n :: content) after rest
  | '\\' :: 'u' :: rest => .error (quadFault ((m.advance '\\').advance 'u') rest)
  | '\\' :: c :: rest =>
    match simpleEscape? c with
    | some e => readString (e :: content) ((m.advance '\\').advance c) rest
    | none => .error ⟨.invalidEscape, (m.advance '\\').skipBytes 1 (c :: rest)⟩
  | '\\' :: [] => .error ⟨.eofInString, m.advance '\\'⟩
  | c :: rest =>
    if c.toNat < 32 then .error ⟨.controlCharacter, m.advance c⟩
    else readString (c :: content) (m.advance c) rest

/-- Skips a string after its opening quote, without asking whether its escapes form characters. -/
def skipString (m : Mark) : List Char → Except Fault (List Char × Mark)
  | [] => .error ⟨.eofInString, m⟩
  | '"' :: rest => .ok (rest, m.advance '"')
  | '\\' :: 'u' :: a :: b :: c :: d :: rest =>
    match hexQuad? a b c d with
    | some _ => skipString (m.advanceAll ['\\', 'u', a, b, c, d]) rest
    | none => .error (quadFault ((m.advance '\\').advance 'u') (a :: b :: c :: d :: rest))
  | '\\' :: 'u' :: rest => .error (quadFault ((m.advance '\\').advance 'u') rest)
  | '\\' :: c :: rest =>
    match simpleEscape? c with
    | some _ => skipString ((m.advance '\\').advance c) rest
    | none => .error ⟨.invalidEscape, (m.advance '\\').skipBytes 1 (c :: rest)⟩
  | '\\' :: [] => .error ⟨.eofInString, m.advance '\\'⟩
  | c :: rest =>
    if c.toNat < 32 then .error ⟨.controlCharacter, m⟩ else skipString (m.advance c) rest

/-- One token after another, and the rest of the text behind each. -/
structure Cut where
  token : Token
  rest : List Char

def cutString (m : Mark) (cs : List Char) : Cut :=
  let inside := m.advance '"'
  match readString [] inside cs with
  | .ok (s, rest, stop) => ⟨⟨.string (.ok s), m, stop⟩, rest⟩
  | .error fault =>
    match skipString inside cs with
    | .ok (rest, stop) => ⟨⟨.string (.error fault), m, stop⟩, rest⟩
    | .error skipFault => ⟨⟨.broken true fault skipFault, m, m⟩, []⟩

def cutNumber (m : Mark) (cs : List Char) : Cut :=
  match Numeral.split cs with
  | .ok (n, rest) =>
    let stop := m.advanceAll (cs.take (cs.length - rest.length))
    let value := match n.value with
      | .ok v => .ok v
      | .error left => .error ⟨.numberOutOfRange, ⟨stop.line, stop.column - left⟩⟩
    ⟨⟨.number value, m, stop⟩, rest⟩
  | .error s =>
    let here := m.advanceAll (cs.take (cs.length - s.rest.length))
    let mark := here.skipBytes s.beyond s.rest
    ⟨⟨.broken false ⟨s.cause, mark⟩ ⟨.invalidNumber, mark⟩, m, m⟩, []⟩

/-- Where a text departs from the letters of a word. -/
def wordFault (m : Mark) : List Char → List Char → Option Fault
  | [], _ => none
  | _ :: _, [] => some ⟨.eofInValue, m⟩
  | w :: ws, c :: rest =>
    if w = c then wordFault (m.advance c) ws rest else some ⟨.unknownWord, m.skipBytes 1 (c :: rest)⟩

def cutWord (kind : TokenKind) (word : String) (m : Mark) (cs : List Char) : Cut :=
  match wordFault m word.toList cs with
  | some fault => ⟨⟨.broken false fault fault, m, m⟩, []⟩
  | none => ⟨⟨kind, m, m.advanceAll word.toList⟩, cs.drop word.length⟩

def isBlank (c : Char) : Bool := c = ' ' ∨ c = '\n' ∨ c = '\t' ∨ c = '\r'

/-- The token that starts with a character that is not blank. -/
def cutToken (m : Mark) (c : Char) (rest : List Char) : Cut :=
  let single (kind : TokenKind) : Cut := ⟨⟨kind, m, m.advance c⟩, rest⟩
  if c = '[' then single .openArray
  else if c = ']' then single .closeArray
  else if c = '\x7b' then single .openObject
  else if c = '\x7d' then single .closeObject
  else if c = ':' then single .colon
  else if c = ',' then single .comma
  else if c = '"' then cutString m rest
  else if c = 'n' then cutWord .null "null" m (c :: rest)
  else if c = 't' then cutWord (.bool true) "true" m (c :: rest)
  else if c = 'f' then cutWord (.bool false) "false" m (c :: rest)
  else if c = '-' ∨ isDigit c then cutNumber m (c :: rest)
  else
    let fault : Fault := ⟨.missingValue, ⟨m.line, m.column + 1⟩⟩
    ⟨⟨.broken false fault fault, m, m⟩, []⟩

/-- Cuts a text into tokens; `fuel` bounds their number by the length of the text. -/
def cutAll : Nat → Mark → List Char → List Token
  | 0, m, _ => [⟨.done, m, m⟩]
  | _ + 1, m, [] => [⟨.done, m, m⟩]
  | fuel + 1, m, c :: rest =>
    if isBlank c then cutAll fuel (m.advance c) rest
    else
      let cut := cutToken m c rest
      match cut.token.kind with
      | .broken .. => [cut.token]
      | _ => cut.token :: cutAll fuel cut.token.stop cut.rest

def tokens (text : String) : List Token :=
  let cs := text.toList
  cutAll (cs.length + 1) Mark.start cs

end NamedSchema.Json
