import NamedSchema.Yaml.Cursor

/-!
# YAML tokens

The tokens of a YAML text, and the reading of those that have an inner structure of their own:
anchors, tags and directives. The text of a tag is kept as octets, since it may be written with
escaped ones.
-/
namespace NamedSchema.Yaml

abbrev TagText := List UInt8

def TagText.ofString (s : String) : TagText := s.toUTF8.toList

inductive TokenKind where
  | streamEnd
  | version (major minor : Nat)
  /-- A directive: what a handle stands for. -/
  | tagHandle (handle : List Char) (text : TagText)
  | documentStart
  | documentEnd
  | blockSequence
  | blockMapping
  | blockEnd
  | openSequence
  | closeSequence
  | openMapping
  | closeMapping
  | entry
  | comma
  | key
  | value
  | aliasTo (name : List Char)
  | anchor (name : List Char)
  /-- A tag with an empty handle is written out in full. -/
  | tag (handle : List Char) (suffix : TagText)
  | scalar (text : List Char) (plain : Bool)
  deriving DecidableEq, Repr

structure Token where
  kind : TokenKind
  mark : Mark
  deriving DecidableEq, Repr

/-! ## Anchors -/

/-- The name of an anchor or alias, at its indicator. -/
def readName (context : Context) : Read (List Char) := fun c =>
  let (name, after) := c.skip.readWhile isWordChar
  if !name.isEmpty && (after.atGap || after.head?.any "?:,]\x7d%@`".toList.contains) then
    .ok (name, after)
  else after.fail .anchorEmpty context c.mark

/-! ## Tags -/

/-- The characters of a tag; some more are allowed where its end is marked. -/
def isTagChar (wide : Bool) (c : Char) : Bool :=
  isWordChar c || ";/?:@&=+$.%!~*'()".toList.contains c || (wide && ",[]".toList.contains c)

/-- The octet that a percent sign and two hexadecimal digits stand for. -/
def escapedOctet? : List Char → Option Nat
  | '%' :: a :: b :: _ => do return (← hexValue? a) * 16 + (← hexValue? b)
  | _ => none

/-- How many octets follow the first octet of a character. -/
def trailingOctets? (first : Nat) : Option Nat :=
  if first < 0x80 then some 0
  else if first < 0xC0 then none
  else if first < 0xE0 then some 1
  else if first < 0xF0 then some 2
  else if first < 0xF8 then some 3
  else none

def readTrailingOctets (context : Context) (start : Mark) : Nat → Read TagText
  | 0, c => .ok ([], c)
  | n + 1, c =>
    match escapedOctet? c.rest with
    | none => c.fail .uriEscape context start
    | some octet =>
      if octet / 64 = 2 then do
        let (octets, c) ← readTrailingOctets context start n (c.skipMany 3)
        return (octet.toUInt8 :: octets, c)
      else c.fail .uriTrailingOctet context start

/-- A character that is written as escaped octets. -/
def readEscapedChar (context : Context) (start : Mark) : Read TagText := fun c =>
  match escapedOctet? c.rest with
  | none => c.fail .uriEscape context start
  | some octet =>
    match trailingOctets? octet with
    | none => c.fail .uriLeadingOctet context start
    | some n => do
      let (octets, c) ← readTrailingOctets context start n (c.skipMany 3)
      return (octet.toUInt8 :: octets, c)

def readTagChars (wide : Bool) (context : Context) (start : Mark) : (fuel : Nat) → Read TagText
  | 0, c => .ok ([], c)
  | fuel + 1, c =>
    match c.rest with
    | [] => .ok ([], c)
    | x :: _ =>
      if x = '%' then do
        let (octets, c) ← readEscapedChar context start c
        let (more, c) ← readTagChars wide context start fuel c
        return (octets ++ more, c)
      else if isTagChar wide x then do
        let (more, c) ← readTagChars wide context start fuel c.skip
        return (x.toNat.toUInt8 :: more, c)
      else .ok ([], c)

/-- The text of a tag, which is not empty. -/
def readTagText (wide : Bool) (context : Context) (start : Mark) : Read TagText := fun c => do
  let (text, after) ← readTagChars wide context start c.rest.length c
  if text.isEmpty then after.fail .tagEmpty context start else return (text, after)

/-- An exclamation mark, word characters, and perhaps a second exclamation mark. -/
def readHandle (c : Cursor) : List Char × Cursor :=
  let (word, c) := c.skip.readWhile isWordChar
  if c.isAt '!' then ('!' :: word ++ ['!'], c.skip) else ('!' :: word, c)

def isClosedHandle (handle : List Char) : Bool :=
  handle.length ≠ 1 && handle.getLast? = some '!'

def charOctets (cs : List Char) : TagText := cs.map (·.toNat.toUInt8)

def readTag (flow : Bool) : Read TokenKind := fun c => do
  let start := c.mark
  let (kind, c) ←
    if c.second? = some '<' then do
      let (text, c) ← readTagText true .tagText start (c.skipMany 2)
      if c.isAt '>' then pure (TokenKind.tag [] text, c.skip)
      else c.fail .tagUnclosed .tag start
    else
      let (handle, c) := readHandle c
      if isClosedHandle handle then do
        let (suffix, c) ← readTagText false .tagText start c
        pure (TokenKind.tag handle suffix, c)
      else do
        let (more, c) ← readTagChars false .tagText start c.rest.length c
        let suffix := charOctets (handle.drop 1) ++ more
        pure (if suffix.isEmpty then .tag [] (charOctets ['!']) else .tag ['!'] suffix, c)
  if c.atGap || (flow && c.isAt ',') then return (kind, c)
  else c.fail .tagLineEnd .tag start

/-! ## Directives -/

def readVersionPart (start : Mark) : Read Nat := fun c =>
  let digits := c.rest.takeWhile Char.isDigit
  if digits.isEmpty then c.fail .versionMissing .versionDirective start
  else if digits.length > 9 then (c.skipMany 9).fail .versionTooLong .versionDirective start
  else .ok (digits.foldl (fun n d => n * 10 + (d.toNat - 48)) 0, c.skipMany digits.length)

def readVersion (start : Mark) : Read TokenKind := fun c => do
  let (major, c) ← readVersionPart start (c.skipWhile isBlank)
  if c.isAt '.' then
    let (minor, c) ← readVersionPart start c.skip
    return (.version major minor, c)
  else c.fail .versionSeparator .versionDirective start

/-- A handle and what it stands for. -/
def readHandleDirective (start : Mark) : Read TokenKind := fun c => do
  let c := c.skipWhile isBlank
  if !c.isAt '!' then c.fail .tagMark .tagDirectiveStart start
  else
    let (handle, c) := readHandle c
    if handle.length ≠ 1 && !isClosedHandle handle then
      c.fail .tagMark .tagDirectiveHandle start
    else if !c.head?.any isBlank then c.fail .tagWhitespace .tagDirective start
    else
      let (text, c) ← readTagText true .tagDirectiveText start (c.skipWhile isBlank)
      if c.atGap then return (.tagHandle handle text, c)
      else c.fail .tagLineEnd .tagDirective start

/-- A directive, at its percent sign, with the rest of its line. -/
def readDirective : Read TokenKind := fun c => do
  let start := c.mark
  let (name, c) := c.skip.readWhile isWordChar
  if name.isEmpty then c.fail .directiveNameMissing .directive start
  else if !c.atGap then c.fail .directiveNameUnclean .directive start
  else
    let (kind, c) ←
      if name = "YAML".toList then readVersion start c
      else if name = "TAG".toList then readHandleDirective start c
      else c.fail .unknownDirective .directive start
    let c := (c.skipWhile isBlank).skipComment
    if c.atLineEnd then return (kind, c.skipBreak)
    else c.fail .directiveTail .directive start

end NamedSchema.Yaml
