import NamedSchema.Pattern.Syntax
import NamedSchema.Unicode.Age
import NamedSchema.Unicode.Break
import NamedSchema.Unicode.CaseFolding
import NamedSchema.Unicode.GeneralCategory
import NamedSchema.Unicode.Property
import NamedSchema.Unicode.Script

/-!
# Classes of characters

The sets of code points that classes, properties and bracketed sets stand for. Under the `unicode`
flag the classes are those of the whole code space, otherwise of ASCII alone, and then a set that
leaves ASCII is refused, since it could match a part of a character.
-/
namespace NamedSchema.Pattern
open Unicode

structure Mode where
  caseInsensitive : Bool
  multiLine : Bool
  dotMatchesNewLine : Bool
  unicode : Bool
  carriageReturns : Bool
  deriving DecidableEq, Repr

namespace Mode

def initial : Mode := ⟨false, false, false, true, false⟩

def apply (m : Mode) (c : FlagChange) : Mode where
  caseInsensitive := (c.value? .caseInsensitive).getD m.caseInsensitive
  multiLine := (c.value? .multiLine).getD m.multiLine
  dotMatchesNewLine := (c.value? .dotMatchesNewLine).getD m.dotMatchesNewLine
  unicode := (c.value? .unicode).getD m.unicode
  carriageReturns := (c.value? .carriageReturns).getD m.carriageReturns

end Mode

/-- A name in loose spelling: lower case, without blanks, hyphens, underscores, characters outside
ASCII and a leading `is`. -/
def looseName (name : String) : String :=
  let kept := fun (c : Char) => c ≠ ' ' ∧ c ≠ '_' ∧ c ≠ '-' ∧ c.toNat < 128
  let loose (cs : List Char) := (cs.filter kept).map Char.toLower
  let cs := name.toList
  if (cs.take 2).map Char.toLower = ['i', 's'] then
    let rest := loose (cs.drop 2)
    if rest = ['c'] then "isc" else String.ofList rest
  else String.ofList (loose cs)

/-- The names in loose spelling of a category and of scripts that hold no character. -/
def vacantValues : List String :=
  ["cs", "surrogate", "zzzz", "unknown", "hrkt", "katakanaorhiragana"]

/-- The code points that a query asks for. Three names of categories are names of properties too and
then mean the category. -/
def PropertyQuery.codes : PropertyQuery → Except Cause CodeSet
  | named name =>
    let name := looseName name
    if name ∉ ["cf", "sc", "lc"] ∧ isProperty name then
      match property? name with
      | some s => .ok s
      | none => .error .propertyUnknown
    else
      match (category? name).orElse fun _ => script? name with
      | some s => .ok s
      | none =>
        .error (if vacantValues.contains name then .propertyValueUnknown else .propertyUnknown)
  | valued name value =>
    let name := looseName name
    let value := looseName value
    let found :=
      if name = "gc" ∨ name = "generalcategory" then some (category? value)
      else if name = "sc" ∨ name = "script" then some (script? value)
      else if name = "scx" ∨ name = "scriptextensions" then some (scriptExtension? value)
      else if name = "age" then some (age? value)
      else if name = "gcb" ∨ name = "graphemeclusterbreak" then some (graphemeBreaks.class? value)
      else if name = "wb" ∨ name = "wordbreak" then some (wordBreaks.class? value)
      else if name = "sb" ∨ name = "sentencebreak" then some (sentenceBreaks.class? value)
      else if isProperty name then some none
      else none
    match found with
    | some (some s) => .ok s
    | some none => .error .propertyValueUnknown
    | none => .error .propertyUnknown

def single (c : Char) : CodeSet := [⟨c.toNat, c.toNat⟩]

def AsciiClass.codes : AsciiClass → CodeSet
  | alnum => .ofPairs [(0x30, 0x39), (0x41, 0x5A), (0x61, 0x7A)]
  | alpha => .ofPairs [(0x41, 0x5A), (0x61, 0x7A)]
  | ascii => .ascii
  | blank => .ofPairs [(0x09, 0x09), (0x20, 0x20)]
  | cntrl => .ofPairs [(0x00, 0x1F), (0x7F, 0x7F)]
  | digit => .ofPairs [(0x30, 0x39)]
  | graph => .ofPairs [(0x21, 0x7E)]
  | lower => .ofPairs [(0x61, 0x7A)]
  | print => .ofPairs [(0x20, 0x7E)]
  | punct => .ofPairs [(0x21, 0x2F), (0x3A, 0x40), (0x5B, 0x60), (0x7B, 0x7E)]
  | space => .ofPairs [(0x09, 0x0D), (0x20, 0x20)]
  | upper => .ofPairs [(0x41, 0x5A)]
  | word => .ofPairs [(0x30, 0x39), (0x41, 0x5A), (0x5F, 0x5F), (0x61, 0x7A)]
  | xdigit => .ofPairs [(0x30, 0x39), (0x41, 0x46), (0x61, 0x66)]

/-- Letters, marks, decimal digits, connecting punctuation and joiners. -/
def wordCodes : CodeSet :=
  .ofRanges ((property? "alphabetic").getD [] ++
    (ofCategories ["Mn", "Mc", "Me", "Nd", "Pc"] ++ (property? "joincontrol").getD []))

def digitCodes : CodeSet := ofCategories ["Nd"]

def spaceCodes : CodeSet := (property? "whitespace").getD []

def LetterClass.codes (unicode : Bool) : LetterClass → CodeSet
  | digit => if unicode then digitCodes else AsciiClass.digit.codes
  | space => if unicode then spaceCodes else AsciiClass.space.codes
  | word => if unicode then wordCodes else AsciiClass.word.codes

def isAscii (s : CodeSet) : Bool := List.all s fun r => r.last < 128

/-- The set with its case variants: all of them under `unicode`, else those of ASCII letters. -/
def Mode.foldCase (m : Mode) (s : CodeSet) : CodeSet :=
  if !m.caseInsensitive then s
  else if m.unicode then s.foldCase
  else
    let shifted (first last : Nat) (shift : Int) : CodeSet :=
      (s.inter [⟨first, last⟩]).map fun r =>
        ⟨(r.first + shift).toNat, (r.last + shift).toNat⟩
    s.union (shifted 0x41 0x5A 32 ++ shifted 0x61 0x7A (-32))

/-- A class that is complete: negated if asked for, and held to ASCII without `unicode`. -/
def Mode.finish (m : Mode) (span : Span) (negated : Bool) (s : CodeSet) : Except Fault CodeSet :=
  let s := if negated then s.complement else s
  if m.unicode || isAscii s then .ok s else .error ⟨.invalidEncoding, span, none⟩

def Letter.codes (m : Mode) (l : Letter) : Except Fault CodeSet :=
  m.finish l.span l.negated (l.kind.codes m.unicode)

def Property.codes (m : Mode) (p : Property) : Except Fault CodeSet :=
  if m.unicode then
    match p.query.codes with
    | .ok s => m.finish p.span p.negated (m.foldCase s)
    | .error cause => .error ⟨cause, p.span, none⟩
  else .error ⟨.unicodeNotAllowed, p.span, none⟩

def Literal.character (m : Mode) (l : Literal) : Except Fault Char :=
  if !m.unicode && l.byte && 128 ≤ l.char.toNat then .error ⟨.invalidEncoding, l.span, none⟩
  else .ok l.char

def Literal.member (m : Mode) (l : Literal) : Except Fault Char := do
  let c ← l.character m
  if m.unicode || c.toNat < 128 then return c else .error ⟨.unicodeNotAllowed, l.span, none⟩

def SetOperator.combine : SetOperator → CodeSet → CodeSet → CodeSet
  | intersection, a, b => a.inter b
  | difference, a, b => a.diff b
  | symmetricDifference, a, b => a.symmDiff b

mutual

/-- The code points of a set. Case variants are added before a set is negated and on both sides of
an operator. -/
def CharSet.codes (m : Mode) : CharSet → Except Fault CodeSet
  | .empty _ => .ok []
  | .literal l => do return single (← l.member m)
  | .range _ first last => do
    let low ← first.member m
    let high ← last.member m
    return [⟨low.toNat, high.toNat⟩]
  | .ascii span negated kind => m.finish span negated (m.foldCase kind.codes)
  | .letter l => l.codes m
  | .property p => p.codes m
  | .bracketed span negated content => do
    m.finish span negated (m.foldCase (← content.codes m))
  | .union _ items => CharSet.codesOfAll m items
  | .combined _ operator left right => do
    let a ← left.codes m
    let b ← right.codes m
    return operator.combine (m.foldCase a) (m.foldCase b)

def CharSet.codesOfAll (m : Mode) : List CharSet → Except Fault CodeSet
  | [] => .ok []
  | s :: rest => do
    let a ← s.codes m
    let b ← CharSet.codesOfAll m rest
    return a.union b

end

end NamedSchema.Pattern
