/-!
# Faults in YAML text

Where a text stops being YAML, why, and inside of what. Lines and columns are counted from zero and
shown from one; the very beginning of the text is not shown.
-/
namespace NamedSchema.Yaml

/-- A place in a text: characters before it, lines before it, characters before it on its line. -/
structure Mark where
  index : Nat
  line : Nat
  column : Nat
  deriving DecidableEq, Repr

namespace Mark

def start : Mark := ⟨0, 0, 0⟩

def isShown (m : Mark) : Bool := m.line ≠ 0 || m.column ≠ 0

/-- The place in words, after what is said about it; nothing at the beginning of the text. -/
def suffix (m : Mark) : String :=
  if m.isShown then
    " at line " ++ toString (m.line + 1) ++ " column " ++ toString (m.column + 1)
  else ""

def next (m : Mark) : Mark := ⟨m.index + 1, m.line, m.column + 1⟩

def nextLine (m : Mark) (width : Nat) : Mark := ⟨m.index + width, m.line + 1, 0⟩

end Mark

inductive Context where
  | token
  | simpleKey
  | directive
  | versionDirective
  | tagDirective
  | tagDirectiveStart
  | tagDirectiveHandle
  | tagDirectiveText
  | anchor
  | aliasName
  | tag
  | tagText
  | blockScalar
  | quotedScalar
  | quotedEscape
  | plainScalar
  | node
  | blockNode
  | flowNode
  | blockSequence
  | blockMapping
  | flowSequence
  | flowMapping
  deriving DecidableEq, Repr

def Context.message : Context → String
  | token => "while scanning for the next token"
  | simpleKey => "while scanning a simple key"
  | directive => "while scanning a directive"
  | versionDirective => "while scanning a %YAML directive"
  | tagDirective => "while scanning a %TAG directive"
  | tagDirectiveStart => "while scanning a tag directive"
  | tagDirectiveHandle => "while parsing a tag directive"
  | tagDirectiveText => "while parsing a %TAG directive"
  | anchor => "while scanning an anchor"
  | aliasName => "while scanning an alias"
  | tag => "while scanning a tag"
  | tagText => "while parsing a tag"
  | blockScalar => "while scanning a block scalar"
  | quotedScalar => "while scanning a quoted scalar"
  | quotedEscape => "while parsing a quoted scalar"
  | plainScalar => "while scanning a plain scalar"
  | node => "while parsing a node"
  | blockNode => "while parsing a block node"
  | flowNode => "while parsing a flow node"
  | blockSequence => "while parsing a block collection"
  | blockMapping => "while parsing a block mapping"
  | flowSequence => "while parsing a flow sequence"
  | flowMapping => "while parsing a flow mapping"

inductive Cause where
  | keyWithoutColon
  | entryNotAllowed
  | keyNotAllowed
  | valueNotAllowed
  | unknownDirective
  | directiveTail
  | directiveNameMissing
  | directiveNameUnclean
  | versionSeparator
  | versionTooLong
  | versionMissing
  | tagWhitespace
  | tagLineEnd
  | anchorEmpty
  | tagUnclosed
  | tagMark
  | tagEmpty
  | uriEscape
  | uriLeadingOctet
  | uriTrailingOctet
  | zeroIndent
  | blockHeaderTail
  | tabInIndent
  | documentMarker
  | endOfStream
  | unknownEscape
  | hexDigits
  | badCodePoint
  | flowColon
  | tabInPlain
  | noToken
  | documentStart
  | duplicateVersion
  | incompatibleVersion
  | duplicateTag
  | undefinedHandle
  | nodeContent
  | sequenceDash
  | mappingKey
  | sequenceComma
  | mappingComma
  deriving DecidableEq, Repr

def Cause.message : Cause → String
  | keyWithoutColon => "could not find expected ':'"
  | entryNotAllowed => "block sequence entries are not allowed in this context"
  | keyNotAllowed => "mapping keys are not allowed in this context"
  | valueNotAllowed => "mapping values are not allowed in this context"
  | unknownDirective => "found unknown directive name"
  | directiveTail => "did not find expected comment or line break"
  | directiveNameMissing => "could not find expected directive name"
  | directiveNameUnclean => "found unexpected non-alphabetical character"
  | versionSeparator => "did not find expected digit or '.' character"
  | versionTooLong => "found extremely long version number"
  | versionMissing => "did not find expected version number"
  | tagWhitespace => "did not find expected whitespace"
  | tagLineEnd => "did not find expected whitespace or line break"
  | anchorEmpty => "did not find expected alphabetic or numeric character"
  | tagUnclosed => "did not find the expected '>'"
  | tagMark => "did not find expected '!'"
  | tagEmpty => "did not find expected tag URI"
  | uriEscape => "did not find URI escaped octet"
  | uriLeadingOctet => "found an incorrect leading UTF-8 octet"
  | uriTrailingOctet => "found an incorrect trailing UTF-8 octet"
  | zeroIndent => "found an indentation indicator equal to 0"
  | blockHeaderTail => "did not find expected comment or line break"
  | tabInIndent => "found a tab character where an indentation space is expected"
  | documentMarker => "found unexpected document indicator"
  | endOfStream => "found unexpected end of stream"
  | unknownEscape => "found unknown escape character"
  | hexDigits => "did not find expected hexdecimal number"
  | badCodePoint => "found invalid Unicode character escape code"
  | flowColon => "found unexpected ':'"
  | tabInPlain => "found a tab character that violates indentation"
  | noToken => "found character that cannot start any token"
  | documentStart => "did not find expected <document start>"
  | duplicateVersion => "found duplicate %YAML directive"
  | incompatibleVersion => "found incompatible YAML document"
  | duplicateTag => "found duplicate %TAG directive"
  | undefinedHandle => "found undefined tag handle"
  | nodeContent => "did not find expected node content"
  | sequenceDash => "did not find expected '-' indicator"
  | mappingKey => "did not find expected key"
  | sequenceComma => "did not find expected ',' or ']'"
  | mappingComma => "did not find expected ',' or '\x7d'"

structure Fault where
  cause : Cause
  mark : Mark
  context : Option (Context × Mark)
  deriving DecidableEq, Repr

/-- The fault in words; the beginning of what was being read is named if it is elsewhere. -/
def Fault.message (f : Fault) : String :=
  f.cause.message ++ f.mark.suffix ++
    match f.context with
    | none => ""
    | some (context, m) =>
      ", " ++ context.message ++
        if m.line ≠ f.mark.line ∨ m.column ≠ f.mark.column then m.suffix else ""

end NamedSchema.Yaml
