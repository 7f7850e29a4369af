import NamedSchema.Pattern.Fault

/-!
# The syntax of patterns

What a pattern says, with the spans that a fault may point at. Sets of characters have a syntax of
their own inside brackets.
-/
namespace NamedSchema.Pattern

/-- A character as it is written; `byte` says whether by exactly two hexadecimal digits. -/
structure Literal where
  span : Span
  char : Char
  byte : Bool

inductive LetterClass where
  | digit
  | space
  | word
  deriving DecidableEq, Repr

structure Letter where
  span : Span
  negated : Bool
  kind : LetterClass

/-- How a class of characters is asked for by a property. -/
inductive PropertyQuery where
  | named (name : String)
  | valued (name value : String)
  deriving DecidableEq, Repr

structure Property where
  span : Span
  negated : Bool
  query : PropertyQuery

inductive AsciiClass where
  | alnum
  | alpha
  | ascii
  | blank
  | cntrl
  | digit
  | graph
  | lower
  | print
  | punct
  | space
  | upper
  | word
  | xdigit
  deriving DecidableEq, Repr

def AsciiClass.ofName? : String → Option AsciiClass
  | "alnum" => some .alnum
  | "alpha" => some .alpha
  | "ascii" => some .ascii
  | "blank" => some .blank
  | "cntrl" => some .cntrl
  | "digit" => some .digit
  | "graph" => some .graph
  | "lower" => some .lower
  | "print" => some .print
  | "punct" => some .punct
  | "space" => some .space
  | "upper" => some .upper
  | "word" => some .word
  | "xdigit" => some .xdigit
  | _ => none

inductive SetOperator where
  | intersection
  | difference
  | symmetricDifference
  deriving DecidableEq, Repr

inductive CharSet where
  | empty (span : Span)
  | literal (value : Literal)
  | range (span : Span) (first last : Literal)
  | ascii (span : Span) (negated : Bool) (kind : AsciiClass)
  | letter (value : Letter)
  | property (value : Property)
  | bracketed (span : Span) (negated : Bool) (content : CharSet)
  | union (span : Span) (items : List CharSet)
  | combined (span : Span) (operator : SetOperator) (left right : CharSet)

def CharSet.span : CharSet → Span
  | empty s => s
  | literal l => l.span
  | range s _ _ => s
  | ascii s _ _ => s
  | letter l => l.span
  | property p => p.span
  | bracketed s _ _ => s
  | union s _ => s
  | combined s _ _ _ => s

inductive Assertion where
  | lineStart
  | lineEnd
  | textStart
  | textEnd
  | boundary
  | noBoundary
  | wordStart
  | wordEnd
  | wordStartHalf
  | wordEndHalf
  deriving DecidableEq, Repr

inductive Flag where
  | caseInsensitive
  | multiLine
  | dotMatchesNewLine
  | swapGreed
  | unicode
  | carriageReturns
  | ignoreBlanks
  deriving DecidableEq, Repr

/-- Flags that are set and flags that are cleared. -/
structure FlagChange where
  set : List Flag
  cleared : List Flag

/-- What a change makes of a flag, if it says anything about it. -/
def FlagChange.value? (c : FlagChange) (f : Flag) : Option Bool :=
  if c.set.contains f then some true
  else if c.cleared.contains f then some false
  else none

/-- A pattern. A repetition tells the least and the greatest number of times. -/
inductive Node where
  | empty (span : Span)
  | flags (span : Span) (change : FlagChange)
  | literal (value : Literal)
  | dot (span : Span)
  | assertion (span : Span) (kind : Assertion)
  | letter (value : Letter)
  | property (value : Property)
  | set (value : CharSet)
  | repetition (span : Span) (least : Nat) (most : Option Nat) (body : Node)
  | group (span : Span) (captures : Bool) (change : FlagChange) (body : Node)
  | alternation (span : Span) (branches : List Node)
  | sequence (span : Span) (items : List Node)

def Node.span : Node → Span
  | empty s => s
  | flags s _ => s
  | literal l => l.span
  | dot s => s
  | assertion s _ => s
  | letter l => l.span
  | property p => p.span
  | set s => s.span
  | repetition s _ _ _ => s
  | group s _ _ _ => s
  | alternation s _ => s
  | sequence s _ => s

mutual

/-- The first set, in reading order, that is nested more than `room` levels deep. -/
def CharSet.tooDeep? (room : Nat) : CharSet → Option Span
  | .bracketed span _ content =>
    match room with
    | 0 => some span
    | room + 1 => content.tooDeep? room
  | .union span items =>
    match room with
    | 0 => some span
    | room + 1 => CharSet.anyTooDeep? room items
  | .combined span _ left right =>
    match room with
    | 0 => some span
    | room + 1 => (left.tooDeep? room).orElse fun _ => right.tooDeep? room
  | _ => none

def CharSet.anyTooDeep? (room : Nat) : List CharSet → Option Span
  | [] => none
  | s :: rest => (s.tooDeep? room).orElse fun _ => CharSet.anyTooDeep? room rest

end

mutual

/-- The first part, in reading order, that is nested more than `room` levels deep. -/
def Node.tooDeep? (room : Nat) : Node → Option Span
  | .set value => value.tooDeep? room
  | .repetition span _ _ body =>
    match room with
    | 0 => some span
    | room + 1 => body.tooDeep? room
  | .group span _ _ body =>
    match room with
    | 0 => some span
    | room + 1 => body.tooDeep? room
  | .alternation span branches =>
    match room with
    | 0 => some span
    | room + 1 => Node.anyTooDeep? room branches
  | .sequence span items =>
    match room with
    | 0 => some span
    | room + 1 => Node.anyTooDeep? room items
  | _ => none

def Node.anyTooDeep? (room : Nat) : List Node → Option Span
  | [] => none
  | n :: rest => (n.tooDeep? room).orElse fun _ => Node.anyTooDeep? room rest

end

def nestingLimit : Nat := 250

end NamedSchema.Pattern
