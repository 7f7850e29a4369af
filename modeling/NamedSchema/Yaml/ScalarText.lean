import NamedSchema.Yaml.Cursor

/-!
# The text of YAML scalars

Reads the content of quoted, plain and block scalars. Inside quoted and plain scalars a single line
break is read as a blank and of several the first is dropped; block scalars keep their breaks, or
fold them by a rule of their own.
-/
namespace NamedSchema.Yaml

/-- Blanks and line breaks between two parts of a scalar. -/
structure Space where
  /-- Blanks before the first line break, last one first. -/
  blanks : List Char
  /-- The first line break, if it was read. -/
  first : List Char
  /-- The line breaks after the first. -/
  others : List Char
  /-- Whether there was a line break. -/
  broken : Bool

namespace Space

def none : Space := ⟨[], [], [], false⟩

/-- What the space is read as. -/
def text (s : Space) : List Char :=
  if s.broken then
    if s.first = ['\n'] then if s.others.isEmpty then [' '] else s.others
    else s.first ++ s.others
  else s.blanks.reverse

end Space

/-- Reads blanks and line breaks. Within a plain scalar that began at a place, a tab before a column of
a further line is refused. -/
def readSpace (plain : Option (Mark × Nat)) : (fuel : Nat) → Space → Read Space
  | 0, space, c => .ok (space, c)
  | fuel + 1, space, c =>
    match c.rest with
    | [] => .ok (space, c)
    | x :: _ =>
      if isBlank x then
        match plain.filter fun p => space.broken && c.mark.column < p.2 && x = '\t' with
        | some (start, _) => c.fail .tabInPlain .plainScalar start
        | none =>
          if space.broken then readSpace plain fuel space c.skip
          else readSpace plain fuel { space with blanks := x :: space.blanks } c.skip
      else if isBreak x then
        let (text, c) := c.readBreak
        if space.broken then readSpace plain fuel { space with others := space.others ++ text } c
        else readSpace plain fuel ⟨[], text, [], true⟩ c
      else .ok (space, c)

/-! ## Quoted scalars -/

def letterEscape? : Char → Option Char
  | '0' => some '\x00'
  | 'a' => some '\x07'
  | 'b' => some '\x08'
  | 't' => some '\t'
  | '\t' => some '\t'
  | 'n' => some '\n'
  | 'v' => some '\x0b'
  | 'f' => some '\x0c'
  | 'r' => some '\r'
  | 'e' => some '\x1b'
  | ' ' => some ' '
  | '"' => some '"'
  | '/' => some '/'
  | '\\' => some '\\'
  | 'N' => some (Char.ofNat 0x85)
  | '_' => some (Char.ofNat 0xA0)
  | 'L' => some (Char.ofNat 0x2028)
  | 'P' => some (Char.ofNat 0x2029)
  | _ => none

/-- How many hexadecimal digits an escape letter announces. -/
def codeDigits? : Char → Option Nat
  | 'x' => some 2
  | 'u' => some 4
  | 'U' => some 8
  | _ => none

def hexNumber? (digits : List Char) : Option Nat :=
  digits.foldl (fun n d => do return (← n) * 16 + (← hexValue? d)) (some 0)

def readEscape (start : Mark) : Read Char := fun c =>
  let letter := c.second?
  match letter.bind letterEscape?, letter.bind codeDigits? with
  | some char, _ => .ok (char, c.skipMany 2)
  | none, none => c.fail .unknownEscape .quotedEscape start
  | none, some count =>
    let inside := c.skipMany 2
    let digits := inside.rest.take count
    match if digits.length = count then hexNumber? digits else none with
    | none => inside.fail .hexDigits .quotedEscape start
    | some n =>
      if n.isValidChar then .ok (Char.ofNat n, inside.skipMany count)
      else inside.fail .badCodePoint .quotedEscape start

/-- The rest of a quoted scalar that began at `start`; `content` holds what has been read, last
character first. -/
def readQuotedFrom (single : Bool) (start : Mark) : (fuel : Nat) → (content : List Char) →
    Read (List Char)
  | 0, _, c => c.fail .endOfStream .quotedScalar start
  | fuel + 1, content, c =>
    if c.atDocumentMarker then c.fail .documentMarker .quotedScalar start
    else
      match c.rest with
      | [] => c.fail .endOfStream .quotedScalar start
      | x :: rest =>
        if isBlank x || isBreak x then do
          let (space, c) ← readSpace none c.rest.length .none c
          readQuotedFrom single start fuel (space.text.reverse ++ content) c
        else if x = (if single then '\'' else '"') then
          if single ∧ rest.head? = some '\'' then
            readQuotedFrom single start fuel ('\'' :: content) (c.skipMany 2)
          else .ok (content.reverse, c.skip)
        else if x = '\\' ∧ !single then
          if rest.head?.any isBreak then do
            let c := c.skip.skipBreak
            let (space, c) ← readSpace none c.rest.length ⟨[], [], [], true⟩ c
            readQuotedFrom single start fuel (space.text.reverse ++ content) c
          else do
            let (char, c) ← readEscape start c
            readQuotedFrom single start fuel (char :: content) c
        else readQuotedFrom single start fuel (x :: content) c.skip

def readQuoted (single : Bool) : Read (List Char) := fun c =>
  readQuotedFrom single c.mark (c.rest.length + 1) [] c.skip

/-! ## Plain scalars -/

def isFlowIndicator (c : Char) : Bool := ",[]\x7b\x7d".toList.contains c

/-- The rest of a plain scalar: `content` holds what has been read, last character first, `space` what
has been passed since, and `resumed` says that the cursor stands behind it. Further lines have to reach
column `indent`, except in flow collections. -/
def readPlainFrom (flow : Bool) (indent : Nat) (start : Mark) : (fuel : Nat) → (resumed : Bool) →
    (content : List Char) → Space → Read (List Char × Bool)
  | 0, _, content, space, c => .ok ((content.reverse, space.broken), c)
  | fuel + 1, resumed, content, space, c =>
    let ended := Except.ok ((content.reverse, space.broken), c)
    if resumed && (c.atDocumentMarker || c.isAt '#') then ended
    else
      match c.rest with
      | [] => ended
      | x :: rest =>
        if isBlank x || isBreak x then do
          let (space, c) ← readSpace (some (start, indent)) c.rest.length .none c
          if !flow && c.mark.column < indent then return ((content.reverse, space.broken), c)
          else readPlainFrom flow indent start fuel true content space c
        else if flow && x = ':' && rest.head?.any fun y => isFlowIndicator y || y = '?' then
          c.fail .flowColon .plainScalar start
        else if (x = ':' && Cursor.isGap rest.head?) || (flow && isFlowIndicator x) then ended
        else
          readPlainFrom flow indent start fuel false (x :: (space.text.reverse ++ content)) .none
            c.skip

/-- A plain scalar: its text, and whether a line break follows it. -/
def readPlain (flow : Bool) (indent : Nat) : Read (List Char × Bool) := fun c =>
  readPlainFrom flow indent c.mark (2 * c.rest.length + 1) true [] .none c

/-! ## Block scalars -/

/-- What becomes of the line breaks at the end of a block scalar. -/
inductive Chomping where
  | strip
  | clip
  | keep
  deriving DecidableEq, Repr

def readChomping? (c : Cursor) : Option (Chomping × Cursor) :=
  match c.head? with
  | some '+' => some (.keep, c.skip)
  | some '-' => some (.strip, c.skip)
  | _ => none

/-- An explicit indentation, which is not zero. -/
def readIncrement (start : Mark) : Read (Option Nat) := fun c =>
  match c.head? with
  | some '0' => c.fail .zeroIndent .blockScalar start
  | some x => if x.isDigit then .ok (some (x.toNat - 48), c.skip) else .ok (none, c)
  | none => .ok (none, c)

/-- The indicators of a block scalar, in either order. -/
def readIndicators (start : Mark) : Read (Chomping × Option Nat) := fun c =>
  match readChomping? c with
  | some (chomping, c) => do
    let (increment, c) ← readIncrement start c
    return ((chomping, increment), c)
  | none => do
    let (increment, c) ← readIncrement start c
    match increment.bind fun _ => readChomping? c with
    | some (chomping, c) => return ((chomping, increment), c)
    | none => return ((.clip, increment), c)

/-- Empty lines and the indentation of the next line: the line breaks, and the greatest column
reached. An indentation of zero is yet to be found out. -/
def readEmptyLines (start : Mark) (indent : Nat) : (fuel : Nat) → (deepest : Nat) →
    (breaks : List Char) → Read (List Char × Nat)
  | 0, deepest, breaks, c => .ok ((breaks, deepest), c)
  | fuel + 1, deepest, breaks, c =>
    let blanks := (c.rest.takeWhile (· = ' ')).length
    let c := c.skipMany (if indent = 0 then blanks else min blanks (indent - c.mark.column))
    let deepest := max deepest c.mark.column
    if (indent = 0 || c.mark.column < indent) && c.isAt '\t' then
      c.fail .tabInIndent .blockScalar start
    else if c.head?.any isBreak then
      let (text, c) := c.readBreak
      readEmptyLines start indent fuel deepest (breaks ++ text) c
    else .ok ((breaks, deepest), c)

/-- The lines of a block scalar: what has been read, last character first, the line break behind it,
and the empty lines behind that. -/
structure BlockText where
  content : List Char
  lineBreak : List Char
  emptyLines : List Char

namespace BlockText

/-- What joins the next line to the text: a folded break becomes a blank, unless empty lines follow
it, or the line before or behind begins with a blank. -/
def joint (t : BlockText) (literal blankBefore blankBehind : Bool) : List Char :=
  if !literal && t.lineBreak = ['\n'] && !blankBefore && !blankBehind then
    if t.emptyLines.isEmpty then [' '] else t.emptyLines
  else t.lineBreak ++ t.emptyLines

def finish (t : BlockText) (chomping : Chomping) : List Char :=
  t.content.reverse ++ (if chomping = .strip then [] else t.lineBreak) ++
    if chomping = .keep then t.emptyLines else []

end BlockText

/-- Reads lines as long as they are indented; `blankBefore` says whether the line before begins with
a blank. -/
def readBlockLines (literal : Bool) (start : Mark) (indent : Nat) : (fuel : Nat) →
    (blankBefore : Bool) → BlockText → Read BlockText
  | 0, _, text, c => .ok (text, c)
  | fuel + 1, blankBefore, text, c =>
    if c.mark.column = indent ∧ !c.rest.isEmpty then do
      let blank := c.head?.any isBlank
      let joint := text.joint literal blankBefore blank
      let (line, c) := c.readWhile fun x => !isBreak x
      let (lineBreak, c) := c.readBreak
      let ((emptyLines, _), c) ← readEmptyLines start indent (c.rest.length + 1) 0 [] c
      readBlockLines literal start indent fuel blank
        ⟨line.reverse ++ (joint.reverse ++ text.content), lineBreak, emptyLines⟩ c
    else .ok (text, c)

/-- A block scalar, at its indicator; `parent` is the least column of its lines. -/
def readBlock (literal : Bool) (parent : Nat) : Read (List Char) := fun c => do
  let start := c.mark
  let ((chomping, increment), c) ← readIndicators start c.skip
  let c := (c.skipWhile isBlank).skipComment
  if !c.atLineEnd then c.fail .blockHeaderTail .blockScalar start
  else
    let c := c.skipBreak
    let given := (increment.map (parent - 1 + ·)).getD 0
    let ((emptyLines, deepest), c) ← readEmptyLines start given (c.rest.length + 1) 0 [] c
    let indent := if given = 0 then max deepest (max parent 1) else given
    let (text, c) ← readBlockLines literal start indent (c.rest.length + 1) false
      ⟨[], [], emptyLines⟩ c
    return (text.finish chomping, c)

end NamedSchema.Yaml
