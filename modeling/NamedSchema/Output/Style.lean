/-!
# Styled text

Text for a terminal, with escape sequences around what is coloured, bold or dim. Without colours all
text is plain.
-/
namespace NamedSchema.Output

/-- A way to show text, by its numbers in an escape sequence. -/
inductive Style where
  | red
  | green
  | yellow
  | cyan
  | bold
  | dimmed
  | heading
  | alarm
  deriving DecidableEq, Repr

def Style.codes : Style → String
  | red => "31"
  | green => "32"
  | yellow => "33"
  | cyan => "36"
  | bold => "1"
  | dimmed => "2"
  | heading => "1;36"
  | alarm => "1;31"

def Style.opening (s : Style) : List Char := "\x1b[".toList ++ s.codes.toList ++ ['m']

def closing : List Char := "\x1b[0m".toList

/-- Starts a style again behind everything that ends it. -/
def resume (opening : List Char) : List Char → List Char
  | '\x1b' :: '[' :: '0' :: 'm' :: rest => closing ++ opening ++ resume opening rest
  | c :: rest => c :: resume opening rest
  | [] => []

def pad (width : Nat) (cs : List Char) : List Char :=
  cs ++ List.replicate (width - cs.length) ' '

/-- A text in a style, filled up to a width. -/
def Style.paintPadded (s : Style) (colored : Bool) (width : Nat) (text : String) : String :=
  String.ofList <|
    if colored then s.opening ++ pad width (resume s.opening text.toList) ++ closing
    else pad width text.toList

def Style.paint (s : Style) (colored : Bool) (text : String) : String :=
  s.paintPadded colored 0 text

@[simp] theorem Style.paint_plain (s : Style) (text : String) : s.paint false text = text := by
  simp [paint, paintPadded, pad]

def rule (c : Char) : String := String.ofList (List.replicate 60 c)

def unlines (lines : List String) : String := String.join (lines.map (· ++ "\n"))

@[simp] theorem unlines_append (first second : List String) :
    unlines (first ++ second) = unlines first ++ unlines second := by
  rw [unlines, List.map_append, String.join_append]
  rfl

theorem unlines_flatMap {α : Type} (items : List α) (f : α → List String) :
    unlines (items.flatMap f) = String.join (items.map fun a => unlines (f a)) := by
  induction items with
  | nil => rfl
  | cons a rest ih => rw [List.flatMap_cons, unlines_append, ih, List.map_cons, String.join_cons]

end NamedSchema.Output
