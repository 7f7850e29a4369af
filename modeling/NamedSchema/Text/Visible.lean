import NamedSchema.Unicode.GeneralCategory
import NamedSchema.Unicode.Property

/-!
# Visible text

How a text is quoted inside a message so that every character of it can be seen: quotes and
backslashes are escaped, and a character that does not print, or prints only together with the one
before it, is written as its code point.
-/
namespace NamedSchema.Text

/-- Code points without a glyph of their own: controls, formats, unassigned and private code points,
and every separator but the blank. -/
def unprintable : Unicode.CodeSet :=
  (Unicode.ofCategories ["Cc", "Cf", "Cs", "Co", "Cn", "Zs", "Zl", "Zp"]).diff [⟨32, 32⟩]

/-- Code points that extend the character before them. -/
def extending : Unicode.CodeSet := (Unicode.property? "graphemeextend").getD []

def visibleChar (c : Char) : List Char :=
  if c = '"' then ['\\', '"']
  else if c = '\\' then ['\\', '\\']
  else if c = '\n' then ['\\', 'n']
  else if c = '\r' then ['\\', 'r']
  else if c = '\t' then ['\\', 't']
  else if c = '\x00' then ['\\', '0']
  else if 32 ≤ c.toNat ∧ c.toNat < 127 then [c]
  else if extending.contains c.toNat || unprintable.contains c.toNat then
    '\\' :: 'u' :: '\x7b' :: Nat.toDigits 16 c.toNat ++ ['\x7d']
  else [c]

/-- The text in double quotes. -/
def visible (s : String) : String :=
  String.ofList ('"' :: s.toList.flatMap visibleChar ++ ['"'])

end NamedSchema.Text
