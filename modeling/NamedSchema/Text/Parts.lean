/-!
# Parts of a text

The parts of a text between separators; there is one more of them than there are separators.
-/
namespace NamedSchema.Text

/-- The characters before the first separator, and the parts behind it. -/
def charParts (separator : Char) : List Char → List Char × List (List Char)
  | [] => ([], [])
  | c :: rest =>
    let (first, others) := charParts separator rest
    if c = separator then ([], first :: others) else (c :: first, others)

def parts (separator : Char) (s : String) : List String :=
  let (first, others) := charParts separator s.toList
  (first :: others).map String.ofList

end NamedSchema.Text
