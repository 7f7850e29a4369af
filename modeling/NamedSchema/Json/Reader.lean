import NamedSchema.Json.Token

/-!
# Reading JSON values

A text is a value if its tokens form one and nothing follows. Containers may be nested up to 127
deep. A repeated key keeps its first place and its last value.
-/
namespace NamedSchema.Json

def nestingLimit : Nat := 127

/-- A step of reading: it takes tokens off the front. -/
abbrev Read (α : Type) := List Token → Except Fault (α × List Token)

def ended : Fault := ⟨.eofInValue, Mark.start⟩

/-- The next element of an array, if there is one: the tokens from its first on. Without one, the
tokens start with the closing bracket. `first` says that no element has been read yet. -/
def nextElement? (first : Bool) : List Token → Except Fault (Bool × List Token)
  | [] => .error ended
  | t :: rest =>
    match t.kind, first with
    | .done, _ => .error ⟨.eofInArray, t.start⟩
    | .closeArray, _ => .ok (false, t :: rest)
    | _, true => .ok (true, t :: rest)
    | .comma, false =>
      match rest with
      | [] => .error ended
      | u :: _ =>
        match u.kind with
        | .closeArray => .error ⟨.trailingComma, u.beyond⟩
        | .done => .error ⟨.eofInValue, u.start⟩
        | _ => .ok (true, rest)
    | _, false => .error ⟨.missingArraySeparator, t.beyond⟩

def readKey : Read String
  | [] => .error ended
  | t :: rest =>
    match t.kind with
    | .string (.ok k) => .ok (k, rest)
    | .string (.error fault) => .error fault
    | .broken true fault _ => .error fault
    | _ => .error ⟨.keyNotString, t.beyond⟩

/-- The next key of an object, if there is one; otherwise the tokens start with the closing
bracket. -/
def nextKey? (first : Bool) : List Token → Except Fault (Option String × List Token)
  | [] => .error ended
  | t :: rest =>
    match t.kind, first with
    | .done, _ => .error ⟨.eofInObject, t.start⟩
    | .closeObject, _ => .ok (none, t :: rest)
    | _, true => (readKey (t :: rest)).map fun (k, rest) => (some k, rest)
    | .comma, false =>
      match rest with
      | [] => .error ended
      | u :: _ =>
        match u.kind with
        | .closeObject => .error ⟨.trailingComma, u.beyond⟩
        | .done => .error ⟨.eofInValue, u.start⟩
        | _ => (readKey rest).map fun (k, rest) => (some k, rest)
    | _, false => .error ⟨.missingObjectSeparator, t.beyond⟩

def readColon : List Token → Except Fault (List Token)
  | [] => .error ended
  | t :: rest =>
    match t.kind with
    | .colon => .ok rest
    | .done => .error ⟨.eofInObject, t.start⟩
    | _ => .error ⟨.missingColon, t.beyond⟩

mutual

/-- A value of at most `depth` nested containers; `fuel` exceeds the number of tokens. -/
def readValue : (fuel depth : Nat) → Read Json
  | 0, _, _ => .error ended
  | _, _, [] => .error ended
  | fuel + 1, depth, t :: rest =>
    match t.kind with
    | .null => .ok (.null, rest)
    | .bool b => .ok (.bool b, rest)
    | .number (.ok n) => .ok (.num n, rest)
    | .number (.error fault) => .error fault
    | .string (.ok s) => .ok (.str s, rest)
    | .string (.error fault) => .error fault
    | .broken _ fault _ => .error fault
    | .openArray =>
      match depth with
      | 0 => .error ⟨.nestingTooDeep, t.beyond⟩
      | depth + 1 => do
        let (items, rest) ← readItems fuel depth true rest
        return (.arr items, rest)
    | .openObject =>
      match depth with
      | 0 => .error ⟨.nestingTooDeep, t.beyond⟩
      | depth + 1 => do
        let (members, rest) ← readMembers fuel depth true [] rest
        return (.obj members, rest)
    | .done => .error ⟨.eofInValue, t.start⟩
    | _ => .error ⟨.missingValue, t.beyond⟩

/-- The elements of an array up to its closing bracket. -/
def readItems : (fuel depth : Nat) → (first : Bool) → Read (List Json)
  | 0, _, _, _ => .error ended
  | fuel + 1, depth, first, ts => do
    let (more, ts) ← nextElement? first ts
    if more then
      let (item, ts) ← readValue fuel depth ts
      let (items, ts) ← readItems fuel depth false ts
      return (item :: items, ts)
    else return ([], ts.drop 1)

/-- The members of an object up to its closing bracket, added to those read before. -/
def readMembers : (fuel depth : Nat) → (first : Bool) → (members : List (String × Json)) →
    Read (List (String × Json))
  | 0, _, _, _, _ => .error ended
  | fuel + 1, depth, first, members, ts => do
    match ← nextKey? first ts with
    | (some key, ts) =>
      let ts ← readColon ts
      let (value, ts) ← readValue fuel depth ts
      readMembers fuel depth false (insert key value members) ts
    | (none, ts) => return (members, ts.drop 1)

end

def readEnd : List Token → Except Fault Unit
  | [] => .ok ()
  | t :: _ =>
    match t.kind with
    | .done => .ok ()
    | _ => .error ⟨.trailingCharacters, t.beyond⟩

def read (text : String) : Except Fault Json := do
  let ts := tokens text
  let (value, rest) ← readValue (2 * ts.length + 1) nestingLimit ts
  readEnd rest
  return value

end NamedSchema.Json
