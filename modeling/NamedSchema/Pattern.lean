import NamedSchema.Pattern.Matching
import NamedSchema.Pattern.Reader
import NamedSchema.Pattern.Size

/-!
# Patterns

A pattern describes texts: it is compiled from its source and then says of a text whether it occurs
in it anywhere.
-/
namespace NamedSchema

/-- A compiled pattern. -/
structure Pattern where
  source : String
  expr : Pattern.Expr

namespace Pattern

inductive CompileError where
  | faulty (fault : Fault)
  | tooLarge
  deriving DecidableEq, Repr

def CompileError.message (source : String) : CompileError → String
  | faulty fault => fault.report source
  | tooLarge => "Compiled regex exceeds size limit of " ++ toString roomLimit ++ " bytes."

def compile (source : String) : Except CompileError Pattern :=
  match do (← Node.ofText source).meaning .initial with
  | .error fault => .error (.faulty fault)
  | .ok (expr, _) => if expr.fits then .ok ⟨source, expr⟩ else .error .tooLarge

def occursIn (p : Pattern) (text : String) : Bool := p.expr.occursIn text

theorem source_of_compile {source : String} {p : Pattern} (h : compile source = .ok p) :
    p.source = source := by
  unfold compile at h
  split at h
  · simp at h
  · split at h
    · cases h; rfl
    · simp at h

end Pattern

end NamedSchema
