import NamedSchema.Json.Decoder

/-!
# Configuration

How deep type checks may be nested, with its form as JSON.
-/
namespace NamedSchema

structure ValidatorConfig where
  /-- How many type checks may be open at once. -/
  maxDepth : Nat
  deriving DecidableEq, Repr

namespace ValidatorConfig

def standard : ValidatorConfig := ⟨512⟩

def json (c : ValidatorConfig) : Json := .obj [("max_depth", .num (.int c.maxDepth))]

/-- How settings are read; one that is left out has its standard value. -/
def shape : Json.Shape (Option Nat) ValidatorConfig where
  name := "ValidatorConfig"
  fields := [.into "max_depth" true id (fun _ n => some n) Json.decodeCount]
  draft := none
  finish := fun d => .ok ⟨d.getD standard.maxDepth⟩

def decode : Json.Decoder ValidatorConfig := shape.decode

end ValidatorConfig

end NamedSchema
