/-!
# Log levels

How much the command line says about its work.
-/
namespace NamedSchema

inductive LogLevel where
  | error
  | warn
  | info
  | debug
  | trace
  deriving DecidableEq, Repr

namespace LogLevel

def name : LogLevel → String
  | error => "ERROR"
  | warn => "WARN"
  | info => "INFO"
  | debug => "DEBUG"
  | trace => "TRACE"

/-- The level for a number of verbosity flags; `quiet` outweighs them. -/
def ofFlags (verbose : Nat) (quiet : Bool) : LogLevel :=
  if quiet then error
  else
    match verbose with
    | 0 => warn
    | 1 => info
    | 2 => debug
    | _ => trace

end LogLevel

end NamedSchema
