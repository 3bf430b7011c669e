import ChronoText.Failure.Kind

/-! A failure: what is wrong with a pattern or a value text, and where. Failures are plain values.
They turn into errors only at the entry points of a formatter or a builder. -/

set_option autoImplicit false

namespace ChronoText

/-- What fills a hole of the wording of a failure. -/
inductive FailureParam where
  | character (c : Char)
  | text (s : String)
  | integer (n : Int)
  deriving DecidableEq

namespace FailureParam

def render : FailureParam → String
  | character c => c.toString
  | text s => s
  | integer n => toString n

/-- A count as a parameter. Counts stop at the largest signed number of 64 bits. -/
def count (n : Nat) : FailureParam :=
  integer (min n 0x7fffffffffffffff : Nat)

end FailureParam

structure Failure where
  kind : FailureKind
  params : List FailureParam := []
  /-- The name of the argument that was empty. -/
  argument? : Option String := none
  /-- The place in the pattern, in characters, or in the value text, in bytes. -/
  position? : Option Nat := none
  deriving DecidableEq

namespace Failure

/-- The failure of an argument that has to be given and was empty. -/
def emptyArgument (name : String) : Failure :=
  { kind := .emptyArgument, params := [.text name], argument? := some name }

def withParam (failure : Failure) (param : FailureParam) : Failure :=
  { failure with params := failure.params ++ [param] }

def located (failure : Failure) (position : Nat) : Failure :=
  { failure with position? := some position }

/-- The wording of the kind with the parameters filled in; a question mark fills a hole for which
there is no parameter. -/
def message (failure : Failure) : String :=
  failure.kind.template.fill fun index => (failure.params[index]?.map (·.render)).getD "?"

end Failure

end ChronoText
