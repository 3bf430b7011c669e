import ChronoText.Failure.Error
import ChronoText.Parsing.Whole
import ChronoText.Printing.Element

/-! Format trees, which are finished formats that formatters share. A tree is one and the same only
with itself: two trees that were made apart differ even if their elements agree. -/

set_option autoImplicit false

namespace ChronoText

structure FormatTree where
  /-- Tells trees that were made apart from each other. -/
  handle : Nat
  elements : List Element

namespace FormatTree

def same (first second : FormatTree) : Bool :=
  first.handle == second.handle

/-- Whether two formatters share a tree, or both have none. -/
def sameOption : Option FormatTree → Option FormatTree → Bool
  | some first, some second => first.same second
  | none, none => true
  | _, _ => false

def print (tree : FormatTree) (context : PrintContext) : List Char :=
  Element.print context (.composite tree.elements)

def lengthHint (tree : FormatTree) (context : PrintContext) : LengthHint :=
  Element.lengthHint context (.composite tree.elements)

def fieldCount (tree : FormatTree) (context : PrintContext) : Nat :=
  Element.fieldCountOf context tree.elements

def periodFields (tree : FormatTree) : PeriodFieldSet :=
  Element.periodFieldsOf tree.elements

def requiresOffset (tree : FormatTree) : Bool :=
  Element.anyRequiresOffset tree.elements

end FormatTree

/-- The tree to print with, which a formatter need not have. -/
def requirePrinter (printer? : Option FormatTree) : Except FormatError FormatTree :=
  match printer? with
  | some tree => pure tree
  | none => throw Misuse.noPrinter.error

/-- The tree to read with, which a formatter need not have. -/
def requireParser (parser? : Option FormatTree) : Except FormatError FormatTree :=
  match parser? with
  | some tree => pure tree
  | none => throw Misuse.noParser.error

/-- A text that goes into a space of a number of bytes. -/
def withinSpace (space : Nat) (text : List Char) : Except FormatError String :=
  if Text.utf8Length text ≤ space then pure (String.ofList text)
  else throw Misuse.spaceExhausted.error

/-- The value that was read, where its failure is an error. -/
def failureAsError {α : Type} (result : Except Failure α) : Except FormatError α :=
  result.mapError .ofFailure

theorem failureAsError_eq_ok_iff {α : Type} {result : Except Failure α} {value : α} :
    failureAsError result = .ok value ↔ result = .ok value := by
  cases result with
  | ok own =>
      constructor
      · intro accepted
        cases accepted
        rfl
      · rintro ⟨⟩
        rfl
  | error failure =>
      constructor
      · intro accepted
        cases accepted
      · rintro ⟨⟩

end ChronoText
