/-! The ways in which a pattern or a value text can be wrong, and the wording of each. A wording is
a template: text with numbered holes that the parameters of a failure fill. -/

set_option autoImplicit false

namespace ChronoText

/-- The text before the first hole and the text after each hole, in order. -/
structure Template where
  opening : String
  afterHoles : List String

namespace Template

def arity (template : Template) : Nat :=
  template.afterHoles.length

/-- The holes from `index` on, each followed by its text. -/
def joinHoles (hole : Nat → String) : Nat → List String → String
  | _, [] => ""
  | index, text :: rest => hole index ++ text ++ joinHoles hole (index + 1) rest

/-- The template with the hole numbered `n` replaced by `hole n`. -/
def fill (template : Template) (hole : Nat → String) : String :=
  template.opening ++ joinHoles hole 0 template.afterHoles

/-- The template with each hole shown as its number in braces. -/
def text (template : Template) : String :=
  template.fill fun index => "\x7b" ++ toString index ++ "\x7d"

end Template

inductive FailureKind where
  /-- An argument that has to be given was empty. -/
  | emptyArgument
  | emptyValue
  | emptyPattern
  /-- A pattern of one character names no standard pattern. -/
  | unknownStandardPattern
  | patternEnded
  | percentAtEnd
  | percentDoubled
  | percentBeforeNonLetter
  | escapeAtEnd
  | quoteNotClosed
  /-- A letter was repeated more often than its field allows. -/
  | tooManyRepeats
  | unknownLetter
  | quotedMismatch
  | escapedMismatch
  | characterMismatch
  | spaceMismatch
  | decimalSeparatorMissing
  | timeSeparatorMismatch
  | dateSeparatorMismatch
  | numberMismatch
  | excessDigits
  | valueOutOfRange
  | nameMismatch
  | affixMismatch
  | signMissing
  /-- A sign stands before a field that takes none. -/
  | signUnexpected
  | separatorMissing
  /-- A separator was read and no field after it. -/
  | fieldMissing
  | fieldNotSupported
  /-- The format matched, but text is left over. -/
  | textLeftOver
  /-- The fields that were read do not make a value. -/
  | noSuchValue
  deriving DecidableEq

namespace FailureKind

/-- Whether the failure is one of the pattern and not of a value. -/
def isPatternFailure : FailureKind → Bool
  | emptyPattern | unknownStandardPattern | patternEnded | percentAtEnd | percentDoubled
  | percentBeforeNonLetter | escapeAtEnd | quoteNotClosed | tooManyRepeats | unknownLetter => true
  | _ => false

def template : FailureKind → Template
  | emptyArgument => ⟨"The argument \"", ["\" cannot be empty."]⟩
  | emptyValue => ⟨"The value string is empty.", []⟩
  | emptyPattern => ⟨"The format string is empty.", []⟩
  | unknownStandardPattern => ⟨"The standard format \"", ["\" is not valid."]⟩
  | patternEnded => ⟨"The format string ended unexpectedly.", []⟩
  | percentAtEnd => ⟨"A percent sign (%) appears at the end of the format string.", []⟩
  | percentDoubled =>
    ⟨"A percent sign (%) is followed by another percent sign in the format string.", []⟩
  | percentBeforeNonLetter =>
    ⟨"A percent sign (%) must be followed by a pattern letter, not \"", ["\"."]⟩
  | escapeAtEnd =>
    ⟨"The format string has an escape character (\\) at the end of the string.", []⟩
  | quoteNotClosed => ⟨"The format string is missing the end quote character \"", ["\"."]⟩
  | tooManyRepeats =>
    ⟨"There were more consecutive copies of the pattern character \"",
      ["\" than the maximum allowed (", ")."]⟩
  | unknownLetter =>
    ⟨"The character \"", ["\" is not a pattern letter; quote or escape it to use it as text."]⟩
  | quotedMismatch =>
    ⟨"The value string does not match a quoted string \"", ["\" in the pattern."]⟩
  | escapedMismatch =>
    ⟨"The value string does not match an escaped character \"\\", ["\" in the pattern."]⟩
  | characterMismatch =>
    ⟨"The value string does not match the character \"", ["\" in the pattern."]⟩
  | spaceMismatch => ⟨"The value string does not match a space in the pattern.", []⟩
  | decimalSeparatorMissing =>
    ⟨"The value string does not contain the decimal separator \"", ["\"."]⟩
  | timeSeparatorMismatch =>
    ⟨"The value string does not contain the time separator \"", ["\"."]⟩
  | dateSeparatorMismatch =>
    ⟨"The value string does not contain the date separator \"", ["\"."]⟩
  | numberMismatch =>
    ⟨"The value string does not match the required number from the field \"", ["\"."]⟩
  | excessDigits =>
    ⟨"The value string has more digits than the field \"", ["\" allows (", ")."]⟩
  | valueOutOfRange => ⟨"The value ", [" is out of range for the field \"", "\"."]⟩
  | nameMismatch =>
    ⟨"The value string does not match any text value of the field \"", ["\"."]⟩
  | affixMismatch => ⟨"The value string does not match the affix \"", ["\"."]⟩
  | signMissing => ⟨"The value string does not contain a required sign.", []⟩
  | signUnexpected => ⟨"The field \"", ["\" does not accept a signed value."]⟩
  | separatorMissing => ⟨"The value string is missing the separator \"", ["\"."]⟩
  | fieldMissing => ⟨"The separator \"", ["\" is not followed by a field."]⟩
  | fieldNotSupported =>
    ⟨"The field \"", ["\" is not supported by the period type \"", "\"."]⟩
  | textLeftOver =>
    ⟨"The format matches a prefix of the value string but not the entire string. "
      ++ "Part not matching: \"", ["\"."]⟩
  | noSuchValue => ⟨"The value string cannot be parsed into a ", ["."]⟩

end FailureKind

end ChronoText
