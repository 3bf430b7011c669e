import ChronoText.Proofs.Parsing.Units

/-! Numbers with separators between them. Each separator is printed or not by what it counts on
either side of it, the one number before it and all that follow. Together they make a list of the
numbers that have a text: a separator stands between each two of them and nowhere else. -/

set_option autoImplicit false

namespace ChronoText

/-- The texts with the text of the separator between them, and its final text before the last. -/
def Separator.listed (between : Separator) : List (List Char) → List Char
  | [] => []
  | [only] => only
  | [previous, last] => previous ++ between.finalText.toList ++ last
  | first :: second :: third :: rest =>
    first ++ between.text.toList ++ between.listed (second :: third :: rest)

namespace Element

/-- The texts of the numbers that have one, in their order. -/
def numberTexts (context : PrintContext) (numbers : List NumberField) : List (List Char) :=
  (numbers.map (·.print context)).filter (· ≠ [])

/-- The numbers with the separator between each two that stand side by side. -/
def separatedNumbers (between : Separator) (numbers : List NumberField) : List Element :=
  (numbers.map Element.number).intersperse (.separator between)

variable {context : PrintContext} {between : Separator}

theorem separatedNumbers_cons (number next : NumberField) (rest : List NumberField) :
    separatedNumbers between (number :: next :: rest) =
      .number number :: .separator between :: separatedNumbers between (next :: rest) := rfl

theorem numberTexts_of_unprinted {number : NumberField} (hidden : number.print context = [])
    (rest : List NumberField) : numberTexts context (number :: rest) = numberTexts context rest := by
  rw [numberTexts, List.map_cons, List.filter_cons_of_neg (by simp [hidden]), numberTexts]

theorem numberTexts_of_printed {number : NumberField} (shown : number.print context ≠ [])
    (rest : List NumberField) :
    numberTexts context (number :: rest) = number.print context :: numberTexts context rest := by
  rw [numberTexts, List.map_cons, List.filter_cons_of_pos (by simp [shown]), numberTexts]

/-- What follows a separator counts the numbers that have a text. -/
theorem fieldCountOf_separatedNumbers (numbers : List NumberField) :
    fieldCountOf context (separatedNumbers between numbers) =
      (numberTexts context numbers).length := by
  induction numbers with
  | nil => rfl
  | cons number rest ih =>
      have own : fieldCountOf context (separatedNumbers between (number :: rest)) =
          fieldCount context (.number number) +
            fieldCountOf context (separatedNumbers between rest) := by
        cases rest with
        | nil => rfl
        | cons next rest =>
            have silent : fieldCount context (.separator between) = 0 := by rw [fieldCount]
            rw [separatedNumbers_cons, fieldCountOf, fieldCountOf, silent, Nat.zero_add]
      rw [own, ih, fieldCount, NumberField.fieldCount_eq_ite]
      split
      · next hidden => rw [numberTexts_of_unprinted hidden, Nat.zero_add]
      · next shown => rw [numberTexts_of_printed shown, List.length_cons, Nat.add_comm]

theorem textBetween?_zero (text finalText : String) (after : Nat) :
    Separator.textBetween? ⟨text, finalText, .always⟩ 0 after = none := by
  simp [Separator.textBetween?]

/-- Behind a number that has a text, the separator and what follows it go on with the list. -/
theorem listed_cons (text finalText : String) (first : List Char) (texts : List (List Char)) :
    Separator.listed ⟨text, finalText, .always⟩ (first :: texts) =
      first ++ ((Separator.textBetween? ⟨text, finalText, .always⟩ 1 texts.length).getD "").toList
        ++ Separator.listed ⟨text, finalText, .always⟩ texts := by
  match texts with
  | [] => simp [Separator.listed, Separator.textBetween?]
  | [last] => simp [Separator.listed, Separator.textBetween?]
  | second :: third :: rest => simp [Separator.listed, Separator.textBetween?]

/-- Numbers with one separator between each two that stand side by side print as a list of those of
them that have a text: the separator stands between each two of these, in its final form before the
last, and is neither doubled nor put first or last where others have no text. -/
theorem print_separatedNumbers (context : PrintContext) (text finalText : String)
    (numbers : List NumberField) :
    print context (.composite (separatedNumbers ⟨text, finalText, .always⟩ numbers)) =
      Separator.listed ⟨text, finalText, .always⟩ (numberTexts context numbers) := by
  rw [print]
  induction numbers with
  | nil => rfl
  | cons number rest ih =>
      have own : printFrom context 0 (separatedNumbers ⟨text, finalText, .always⟩ (number :: rest)) =
          number.print context ++
            ((Separator.textBetween? ⟨text, finalText, .always⟩
              (fieldCount context (.number number)) (numberTexts context rest).length).getD "").toList
            ++ printFrom context 0 (separatedNumbers ⟨text, finalText, .always⟩ rest) := by
        cases rest with
        | nil => simp [separatedNumbers, printFrom, print, numberTexts, Separator.textBetween?]
        | cons next rest =>
            rw [separatedNumbers_cons, printFrom_element _ _ (not_isSeparator_number _),
              printFrom_separator, fieldCountOf_separatedNumbers, print, Nat.zero_add,
              List.append_assoc]
      rw [own, ih, fieldCount, NumberField.fieldCount_eq_ite]
      split
      · next hidden =>
          rw [textBetween?_zero, hidden, numberTexts_of_unprinted hidden]
          rfl
      · next shown => rw [numberTexts_of_printed shown, listed_cons]

end Element

end ChronoText
