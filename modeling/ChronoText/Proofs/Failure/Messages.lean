import ChronoText.Failure.Failure

/-! Messages of failures. The wording of a kind is shown as text in which the holes are numbers in
braces, and the message is that text with the holes filled, one after another and each only once. A
failure with as many parameters as its wording has holes fills each hole with a parameter of its
own. -/

set_option autoImplicit false

namespace ChronoText

namespace Template

/-! ## Template text -/

/-- A part of template text: a character that stands for itself, or a hole. -/
inductive Part where
  | character (c : Char)
  | hole (index : Nat)

namespace Part

def index? : Part → Option Nat
  | character _ => none
  | hole index => some index

def fill (filling : Nat → String) : Part → List Char
  | character c => [c]
  | hole index => (filling index).toList

end Part

def numberOf (digits : List Char) : Nat :=
  digits.foldl (fun number digit => 10 * number + (digit.toNat - '0'.toNat)) 0

/-- The parts of template text. A number in braces is a hole, and an opening brace with anything
else behind it stands for itself. -/
def parts : List Char → List Part
  | [] => []
  | c :: rest =>
    if c ≠ '\x7b' then .character c :: parts rest
    else
      let digits := rest.takeWhile Char.isDigit
      if digits ≠ [] ∧ (rest.dropWhile Char.isDigit).head? = some '\x7d' then
        .hole (numberOf digits) :: parts (rest.dropWhile Char.isDigit).tail
      else
        let shown := if digits = [] then [] else (toString (numberOf digits)).toList
        .character c :: shown.map .character ++ parts (rest.dropWhile Char.isDigit)
termination_by text => text.length
decreasing_by
  all_goals
    have shorter : (rest.dropWhile Char.isDigit).length ≤ rest.length :=
      (List.dropWhile_suffix _).length_le
    simp only [List.length_cons, List.length_tail]
    omega

/-- The numbers of the holes in template text. -/
def holes (text : List Char) : List Nat :=
  (parts text).filterMap Part.index?

theorem parts_of_other {c : Char} (other : c ≠ '\x7b') (rest : List Char) :
    parts (c :: rest) = .character c :: parts rest := by
  rw [parts, if_pos other]

theorem parts_append_of_other {text : List Char} (other : '\x7b' ∉ text) (rest : List Char) :
    parts (text ++ rest) = text.map .character ++ parts rest := by
  induction text with
  | nil => rfl
  | cons c text ih =>
      rw [List.mem_cons, not_or] at other
      rw [List.cons_append, parts_of_other (Ne.symm other.1), ih other.2, List.map_cons, List.cons_append]

/-- In every wording the number of a hole has a single digit. -/
theorem parts_hole {index : Nat} (small : index < 10) (rest : List Char) :
    parts ('\x7b' :: (toString index).toList ++ '\x7d' :: rest) = .hole index :: parts rest := by
  have single : ∀ index < 10, (toString index).toList = [index.digitChar] ∧
      index.digitChar.isDigit = true ∧ numberOf [index.digitChar] = index := by
    decide
  obtain ⟨shown, isDigit, number⟩ := single index small
  have closed : Char.isDigit '\x7d' = false := rfl
  rw [shown, List.cons_append, List.cons_append, List.nil_append, parts]
  simp only [ne_eq, not_true_eq_false, if_false, List.takeWhile_cons, List.dropWhile_cons, isDigit,
    closed, if_true, Bool.false_eq_true, reduceCtorEq, not_false_eq_true, List.head?_cons, and_self,
    List.tail_cons, number]

/-! ## Wordings as template text -/

/-- No text of the wording has an opening brace, and there are no more holes than digits. -/
structure IsPlain (template : Template) : Prop where
  opening : '\x7b' ∉ template.opening.toList
  afterHoles : ∀ text ∈ template.afterHoles, '\x7b' ∉ text.toList
  arity : template.arity ≤ 10

def partsFrom : Nat → List String → List Part
  | _, [] => []
  | index, text :: rest => .hole index :: text.toList.map .character ++ partsFrom (index + 1) rest

theorem parts_joinHoles {index : Nat} {texts : List String}
    (plain : ∀ text ∈ texts, '\x7b' ∉ text.toList) (few : index + texts.length ≤ 10) :
    parts (joinHoles (fun index => "\x7b" ++ toString index ++ "\x7d") index texts).toList =
      partsFrom index texts := by
  induction texts generalizing index with
  | nil => rw [joinHoles, String.toList_empty, parts, partsFrom]
  | cons text texts ih =>
      obtain ⟨first, others⟩ := List.forall_mem_cons.mp plain
      rw [List.length_cons] at few
      have shown : (joinHoles (fun index => "\x7b" ++ toString index ++ "\x7d") index
          (text :: texts)).toList =
          '\x7b' :: (toString index).toList ++ '\x7d' :: (text.toList ++
            (joinHoles (fun index => "\x7b" ++ toString index ++ "\x7d") (index + 1)
              texts).toList) := by
        simp [joinHoles]
      rw [shown, parts_hole (by omega), parts_append_of_other first, ih others (by omega)]
      rfl

theorem parts_text {template : Template} (plain : template.IsPlain) :
    parts template.text.toList =
      template.opening.toList.map .character ++ partsFrom 0 template.afterHoles := by
  have few : 0 + template.afterHoles.length ≤ 10 := by
    rw [Nat.zero_add]
    exact plain.arity
  rw [text, fill, String.toList_append, parts_append_of_other plain.opening,
    parts_joinHoles plain.afterHoles few]

theorem flatMap_fill_character (filling : Nat → String) (text : List Char) :
    (text.map Part.character).flatMap (Part.fill filling) = text := by
  induction text with
  | nil => rfl
  | cons c text ih => rw [List.map_cons, List.flatMap_cons, ih, Part.fill, List.singleton_append]

theorem flatMap_fill_partsFrom (filling : Nat → String) (index : Nat) (texts : List String) :
    (partsFrom index texts).flatMap (Part.fill filling) =
      (joinHoles filling index texts).toList := by
  induction texts generalizing index with
  | nil => rfl
  | cons text texts ih =>
      rw [partsFrom, List.cons_append, List.flatMap_cons, List.flatMap_append,
        flatMap_fill_character, ih, joinHoles, String.toList_append, String.toList_append, Part.fill,
        List.append_assoc]

/-- Filling the template text hole by hole is filling the wording. -/
theorem flatMap_fill_parts {template : Template} (plain : template.IsPlain)
    (filling : Nat → String) :
    (parts template.text.toList).flatMap (Part.fill filling) = (template.fill filling).toList := by
  rw [parts_text plain, List.flatMap_append, flatMap_fill_character, flatMap_fill_partsFrom, fill,
    String.toList_append]

theorem filterMap_index?_character (text : List Char) :
    (text.map Part.character).filterMap Part.index? = [] := by
  simp [Part.index?, Function.comp_def]

theorem filterMap_index?_partsFrom (index : Nat) (texts : List String) :
    (partsFrom index texts).filterMap Part.index? = List.range' index texts.length := by
  induction texts generalizing index with
  | nil => rfl
  | cons text texts ih =>
      rw [partsFrom, List.cons_append, List.filterMap_cons, List.filterMap_append,
        filterMap_index?_character, ih, List.length_cons, List.range'_succ]
      rfl

theorem holes_text {template : Template} (plain : template.IsPlain) :
    holes template.text.toList = List.range template.arity := by
  rw [holes, parts_text plain, List.filterMap_append, filterMap_index?_character,
    filterMap_index?_partsFrom, List.nil_append, List.range_eq_range']
  rfl

theorem joinHoles_congr {first second : Nat → String} {index : Nat} {texts : List String}
    (same : ∀ hole < index + texts.length, first hole = second hole) :
    joinHoles first index texts = joinHoles second index texts := by
  induction texts generalizing index with
  | nil => rfl
  | cons text texts ih =>
      rw [List.length_cons] at same
      rw [joinHoles, joinHoles, same index (by omega), ih fun hole small => same hole (by omega)]

theorem fill_congr {template : Template} {first second : Nat → String}
    (same : ∀ hole < template.arity, first hole = second hole) :
    template.fill first = template.fill second := by
  rw [fill, fill, joinHoles_congr fun hole small => same hole (by rwa [Nat.zero_add] at small)]

end Template

theorem FailureKind.template_isPlain (kind : FailureKind) : kind.template.IsPlain := by
  cases kind <;> exact ⟨by decide +kernel, by decide +kernel, by decide +kernel⟩

namespace Failure

/-- The failure has as many parameters as its wording has holes. -/
def IsComplete (failure : Failure) : Prop :=
  failure.params.length = failure.kind.template.arity

/-- The holes in the wording of the failure are numbered through its parameters, and its message is
the wording with each hole filled by the parameter of that number, whatever would stand in for a
missing one. -/
structure IsWorded (failure : Failure) : Prop where
  holes : Template.holes failure.kind.template.text.toList = List.range failure.params.length
  message : ∀ missing : String,
    failure.message.toList =
      (Template.parts failure.kind.template.text.toList).flatMap
        (Template.Part.fill fun hole => (failure.params[hole]?.map (·.render)).getD missing)

theorem IsComplete.isWorded {failure : Failure} (complete : failure.IsComplete) :
    failure.IsWorded := by
  have plain := failure.kind.template_isPlain
  refine ⟨?_, fun missing => ?_⟩
  · rw [Template.holes_text plain, complete]
  · rw [Template.flatMap_fill_parts plain, message]
    congr 1
    apply Template.fill_congr
    intro hole small
    have given : failure.params[hole]?.isSome := by
      rw [complete.symm] at small
      simpa using small
    obtain ⟨param, found⟩ := Option.isSome_iff_exists.mp given
    rw [found]
    rfl

/-- What is wrong is neither a pattern nor an argument, and the message says all there is to say. -/
structure IsOfText (failure : Failure) : Prop where
  notPattern : failure.kind.isPatternFailure = false
  notArgument : failure.kind ≠ .emptyArgument
  complete : failure.IsComplete

/-- The reason is one that reading has of its own, and not that no value can be made. -/
structure IsOwn (failure : Failure) : Prop where
  ofText : failure.IsOfText
  own : failure.kind ≠ .noSuchValue

theorem IsOwn.located {failure : Failure} (reason : failure.IsOwn) (position : Nat) :
    (failure.located position).IsOwn :=
  ⟨⟨reason.ofText.notPattern, reason.ofText.notArgument, reason.ofText.complete⟩, reason.own⟩

end Failure

end ChronoText
