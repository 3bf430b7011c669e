import ChronoText.Printing.Element
import ChronoText.Proofs.Parsing.Legible
import ChronoText.Proofs.Text.Caseless

/-! Names that are read. Of the names with which a text goes on, the longest is taken, and of several
values with a name of that length the smallest. The names of months, days, eras and half days in
English are read back wherever no letter and no blank follows. -/

set_option autoImplicit false

namespace ChronoText

/-! ## Letters -/

namespace Text

/-- But for the Kelvin sign, whose lower case is `k`, the lower case of a character outside ASCII is
outside ASCII. -/
private theorem caseRuns_outside_ascii :
    ∀ run ∈ caseRuns, run.last < 128 ∨ 128 ≤ (run.first : Int) + run.shift ∨
      run.first = 8490 ∧ run.last = 8490 ∧ run.shift = -8383 := by
  decide +kernel

theorem toNat_toLower_of_isAlpha {letter : Char} (alpha : letter.isAlpha = true) :
    65 ≤ letter.toLower.toNat ∧ letter.toLower.toNat < 128 :=
  toNat_of_isAlpha ((Char.isAlpha_toLower_eq_isAlpha letter).trans alpha)

theorem ascii_of_lowercase_eq {c target : Char} (letter : 65 ≤ target.toNat ∧ target.toNat < 128)
    (notK : target ≠ 'k') (same : lowercase c = [target]) : c.toNat < 128 := by
  unfold lowercase at same
  split at same
  · cases same
  · split at same
    · next run found =>
        have member := List.mem_of_find?_eq_some found
        have covered := List.find?_some found
        simp only [CaseRun.covers, Bool.and_eq_true, decide_eq_true_eq] at covered
        have code : (Char.ofNat (run.lower c.toNat)).toNat = target.toNat := by
          rw [List.singleton_inj.mp same]
        rcases caseRuns_outside_ascii run member with ascii | outside | ⟨first, last, shift⟩
        · omega
        · rw [Char.toNat_ofNat] at code
          unfold CaseRun.lower at code
          split at code <;> omega
        · have kelvin : run.lower c.toNat = 107 := by
            unfold CaseRun.lower
            omega
          rw [kelvin] at same
          exact absurd (List.singleton_inj.mp same).symm notK
    · rw [List.singleton_inj.mp same]
      exact letter.2

/-- Only ASCII letters agree with an ASCII letter other than `K` up to case. -/
theorem isAlpha_of_sameLetter {expected actual : Char} (alpha : expected.isAlpha = true)
    (notK : expected.toLower ≠ 'k') (same : sameLetter expected actual = true) :
    actual.isAlpha = true := by
  rw [sameLetter, Bool.or_eq_true, beq_iff_eq, beq_iff_eq,
    lowercase_of_ascii (toNat_of_isAlpha alpha).2] at same
  rcases same with rfl | same
  · exact alpha
  · have ascii := ascii_of_lowercase_eq (toNat_toLower_of_isAlpha alpha) notK same
    rw [lowercase_of_ascii ascii] at same
    rw [← Char.isAlpha_toLower_eq_isAlpha, List.singleton_inj.mp same,
      Char.isAlpha_toLower_eq_isAlpha, alpha]

theorem startsWithCaseless_append_iff {first second text : List Char} :
    startsWithCaseless (first ++ second) text = true ↔
      startsWithCaseless first text = true ∧
        startsWithCaseless second (text.drop first.length) = true := by
  induction first generalizing text with
  | nil => simp [startsWithCaseless]
  | cons e first ih =>
      cases text with
      | nil => simp [startsWithCaseless]
      | cons c text => simp [startsWithCaseless, ih, and_assoc]

/-- Whether a text starts with an expected one is decided by as many characters as that has. -/
theorem startsWithCaseless_append_of_le {expected text : List Char}
    (le : expected.length ≤ text.length) (rest : List Char) :
    startsWithCaseless expected (text ++ rest) = startsWithCaseless expected text := by
  induction expected generalizing text with
  | nil => rfl
  | cons e expected ih =>
      cases text with
      | nil => cases le
      | cons c text =>
          rw [List.cons_append, startsWithCaseless, startsWithCaseless,
            ih (Nat.le_of_succ_le_succ le)]

theorem utf8Length_take_lt {text : List Char} {fewer more : Nat} (less : fewer < more)
    (enough : more ≤ text.length) :
    utf8Length (text.take fewer) < utf8Length (text.take more) := by
  obtain ⟨further, rfl⟩ := Nat.exists_eq_add_of_lt less
  rw [Nat.add_assoc] at enough ⊢
  have some : (text.drop fewer).take (further + 1) ≠ [] := by
    rw [ne_eq, ← List.length_eq_zero_iff, List.length_take, List.length_drop]
    omega
  have positive := utf8Length_pos some
  rw [List.take_add, utf8Length_append]
  omega

end Text

/-! ## Names of values -/

namespace Culture

theorem lookup_mapIdx (names : List String) (least value : Int) :
    (names.mapIdx fun index name => (least + (index : Int), name)).lookup value =
      if least ≤ value then names[(value - least).toNat]? else none := by
  induction names generalizing least with
  | nil => simp
  | cons name names ih =>
      have tail : (names.mapIdx fun index name => (least + ((index + 1 : Nat) : Int), name)) =
          names.mapIdx fun index name => (least + 1 + (index : Int), name) := by
        congr 1
        funext index name
        rw [Prod.mk.injEq]
        exact ⟨by omega, rfl⟩
      rw [List.mapIdx_cons, tail, List.lookup_cons, ih]
      by_cases first : value = least
      · subst first
        simp
      · have other : (value == least + ((0 : Nat) : Int)) = false := by
          rw [beq_eq_false_iff_ne]
          omega
        rw [other]
        by_cases behind : least + 1 ≤ value
        · have index : (value - least).toNat = (value - (least + 1)).toNat + 1 := by omega
          rw [if_pos behind, if_pos (by omega), index, List.getElem?_cons_succ]
        · rw [if_neg behind, if_neg (by omega)]

def leastValue (field : DateTimeField) : Int :=
  (field.parseRange?.map (·.1)).getD 0

theorem fieldName?_eq (culture : Culture) (field : DateTimeField) (value : Int)
    (width : NameWidth) :
    culture.fieldName? field value width =
      if leastValue field ≤ value then
        (culture.names.names field width)[(value - leastValue field).toNat]?
      else none :=
  lookup_mapIdx _ _ _

/-- A name belongs to a value of the range of its field. -/
theorem admits_of_fieldName? {culture : Culture} {field : DateTimeField} {value : Int}
    {width : NameWidth} {name : String} (named : culture.fieldName? field value width = some name) :
    field.admits value = true := by
  rw [fieldName?_eq] at named
  split at named
  · next least =>
      obtain ⟨inside, _⟩ := List.getElem?_eq_some_iff.mp named
      cases field <;> cases width <;>
        simp only [NameTable.names, Vector.length_toList, List.length_nil, Nat.not_lt_zero,
          leastValue, DateTimeField.parseRange?, Option.map_some, Option.getD_some] at inside least <;>
        simp only [DateTimeField.admits, DateTimeField.parseRange?, Bool.and_eq_true,
          decide_eq_true_eq] <;>
        omega
  · cases named

/-- A value has a name in both widths or in none. -/
theorem isSome_fieldName? (culture : Culture) (field : DateTimeField) (value : Int)
    (first second : NameWidth) :
    (culture.fieldName? field value first).isSome = (culture.fieldName? field value second).isSome := by
  have lengths : (culture.names.names field first).length = (culture.names.names field second).length := by
    cases field <;> cases first <;> cases second <;> simp [NameTable.names]
  rw [fieldName?_eq, fieldName?_eq]
  split
  · rw [Bool.eq_iff_iff, Option.isSome_iff_ne_none, Option.isSome_iff_ne_none, ne_eq, ne_eq,
      List.getElem?_eq_none_iff, List.getElem?_eq_none_iff, lengths]
  · rfl

theorem mem_valueNames_iff {culture : Culture} {field : DateTimeField} {width : NameWidth}
    {value : Int} {name : String} :
    (value, name) ∈ culture.valueNames field width ↔
      culture.fieldName? field value width = some name := by
  rw [fieldName?_eq]
  show (value, name) ∈ List.mapIdx (fun index name => (leastValue field + (index : Int), name)) _ ↔ _
  simp only [List.mem_mapIdx, Prod.mk.injEq]
  constructor
  · rintro ⟨index, inside, rfl, rfl⟩
    have place : (leastValue field + (index : Int) - leastValue field).toNat = index := by omega
    rw [if_pos (by omega), place]
    exact List.getElem?_eq_getElem inside
  · intro named
    split at named
    · obtain ⟨inside, found⟩ := List.getElem?_eq_some_iff.mp named
      exact ⟨_, inside, by omega, found⟩
    · cases named

theorem pairwise_valueNames (culture : Culture) (field : DateTimeField) (width : NameWidth) :
    (culture.valueNames field width).Pairwise fun first second => first.1 < second.1 := by
  rw [List.pairwise_iff_getElem]
  intro first second firstLt secondLt less
  simp only [valueNames, List.getElem_mapIdx]
  omega

end Culture

namespace NameField

theorem mem_candidates_iff {culture : Culture} {field : DateTimeField} {value : Int}
    {name : String} :
    (value, name) ∈ candidates culture field ↔
      ∃ width, culture.fieldName? field value width = some name := by
  simp only [candidates, List.mem_flatMap, Prod.exists, List.mem_cons, Prod.mk.injEq,
    Option.mem_toList, Option.map_eq_some_iff, Culture.mem_valueNames_iff]
  constructor
  · rintro ⟨own, long, named, ⟨rfl, rfl⟩ | ⟨short, shortNamed, rfl, rfl⟩⟩
    · exact ⟨.long, named⟩
    · exact ⟨.short, shortNamed⟩
  · rintro ⟨width, named⟩
    have both := culture.isSome_fieldName? field value width .long
    rw [named, Option.isSome_some, eq_comm, Option.isSome_iff_exists] at both
    obtain ⟨long, longNamed⟩ := both
    refine ⟨value, long, longNamed, ?_⟩
    cases width with
    | long => exact .inl ⟨rfl, Option.some.inj (named.symm.trans longNamed)⟩
    | short => exact .inr ⟨name, named, rfl, rfl⟩

/-- The candidates come in the order of their values. -/
theorem pairwise_candidates (culture : Culture) (field : DateTimeField) :
    (candidates culture field).Pairwise fun first second => first.1 ≤ second.1 := by
  have own {value : Int} {long : String} {candidate : Int × String}
      (member : candidate ∈ (value, long) ::
        ((culture.fieldName? field value .short).map (value, ·)).toList) :
      candidate.1 = value := by
    rcases List.mem_cons.mp member with rfl | short
    · rfl
    · rw [Option.mem_toList, Option.map_eq_some_iff] at short
      obtain ⟨_, _, rfl⟩ := short
      rfl
  refine List.pairwise_flatMap.mpr ⟨?_, ?_⟩
  · rintro ⟨value, long⟩ _
    exact List.pairwise_of_forall_mem_list fun first inFirst second inSecond =>
      Int.le_of_eq ((own inFirst).trans (own inSecond).symm)
  · refine (culture.pairwise_valueNames field .long).imp ?_
    rintro ⟨value, long⟩ ⟨later, other⟩ less first inFirst second inSecond
    rw [own inFirst, own inSecond]
    exact Int.le_of_lt less

/-! ## The longest of several -/

/-- No other candidate is longer, and those before it are shorter. -/
def FirstLongest (candidates : List (Int × String)) (best : Int × String) : Prop :=
  ∃ before after, candidates = before ++ best :: after ∧
    (∀ other ∈ before, other.2.toList.length < best.2.toList.length) ∧
    ∀ other ∈ after, other.2.toList.length ≤ best.2.toList.length

theorem FirstLongest.length_le {candidates : List (Int × String)} {best other : Int × String}
    (longest : FirstLongest candidates best) (member : other ∈ candidates) :
    other.2.toList.length ≤ best.2.toList.length := by
  obtain ⟨before, after, rfl, early, late⟩ := longest
  rcases List.mem_append.mp member with inBefore | inRest
  · exact Nat.le_of_lt (early other inBefore)
  · rcases List.mem_cons.mp inRest with rfl | inAfter
    · exact Nat.le_refl _
    · exact late other inAfter

theorem longest?_concat (candidates : List (Int × String)) (last : Int × String) :
    longest? (candidates ++ [last]) =
      match longest? candidates with
      | none => some last
      | some best =>
        if best.2.toList.length < last.2.toList.length then some last else some best := by
  rw [longest?, List.foldl_append, List.foldl_cons, List.foldl_nil]
  rfl

/-- One candidate is found unless there are none, and that is the first of the longest. -/
theorem longest?_firstLongest (candidates : List (Int × String)) :
    (longest? candidates = none ∧ candidates = []) ∨
      ∃ best, longest? candidates = some best ∧ FirstLongest candidates best := by
  induction candidates using List.reverseRecOn with
  | nil => exact .inl ⟨rfl, rfl⟩
  | append_singleton candidates last ih =>
      right
      rw [longest?_concat]
      rcases ih with ⟨none, rfl⟩ | ⟨best, found, longest⟩
      · rw [none]
        exact ⟨last, rfl, [], [], rfl, List.forall_mem_nil _, List.forall_mem_nil _⟩
      · rw [found]
        by_cases longer : best.2.toList.length < last.2.toList.length
        · refine ⟨last, if_pos longer, candidates, [], rfl, ?_, List.forall_mem_nil _⟩
          exact fun other member => Nat.lt_of_le_of_lt (longest.length_le member) longer
        · obtain ⟨before, after, rfl, early, late⟩ := longest
          refine ⟨best, if_neg longer, before, after ++ [last], ?_, early, ?_⟩
          · rw [List.append_assoc, List.cons_append]
          · exact List.forall_mem_append.mpr
              ⟨late, List.forall_mem_singleton.mpr (Nat.le_of_not_lt longer)⟩

/-- Among candidates in the order of their values, no other of the same length has a smaller one. -/
theorem FirstLongest.value_le {candidates : List (Int × String)} {best other : Int × String}
    (longest : FirstLongest candidates best)
    (ordered : candidates.Pairwise fun first second => first.1 ≤ second.1)
    (member : other ∈ candidates)
    (same : other.2.toList.length = best.2.toList.length) : best.1 ≤ other.1 := by
  obtain ⟨before, after, rfl, early, _⟩ := longest
  rcases List.mem_append.mp member with inBefore | inRest
  · exact absurd same (Nat.ne_of_lt (early other inBefore))
  · rcases List.mem_cons.mp inRest with rfl | inAfter
    · exact Int.le_refl _
    · exact (List.pairwise_cons.mp (List.pairwise_append.mp ordered).2.1).1 other inAfter

/-! ## Names that follow -/

/-- The value of the field has the name in the width, and a text starts with it up to case. The empty
name does not count. -/
structure Matches (culture : Culture) (field : DateTimeField) (text : List Char) (value : Int)
    (width : NameWidth) (name : String) : Prop where
  admitted : field.admits value = true
  named : culture.fieldName? field value width = some name
  nonempty : name ≠ ""
  starts : Text.startsWithCaseless name.toList text = true

/-- The number of bytes of the text that the name takes up. -/
def extent (text : List Char) (name : String) : Nat :=
  Text.utf8Length (text.take name.toList.length)

def following (culture : Culture) (field : DateTimeField) (text : List Char) :
    List (Int × String) :=
  (candidates culture field).filter fun candidate =>
    candidate.2 ≠ "" && Text.startsWithCaseless candidate.2.toList text

section

variable {culture : Culture} {field : DateTimeField} {text : List Char} {value : Int}
  {width : NameWidth} {name : String}

theorem mem_following_iff :
    (value, name) ∈ following culture field text ↔
      ∃ width, Matches culture field text value width name := by
  rw [following, List.mem_filter, mem_candidates_iff, Bool.and_eq_true, decide_eq_true_eq]
  constructor
  · rintro ⟨⟨width, named⟩, nonempty, starts⟩
    exact ⟨width, Culture.admits_of_fieldName? named, named, nonempty, starts⟩
  · rintro ⟨width, _, named, nonempty, starts⟩
    exact ⟨⟨width, named⟩, nonempty, starts⟩

theorem Matches.length_le (matched : Matches culture field text value width name) :
    name.toList.length ≤ text.length :=
  Text.length_le_of_startsWithCaseless matched.starts

/-- Of names that start the same text the longer one takes up more of it. -/
theorem Matches.extent_lt {shorter : String} (matched : Matches culture field text value width name)
    (less : shorter.toList.length < name.toList.length) : extent text shorter < extent text name :=
  Text.utf8Length_take_lt less matched.length_le

theorem Matches.extent_le {shorter : String} (matched : Matches culture field text value width name)
    (le : shorter.toList.length ≤ name.toList.length) : extent text shorter ≤ extent text name := by
  rcases Nat.lt_or_eq_of_le le with less | same
  · exact Nat.le_of_lt (matched.extent_lt less)
  · rw [extent, extent, same]

end

variable {settings : ParseSettings} {cursor : Cursor} {state : ParseState} {name : NameField}

/-- Where no name follows, reading fails and leaves the bucket as it is. -/
theorem parse_of_unmatched
    (unmatched : ∀ value width text,
      ¬ Matches settings.culture name.field cursor.rest value width text) :
    Element.parse settings cursor state (.name name) =
      (.failedAt cursor.position,
        { state with
          failure? := state.failure?.or (some (name.mismatch.located cursor.position)) }) := by
  have empty : following settings.culture name.field cursor.rest = [] := by
    rw [List.eq_nil_iff_forall_not_mem]
    rintro ⟨value, text⟩ member
    obtain ⟨width, matched⟩ := mem_following_iff.mp member
    exact unmatched value width text matched
  rw [following] at empty
  simp only [Element.parse, NameField.read, empty]
  rfl

/-- Where a name follows, the longest is taken, and the smallest value that has one as long. -/
theorem parse_of_matches (name : NameField) (cursor : Cursor) (state : ParseState) {value : Int}
    {width : NameWidth} {text : String}
    (matched : Matches settings.culture name.field cursor.rest value width text) :
    ∃ best bestWidth longest,
      Matches settings.culture name.field cursor.rest best bestWidth longest ∧
      (∀ other otherWidth otherText,
        Matches settings.culture name.field cursor.rest other otherWidth otherText →
          otherText.toList.length ≤ longest.toList.length ∧
            (otherText.toList.length = longest.toList.length → best ≤ other)) ∧
      Element.parse settings cursor state (.name name) =
        (.advanced (cursor.advance longest.toList.length),
          { state with bucket := state.bucket.setField name.field best }) := by
  rcases longest?_firstLongest (following settings.culture name.field cursor.rest) with
    ⟨_, empty⟩ | ⟨⟨best, longest⟩, found, first⟩
  · have member := mem_following_iff.mpr ⟨width, matched⟩
    rw [empty] at member
    cases member
  · have ordered := (pairwise_candidates settings.culture name.field).filter fun candidate =>
      candidate.2 ≠ "" && Text.startsWithCaseless candidate.2.toList cursor.rest
    have member : (best, longest) ∈ following settings.culture name.field cursor.rest := by
      obtain ⟨before, after, shape, _⟩ := first
      rw [shape]
      exact List.mem_append_right before List.mem_cons_self
    obtain ⟨bestWidth, own⟩ := mem_following_iff.mp member
    refine ⟨best, bestWidth, longest, own, ?_, ?_⟩
    · intro other otherWidth otherText otherMatched
      have present := mem_following_iff.mpr ⟨otherWidth, otherMatched⟩
      exact ⟨first.length_le present, first.value_le ordered present⟩
    · rw [following] at found
      simp only [Element.parse, NameField.read, found]
      rfl

/-! ## Names in English -/

/-- The fields whose values have names. -/
def namedFields : List DateTimeField :=
  [.monthOfYear, .dayOfWeek, .era, .halfDayOfDay]

/-- Where the second name starts like the first, it belongs to the same value or is shorter, or goes
on with a blank or a letter for which there are only ASCII letters. -/
def isApart (first second : Int × String) : Bool :=
  !Text.startsWithCaseless (second.2.toList.take first.2.toList.length) first.2.toList ||
    match second.2.toList.drop first.2.toList.length with
    | [] => second.2.toList.length < first.2.toList.length || second.1 = first.1
    | c :: _ => c = ' ' || (c.isAlpha && c.toLower ≠ 'k')

theorem isApart_english :
    ∀ field ∈ namedFields, ∀ first ∈ candidates .invariant field,
      first.2 ≠ "" ∧ ∀ second ∈ candidates .invariant field, isApart first second = true := by
  decide +kernel

/-- Every value of the range of a field with names has its place among them. -/
theorem place_in_names (table : NameTable) {field : DateTimeField} (named : field ∈ namedFields)
    {value : Int} (admitted : field.admits value = true) (width : NameWidth) :
    Culture.leastValue field ≤ value ∧
      (value - Culture.leastValue field).toNat < (table.names field width).length := by
  simp only [namedFields, List.mem_cons, List.not_mem_nil, or_false] at named
  rcases named with rfl | rfl | rfl | rfl <;> cases width <;>
    simp only [DateTimeField.admits, DateTimeField.parseRange?, Bool.and_eq_true,
      decide_eq_true_eq, NameTable.names, Vector.length_toList, Culture.leastValue,
      Option.map_some, Option.getD_some] at admitted ⊢ <;>
    omega

theorem exists_fieldName? (culture : Culture) {field : DateTimeField} (named : field ∈ namedFields)
    {value : Int} (admitted : field.admits value = true) (width : NameWidth) :
    ∃ name, culture.fieldName? field value width = some name := by
  obtain ⟨least, inside⟩ := place_in_names culture.names named admitted width
  rw [Culture.fieldName?_eq, if_pos least]
  exact ⟨_, List.getElem?_eq_getElem inside⟩

theorem candidates_congr {first second : Culture} (same : first.names = second.names)
    (field : DateTimeField) : candidates first field = candidates second field := by
  simp only [candidates, Culture.fieldName?, Culture.valueNames, same]

/-- In front of a text without a letter and a blank at its start, only names start with a name that
are apart from it. -/
theorem length_le_of_isApart {first second : Int × String} {rest : List Char}
    (apart : isApart first second = true)
    (starts : Text.startsWithCaseless second.2.toList (first.2.toList ++ rest) = true)
    (stop : ∀ c ∈ rest.head?, c.isAlpha = false ∧ c ≠ ' ') :
    second.2.toList.length ≤ first.2.toList.length ∧
      (second.2.toList.length = first.2.toList.length → second.1 = first.1) := by
  let length := first.2.toList.length
  rw [← List.take_append_drop length second.2.toList, Text.startsWithCaseless_append_iff] at starts
  obtain ⟨common, further⟩ := starts
  rw [Text.startsWithCaseless_append_of_le (List.length_take_le _ _)] at common
  simp only [isApart, length, common, Bool.not_true, Bool.false_or] at apart further
  cases beyond : second.2.toList.drop first.2.toList.length with
  | nil =>
      have le := List.drop_eq_nil_iff.mp beyond
      simp only [beyond, Bool.or_eq_true, decide_eq_true_eq] at apart
      exact ⟨le, fun same => apart.resolve_left (by omega)⟩
  | cons c more =>
      have short : (second.2.toList.take first.2.toList.length).length = first.2.toList.length := by
        have size := congrArg List.length beyond
        rw [List.length_drop, List.length_cons] at size
        rw [List.length_take]
        omega
      rw [beyond, short, List.drop_left] at further
      simp only [beyond, Bool.or_eq_true, Bool.and_eq_true, decide_eq_true_eq] at apart
      cases rest with
      | nil => cases further
      | cons actual rest =>
          rw [Text.startsWithCaseless, Bool.and_eq_true] at further
          obtain ⟨noLetter, noBlank⟩ := stop actual rfl
          rcases apart with rfl | ⟨alpha, notK⟩
          · exact absurd (Text.sameLetter_eq_of_expected (by decide) further.1).symm noBlank
          · have letter := Text.isAlpha_of_sameLetter alpha notK further.1
            exact absurd (noLetter.symm.trans letter) Bool.false_ne_true

/-- Names that are apart are read back as the values they were printed for. -/
theorem parse_print_of_isApart {settings : ParseSettings} {context : PrintContext}
    (same : settings.culture.names = context.culture.names) {field : DateTimeField}
    (apart : ∀ first ∈ candidates context.culture field,
      first.2 ≠ "" ∧ ∀ second ∈ candidates context.culture field, isApart first second = true)
    {value : Int} (shown : context.fieldValue? field = some value) {printed : NameWidth}
    {text : String} (named : context.culture.fieldName? field value printed = some text)
    (read : NameWidth) {rest : List Char} (stop : ∀ c ∈ rest.head?, c.isAlpha = false ∧ c ≠ ' ')
    (position : Nat) (state : ParseState) :
    let shownText := Element.print context (.name ⟨field, printed⟩)
    Element.parse settings ⟨position, shownText ++ rest⟩ state (.name ⟨field, read⟩) =
      (.advanced ⟨position + Text.utf8Length shownText, rest⟩,
        { state with bucket := state.bucket.setField field value }) := by
  intro shownText
  have isName : shownText = text.toList := by
    simp only [shownText, Element.print, NameField.print, shown, named]
  have candidate := mem_candidates_iff.mpr ⟨printed, named⟩
  obtain ⟨nonempty, others⟩ := apart _ candidate
  have own : Matches settings.culture field (shownText ++ rest) value printed text := by
    refine ⟨Culture.admits_of_fieldName? named, ?_, nonempty, ?_⟩
    · rw [← named, Culture.fieldName?_eq, Culture.fieldName?_eq, same]
    · rw [isName]
      exact Text.startsWithCaseless_append _ _
  obtain ⟨best, bestWidth, longest, matched, longer, parsed⟩ :=
    parse_of_matches ⟨field, read⟩ ⟨position, shownText ++ rest⟩ state own
  have bestCandidate : (best, longest) ∈ candidates context.culture field := by
    rw [← candidates_congr same]
    exact mem_candidates_iff.mpr ⟨bestWidth, matched.named⟩
  have starts := matched.starts
  rw [isName] at starts
  obtain ⟨atMost, sameValue⟩ := length_le_of_isApart (others _ bestCandidate) starts stop
  have length : longest.toList.length = text.toList.length :=
    Nat.le_antisymm atMost (longer _ _ _ own).1
  rw [parsed, length, ← isName, Cursor.advance_append]
  rw [show best = value from sameValue length]

/-! ## Reading of names -/

/-- Reading a name fails where none of a value of its field follows, and leaves the bucket as it is.
Otherwise it gets on by the most bytes that a name which follows takes up, and stores the smallest
value with a name that takes up as many. In particular the English names of months, days, eras and
half days, in either width, are read back in front of any text that starts with no ASCII letter and
no blank. -/
theorem parse_takes_longest :
    (∀ (name : NameField) (settings : ParseSettings) (cursor : Cursor) (state : ParseState),
      (∀ value width text, ¬ Matches settings.culture name.field cursor.rest value width text) →
      Element.parse settings cursor state (.name name) =
          (.failedAt cursor.position,
            { state with
              failure? := state.failure?.or (some (name.mismatch.located cursor.position)) }) ∧
        name.mismatch.kind = .nameMismatch) ∧
    (∀ (name : NameField) (settings : ParseSettings) (cursor : Cursor) (state : ParseState)
        (value : Int) (width : NameWidth) (text : String),
      Matches settings.culture name.field cursor.rest value width text →
      ∃ best bestWidth longest,
        Matches settings.culture name.field cursor.rest best bestWidth longest ∧
        (∀ other otherWidth otherText,
          Matches settings.culture name.field cursor.rest other otherWidth otherText →
            extent cursor.rest otherText ≤ extent cursor.rest longest ∧
              (extent cursor.rest otherText = extent cursor.rest longest → best ≤ other)) ∧
        Element.parse settings cursor state (.name name) =
          (.advanced ⟨cursor.position + extent cursor.rest longest,
              cursor.rest.drop longest.toList.length⟩,
            { state with bucket := state.bucket.setField name.field best })) ∧
    (∀ (settings : ParseSettings) (context : PrintContext) (field : DateTimeField) (value : Int)
        (printed read : NameWidth) (rest : List Char) (position : Nat) (state : ParseState),
      settings.culture.names = .english → context.culture.names = .english →
      field ∈ namedFields → context.fieldValue? field = some value → field.admits value = true →
      (∀ c ∈ rest.head?, c.isAlpha = false ∧ c ≠ ' ') →
      let text := Element.print context (.name ⟨field, printed⟩)
      Element.parse settings ⟨position, text ++ rest⟩ state (.name ⟨field, read⟩) =
        (.advanced ⟨position + Text.utf8Length text, rest⟩,
          { state with bucket := state.bucket.setField field value })) := by
  refine ⟨?_, ?_, ?_⟩
  · intro name settings cursor state unmatched
    exact ⟨parse_of_unmatched unmatched, rfl⟩
  · intro name settings cursor state value width text matched
    obtain ⟨best, bestWidth, longest, own, longer, parsed⟩ :=
      parse_of_matches name cursor state matched
    refine ⟨best, bestWidth, longest, own, ?_, parsed⟩
    intro other otherWidth otherText otherMatched
    obtain ⟨atMost, least⟩ := longer other otherWidth otherText otherMatched
    refine ⟨own.extent_le atMost, fun same => least (Nat.le_antisymm atMost ?_)⟩
    exact Nat.le_of_not_lt fun less => Nat.ne_of_lt (own.extent_lt less) same
  · intro settings context field value printed read rest position state parsedNames printedNames
      named shown admitted stop
    have same : settings.culture.names = context.culture.names := parsedNames.trans printedNames.symm
    obtain ⟨text, found⟩ := exists_fieldName? context.culture named admitted printed
    refine parse_print_of_isApart same ?_ shown found read stop position state
    rw [candidates_congr (show context.culture.names = Culture.invariant.names from printedNames)]
    exact isApart_english field named

/-- No month starts like `Juin`, a long one is found where a short one would do, and a printed one is
found in front of a full stop. -/
theorem parse_takes_longest_month :
    let settings : ParseSettings := { culture := .english }
    let month : NameField := ⟨.monthOfYear, .short⟩
    let context : PrintContext := ⟨.english, .dateTime .unixEpoch none (Iso.calendar 0)⟩
    (∀ value width text, ¬ Matches .english .monthOfYear "Juin".toList value width text) ∧
    Element.parse settings ⟨3, "Juin".toList⟩ {} (.name month) =
      (.failedAt 3, { failure? := some (month.mismatch.located 3) }) ∧
    Matches .english .monthOfYear "JUNEAU".toList 6 .short "Jun" ∧
    (∃ best bestWidth longest,
      Matches .english .monthOfYear "JUNEAU".toList best bestWidth longest ∧
      extent "JUNEAU".toList "Jun" ≤ extent "JUNEAU".toList longest ∧
      Element.parse settings ⟨3, "JUNEAU".toList⟩ {} (.name month) =
        (.advanced ⟨3 + extent "JUNEAU".toList longest,
            "JUNEAU".toList.drop longest.toList.length⟩,
          { bucket := Bucket.empty.setField .monthOfYear best })) ∧
    Element.parse settings ⟨3, Element.print context (.name month) ++ ". 1".toList⟩ {} (.name month) =
      (.advanced ⟨3 + Text.utf8Length (Element.print context (.name month)), ". 1".toList⟩,
        { bucket := Bucket.empty.setField .monthOfYear 1 }) := by
  intro settings month context
  have unmatched : ∀ value width text,
      ¬ Matches .english .monthOfYear "Juin".toList value width text := by
    intro value width text matched
    have member := mem_following_iff.mpr ⟨width, matched⟩
    have empty : following .english .monthOfYear "Juin".toList = [] := by decide +kernel
    rw [empty] at member
    cases member
  have june : Matches .english .monthOfYear "JUNEAU".toList 6 .short "Jun" :=
    ⟨by decide, by decide +kernel, by decide, by decide +kernel⟩
  have stop : ∀ c ∈ (". 1".toList).head?, c.isAlpha = false ∧ c ≠ ' ' := by
    rintro c ⟨⟩
    decide
  obtain ⟨best, bestWidth, longest, own, longer, parsed⟩ :=
    parse_takes_longest.2.1 month settings ⟨3, "JUNEAU".toList⟩ {} 6 .short "Jun" june
  exact ⟨unmatched, (parse_takes_longest.1 month settings ⟨3, "Juin".toList⟩ {} unmatched).1, june,
    ⟨best, bestWidth, longest, own, (longer _ _ _ june).1, parsed⟩,
    parse_takes_longest.2.2 settings context .monthOfYear 1 .short .short ". 1".toList 3 {} rfl rfl
      (by decide) rfl (by decide) stop⟩

end NameField

end ChronoText
