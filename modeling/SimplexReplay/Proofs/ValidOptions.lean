import SimplexReplay.Proofs.Following
import SimplexReplay.Proofs.NumberTexts
import SimplexReplay.Proofs.WholeDoubles

/-!
# Valid options

Options are accepted exactly when each of the four that are checked has a value that it admits, and
otherwise they are refused for the first that has not.  What is accepted is put into a standard
form, which is accepted again and then stays as it is.  Two values fall out of the rule, each with a
fault that names no option: an integer of more than 64 bits as the tolerance, and an integer that is
too long to be written as the pivot rule or within it.
-/

namespace SimplexReplay

namespace Text

variable {test : Char → Bool}

theorem trimBy_eq_rdropWhile (test : Char → Bool) (chars : List Char) :
    trimBy test chars = (chars.dropWhile test).rdropWhile test := rfl

/-- A text without its blanks is empty, or opens with the first character that is no blank. -/
theorem dropWhile_trimBy (test : Char → Bool) (chars : List Char) :
    (trimBy test chars).dropWhile test = trimBy test chars := by
  rw [trimBy_eq_rdropWhile]
  have opening : ∀ first rest, chars.dropWhile test = first :: rest → test first = false := by
    intro first rest shown
    have kept := List.head?_dropWhile_not test chars
    simpa [shown] using kept
  have before := List.rdropWhile_prefix test (chars.dropWhile test)
  cases trimmed : (chars.dropWhile test).rdropWhile test with
  | nil => rfl
  | cons first rest =>
      obtain ⟨behind, shown⟩ := trimmed ▸ before
      rw [List.dropWhile_cons_of_neg (by simpa using opening first _ shown.symm)]

theorem trimBy_trimBy (test : Char → Bool) (chars : List Char) :
    trimBy test (trimBy test chars) = trimBy test chars := by
  rw [trimBy_eq_rdropWhile test (trimBy test chars), dropWhile_trimBy, trimBy_eq_rdropWhile,
    List.rdropWhile_idempotent]

theorem strip_strip (text : String) : strip (strip text) = strip text := by
  simp only [strip, String.toList_ofList, trimBy_trimBy]

theorem trimBy_eq_nil_iff {chars : List Char} :
    trimBy test chars = [] ↔ ∀ char ∈ chars, test char = true := by
  rw [← List.dropWhile_eq_nil_iff, trimBy_eq_rdropWhile, List.rdropWhile_eq_nil_iff,
    ← List.dropWhile_eq_nil_iff, List.dropWhile_idempotent]

theorem exists_trimBy_cons {first : Char} (kept : test first = false) (rest : List Char) :
    ∃ others, trimBy test (first :: rest) = first :: others := by
  have before : trimBy test (first :: rest) <+: first :: rest := by
    rw [trimBy_eq_rdropWhile, List.dropWhile_cons_of_neg (by simp [kept])]
    exact List.rdropWhile_prefix test _
  have nonempty : trimBy test (first :: rest) ≠ [] := by
    rw [ne_eq, trimBy_eq_nil_iff]
    exact fun blank => Bool.false_ne_true (kept ▸ blank first List.mem_cons_self)
  obtain ⟨other, others, shown⟩ := List.exists_cons_of_ne_nil nonempty
  obtain ⟨behind, same⟩ := shown ▸ before
  obtain rfl : other = first := (List.cons.inj same).1
  exact ⟨others, shown⟩

theorem isEmpty_strip_iff {text : String} :
    (strip text).isEmpty = true ↔ ∀ char ∈ text.toList, isBlank char = true := by
  rw [← trimBy_eq_nil_iff, strip, String.isEmpty_iff, String.ofList_eq_empty_iff]

end Text

namespace Datum

theorem field?_putField (name other : String) (value : Datum) (fields : Fields) :
    field? other (putField name value fields) =
      if other = name then some value else field? other fields := by
  induction fields with
  | nil => by_cases same : name = other <;> simp [putField, field?, same, eq_comm]
  | cons field rest ih =>
      rw [putField]
      split
      · rename_i same
        by_cases asked : name = other
        · simp [field?, asked]
        · simp [field?, same, asked, Ne.symm asked]
      · rename_i apart
        by_cases here : field.1 = other
        · have distinct : other ≠ name := fun equal => apart (here.trans equal)
          simp [field?, here, distinct]
        · simpa [field?, here] using ih

theorem putField_of_field? {name : String} {value : Datum} {fields : Fields}
    (found : field? name fields = some value) : putField name value fields = fields := by
  induction fields with
  | nil => simp [field?] at found
  | cons field rest ih =>
    rw [putField]
    split
    · rename_i same
      simp [field?, same] at found
      rw [← found, ← same]
    · rename_i other
      rw [ih (by simpa [field?, other] using found)]

theorem filter_putField (keeps : String → Bool) {name : String} (dropped : keeps name = false)
    (value : Datum) (fields : Fields) :
    (putField name value fields).filter (fun field => keeps field.1) =
      fields.filter (fun field => keeps field.1) := by
  induction fields with
  | nil => simp [putField, dropped]
  | cons field rest ih =>
      rw [putField]
      split
      · rename_i same
        simp [dropped, same]
      · simp only [List.filter_cons, ih]

/-- The characters that open the spelling of a value that is no text, apart from digits. -/
def openingMarks : List Char :=
  ['N', 'T', 'F', '-', 'n', 'i', '[', '\x7b']

/-- The spelling of a value that is no text opens with a digit, a sign, a bracket or one of a few
letters. -/
theorem exists_opening_spelling {value : Datum} (noText : ∀ name, value ≠ text name) :
    ∃ first rest, value.spelling.toList = first :: rest ∧
      (first.isDigit = true ∨ first ∈ openingMarks) := by
  cases value with
  | null => exact ⟨'N', ['o', 'n', 'e'], rfl, by decide⟩
  | truth value =>
      cases value with
      | false => exact ⟨'F', ['a', 'l', 's', 'e'], rfl, by decide⟩
      | true => exact ⟨'T', ['r', 'u', 'e'], rfl, by decide⟩
  | whole value =>
      cases value with
      | ofNat number =>
          obtain ⟨first, rest, shown, digit⟩ := (Decimal.isSize_digits number).opens
          exact ⟨first, rest, by rw [← shown]; exact Nat.toList_repr, Or.inl digit⟩
      | negSucc number =>
          refine ⟨'-', (number + 1).repr.toList, ?_, by decide⟩
          change ("-" ++ (number + 1).repr).toList = _
          rw [String.toList_append]
          rfl
  | real value =>
      obtain ⟨first, rest, shown, opening⟩ := Decimal.fullLayout.exists_opening value
      have listed : ∀ char ∈ ['-', 'n', 'i'], char ∈ openingMarks := by simp [openingMarks]
      exact ⟨first, rest, shown, opening.imp_right (listed first)⟩
  | text name => exact absurd rfl (noText name)
  | list items => simp [spelling, innerSpelling, openingMarks]
  | record fields => simp [spelling, innerSpelling, openingMarks]

end Datum

theorem exists_digit {char : Char} (digit : char.isDigit = true) :
    ∃ value < 10, char = Char.ofNat (48 + value) := by
  have low : 48 ≤ char.toNat ∧ char.toNat ≤ 57 := by
    simpa [Char.isDigit, UInt32.le_iff_toNat_le] using digit
  exact ⟨char.toNat - 48, by omega, by rw [Nat.add_sub_cancel' low.1, Char.ofNat_toNat]⟩

namespace PivotRule

theorem ofName?_eq_some_iff {name : String} {rule : PivotRule} :
    ofName? name = some rule ↔ name = rule.name := by
  rw [ofName?]
  split
  · rename_i named
    cases rule <;> simp [PivotRule.name, named]
  · split
    · rename_i named
      cases rule <;> simp [PivotRule.name, named]
    · cases rule <;> simp_all [PivotRule.name]

/-- Whether no name of a rule opens with a character, be it in lower case or not. -/
def OpensNoRule (char : Char) : Prop :=
  Text.isBlank char = false ∧ char ≠ 'Σ' ∧ char ≠ 'İ' ∧ Text.lowerChar char ≠ 'b' ∧
    Text.lowerChar char ≠ 'd'

instance (char : Char) : Decidable (OpensNoRule char) :=
  inferInstanceAs (Decidable (_ ∧ _))

theorem ofName?_eq_none_of_opensNoRule {name : String} {first : Char} {rest : List Char}
    (shown : name.toList = first :: rest) (opensNoRule : OpensNoRule first) :
    ofName? (Text.lower (Text.strip name)) = none := by
  obtain ⟨notBlank, notSigma, notDotted, notB, notD⟩ := opensNoRule
  obtain ⟨others, trimmed⟩ := Text.exists_trimBy_cons notBlank rest
  have lowered : (Text.lower (Text.strip name)).toList =
      Text.lowerChar first :: Text.lowerFrom [first] others := by
    simp [Text.lower, Text.strip, shown, trimmed, Text.lowerFrom, notSigma, notDotted]
  rw [Option.eq_none_iff_forall_not_mem]
  intro rule found
  have named := congrArg String.toList (ofName?_eq_some_iff.mp found)
  rw [lowered] at named
  cases rule with
  | bland => exact notB (List.cons.inj named).1
  | dantzig => exact notD (List.cons.inj named).1

theorem ofName?_spelling_of_noText {value : Datum} (noText : ∀ name, value ≠ .text name) :
    ofName? (Text.lower (Text.strip value.spelling)) = none := by
  obtain ⟨first, rest, shown, digit | mark⟩ := Datum.exists_opening_spelling noText
  · have digits : ∀ value < 10, OpensNoRule (Char.ofNat (48 + value)) := by decide +kernel
    obtain ⟨value, small, rfl⟩ := exists_digit digit
    exact ofName?_eq_none_of_opensNoRule shown (digits value small)
  · have marks : Datum.openingMarks.all (fun char => decide (OpensNoRule char)) = true := by
      decide +kernel
    exact ofName?_eq_none_of_opensNoRule shown
      (of_decide_eq_true (List.all_eq_true.mp marks first mark))

end PivotRule

theorem Double.zero_le_iff_not_lt {value : Float} (finite : value.isFinite = true) :
    0.0 ≤ value ↔ ¬value < 0.0 := by
  refine ⟨fun nonneg below => ?_, zero_le_of_isFinite finite⟩
  have negative := lt_zero_iff.mp below
  rcases zero_le_iff.mp nonneg with zero | positive
  · simp [negative] at zero
  · simp [negative] at positive

theorem Datum.isSpellable_whole_iff {value : Int} :
    (whole value).isSpellable = true ↔ value.natAbs < 10 ^ Decimal.digitLimit := by
  rw [isSpellable, decide_eq_true_iff, Decimal.digits]
  exact Nat.length_toDigits_le_iff (by decide) (by decide)

namespace Options

/-- Whether a value can be the tolerance: a finite number that is at least zero, if any. -/
def AdmitsTolerance : Option Datum → Prop
  | none => True
  | some (.whole value) => 0 ≤ value
  | some (.real value) => value.isFinite = true ∧ 0.0 ≤ value
  | some _ => False

/-- Whether a value can be the rule: its spelling, without blanks and in lower case, is the name of
one. -/
def AdmitsRule : Option Datum → Prop
  | none => True
  | some value => ∃ rule : PivotRule, Text.lower (Text.strip value.spelling) = rule.name

def AdmitsCap : Option Datum → Prop
  | none | some .null => True
  | some (.whole value) => 0 ≤ value
  | some _ => False

/-- Whether a value can be the path of the report: a switch, or a text that is not blank. -/
def AdmitsReport : Option Datum → Prop
  | none | some .null | some (.truth _) => True
  | some (.text path) => ∃ char ∈ path.toList, Text.isBlank char = false
  | some _ => False

/-- An option that is checked, with the values that it can have and the fault of any other one. -/
structure Check where
  name : String
  Admits : Option Datum → Prop
  fault : Fault

def checks : List Check :=
  [⟨toleranceName, AdmitsTolerance, .badTolerance⟩, ⟨ruleName, AdmitsRule, .badPivotRule⟩,
   ⟨capName, AdmitsCap, .badIterationCap⟩, ⟨reportName, AdmitsReport, .badReportPath⟩]

/-- Whether the fields have an admitted value for an option. -/
def Check.Passes (check : Check) (fields : Fields) : Prop :=
  check.Admits (Datum.field? check.name fields)

/-- Whether a check is the first that the fields do not pass. -/
def Check.FailsFirst (check : Check) (fields : Fields) : Prop :=
  ∃ before after, checks = before ++ check :: after ∧
    (∀ earlier ∈ before, earlier.Passes fields) ∧ ¬check.Passes fields

/-- Whether the wording of a fault names an option. -/
def Blames (fault : Fault) (name : String) : Prop :=
  ∃ wording, fault.message = some ("opts['" ++ name ++ "'] must be " ++ wording)

theorem Check.FailsFirst.blames {check : Check} {fields : Fields}
    (failsFirst : check.FailsFirst fields) : Blames check.fault check.name := by
  obtain ⟨before, after, split, -⟩ := failsFirst
  have listed : check ∈ checks := split ▸ List.mem_append_right before List.mem_cons_self
  simp only [checks, List.mem_cons, List.not_mem_nil, or_false] at listed
  rcases listed with rfl | rfl | rfl | rfl
  · exact ⟨"a non-negative finite number.", rfl⟩
  · exact ⟨"'dantzig' or 'bland'.", rfl⟩
  · exact ⟨"None or a non-negative integer.", rfl⟩
  · exact ⟨"None, True/False, or a non-empty path string.", rfl⟩

/-- Whether the tolerance is an integer of more than 64 bits. -/
def Oversized (given : Option Datum) : Prop :=
  ∃ value, given = some (.whole value) ∧ Datum.isWord value = false

theorem readTolerance_cases {given : Option Datum} (fits : ¬Oversized given) :
    AdmitsTolerance given ∧ (∃ tolerance, readTolerance given = .ok tolerance) ∨
      ¬AdmitsTolerance given ∧ readTolerance given = .error .badTolerance := by
  cases given with
  | none => exact Or.inl ⟨trivial, _, rfl⟩
  | some given =>
      cases given with
      | whole value =>
          have word : Datum.isWord value = true := by
            by_contra other
            exact fits ⟨value, rfl, Bool.eq_false_iff.mpr other⟩
          have range := word
          rw [Datum.isWord, Bool.and_eq_true, decide_eq_true_iff, decide_eq_true_iff] at range
          by_cases below : value < 0
          · exact Or.inr ⟨not_le.mpr below, by simp [readTolerance, word, below]⟩
          · obtain ⟨tolerance, converted, -⟩ := Decimal.exists_floatOfInt (not_lt.mp below)
              (lt_of_le_of_lt range.2 (by norm_num [Datum.greatestWord]))
            refine Or.inl ⟨not_lt.mp below, tolerance, ?_⟩
            simp [readTolerance, word, below, Datum.toFloat, converted]
      | real value =>
          by_cases usable : value.isFinite = true ∧ 0.0 ≤ value
          · have notBelow := (Double.zero_le_iff_not_lt usable.1).mp usable.2
            exact Or.inl ⟨usable, value, by simp [readTolerance, usable.1, notBelow]⟩
          · refine Or.inr ⟨usable, ?_⟩
            by_cases finite : value.isFinite = true
            · have below : value < 0.0 := by
                by_contra notBelow
                exact usable ⟨finite, (Double.zero_le_iff_not_lt finite).mpr notBelow⟩
              simp [readTolerance, below]
            · simp [readTolerance, finite]
      | null | truth value | text value | list items | record fields => exact Or.inr ⟨id, rfl⟩

/-- Whether a value holds an integer of more digits than can be written. -/
def Unspelled (given : Option Datum) : Prop :=
  ∃ value, given = some value ∧ value.isSpellable = false

/-- What cannot be written names no rule. -/
theorem not_admitsRule_of_unspelled {given : Option Datum} (unspelled : Unspelled given) :
    ¬AdmitsRule given := by
  obtain ⟨value, rfl, tooLong⟩ := unspelled
  rintro ⟨rule, named⟩
  have noText : ∀ name, value ≠ .text name := by
    rintro name rfl
    exact nomatch tooLong
  have noRule := PivotRule.ofName?_spelling_of_noText noText
  rw [PivotRule.ofName?_eq_some_iff.mpr named] at noRule
  contradiction

theorem readRule_of_unspelled {given : Option Datum} (unspelled : Unspelled given) :
    readRule given = .error .numeralTooLong := by
  obtain ⟨value, rfl, tooLong⟩ := unspelled
  simp [readRule, Datum.spell, tooLong, bind, Except.bind]

theorem readRule_cases {given : Option Datum} (spelled : ¬Unspelled given) :
    AdmitsRule given ∧ (∃ rule, readRule given = .ok rule) ∨
      ¬AdmitsRule given ∧ readRule given = .error .badPivotRule := by
  cases given with
  | none => exact Or.inl ⟨trivial, _, rfl⟩
  | some value =>
      have spellable : value.isSpellable = true := by
        by_contra tooLong
        exact spelled ⟨value, rfl, Bool.eq_false_iff.mpr tooLong⟩
      have admits : AdmitsRule (some value) ↔
          ∃ rule, PivotRule.ofName? (Text.lower (Text.strip value.spelling)) = some rule :=
        exists_congr fun rule => PivotRule.ofName?_eq_some_iff.symm
      rw [admits]
      simp only [readRule, Datum.spell, spellable, if_true, bind, Except.bind]
      cases PivotRule.ofName? (Text.lower (Text.strip value.spelling)) with
      | none => exact Or.inr ⟨nofun, rfl⟩
      | some rule => exact Or.inl ⟨⟨rule, rfl⟩, rule, rfl⟩

theorem readCap_cases (program : Option (Program Float)) (given : Option Datum) :
    AdmitsCap given ∧ (∃ cap, readCap program given = .ok cap) ∨
      ¬AdmitsCap given ∧ readCap program given = .error .badIterationCap := by
  cases given with
  | none => exact Or.inl ⟨trivial, _, rfl⟩
  | some given =>
      cases given with
      | null => exact Or.inl ⟨trivial, _, rfl⟩
      | whole value =>
          by_cases below : value < 0
          · exact Or.inr ⟨not_le.mpr below, if_pos below⟩
          · exact Or.inl ⟨not_lt.mp below, _, if_neg below⟩
      | real value | truth value | text value | list items | record fields => exact Or.inr ⟨id, rfl⟩

theorem readReport_cases (given : Option Datum) :
    AdmitsReport given ∧ (∃ path, readReport given = .ok path) ∨
      ¬AdmitsReport given ∧ readReport given = .error .badReportPath := by
  cases given with
  | none => exact Or.inl ⟨trivial, _, rfl⟩
  | some given =>
      cases given with
      | null => exact Or.inl ⟨trivial, _, rfl⟩
      | truth value => cases value <;> exact Or.inl ⟨trivial, _, rfl⟩
      | text path =>
          have emptyIff : (Text.strip path).isEmpty = true ↔
              ∀ char ∈ path.toList, Text.isBlank char = true := Text.isEmpty_strip_iff
          by_cases blank : (Text.strip path).isEmpty = true
          · refine Or.inr ⟨?_, if_pos blank⟩
            rintro ⟨char, charMem, notBlank⟩
            exact Bool.false_ne_true (notBlank ▸ emptyIff.mp blank char charMem)
          · refine Or.inl ⟨?_, _, if_neg blank⟩
            change ∃ char ∈ path.toList, Text.isBlank char = false
            simpa only [emptyIff, not_forall, exists_prop, Bool.not_eq_true] using blank
      | real value | whole value | list items | record fields => exact Or.inr ⟨id, rfl⟩

/-- Options can be read exactly when each of the four readings succeeds. -/
theorem read_eq_ok_iff {program : Option (Program Float)} {fields : Fields} {options : Options} :
    read program fields = .ok options ↔
      readTolerance (Datum.field? toleranceName fields) = .ok options.tolerance ∧
        readRule (Datum.field? ruleName fields) = .ok options.rule ∧
        readCap program (Datum.field? capName fields) = .ok options.cap ∧
        readReport (Datum.field? reportName fields) = .ok options.reportPath ∧
        options.verbose = (Datum.field? verboseName fields).getD (.truth false) ∧
        options.launchViewer = (Datum.field? viewerName fields).getD (.truth false) := by
  constructor
  · intro accepted
    obtain ⟨tolerance, toleranceRead, accepted⟩ := exists_of_bind_eq_ok accepted
    obtain ⟨rule, ruleRead, accepted⟩ := exists_of_bind_eq_ok accepted
    obtain ⟨cap, capRead, accepted⟩ := exists_of_bind_eq_ok accepted
    obtain ⟨path, reportRead, accepted⟩ := exists_of_bind_eq_ok accepted
    obtain rfl := Except.ok.inj accepted
    exact ⟨toleranceRead, ruleRead, capRead, reportRead, rfl, rfl⟩
  · rintro ⟨toleranceRead, ruleRead, capRead, reportRead, verboseEq, viewerEq⟩
    simp only [read, toleranceRead, ruleRead, capRead, reportRead, ← verboseEq, ← viewerEq]
    rfl

/-- The options are read, or refused for the first check that the fields do not pass. -/
theorem read_cases (program : Option (Program Float)) {fields : Fields}
    (fits : ¬Oversized (Datum.field? toleranceName fields))
    (spelled : AdmitsTolerance (Datum.field? toleranceName fields) →
      ¬Unspelled (Datum.field? ruleName fields)) :
    (∀ check ∈ checks, check.Passes fields) ∧ (∃ options, read program fields = .ok options) ∨
      ∃ check : Check, check.FailsFirst fields ∧ read program fields = .error check.fault := by
  rcases readTolerance_cases fits with ⟨tolerable, tolerance, toleranceRead⟩ | ⟨failing, refused⟩
  · rcases readRule_cases (spelled tolerable) with
      ⟨known, rule, ruleRead⟩ | ⟨failing, refused⟩
    · rcases readCap_cases program (Datum.field? capName fields) with
        ⟨whole, cap, capRead⟩ | ⟨failing, refused⟩
      · rcases readReport_cases (Datum.field? reportName fields) with
          ⟨path, report, reportRead⟩ | ⟨failing, refused⟩
        · exact Or.inl ⟨by simp [checks, Check.Passes, tolerable, known, whole, path],
            ⟨tolerance, rule, cap, _, _, report⟩,
            read_eq_ok_iff.mpr ⟨toleranceRead, ruleRead, capRead, reportRead, rfl, rfl⟩⟩
        · refine Or.inr ⟨⟨reportName, AdmitsReport, .badReportPath⟩, ⟨checks.take 3, [], rfl, ?_,
            failing⟩, ?_⟩
          · simp [checks, Check.Passes, tolerable, known, whole]
          · simp [read, toleranceRead, ruleRead, capRead, refused, bind, Except.bind]
      · refine Or.inr ⟨⟨capName, AdmitsCap, .badIterationCap⟩, ⟨checks.take 2, _, rfl, ?_,
          failing⟩, ?_⟩
        · simp [checks, Check.Passes, tolerable, known]
        · simp [read, toleranceRead, ruleRead, refused, bind, Except.bind]
    · refine Or.inr ⟨⟨ruleName, AdmitsRule, .badPivotRule⟩, ⟨checks.take 1, _, rfl, ?_,
        failing⟩, ?_⟩
      · simp [checks, Check.Passes, tolerable]
      · simp [read, toleranceRead, refused, bind, Except.bind]
  · refine Or.inr ⟨⟨toleranceName, AdmitsTolerance, .badTolerance⟩, ⟨[], _, rfl, ?_, failing⟩, ?_⟩
    · simp
    · simp [read, refused, bind, Except.bind]

section Standard

variable {program : Option (Program Float)} {given : Option Datum}

theorem readTolerance_real {tolerance : Float} (finite : tolerance.isFinite = true)
    (nonneg : 0.0 ≤ tolerance) : readTolerance (some (.real tolerance)) = .ok tolerance := by
  have notBelow := (Double.zero_le_iff_not_lt finite).mp nonneg
  simp [readTolerance, finite, notBelow]

theorem isFinite_of_readTolerance {tolerance : Float}
    (accepted : readTolerance given = .ok tolerance) : tolerance.isFinite = true := by
  fun_cases readTolerance given with
  | case1 =>
      obtain rfl : defaultTolerance = tolerance := by simpa [readTolerance] using accepted
      decide +kernel
  | case2 | case3 | case5 | case7 => simp_all [readTolerance]
  | case4 number word nonneg =>
      rw [readTolerance, if_neg word, if_neg nonneg, Datum.toFloat] at accepted
      split at accepted
      · rename_i converted
        rw [Decimal.floatOfInt] at converted
        split at converted
        · rename_i finite
          rwa [← Except.ok.inj accepted, ← Option.some.inj converted]
        · contradiction
      · contradiction
  | case6 value usable =>
      rw [readTolerance, if_neg usable, Except.ok.injEq] at accepted
      simp only [Bool.or_eq_true, not_or, Bool.not_eq_true', Bool.not_eq_false] at usable
      exact accepted ▸ usable.1

theorem readRule_name (rule : PivotRule) : readRule (some (.text rule.name)) = .ok rule := by
  cases rule <;> decide +kernel

theorem readCap_capDatum {cap : Option Nat} (accepted : readCap program given = .ok cap) :
    readCap program (some (capDatum cap)) = .ok cap := by
  cases cap with
  | some cap => simp [capDatum, readCap]
  | none =>
      unfold readCap at accepted
      split at accepted
      · exact accepted
      · exact accepted
      · split at accepted <;> exact nomatch accepted
      · contradiction

theorem readReport_pathDatum {path : Option String} (accepted : readReport given = .ok path) :
    readReport (some (pathDatum path)) = .ok path := by
  cases path with
  | none => rfl
  | some path =>
      have standard : Text.strip path = path ∧ path.isEmpty = false := by
        unfold readReport at accepted
        split at accepted
        · exact nomatch accepted
        · exact nomatch accepted
        · exact nomatch accepted
        · obtain rfl : defaultReport = path := by simpa using accepted
          decide +kernel
        · rename_i name
          dsimp only at accepted
          split at accepted
          · contradiction
          · rename_i notEmpty
            obtain rfl : Text.strip name = path := by simpa using accepted
            exact ⟨Text.strip_strip name, Bool.eq_false_iff.mpr notEmpty⟩
        · contradiction
      simp [pathDatum, readReport, standard]

end Standard

def names : List String :=
  [toleranceName, ruleName, capName, verboseName, viewerName, reportName]

theorem filter_write (options : Options) (fields : Fields) :
    (options.write fields).filter (fun field => field.1 ∉ names) =
      fields.filter (fun field => field.1 ∉ names) := by
  have put {name : String} (listed : name ∈ names) (value : Datum) (before : Fields) :=
    Datum.filter_putField (fun name => decide (name ∉ names))
      (decide_eq_false (not_not.mpr listed)) value before
  rw [write, put, put, put, put, put, put] <;> simp [names]

theorem field?_write (options : Options) (fields : Fields) :
    Datum.field? toleranceName (options.write fields) = some (.real options.tolerance) ∧
      Datum.field? ruleName (options.write fields) = some (.text options.rule.name) ∧
      Datum.field? capName (options.write fields) = some (capDatum options.cap) ∧
      Datum.field? verboseName (options.write fields) = some options.verbose ∧
      Datum.field? viewerName (options.write fields) = some options.launchViewer ∧
      Datum.field? reportName (options.write fields) = some (pathDatum options.reportPath) := by
  simp [write, Datum.field?_putField, toleranceName, ruleName, capName, verboseName, viewerName,
    reportName]

theorem read_write {program : Option (Program Float)} {fields : Fields} {options : Options}
    (accepted : read program fields = .ok options) :
    read program (options.write fields) = .ok options := by
  obtain ⟨toleranceRead, -, capRead, reportRead, -⟩ := read_eq_ok_iff.mp accepted
  obtain ⟨toleranceEq, ruleEq, capEq, verboseEq, viewerEq, reportEq⟩ := field?_write options fields
  have finite := isFinite_of_readTolerance toleranceRead
  rw [read_eq_ok_iff, toleranceEq, ruleEq, capEq, verboseEq, viewerEq, reportEq]
  exact ⟨readTolerance_real finite (zero_le_of_readTolerance toleranceRead),
    readRule_name options.rule, readCap_capDatum capRead, readReport_pathDatum reportRead, rfl, rfl⟩

theorem write_write (options : Options) (fields : Fields) :
    options.write (options.write fields) = options.write fields := by
  obtain ⟨toleranceEq, ruleEq, capEq, verboseEq, viewerEq, reportEq⟩ := field?_write options fields
  generalize options.write fields = standard at *
  rw [write, Datum.putField_of_field? toleranceEq, Datum.putField_of_field? ruleEq,
    Datum.putField_of_field? capEq, Datum.putField_of_field? verboseEq,
    Datum.putField_of_field? viewerEq, Datum.putField_of_field? reportEq]

/-- What is put into its standard form stays as it is. -/
theorem normalize_normalize {program : Option (Program Float)} {fields result : Fields}
    (returned : normalize program fields = .ok result) : normalize program result = .ok result := by
  obtain ⟨options, accepted, written⟩ := exists_of_bind_eq_ok returned
  obtain rfl : options.write fields = result := Except.ok.inj written
  rw [normalize, read_write accepted]
  exact congrArg Except.ok (write_write options fields)

/-- Fields with an unspelled rule, and with a tolerance that is admitted and fits, are refused where
the rule would be checked, which they do not pass. -/
theorem read_of_unspelled (program : Option (Program Float)) {fields : Fields}
    (fits : ¬Oversized (Datum.field? toleranceName fields))
    (tolerable : AdmitsTolerance (Datum.field? toleranceName fields))
    (unspelled : Unspelled (Datum.field? ruleName fields)) :
    read program fields = .error .numeralTooLong ∧
      Check.FailsFirst ⟨ruleName, AdmitsRule, .badPivotRule⟩ fields := by
  rcases readTolerance_cases fits with ⟨-, tolerance, toleranceRead⟩ | ⟨failing, -⟩
  · refine ⟨?_, checks.take 1, _, rfl, ?_, not_admitsRule_of_unspelled unspelled⟩
    · simp [read, toleranceRead, readRule_of_unspelled unspelled, bind, Except.bind]
    · simp [checks, Check.Passes, tolerable]
  · exact absurd tolerable failing

/-- Two kinds of integers stop the check with a fault that names no option: one of more than 64 bits
as the tolerance, and, behind a tolerance that is admitted, one with too many digits in the rule.
All other fields are put into a standard form that is final and keeps every field that is no option,
if every option that is checked has an admitted value.  Else they are refused for the first option
that has not, and the wording of the fault names it. -/
theorem normalize_checked (program : Option (Program Float)) (fields : Fields) :
    (Oversized (Datum.field? toleranceName fields) ∧
        normalize program fields = .error .oversizedTolerance) ∨
      (¬Oversized (Datum.field? toleranceName fields) ∧
        AdmitsTolerance (Datum.field? toleranceName fields) ∧
        Unspelled (Datum.field? ruleName fields) ∧
        Check.FailsFirst ⟨ruleName, AdmitsRule, .badPivotRule⟩ fields ∧
        normalize program fields = .error .numeralTooLong) ∨
      (¬Oversized (Datum.field? toleranceName fields) ∧
        (AdmitsTolerance (Datum.field? toleranceName fields) →
          ¬Unspelled (Datum.field? ruleName fields)) ∧
        (((∀ check ∈ checks, check.Passes fields) ∧
            ∃ result, normalize program fields = .ok result ∧
              result.filter (fun field => field.1 ∉ names) =
                fields.filter (fun field => field.1 ∉ names) ∧
              normalize program result = .ok result) ∨
          ∃ check : Check, check.FailsFirst fields ∧
            normalize program fields = .error check.fault ∧ Blames check.fault check.name)) := by
  by_cases oversized : Oversized (Datum.field? toleranceName fields)
  · refine Or.inl ⟨oversized, ?_⟩
    obtain ⟨value, given, large⟩ := oversized
    simp [normalize, read, given, readTolerance, large, bind, Except.bind]
  · by_cases unspelled : AdmitsTolerance (Datum.field? toleranceName fields) ∧
        Unspelled (Datum.field? ruleName fields)
    · obtain ⟨refused, failsFirst⟩ := read_of_unspelled program oversized unspelled.1 unspelled.2
      refine Or.inr (Or.inl ⟨oversized, unspelled.1, unspelled.2, failsFirst, ?_⟩)
      rw [normalize, refused]
      rfl
    · rw [not_and] at unspelled
      refine Or.inr (Or.inr ⟨oversized, unspelled, ?_⟩)
      rcases read_cases program oversized unspelled with
        ⟨passes, options, accepted⟩ | ⟨check, first, refused⟩
      · have returned : normalize program fields = .ok (options.write fields) := by
          rw [normalize, accepted]
          rfl
        exact Or.inl ⟨passes, _, returned, filter_write options fields,
          normalize_normalize returned⟩
      · refine Or.inr ⟨check, first, ?_, first.blames⟩
        rw [normalize, refused]
        rfl

/-- A rule that cannot be written is refused for its length, also when it is the only option. -/
theorem normalize_rule_of_unspelled (program : Option (Program Float)) {value : Datum}
    (tooLong : value.isSpellable = false) :
    normalize program [(ruleName, value)] = .error .numeralTooLong := by
  have fits : ¬Oversized (Datum.field? toleranceName [(ruleName, value)]) := nofun
  have unspelled : Unspelled (Datum.field? ruleName [(ruleName, value)]) := ⟨value, rfl, tooLong⟩
  rw [normalize, (read_of_unspelled program fits trivial unspelled).1]
  rfl

/-- The integer `2 ^ 64` is a tolerance that is admitted, and every other option is missing; still
the fields are refused, and the fault names no option.  Nor does the fault of fields whose only
option is a rule with a numeral of one digit too many. -/
theorem refused_of_oversized :
    (∀ check ∈ checks, check.Passes [(toleranceName, .whole 18446744073709551616)]) ∧
      normalize none [(toleranceName, .whole 18446744073709551616)] = .error .oversizedTolerance ∧
      (∀ name, ¬Blames .oversizedTolerance name) ∧
      normalize none [(ruleName, .list [.whole (10 ^ Decimal.digitLimit)])] =
        .error .numeralTooLong ∧
      ∀ name, ¬Blames .numeralTooLong name := by
  have missing : AdmitsRule none ∧ AdmitsCap none ∧ AdmitsReport none :=
    ⟨trivial, trivial, trivial⟩
  have admitted : AdmitsTolerance (some (.whole 18446744073709551616)) := by
    change (0 : Int) ≤ 18446744073709551616
    norm_num
  have tooLong : (Datum.whole (10 ^ Decimal.digitLimit)).isSpellable = false := by
    simp [Bool.eq_false_iff, Datum.isSpellable_whole_iff, Int.natAbs_pow]
  refine ⟨?_, rfl, nofun, ?_, nofun⟩
  · simp [checks, Check.Passes, Datum.field?, toleranceName, ruleName, capName, reportName, missing,
      admitted]
  · apply normalize_rule_of_unspelled
    rw [Datum.isSpellable, Datum.areSpellable, tooLong, Bool.false_and]

end Options

end SimplexReplay
