import GatedManager.Proofs.Duration.Loop

/-!
# The grammar of durations

A duration is `0` or one or more components, each a number and the name of a unit that extends up
to the next digit, the next point or the end. A number has digits and at most one point; `.5` and
`5.` are numbers, `.` is none. A text that is no duration has a first component that does not fit,
and the error is that of this component: no unit at all before no number, and no number before an
unknown unit. Whether the reader runs by characters or by byte offsets, it takes the texts of the
grammar and no others, apart from the sums that are too big.
-/

namespace GatedManager.Duration

variable {s token number unit rest : List Char} {fault : Fault}

/-! ### Numbers and units -/

/-- A number: digits, at least one of them, and at most one point. -/
structure IsNumber (token : List Char) : Prop where
  chars : ∀ c ∈ token, c.isDigit ∨ c = '.'
  digit : ∃ c ∈ token, c.isDigit
  point : token.count '.' ≤ 1

/-- The names of the units. -/
def unitNames : List (List Char) :=
  [['n', 's'], ['u', 's'], ['\u00b5', 's'], ['\u03bc', 's'], ['m', 's'], ['s'], ['m'], ['h']]

theorem IsNumber.isToken (h : IsNumber number) : ∀ c ∈ number, isNumberChar c :=
  fun c hc => isNumberChar_iff.2 (h.chars c hc)

theorem number?_eq_none_iff (is_token : ∀ c ∈ token, isNumberChar c) :
    number? token = none ↔ ¬IsNumber token := by
  have readable : (token.any Char.isDigit ∧ token.count '.' ≤ 1) ↔ IsNumber token := by
    constructor
    · rintro ⟨digit, point⟩
      exact ⟨fun c hc => isNumberChar_iff.1 (is_token c hc), List.any_eq_true.1 digit, point⟩
    · intro h
      exact ⟨List.any_eq_true.2 h.digit, h.point⟩
  rw [number?, ← readable]
  split
  · next number => exact ⟨nofun, fun no_number => absurd number no_number⟩
  · next no_number => exact ⟨fun _ => no_number, fun _ => rfl⟩

theorem ofToken?_eq_none_iff : Scale.ofToken? unit = none ↔ unit ∉ unitNames := by
  simp only [Scale.ofToken?, unitNames, List.mem_cons, List.not_mem_nil, or_false]
  grind

theorem isUnit_of_mem_unitNames (h : unit ∈ unitNames) :
    unit ≠ [] ∧ ∀ c ∈ unit, isNumberChar c = false := by
  have all : unitNames.all (fun name => !name.isEmpty && name.all (!isNumberChar ·)) = true := rfl
  simpa using List.all_eq_true.1 all unit h

/-! ### Components that fit and components that do not -/

/-- A sequence of components, the empty one included. -/
inductive Sequence : List Char → Prop
  | nil : Sequence []
  | cons {number unit rest : List Char} : IsNumber number → unit ∈ unitNames → Resumes rest →
      Sequence rest → Sequence (number ++ (unit ++ rest))

/-- The error of a component that does not fit, at the start of a text. -/
inductive Misfit : List Char → Fault → Prop
  /-- There is no character of a unit. -/
  | missingUnit {token : List Char} : token ≠ [] → (∀ c ∈ token, c.isDigit ∨ c = '.') →
      Misfit token .missingUnit
  /-- What comes before the unit is no number. -/
  | invalidNumber {token rest : List Char} : (∀ c ∈ token, c.isDigit ∨ c = '.') →
      ¬IsNumber token → rest ≠ [] → (∀ c ∈ rest.head?, ¬(c.isDigit ∨ c = '.')) →
      Misfit (token ++ rest) .invalidNumber
  /-- There is a number, but what follows up to the next digit, the next point or the end is the
  name of no unit. -/
  | unknownUnit {number unit rest : List Char} : IsNumber number → unit ≠ [] →
      (∀ c ∈ unit, ¬(c.isDigit ∨ c = '.')) → Resumes rest → unit ∉ unitNames →
      Misfit (number ++ (unit ++ rest)) (.unknownUnit unit)

/-- The error of the first component that does not fit. -/
inductive FirstMisfit : List Char → Fault → Prop
  | here {s : List Char} {fault : Fault} : Misfit s fault → FirstMisfit s fault
  | later {number unit rest : List Char} {fault : Fault} : IsNumber number → unit ∈ unitNames →
      Resumes rest → FirstMisfit rest fault → FirstMisfit (number ++ (unit ++ rest)) fault

/-- The error of a text that is no duration. -/
inductive Faulty : List Char → Fault → Prop
  | empty : Faulty [] .empty
  | misfit {s : List Char} {fault : Fault} : s ≠ ['0'] → FirstMisfit s fault → Faulty s fault

theorem notNumberChar_iff {c : Char} : isNumberChar c = false ↔ ¬(c.isDigit ∨ c = '.') := by
  rw [← isNumberChar_iff, Bool.not_eq_true]

/-- A component that fits is read. -/
theorem exists_component (is_number : IsNumber number) (is_unit : unit ∈ unitNames)
    (resumes : Resumes rest) :
    ∃ first, component (number ++ (unit ++ rest)) = .ok (first, rest) := by
  obtain ⟨ne_nil, unit_chars⟩ := isUnit_of_mem_unitNames is_unit
  rw [component_of_parts is_number.isToken ne_nil unit_chars resumes]
  cases value : number? number with
  | none => exact absurd is_number ((number?_eq_none_iff is_number.isToken).1 value)
  | some value =>
      cases scale : Scale.ofToken? unit with
      | none => exact absurd is_unit (ofToken?_eq_none_iff.1 scale)
      | some scale => exact ⟨_, rfl⟩

/-- A component that does not fit is refused with its error. -/
theorem Misfit.component_eq (h : Misfit s fault) : component s = .error fault := by
  cases h with
  | missingUnit _ chars =>
      apply component_of_number
      intro c hc
      exact isNumberChar_iff.2 (chars c hc)
  | @invalidNumber token rest chars no_number ne_nil stops =>
      have is_token : ∀ c ∈ token, isNumberChar c := fun c hc => isNumberChar_iff.2 (chars c hc)
      obtain ⟨unit, after, rfl, ne_nil', unit_chars, resumes⟩ : ∃ unit after, rest = unit ++ after ∧
          unit ≠ [] ∧ (∀ c ∈ unit, isNumberChar c = false) ∧ Resumes after := by
        obtain ⟨token', unit, after, rfl, is_token', unit_chars, resumes, last⟩ := exists_parts rest
        have no_token : token' = [] := by
          cases token' with
          | nil => rfl
          | cons d token' =>
              have number_char := isNumberChar_iff.1 (is_token' d List.mem_cons_self)
              exact absurd number_char (stops d rfl)
        rw [no_token, List.nil_append] at ne_nil
        refine ⟨unit, after, by rw [no_token, List.nil_append], ?_, unit_chars, resumes⟩
        rintro rfl
        exact ne_nil (last rfl)
      rw [component_of_parts is_token ne_nil' unit_chars resumes,
        (number?_eq_none_iff is_token).2 no_number]
  | @unknownUnit number unit rest is_number ne_nil unit_chars resumes unknown =>
      have unit_chars' : ∀ c ∈ unit, isNumberChar c = false := fun c hc =>
        notNumberChar_iff.2 (unit_chars c hc)
      rw [component_of_parts is_number.isToken ne_nil unit_chars' resumes,
        ofToken?_eq_none_iff.2 unknown]
      cases value : number? number with
      | none => exact absurd is_number ((number?_eq_none_iff is_number.isToken).1 value)
      | some number => rfl

/-- A text that is not empty starts with a component that fits or with one that does not. -/
theorem fits_or_misfit (ne_nil : s ≠ []) :
    (∃ number unit rest, s = number ++ (unit ++ rest) ∧ IsNumber number ∧ unit ∈ unitNames ∧
      Resumes rest) ∨ ∃ fault, Misfit s fault := by
  obtain ⟨token, unit, rest, rfl, is_token, unit_chars, resumes, last⟩ := exists_parts s
  have chars : ∀ c ∈ token, c.isDigit ∨ c = '.' := fun c hc => isNumberChar_iff.1 (is_token c hc)
  by_cases no_unit : unit = []
  · obtain rfl := last no_unit
    obtain rfl := no_unit
    rw [List.append_nil, List.append_nil] at ne_nil ⊢
    exact .inr ⟨_, .missingUnit ne_nil chars⟩
  by_cases is_number : IsNumber token
  · by_cases known : unit ∈ unitNames
    · exact .inl ⟨token, unit, rest, rfl, is_number, known, resumes⟩
    · have unit_chars' : ∀ c ∈ unit, ¬(c.isDigit ∨ c = '.') := fun c hc =>
        notNumberChar_iff.1 (unit_chars c hc)
      exact .inr ⟨_, .unknownUnit is_number no_unit unit_chars' resumes known⟩
  · have stops : ∀ c ∈ (unit ++ rest).head?, ¬(c.isDigit ∨ c = '.') := fun c hc =>
      notNumberChar_iff.1 (head?_append_unit no_unit unit_chars c hc)
    exact .inr ⟨_, .invalidNumber chars is_number (by simp [no_unit]) stops⟩

/-! ### Sequences -/

theorem Sequence.exists_components (h : Sequence s) : ∃ cs, components s = .ok cs := by
  induction h with
  | nil => exact ⟨[], components_nil⟩
  | cons is_number is_unit resumes _ ih =>
      obtain ⟨first, fits⟩ := exists_component is_number is_unit resumes
      obtain ⟨others, onward⟩ := ih
      exact ⟨first :: others, by rw [components_of_ok fits, onward]; rfl⟩

theorem Misfit.ne_nil (h : Misfit s fault) : s ≠ [] := by
  cases h with
  | missingUnit ne_nil => exact ne_nil
  | invalidNumber _ _ ne_nil => simp [ne_nil]
  | unknownUnit _ ne_nil => simp [ne_nil]

theorem FirstMisfit.components_eq (h : FirstMisfit s fault) : components s = .error fault := by
  induction h with
  | here misfit => exact components_of_error misfit.ne_nil misfit.component_eq
  | later is_number is_unit resumes _ ih =>
      obtain ⟨first, fits⟩ := exists_component is_number is_unit resumes
      rw [components_of_ok fits, ih]
      rfl

/-- A text either is a sequence of components or has a first one that does not fit. -/
theorem sequence_or_firstMisfit (s : List Char) : Sequence s ∨ ∃ fault, FirstMisfit s fault := by
  induction length : s.length using Nat.strong_induction_on generalizing s with
  | _ length ih =>
      by_cases empty : s = []
      · exact .inl (empty ▸ .nil)
      rcases fits_or_misfit empty with
        ⟨number, unit, rest, rfl, is_number, is_unit, resumes⟩ | misfit
      · obtain ⟨first, fits⟩ := exists_component is_number is_unit resumes
        have shorter := length_lt_of_component fits
        rcases ih rest.length (by omega) rest rfl with sequence | ⟨fault, misfit⟩
        · exact .inl (.cons is_number is_unit resumes sequence)
        · exact .inr ⟨fault, .later is_number is_unit resumes misfit⟩
      · obtain ⟨fault, misfit⟩ := misfit
        exact .inr ⟨fault, .here misfit⟩

theorem FirstMisfit.ne_tooBig (h : FirstMisfit s fault) : fault ≠ .tooBig := by
  induction h with
  | here misfit => cases misfit <;> nofun
  | later _ _ _ _ ih => exact ih

/-! ### Durations -/

variable {input : String}

/-- Every duration is read, unless it is too big. -/
theorem read_of_sequence (ne_nil : Text.trimChars input.toList ≠ [])
    (h : Sequence (Text.trimChars input.toList)) :
    (∃ d, read input = .ok d) ∨ read input = .error .tooBig := by
  obtain ⟨cs, fits⟩ := h.exists_components
  simp only [read]
  split
  · exact .inl ⟨zero, rfl⟩
  · rw [if_neg (by simpa using ne_nil), fits]
    simp only
    cases ofSeconds? (total cs / 1e9) with
    | none => exact .inr rfl
    | some d => exact .inl ⟨d, rfl⟩

/-- Every other text is refused with its error. -/
theorem read_of_faulty (h : Faulty (Text.trimChars input.toList) fault) :
    read input = .error fault := by
  revert h
  simp only [read]
  generalize Text.trimChars input.toList = s
  intro h
  cases h with
  | empty => rfl
  | misfit other misfit =>
      have ne_nil : s.isEmpty = false := by
        cases s with
        | nil => cases components_nil.symm.trans misfit.components_eq
        | cons c s => rfl
      rw [if_neg other, ne_nil, if_neg Bool.false_ne_true, misfit.components_eq]

theorem Faulty.ne_tooBig (h : Faulty s fault) : fault ≠ .tooBig := by
  cases h with
  | empty => nofun
  | misfit _ misfit => exact misfit.ne_tooBig

/-- A text either is a duration or has an error. -/
theorem sequence_or_faulty (s : List Char) :
    (s = ['0'] ∨ s ≠ [] ∧ Sequence s) ∨ ∃ fault, Faulty s fault := by
  by_cases empty : s = []
  · exact .inr ⟨.empty, empty ▸ Faulty.empty⟩
  by_cases zero : s = ['0']
  · exact .inl (.inl zero)
  rcases sequence_or_firstMisfit s with sequence | ⟨fault, misfit⟩
  · exact .inl (.inr ⟨empty, sequence⟩)
  · exact .inr ⟨fault, .misfit zero misfit⟩

theorem read_of_duration
    (h : Text.trimChars input.toList = ['0'] ∨
      Text.trimChars input.toList ≠ [] ∧ Sequence (Text.trimChars input.toList)) :
    (∃ d, read input = .ok d) ∨ read input = .error .tooBig := by
  rcases h with is_zero | ⟨ne_nil, sequence⟩
  · exact .inl ⟨zero, by simp only [read, is_zero, if_true]⟩
  · exact read_of_sequence ne_nil sequence

/-- The loop over byte offsets comes to its end without a cut inside a character. What it gives is a
duration or the error that the sum is too big exactly for `0` and for the sequences of components,
and for every other text the error of the first component that does not fit. -/
theorem durations_follow_grammar (input : String) :
    let s := Text.trimChars input.toList
    ∃ result, readByOffsets input = some result ∧ read input = result ∧
      ((∃ d, result = .ok d) ∨ result = .error .tooBig ↔ s = ['0'] ∨ s ≠ [] ∧ Sequence s) ∧
      ∀ fault, result = .error fault ∧ fault ≠ .tooBig ↔ Faulty s fault := by
  intro s
  refine ⟨read input, readByOffsets_eq input, rfl, ⟨?_, read_of_duration⟩, fun fault => ⟨?_, ?_⟩⟩
  · intro accepted
    refine (sequence_or_faulty s).resolve_right ?_
    rintro ⟨fault, faulty⟩
    have refused := read_of_faulty faulty
    rcases accepted with ⟨d, accepted⟩ | too_big
    · cases refused.symm.trans accepted
    · cases refused.symm.trans too_big
      exact faulty.ne_tooBig rfl
  · rintro ⟨refused, in_range⟩
    rcases sequence_or_faulty s with duration | ⟨fault', faulty⟩
    · rcases read_of_duration duration with ⟨d, accepted⟩ | too_big
      · cases refused.symm.trans accepted
      · cases refused.symm.trans too_big
        exact absurd rfl in_range
    · cases refused.symm.trans (read_of_faulty faulty)
      exact faulty
  · intro faulty
    exact ⟨read_of_faulty faulty, faulty.ne_tooBig⟩

end GatedManager.Duration
