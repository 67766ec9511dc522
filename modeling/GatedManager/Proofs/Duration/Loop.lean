import GatedManager.Duration.Offsets
import GatedManager.Proofs.Text.Split

/-!
# The loop over byte offsets

The reader that cuts a text at byte offsets makes no cut inside a character or beyond the end, and
each turn of its loop takes at least one character away. So the loop ends, and it reads what the
reader on characters reads.
-/

namespace GatedManager.Duration

variable {c : Char} {p : Char → Bool} {s before token unit rest : List Char} {sum : Float}

/-! ### The parts of a component -/

theorem isNumberChar_iff : isNumberChar c ↔ c.isDigit ∨ c = '.' := by
  simp [isNumberChar]

/-- Whether a text is at its end or goes on with a digit or a point. -/
def Resumes (rest : List Char) : Prop := ∀ c ∈ rest.head?, c.isDigit ∨ c = '.'

theorem Resumes.stops (resumes : Resumes rest) : ∀ c ∈ rest.head?, (!isNumberChar c) = false := by
  intro c hc
  rw [isNumberChar_iff.2 (resumes c hc)]
  rfl

theorem head?_append_unit (ne_nil : unit ≠ []) (is_unit : ∀ c ∈ unit, isNumberChar c = false) :
    ∀ c ∈ (unit ++ rest).head?, isNumberChar c = false := by
  intro c hc
  cases unit with
  | nil => exact absurd rfl ne_nil
  | cons d unit =>
      obtain rfl := Option.some.inj hc
      exact is_unit d List.mem_cons_self

/-- A text without characters of a unit has no unit. -/
theorem component_of_number (all : ∀ c ∈ s, isNumberChar c) :
    component s = .error .missingUnit := by
  have none_left : s.dropWhile isNumberChar = [] := List.dropWhile_eq_nil_iff.2 all
  simp [component, none_left]

/-- A component is read from its token and its unit, whatever follows. -/
theorem component_of_parts (is_token : ∀ c ∈ token, isNumberChar c) (ne_nil : unit ≠ [])
    (is_unit : ∀ c ∈ unit, isNumberChar c = false) (resumes : Resumes rest) :
    component (token ++ (unit ++ rest)) =
      match number? token with
      | none => .error .invalidNumber
      | some number =>
        match Scale.ofToken? unit with
        | none => .error (.unknownUnit unit)
        | some scale => .ok (⟨number, scale⟩, rest) := by
  have stop : ∀ c ∈ (unit ++ rest).head?, isNumberChar c = false :=
    head?_append_unit ne_nil is_unit
  have is_unit' : ∀ c ∈ unit, (!isNumberChar c) = true := by
    intro c hc
    rw [is_unit c hc]
    rfl
  have token_eq : (token ++ (unit ++ rest)).takeWhile isNumberChar = token :=
    Text.takeWhile_append is_token stop
  have after_eq : (token ++ (unit ++ rest)).dropWhile isNumberChar = unit ++ rest :=
    Text.dropWhile_append is_token stop
  have unit_eq : (unit ++ rest).takeWhile (!isNumberChar ·) = unit :=
    Text.takeWhile_append is_unit' resumes.stops
  have rest_eq : (unit ++ rest).dropWhile (!isNumberChar ·) = rest :=
    Text.dropWhile_append is_unit' resumes.stops
  cases is_number : number? token with
  | none => simp [component, token_eq, after_eq, ne_nil, is_number]
  | some number =>
      cases is_scale : Scale.ofToken? unit with
      | none => simp [component, token_eq, after_eq, unit_eq, ne_nil, is_number, is_scale]
      | some scale =>
          simp [component, token_eq, after_eq, unit_eq, rest_eq, ne_nil, is_number, is_scale]

/-- Every text starts with a token and a unit, each as long as it can be. -/
theorem exists_parts (s : List Char) :
    ∃ token unit rest, s = token ++ (unit ++ rest) ∧ (∀ c ∈ token, isNumberChar c) ∧
      (∀ c ∈ unit, isNumberChar c = false) ∧ Resumes rest ∧ (unit = [] → rest = []) := by
  let after := s.dropWhile isNumberChar
  refine ⟨s.takeWhile isNumberChar, after.takeWhile (!isNumberChar ·),
    after.dropWhile (!isNumberChar ·), ?_, ?_, ?_, ?_, ?_⟩
  · rw [List.takeWhile_append_dropWhile, List.takeWhile_append_dropWhile]
  · intro c hc
    exact List.mem_takeWhile_imp hc
  · intro c hc
    simpa using List.mem_takeWhile_imp hc
  · intro c hc
    have stop := List.head?_dropWhile_not (!isNumberChar ·) after
    rw [Option.mem_def.1 hc] at stop
    exact isNumberChar_iff.1 (by simpa using stop)
  · intro no_unit
    cases is_after : after with
    | nil => rfl
    | cons d rest =>
        have stop := List.head?_dropWhile_not isNumberChar s
        rw [show s.dropWhile isNumberChar = d :: rest from is_after] at stop
        have other : isNumberChar d = false := by simpa using stop
        simp [is_after, other] at no_unit

theorem components_nil : components [] = .ok [] := by
  rw [components]
  rfl

theorem components_of_error {fault : Fault} (ne_nil : s ≠ []) (fails : component s = .error fault) :
    components s = .error fault := by
  rw [components, if_neg (by simp [ne_nil])]
  split
  · next fault' fails' =>
    cases fails.symm.trans fails'
    rfl
  · next fits => cases fails.symm.trans fits

theorem components_of_ok {first : Component} (fits : component s = .ok (first, rest)) :
    components s = (components rest).map (first :: ·) := by
  have ne_nil : s ≠ [] := by
    rintro rfl
    cases fits
  rw [components, if_neg (by simp [ne_nil])]
  split
  · next fails => cases fits.symm.trans fails
  · next fits' =>
    cases fits.symm.trans fits'
    cases components rest <;> rfl

/-! ### Offsets and cuts -/

theorem findOffset?_eq_none (none_left : ∀ c ∈ s, p c = false) : findOffset? p s = none := by
  induction s with
  | nil => rfl
  | cons c s ih =>
      rw [List.forall_mem_cons] at none_left
      simp [findOffset?, none_left.1, ih none_left.2]

/-- The first character of a kind stands behind the bytes of what comes before it. -/
theorem findOffset?_append (others : ∀ c ∈ before, p c = false) (ne_nil : rest ≠ [])
    (found : ∀ c ∈ rest.head?, p c = true) :
    findOffset? p (before ++ rest) = some (byteLength before) := by
  induction before with
  | nil =>
      cases rest with
      | nil => exact absurd rfl ne_nil
      | cons c rest => simp [findOffset?, found c rfl, byteLength]
  | cons c before ih =>
      rw [List.forall_mem_cons] at others
      simp [findOffset?, others.1, ih others.2, byteLength]

/-- A cut behind the bytes of some characters comes behind these characters. -/
theorem cutAt?_append (before rest : List Char) :
    cutAt? (byteLength before) (before ++ rest) = some (before, rest) := by
  induction before with
  | nil => rw [byteLength, cutAt?, List.nil_append]
  | cons c before ih =>
      obtain ⟨size, size_eq⟩ : ∃ size, c.utf8Size = size + 1 :=
        Nat.exists_eq_succ_of_ne_zero c.utf8Size_pos.ne'
      rw [byteLength, size_eq, Nat.add_right_comm, List.cons_append, cutAt?, if_pos (by omega)]
      have left : size + byteLength before + 1 - c.utf8Size = byteLength before := by omega
      rw [left, ih]
      rfl

/-! ### The loop -/

/-- A turn takes one component off the text and adds it up. -/
theorem turn_eq (ne_nil : s ≠ []) (sum : Float) :
    turn s sum = some ((component s).map fun (first, rest) =>
      (rest, sum + first.number * first.scale.nanos)) := by
  obtain ⟨token, unit, rest, rfl, is_token, is_unit, resumes, last⟩ := exists_parts s
  have others : ∀ c ∈ token, (!isNumberChar c) = false := by
    intro c hc
    rw [is_token c hc]
    rfl
  by_cases no_unit : unit = []
  · obtain rfl := last no_unit
    obtain rfl := no_unit
    rw [List.append_nil, List.append_nil, component_of_number is_token, turn,
      findOffset?_eq_none others]
    rfl
  · have found : ∀ c ∈ (unit ++ rest).head?, (!isNumberChar c) = true := by
      intro c hc
      rw [head?_append_unit no_unit is_unit c hc]
      rfl
    have offset := findOffset?_append others (by simp [no_unit]) found
    have unit_cut : cutAt? ((findOffset? isNumberChar (unit ++ rest)).getD
        (byteLength (unit ++ rest))) (unit ++ rest) = some (unit, rest) := by
      cases rest with
      | nil =>
          rw [List.append_nil, findOffset?_eq_none is_unit, Option.getD_none]
          simpa using cutAt?_append unit []
      | cons d rest =>
          have next : ∀ c ∈ (d :: rest).head?, isNumberChar c := fun c hc =>
            isNumberChar_iff.2 (resumes c hc)
          rw [findOffset?_append is_unit (List.cons_ne_nil d rest) next, Option.getD_some,
            cutAt?_append]
    rw [component_of_parts is_token no_unit is_unit resumes, turn, offset]
    cases token with
    | nil => rfl
    | cons d token =>
        have some_bytes : byteLength (d :: token) ≠ 0 := by
          rw [byteLength]
          have := d.utf8Size_pos
          omega
        split
        · next h => simp at h
        · next h => exact absurd (Option.some.inj h) some_bytes
        · next offset' _ h =>
          obtain rfl := Option.some.inj h
          rw [cutAt?_append]
          simp only [Option.bind_eq_bind, Option.bind_some, unit_cut]
          cases number? (d :: token) with
          | none => rfl
          | some number =>
            cases Scale.ofToken? unit with
            | none => rfl
            | some scale => rfl

/-- The loop ends within as many turns as the text has characters. It has read the components. -/
theorem loop_eq {turns : Nat} (enough : s.length ≤ turns) (sum : Float) :
    loop turns s sum = some ((components s).map fun cs =>
      cs.foldl (fun sum c => sum + c.number * c.scale.nanos) sum) := by
  induction turns generalizing s sum with
  | zero =>
      obtain rfl : s = [] := List.length_eq_zero_iff.1 (Nat.le_zero.1 enough)
      rw [components]
      rfl
  | succ turns ih =>
      cases s with
      | nil =>
          rw [components]
          rfl
      | cons c s =>
          rw [loop, turn_eq (List.cons_ne_nil c s)]
          cases step : component (c :: s) with
          | error fault =>
              rw [components_of_error (List.cons_ne_nil c s) step]
              rfl
          | ok taken =>
              obtain ⟨first, rest⟩ := taken
              have shorter := length_lt_of_component step
              have left : rest.length ≤ turns := by
                rw [List.length_cons] at enough shorter
                omega
              rw [components_of_ok step]
              refine (ih left (sum + first.number * first.scale.nanos)).trans ?_
              cases components rest <;> rfl

/-- Reading by byte offsets ends, without a cut inside a character, and reads the same. -/
theorem readByOffsets_eq (input : String) : readByOffsets input = some (read input) := by
  simp only [readByOffsets, read]
  split
  · rfl
  · split
    · rfl
    · rw [loop_eq (Nat.le_refl _)]
      cases components (Text.trimChars input.toList) with
      | error fault => rfl
      | ok cs => rfl

example : readByOffsets "1µ5s" = some (.error (.unknownUnit ['µ'])) := rfl

end GatedManager.Duration
