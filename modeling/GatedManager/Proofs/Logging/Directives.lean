import GatedManager.Logging.Verbosity
import GatedManager.Proofs.Results
import GatedManager.Proofs.Text.Blank
import GatedManager.Proofs.Text.Digits

/-!
# Directives, entry by entry

A list of modules is a text with commas between its entries. An entry is a target, an equals sign
and a number of eight bits; the number may have a plus sign and leading zeros, but no blanks. Every
entry becomes one directive, in order, and none of them has a comma of its own, so that the
directives are read off the result by splitting it again. The first entry of another form decides
the error. The entries of two lists with a comma between them are those of the one and then those
of the other, and so are their directives.
-/

namespace GatedManager.Logging

variable {c : Char} {s modules entry target level : List Char} {n verbosity : Nat}
  {fault : EntryFault}

/-! ### Entries -/

/-- A number of eight bits as it may be written: decimal digits, with or without a plus sign. -/
inductive IsVerbosity : List Char → Nat → Prop
  | mk {sign digits : List Char} : sign = [] ∨ sign = ['+'] → digits ≠ [] →
      (∀ c ∈ digits, c.isDigit) → Nat.ofDigitChars 10 digits 0 < 256 →
      IsVerbosity (sign ++ digits) (Nat.ofDigitChars 10 digits 0)

/-- An entry names a target before its first equals sign and a verbosity after it. -/
inductive Names : List Char → List Char → Nat → Prop
  | mk {target level : List Char} {n : Nat} : '=' ∉ target → IsVerbosity level n →
      Names (target ++ '=' :: level) target n

def IsEntry (entry : List Char) : Prop := ∃ target n, Names entry target n

/-- The directive for a target with a verbosity. -/
def directive (target : List Char) (verbosity : Nat) : List Char :=
  target.map (fun c => if c = '-' then '_' else c) ++ '=' :: (levelFor verbosity).name.toList

/-- The error of an entry of another form. It names the entry. -/
inductive IsBad : List Char → EntryFault → Prop
  | noLevel {entry : List Char} : '=' ∉ entry → IsBad entry (.noLevel (String.ofList entry))
  | badLevel {target level : List Char} : '=' ∉ target → (∀ n, ¬IsVerbosity level n) →
      IsBad (target ++ '=' :: level) (.badLevel (String.ofList (target ++ '=' :: level)))

theorem unsigned?_eq_some_iff :
    Text.unsigned? verbosityLimit level = some n ↔ IsVerbosity level n := by
  rw [Text.unsigned?_eq_some_iff]
  constructor
  · rintro ⟨sign, digits, rfl, signed, read, small⟩
    obtain ⟨ne_nil, is_digit, rfl⟩ := Text.natural?_eq_some_iff.1 read
    exact .mk signed ne_nil is_digit small
  · rintro ⟨signed, ne_nil, is_digit, small⟩
    exact ⟨_, _, rfl, signed, Text.natural?_eq_some_iff.2 ⟨ne_nil, is_digit, rfl⟩, small⟩

/-- An entry of the right form becomes its directive. -/
theorem Names.entryDirective_eq (h : Names entry target n) :
    entryDirective entry = .ok (String.ofList (directive target n)) := by
  cases h with
  | mk free is_number =>
      simp only [entryDirective, Text.splitFirst_append free, unsigned?_eq_some_iff.2 is_number,
        directive, Except.ok.injEq, ← String.toList_inj, String.toList_append, String.toList_ofList,
        List.append_assoc]
      rfl

theorem IsBad.entryDirective_eq (h : IsBad entry fault) : entryDirective entry = .error fault := by
  cases h with
  | noLevel free => simp only [entryDirective, Text.splitFirst_eq_none free]
  | @badLevel target level free no_number =>
      have unread : Text.unsigned? verbosityLimit level = none := by
        cases read : Text.unsigned? verbosityLimit level with
        | none => rfl
        | some n => exact absurd (unsigned?_eq_some_iff.1 read) (no_number n)
      simp only [entryDirective, Text.splitFirst_append free, unread]

theorem isEntry_or_isBad (entry : List Char) : IsEntry entry ∨ ∃ fault, IsBad entry fault := by
  by_cases mem : '=' ∈ entry
  · obtain ⟨target, level, rfl, free⟩ := List.eq_append_cons_of_mem mem
    by_cases number : ∃ n, IsVerbosity level n
    · obtain ⟨n, is_number⟩ := number
      exact .inl ⟨target, n, .mk free is_number⟩
    · exact .inr ⟨_, .badLevel free (not_exists.1 number)⟩
  · exact .inr ⟨_, .noLevel mem⟩

theorem entryDirective_eq_ok_iff {text : String} :
    entryDirective entry = .ok text ↔
      ∃ target n, Names entry target n ∧ text.toList = directive target n := by
  constructor
  · intro h
    rcases isEntry_or_isBad entry with ⟨target, n, names⟩ | ⟨fault, bad⟩
    · cases h.symm.trans names.entryDirective_eq
      exact ⟨target, n, names, String.toList_ofList⟩
    · cases h.symm.trans bad.entryDirective_eq
  · rintro ⟨target, n, names, text_eq⟩
    rw [names.entryDirective_eq, ← text_eq, String.ofList_toList]

theorem entryDirective_eq_error_iff : entryDirective entry = .error fault ↔ IsBad entry fault := by
  constructor
  · intro h
    rcases isEntry_or_isBad entry with ⟨target, n, names⟩ | ⟨fault', bad⟩
    · cases h.symm.trans names.entryDirective_eq
    · cases h.symm.trans bad.entryDirective_eq
      exact bad
  · exact IsBad.entryDirective_eq

/-! ### Commas -/

/-- The entries of two lists with a comma between them. -/
theorem entries_append (first second : List Char) :
    entries (first ++ ',' :: second) = entries first ++ entries second := by
  simp only [entries, Text.splitOn_append, List.map_append, List.filter_append]

theorem comma_notMem_entry (h : entry ∈ entries modules) : ',' ∉ entry := by
  obtain ⟨part, is_part, rfl⟩ := List.mem_map.1 (List.mem_filter.1 h).1
  intro comma
  exact Text.notMem_of_mem_splitOn is_part (Text.mem_of_mem_trimChars comma)

theorem comma_notMem_level (level : Level) : ',' ∉ level.name.toList := by
  cases level <;> decide

/-- The directive of an entry without a comma has none. -/
theorem Names.comma_notMem_directive (h : Names entry target n) (free : ',' ∉ entry) :
    ',' ∉ directive target n := by
  cases h with
  | @mk target level n _ _ =>
      have target_free : ',' ∉ target := fun comma => free (List.mem_append_left _ comma)
      intro comma
      rcases List.mem_append.1 comma with in_target | in_level
      · obtain ⟨c, is_c, replaced⟩ := List.mem_map.1 in_target
        split at replaced
        · exact absurd replaced (by decide)
        · exact target_free (replaced ▸ is_c)
      · rcases List.mem_cons.1 in_level with same | in_name
        · exact absurd same (by decide)
        · exact comma_notMem_level _ in_name

/-! ### Lists of entries -/

/-- The directives of a list of modules: one for each entry, in order. -/
def Directs (modules : List Char) (directives : List (List Char)) : Prop :=
  List.Forall₂ (fun entry d => ∃ target n, Names entry target n ∧ d = directive target n)
    (entries modules) directives

/-- The first entry of another form has this error. -/
def FirstBad (modules : List Char) (fault : EntryFault) : Prop :=
  ∃ before entry after, entries modules = before ++ entry :: after ∧
    (∀ other ∈ before, IsEntry other) ∧ IsBad entry fault

theorem Directs.comma_notMem {directives : List (List Char)} (h : Directs modules directives) :
    ∀ d ∈ directives, ',' ∉ d := by
  have free : ∀ entry ∈ entries modules, ',' ∉ entry := fun _ => comma_notMem_entry
  unfold Directs at h
  generalize entries modules = parts at h free
  induction h with
  | nil => exact List.forall_mem_nil _
  | cons first _ ih =>
      obtain ⟨target, n, names, rfl⟩ := first
      rw [List.forall_mem_cons] at free ⊢
      exact ⟨names.comma_notMem_directive free.1, ih free.2⟩

theorem mapM_entryDirective_eq_ok_iff {results : List String} :
    (entries modules).mapM entryDirective = .ok results ↔
      Directs modules (results.map String.toList) := by
  rw [mapM_eq_ok_iff, Directs, List.forall₂_map_right_iff]
  simp only [entryDirective_eq_ok_iff]

theorem mapM_entryDirective_eq_error_iff :
    (entries modules).mapM entryDirective = .error fault ↔ FirstBad modules fault := by
  have fine : ∀ entry, (∃ text, entryDirective entry = .ok text) ↔ IsEntry entry := by
    intro entry
    constructor
    · rintro ⟨text, accepted⟩
      obtain ⟨target, n, names, -⟩ := entryDirective_eq_ok_iff.1 accepted
      exact ⟨target, n, names⟩
    · rintro ⟨target, n, names⟩
      exact ⟨_, names.entryDirective_eq⟩
  simp only [mapM_eq_error_iff, FirstBad, fine, entryDirective_eq_error_iff]

theorem Directs.forall_isEntry {directives : List (List Char)} (h : Directs modules directives) :
    ∀ entry ∈ entries modules, IsEntry entry := by
  unfold Directs at h
  generalize entries modules = parts at h
  induction h with
  | nil => exact List.forall_mem_nil _
  | cons first _ ih =>
      obtain ⟨target, n, names, -⟩ := first
      exact List.forall_mem_cons.2 ⟨⟨target, n, names⟩, ih⟩

/-- Either every entry has its directive, or there is a first one of another form. -/
theorem directs_or_firstBad (modules : List Char) :
    (∃ directives, Directs modules directives) ∨ ∃ fault, FirstBad modules fault := by
  cases results : (entries modules).mapM entryDirective with
  | ok texts => exact .inl ⟨_, mapM_entryDirective_eq_ok_iff.1 results⟩
  | error fault => exact .inr ⟨fault, mapM_entryDirective_eq_error_iff.1 results⟩

theorem FirstBad.not_forall_isEntry (h : FirstBad modules fault) :
    ¬∀ entry ∈ entries modules, IsEntry entry := by
  obtain ⟨before, entry, after, entries_eq, -, bad⟩ := h
  intro all
  obtain ⟨target, n, names⟩ := all entry (entries_eq ▸ List.mem_append_right _ List.mem_cons_self)
  cases names.entryDirective_eq.symm.trans bad.entryDirective_eq

section Append

variable {first second : List Char} {directives more : List (List Char)}

theorem Directs.append (h : Directs first directives) (h' : Directs second more) :
    Directs (first ++ ',' :: second) (directives ++ more) := by
  rw [Directs, entries_append]
  exact List.rel_append h h'

theorem FirstBad.append_left (h : FirstBad first fault) (second : List Char) :
    FirstBad (first ++ ',' :: second) fault := by
  obtain ⟨before, entry, after, entries_eq, fine, bad⟩ := h
  refine ⟨before, entry, after ++ entries second, ?_, fine, bad⟩
  rw [entries_append, entries_eq, List.append_assoc, List.cons_append]

theorem FirstBad.append_right (h : FirstBad second fault)
    (all : ∀ entry ∈ entries first, IsEntry entry) : FirstBad (first ++ ',' :: second) fault := by
  obtain ⟨before, entry, after, entries_eq, fine, bad⟩ := h
  refine ⟨entries first ++ before, entry, after, ?_, List.forall_mem_append.2 ⟨all, fine⟩, bad⟩
  rw [entries_append, entries_eq, List.append_assoc]

end Append

/-! ### The directives of a list -/

variable {text : String} {a b : String}

theorem directives_eq (verbosity : Nat) (modules : String) :
    directives verbosity modules = ((entries modules.toList).mapM entryDirective).map fun ds =>
      ",".intercalate ((levelFor verbosity).name :: ds) := by
  rw [directives]
  cases (entries modules.toList).mapM entryDirective <;> rfl

theorem directives_eq_ok_iff :
    directives verbosity a = .ok text ↔ ∃ ds, Directs a.toList ds ∧
      text.toList = (levelFor verbosity).name.toList ++ ds.flatMap (',' :: ·) := by
  rw [directives_eq]
  constructor
  · intro h
    cases results : (entries a.toList).mapM entryDirective with
    | error fault =>
        rw [results] at h
        cases h
    | ok texts =>
        rw [results] at h
        cases h
        refine ⟨texts.map String.toList, mapM_entryDirective_eq_ok_iff.1 results, ?_⟩
        rw [String.toList_intercalate, List.map_cons]
        exact Text.intercalate_cons _ _
  · rintro ⟨ds, directs, text_eq⟩
    have same : (ds.map String.ofList).map String.toList = ds := by
      simp [Function.comp_def]
    have results := mapM_entryDirective_eq_ok_iff.2 (same.symm ▸ directs)
    rw [results]
    refine congrArg Except.ok (String.toList_inj.1 ?_)
    rw [String.toList_intercalate, List.map_cons, same, text_eq]
    exact Text.intercalate_cons _ _

theorem directives_eq_error_iff :
    directives verbosity a = .error fault ↔ FirstBad a.toList fault := by
  rw [directives_eq, ← mapM_entryDirective_eq_error_iff]
  cases (entries a.toList).mapM entryDirective with
  | ok texts => exact ⟨nofun, nofun⟩
  | error fault => exact ⟨fun h => by cases h; rfl, fun h => by cases h; rfl⟩

/-- The result for a list of modules is found entry by entry. There is one exactly if every entry
names a target and a verbosity. Split at its commas it is the base level and then the directive of
each entry, in order. Otherwise the first entry of another form decides the error. For two lists
with a comma between them it is that of the first one followed by the directives of the second
one, and the error is that of the first one or else that of the second one. -/
theorem directives_by_entry (verbosity : Nat) (a b : String) :
    ((∃ text, directives verbosity a = .ok text) ↔ ∀ entry ∈ entries a.toList, IsEntry entry) ∧
    (∀ text, directives verbosity a = .ok text ↔ ∃ ds, Directs a.toList ds ∧
      Text.splitOn ',' text.toList = (levelFor verbosity).name.toList :: ds) ∧
    (∀ fault, directives verbosity a = .error fault ↔ FirstBad a.toList fault) ∧
    (∀ first second, directives verbosity a = .ok first → directives verbosity b = .ok second →
      ∃ ds, Directs b.toList ds ∧ directives verbosity (a ++ "," ++ b) =
        .ok (String.ofList (first.toList ++ ds.flatMap (',' :: ·)))) ∧
    (∀ fault, directives verbosity a = .error fault →
      directives verbosity (a ++ "," ++ b) = .error fault) ∧
    ∀ first fault, directives verbosity a = .ok first → directives verbosity b = .error fault →
      directives verbosity (a ++ "," ++ b) = .error fault := by
  have joined : (a ++ "," ++ b).toList = a.toList ++ ',' :: b.toList := by
    simp
  refine ⟨⟨?_, ?_⟩, fun text => ?_, fun fault => directives_eq_error_iff, ?_, ?_, ?_⟩
  · rintro ⟨text, accepted⟩
    obtain ⟨ds, directs, -⟩ := directives_eq_ok_iff.1 accepted
    exact directs.forall_isEntry
  · intro all
    rcases directs_or_firstBad a.toList with ⟨ds, directs⟩ | ⟨fault, bad⟩
    · exact ⟨_, directives_eq_ok_iff.2 ⟨ds, directs, String.toList_ofList⟩⟩
    · exact absurd all bad.not_forall_isEntry
  · rw [directives_eq_ok_iff]
    refine exists_congr fun ds => and_congr_right fun directs => (Text.splitOn_eq_cons_iff ?_).symm
    exact List.forall_mem_cons.2 ⟨comma_notMem_level _, directs.comma_notMem⟩
  · intro first second accepted accepted'
    obtain ⟨ds, directs, first_eq⟩ := directives_eq_ok_iff.1 accepted
    obtain ⟨more, directs', -⟩ := directives_eq_ok_iff.1 accepted'
    refine ⟨more, directs', directives_eq_ok_iff.2 ⟨ds ++ more, ?_, ?_⟩⟩
    · rw [joined]
      exact directs.append directs'
    · rw [String.toList_ofList, first_eq, List.flatMap_append, List.append_assoc]
  · intro fault refused
    rw [directives_eq_error_iff, joined]
    exact (directives_eq_error_iff.1 refused).append_left _
  · intro first fault accepted refused
    obtain ⟨ds, directs, -⟩ := directives_eq_ok_iff.1 accepted
    rw [directives_eq_error_iff, joined]
    exact (directives_eq_error_iff.1 refused).append_right directs.forall_isEntry

theorem joined_modules :
    (directives 2 "manager=5, feature-gates=+0" = .ok "debug,manager=trace,feature_gates=info" ∧
      directives 2 "cache=007" = .ok "debug,cache=trace" ∧
      ∃ ds, Directs "cache=007".toList ds ∧
        directives 2 ("manager=5, feature-gates=+0" ++ "," ++ "cache=007") =
          .ok (String.ofList ("debug,manager=trace,feature_gates=info".toList ++
            ds.flatMap (',' :: ·)))) ∧
    directives 2 "manager,cache=high" = .error (.noLevel "manager") ∧
      directives 2 ("manager,cache=high" ++ "," ++ "cache=7") = .error (.noLevel "manager") ∧
      directives 2 ("cache=7" ++ "," ++ "manager,cache=high") = .error (.noLevel "manager") :=
  ⟨⟨rfl, rfl, (directives_by_entry 2 _ _).2.2.2.1 _ _ rfl rfl⟩, rfl,
    (directives_by_entry 2 _ _).2.2.2.2.1 _ rfl, (directives_by_entry 2 _ _).2.2.2.2.2 _ _ rfl rfl⟩

end GatedManager.Logging
