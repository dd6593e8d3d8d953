import LogLayout.Proofs.Config.AnyOrder
import LogLayout.Proofs.Setting.Braced

/-!
# References to the environment in settings

A setting may refer to variables of the environment, and reading it should come to the same as
reading the text with its references replaced. It does for the name and for the path, and for them
only. The text of any other field is taken as it stands: the pattern keeps its references, and a
text that a conversion has to read is refused for the brace (`flag_reference_refused`).

Results:
1. `ofSettings_ofTexts_eq_ok_iff`, `ofSettings_expandTexts_eq_ok_iff`: which configuration texts
   give, and which one they give with their references replaced.
2. `readSetting_expanded`, `readSetting_pattern`, `expand_of_readSetting`: one setting.
3. `ofSettings_expandPattern`: what is read is read as well with the references replaced.
4. `ofSettings_sameOutcome_iff`: for which objects replacing makes no difference.
-/

namespace LogLayout.Config

open Setting (HoldsReference)

variable {environment : List (String × String)} {texts : List (String × String)}

/-! ## Definitions -/

/-- The settings that these texts are. -/
def ofTexts (texts : List (String × String)) : List (String × Value) :=
  texts.map fun t => (t.1, .str t.2)

/-- The texts with their references replaced. -/
def expandTexts (environment texts : List (String × String)) : List (String × String) :=
  texts.map fun t => (t.1, expand environment (.str t.2))

/-- The keys of the fields whose texts have their references replaced. -/
def expandedKeys : List String := ["name", "log_file"]

/-- No text holds a reference. -/
def AreSettled (texts : List (String × String)) : Prop :=
  ∀ key s, (key, s) ∈ texts → ¬ HoldsReference s.toList

/-- Replacing changes no text of a field that is taken as it stands. -/
def RestIsPlain (environment texts : List (String × String)) : Prop :=
  ∀ key s, (key, s) ∈ texts → key ∈ knownKeys → key ∉ expandedKeys →
    expand environment (.str s) = s

/-- The same configuration, or none in both cases. -/
def SameOutcome (first second : Warned Config) : Prop :=
  ∀ c, first.result = .ok c ↔ second.result = .ok c

/-- The configuration with the references in its pattern replaced. -/
def expandPattern (environment : List (String × String)) (c : Config) : Config :=
  { c with pattern := .str (expand environment c.pattern) }

/-! ## 1. Texts as settings -/

theorem areSettled_of_dollar_free (free : texts.all (fun t => !t.2.toList.contains '$') = true) :
    AreSettled texts := by
  intro key s member
  have dollar := List.all_eq_true.1 free (key, s) member
  exact Setting.not_holdsReference_of_dollar_not_mem (by simpa using dollar)

theorem forall_mem_expandTexts {P : String → String → Prop} :
    (∀ key t, (key, t) ∈ expandTexts environment texts → P key t) ↔
      ∀ key s, (key, s) ∈ texts → P key (expand environment (.str s)) := by
  constructor
  · exact fun all key s member => all key _ (List.mem_map.2 ⟨(key, s), member, rfl⟩)
  · intro all key t replaced
    obtain ⟨⟨key, s⟩, member, ⟨⟩⟩ := List.mem_map.1 replaced
    exact all key s member

theorem keys_ofTexts (texts : List (String × String)) :
    (ofTexts texts).map (·.1) = texts.map (·.1) := by
  simp [ofTexts]

theorem keys_expandTexts (environment texts : List (String × String)) :
    (expandTexts environment texts).map (·.1) = texts.map (·.1) := by
  simp [expandTexts]

/-- A text is read whatever it says. -/
theorem readKeys_ofTexts (texts : List (String × String)) :
    readKeys (ofTexts texts) = (texts.map (·.1)).filter knownKeys.contains := by
  simp [readKeys, ofTexts, List.filter_map, Function.comp_def, isRead]

theorem readKeys_expandTexts (environment texts : List (String × String)) :
    readKeys (ofTexts (expandTexts environment texts)) = readKeys (ofTexts texts) := by
  rw [readKeys_ofTexts, readKeys_ofTexts, keys_expandTexts]

/-- To follow texts is to follow each of them that has the key of a field. -/
theorem follows_ofTexts {c : Config} :
    Follows environment (ofTexts texts) c ↔
      ∀ key s, (key, s) ∈ texts → key ∈ knownKeys →
        (readSetting environment key (.str s)).result = .ok (c.take [key]) := by
  constructor
  · intro follows key s member known
    exact follows key _ (List.mem_map.2 ⟨(key, s), member, rfl⟩) (isRead_iff.2 ⟨known, by simp⟩)
  · intro all key v setting read
    obtain ⟨⟨key, s⟩, member, ⟨⟩⟩ := List.mem_map.1 setting
    exact all key s member (isRead_iff.1 read).1

theorem ofSettings_ofTexts_eq_ok_iff (distinct : (texts.map (·.1)).Nodup) {c : Config} :
    (ofSettings environment (ofTexts texts)).result = .ok c ↔
      c.IsValid ∧
      (∀ key s, (key, s) ∈ texts → key ∈ knownKeys →
        (readSetting environment key (.str s)).result = .ok (c.take [key])) ∧
      c = c.take (readKeys (ofTexts texts)) {} := by
  rw [ofSettings_eq_ok_iff (by rwa [keys_ofTexts]), follows_ofTexts]

/-- The same with the references replaced beforehand. -/
theorem ofSettings_expandTexts_eq_ok_iff (distinct : (texts.map (·.1)).Nodup) {c : Config} :
    (ofSettings environment (ofTexts (expandTexts environment texts))).result = .ok c ↔
      c.IsValid ∧
      (∀ key s, (key, s) ∈ texts → key ∈ knownKeys →
        (readSetting environment key (.str (expand environment (.str s)))).result =
          .ok (c.take [key])) ∧
      c = c.take (readKeys (ofTexts texts)) {} := by
  rw [ofSettings_ofTexts_eq_ok_iff (by rwa [keys_expandTexts]), forall_mem_expandTexts,
    readKeys_expandTexts]

/-! ## 2. One setting -/

/-- The name and the path come out the same with their references replaced beforehand. -/
theorem readSetting_expanded {key s : String} (expanded : key ∈ expandedKeys)
    (settled : ¬ HoldsReference (expand environment (.str s)).toList) :
    readSetting environment key (.str (expand environment (.str s))) =
      readSetting environment key (.str s) := by
  simp only [expandedKeys, List.mem_cons, List.not_mem_nil, or_false] at expanded
  have again : expand environment (.str (expand environment (.str s))) =
      expand environment (.str s) := expand_str settled
  rcases expanded with rfl | rfl
  · have read (s : String) : readSetting environment "name" (.str s) =
        ⟨[], .ok fun c => { c with name := expand environment (.str s) }⟩ := rfl
    rw [read, read, again]
  · have read (s : String) : readSetting environment "log_file" (.str s) =
        ⟨[], .ok fun c =>
          { c with logFile := some (FilePath.ofText (expand environment (.str s))) }⟩ := rfl
    rw [read, read, again]

theorem readSetting_pattern (environment : List (String × String)) (s : String) :
    readSetting environment "conversion_pattern" (.str s) =
      ⟨[], .ok fun c => { c with pattern := .str s }⟩ := rfl

theorem exists_of_map_eq_ok {α β : Type} {f : α → β} {x : Except Fault α} {b : β}
    (mapped : x.map f = .ok b) : ∃ a, x = .ok a := by
  cases x with
  | error fault => cases mapped
  | ok a => exact ⟨a, rfl⟩

/-- A text that a conversion accepts has no brace. -/
theorem brace_not_mem_of_converted {key s : String} {convert : Value → Except Fault Change}
    {change : Change} (setter : (key, convert) ∈ setters environment) (taken : key ∉ expandedKeys)
    (other : key ≠ "conversion_pattern") (converted : convert (.str s) = .ok change) :
    '\x7b' ∉ s.toList := by
  simp only [setters, List.mem_cons, Prod.mk.injEq, List.not_mem_nil, or_false] at setter
  rcases setter with name | minLevel | asyncMode | queueSize | batchSize | flushInterval |
    consoleOutput | coloredOutput | logFile | pattern | captureLocation
  · exact absurd (by simp [expandedKeys, name.1]) taken
  · obtain ⟨-, rfl⟩ := minLevel
    obtain ⟨l, read⟩ := exists_of_map_eq_ok converted
    exact Setting.brace_not_mem_of_toLevel read
  · obtain ⟨-, rfl⟩ := asyncMode
    obtain ⟨b, read⟩ := exists_of_map_eq_ok converted
    exact Setting.brace_not_mem_of_toBoolean read
  · obtain ⟨-, rfl⟩ := queueSize
    obtain ⟨q, read⟩ := exists_of_map_eq_ok converted
    exact Setting.brace_not_mem_of_toPositiveInteger read
  · obtain ⟨-, rfl⟩ := batchSize
    obtain ⟨q, read⟩ := exists_of_map_eq_ok converted
    exact Setting.brace_not_mem_of_toPositiveInteger read
  · obtain ⟨-, rfl⟩ := flushInterval
    obtain ⟨q, read⟩ := exists_of_map_eq_ok converted
    exact Setting.brace_not_mem_of_toInteger read
  · obtain ⟨-, rfl⟩ := consoleOutput
    obtain ⟨b, read⟩ := exists_of_map_eq_ok converted
    exact Setting.brace_not_mem_of_toBoolean read
  · obtain ⟨-, rfl⟩ := coloredOutput
    obtain ⟨b, read⟩ := exists_of_map_eq_ok converted
    exact Setting.brace_not_mem_of_toBoolean read
  · exact absurd (by simp [expandedKeys, logFile.1]) taken
  · exact absurd pattern.1 other
  · obtain ⟨-, rfl⟩ := captureLocation
    obtain ⟨b, read⟩ := exists_of_map_eq_ok converted
    exact Setting.brace_not_mem_of_toBoolean read

/-- So it is the same with its references replaced, for it has none. -/
theorem expand_of_readSetting {key s : String} {change : Change} (known : key ∈ knownKeys)
    (taken : key ∉ expandedKeys) (other : key ≠ "conversion_pattern")
    (changed : (readSetting environment key (.str s)).result = .ok change) :
    expand environment (.str s) = s := by
  obtain ⟨convert, found⟩ := exists_setter environment known
  obtain ⟨before, after, all, -⟩ := List.lookup_eq_some_iff.1 found
  have setter : (key, convert) ∈ setters environment := by simp [all]
  rw [result_readSetting found (by simp)] at changed
  exact expand_str (Setting.not_holdsReference_of_not_mem
    (brace_not_mem_of_converted setter taken other changed))

/-! ## 3. Whole objects -/

theorem take_expandPattern {key : String} (other : key ≠ "conversion_pattern") (c : Config) :
    (c.expandPattern environment).take [key] = c.take [key] := by
  funext base
  simp [take, expandPattern, other.symm]

theorem pattern_of_readSetting {c : Config} {s : String}
    (read : (readSetting environment "conversion_pattern" (.str s)).result =
      .ok (c.take ["conversion_pattern"])) : c.pattern = .str s := by
  rw [readSetting_pattern] at read
  have change := Except.ok.inj read
  exact (congrArg (fun change : Change => (change {}).pattern) change).symm

/-- The pattern that goes without saying holds no reference. -/
theorem expand_defaultPattern (environment : List (String × String)) :
    Value.str (expand environment ({} : Config).pattern) = ({} : Config).pattern :=
  congrArg Value.str (expand_str (Setting.not_holdsReference_of_dollar_not_mem (by decide)))

/-- With the references replaced beforehand, an object that has a configuration still has it, but
for the references in the pattern. -/
theorem ofSettings_expandPattern (distinct : (texts.map (·.1)).Nodup)
    (settled : AreSettled (expandTexts environment texts)) {c : Config}
    (given : (ofSettings environment (ofTexts texts)).result = .ok c) :
    (ofSettings environment (ofTexts (expandTexts environment texts))).result =
      .ok (c.expandPattern environment) := by
  obtain ⟨⟨queue, batch, fits, flush, -⟩, all, same⟩ :=
    (ofSettings_ofTexts_eq_ok_iff distinct).1 given
  refine (ofSettings_expandTexts_eq_ok_iff distinct).2
    ⟨⟨queue, batch, fits, flush, rfl⟩, fun key s member known => ?_, ?_⟩
  · have own := all key s member known
    by_cases pattern : key = "conversion_pattern"
    · subst pattern
      rw [readSetting_pattern, expandPattern, pattern_of_readSetting own]
      rfl
    · rw [take_expandPattern pattern]
      by_cases expanded : key ∈ expandedKeys
      · rw [readSetting_expanded expanded (forall_mem_expandTexts.1 settled key s member)]
        exact own
      · rw [expand_of_readSetting known expanded pattern own]
        exact own
  · by_cases pattern : "conversion_pattern" ∈ readKeys (ofTexts texts)
    · conv_lhs => rw [same]
      simp [take, expandPattern, pattern]
    · have default : c.pattern = ({} : Config).pattern := by
        rw [same]
        simp [take, pattern]
      have plain : c.expandPattern environment = c := by
        rw [expandPattern, default, expand_defaultPattern, ← default]
      rw [plain]
      exact same

/-- An object of whose texts none but the name and the path is changed by replacing has the same
configurations with the references replaced beforehand. -/
theorem sameOutcome_of_restIsPlain (distinct : (texts.map (·.1)).Nodup)
    (settled : AreSettled (expandTexts environment texts)) (plain : RestIsPlain environment texts) :
    SameOutcome (ofSettings environment (ofTexts texts))
      (ofSettings environment (ofTexts (expandTexts environment texts))) := by
  have agree : ∀ key s, (key, s) ∈ texts → key ∈ knownKeys →
      readSetting environment key (.str (expand environment (.str s))) =
        readSetting environment key (.str s) := by
    intro key s member known
    by_cases expanded : key ∈ expandedKeys
    · exact readSetting_expanded expanded (forall_mem_expandTexts.1 settled key s member)
    · rw [plain key s member known expanded]
  intro c
  rw [ofSettings_ofTexts_eq_ok_iff distinct, ofSettings_expandTexts_eq_ok_iff distinct]
  constructor
  · rintro ⟨valid, all, same⟩
    refine ⟨valid, fun key s member known => ?_, same⟩
    rw [agree key s member known]
    exact all key s member known
  · rintro ⟨valid, all, same⟩
    refine ⟨valid, fun key s member known => ?_, same⟩
    rw [← agree key s member known]
    exact all key s member known

/-- A configuration that is the same with the references replaced beforehand is one of texts that
are not changed by it, but for the name and the path. -/
theorem restIsPlain_of_ok (distinct : (texts.map (·.1)).Nodup) {c : Config}
    (given : (ofSettings environment (ofTexts texts)).result = .ok c)
    (same : c.expandPattern environment = c) : RestIsPlain environment texts := by
  obtain ⟨-, all, -⟩ := (ofSettings_ofTexts_eq_ok_iff distinct).1 given
  intro key s member known taken
  have own := all key s member known
  by_cases pattern : key = "conversion_pattern"
  · subst pattern
    have replaced := congrArg Config.pattern same
    rw [expandPattern, pattern_of_readSetting own] at replaced
    exact Value.str.inj replaced
  · exact expand_of_readSetting known taken pattern own

/-! ## 4. Where replacing makes no difference -/

/-- Replacing the references beforehand keeps every configuration but for the references in its
pattern. It makes no difference at all exactly if there is no configuration afterwards either, or if
it changes no text but that of the name and of the path. -/
theorem ofSettings_sameOutcome_iff (distinct : (texts.map (·.1)).Nodup)
    (settled : AreSettled (expandTexts environment texts)) :
    (∀ c, (ofSettings environment (ofTexts texts)).result = .ok c →
      (ofSettings environment (ofTexts (expandTexts environment texts))).result =
        .ok (c.expandPattern environment)) ∧
    (SameOutcome (ofSettings environment (ofTexts texts))
        (ofSettings environment (ofTexts (expandTexts environment texts))) ↔
      (∀ c, (ofSettings environment (ofTexts (expandTexts environment texts))).result ≠ .ok c) ∨
        RestIsPlain environment texts) := by
  have kept (c : Config) := @ofSettings_expandPattern environment texts distinct settled c
  refine ⟨kept, fun same => ?_, ?_⟩
  · by_cases none : ∀ c,
        (ofSettings environment (ofTexts (expandTexts environment texts))).result ≠ .ok c
    · exact .inl none
    · obtain ⟨c, afterwards⟩ := not_forall_not.1 none
      have given := (same c).2 afterwards
      have pattern := Except.ok.inj ((kept c given).symm.trans afterwards)
      exact .inr (restIsPlain_of_ok distinct given pattern)
  · rintro (none | plain)
    · exact fun c => ⟨fun given => absurd (kept c given) (none _),
        fun afterwards => absurd afterwards (none c)⟩
    · exact sameOutcome_of_restIsPlain distinct settled plain

/-- Texts that refer to a host, and one that does not. -/
def hostTexts : List (String × String) :=
  [("name", "web-$\x7bHOST\x7d"), ("log_file", "logs/$\x7bHOST\x7d.log"), ("async_mode", "off")]

theorem ofSettings_sameOutcome_iff_hostTexts :
    (hostTexts.map (·.1)).Nodup ∧ AreSettled (expandTexts [("HOST", "a1")] hostTexts) ∧
      expandTexts [("HOST", "a1")] hostTexts =
        [("name", "web-a1"), ("log_file", "logs/a1.log"), ("async_mode", "off")] ∧
      SameOutcome (ofSettings [("HOST", "a1")] (ofTexts hostTexts))
        (ofSettings [("HOST", "a1")] (ofTexts (expandTexts [("HOST", "a1")] hostTexts))) := by
  have distinct : (hostTexts.map (·.1)).Nodup := by decide
  have replaced : expandTexts [("HOST", "a1")] hostTexts =
      [("name", "web-a1"), ("log_file", "logs/a1.log"), ("async_mode", "off")] := by
    decide +kernel
  have settled : AreSettled (expandTexts [("HOST", "a1")] hostTexts) := by
    rw [replaced]
    exact areSettled_of_dollar_free (by decide)
  have plain : RestIsPlain [("HOST", "a1")] hostTexts := by
    intro key s member known taken
    simp only [hostTexts, List.mem_cons, Prod.mk.injEq, List.not_mem_nil, or_false] at member
    rcases member with ⟨rfl, rfl⟩ | ⟨rfl, rfl⟩ | ⟨rfl, rfl⟩
    · exact absurd (by decide) taken
    · exact absurd (by decide) taken
    · decide +kernel
  exact ⟨distinct, settled, replaced,
    (ofSettings_sameOutcome_iff distinct settled).2.2 (.inr plain)⟩

/-- A flag that refers to a variable. -/
def flagTexts : List (String × String) := [("async_mode", "$\x7bFLAG\x7d")]

/-- That replacing makes no difference for any object is false: a flag that refers to a variable is
refused, while the same flag with its reference replaced is accepted. -/
theorem flag_reference_refused :
    (flagTexts.map (·.1)).Nodup ∧ (∀ t ∈ flagTexts, t.1 ∈ knownKeys) ∧
      expandTexts [("FLAG", "off")] flagTexts = [("async_mode", "off")] ∧
      AreSettled (expandTexts [("FLAG", "off")] flagTexts) ∧
      (ofSettings [("FLAG", "off")] (ofTexts flagTexts)).result =
        .error (.setting (.str "$\x7bFLAG\x7d") .boolean) ∧
      (ofSettings [("FLAG", "off")] (ofTexts (expandTexts [("FLAG", "off")] flagTexts))).result =
        .ok { asyncMode := false } ∧
      ¬ SameOutcome (ofSettings [("FLAG", "off")] (ofTexts flagTexts))
        (ofSettings [("FLAG", "off")] (ofTexts (expandTexts [("FLAG", "off")] flagTexts))) := by
  have replaced : expandTexts [("FLAG", "off")] flagTexts = [("async_mode", "off")] := by
    decide +kernel
  have refused : (ofSettings [("FLAG", "off")] (ofTexts flagTexts)).result =
      .error (.setting (.str "$\x7bFLAG\x7d") .boolean) := rfl
  have accepted : (ofSettings [("FLAG", "off")] (ofTexts [("async_mode", "off")])).result =
      .ok { asyncMode := false } := rfl
  rw [replaced]
  refine ⟨by decide, by decide, rfl, areSettled_of_dollar_free (by decide), refused, accepted,
    fun same => ?_⟩
  have given := (same _).2 accepted
  rw [refused] at given
  cases given

end LogLayout.Config
