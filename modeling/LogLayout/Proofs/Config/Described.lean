import LogLayout.Config
import LogLayout.Proofs.Setting.References
import LogLayout.Proofs.Setting.Written
import Mathlib.Data.List.Nodup

/-!
# Configurations read back from their fields

A configuration may be described by its own fields, in any order and each of them as it is or as a
text. Reading the description gives the configuration and no warning. Every setting changes the
field of its key only, so a run over settings comes to taking over the fields of their keys.

Results:
1. `take_take`: fields that are taken over one after the other.
2. `readSetting_given`, `readSettings_given`: one setting and any run of settings.
3. `ofSettings_given`: the whole description.
-/

namespace LogLayout.Config

open Setting (Gives HoldsReference)

/-! ## Definitions -/

/-- The fields of a configuration by their keys. A path is given by its text, which is all that is
read of it. -/
def fields (c : Config) : List (String × Value) :=
  [("name", .str c.name), ("min_level", .level c.minLevel), ("async_mode", .bool c.asyncMode),
   ("queue_size", c.queueSize.value), ("batch_size", c.batchSize.value),
   ("flush_interval_ms", c.flushInterval.value), ("console_output", .bool c.consoleOutput),
   ("colored_output", .bool c.coloredOutput),
   ("log_file", c.logFile.elim .null fun p => .str p.text),
   ("conversion_pattern", c.pattern), ("capture_location", .bool c.captureLocation)]

/-- The settings give the fields of the configuration, whatever their order. A field that is nothing
may be left out, and a level that stands for a number is given as it is. -/
structure AreGiven (c : Config) (settings : List (String × Value)) : Prop where
  given : ∀ key v, (key, v) ∈ settings → ∃ x, (key, x) ∈ c.fields ∧ Gives x v
  complete : ∀ key x, (key, x) ∈ c.fields → x ≠ .null → key ∈ settings.map (·.1)
  level : ∀ key l v, (key, .level l) ∈ c.fields → key ≠ "min_level" → (key, v) ∈ settings →
    v = .level l

/-- The texts in which references are replaced hold none, and the path is one. -/
structure IsLiteral (c : Config) : Prop where
  name : ¬ HoldsReference c.name.toList
  path : ∀ p ∈ c.logFile, p.IsNormal ∧ ¬ HoldsReference p.text.toList

/-- The configuration with the fields of these keys taken over from `c`. -/
def take (c : Config) (keys : List String) : Change := fun base =>
  { name := if "name" ∈ keys then c.name else base.name
    minLevel := if "min_level" ∈ keys then c.minLevel else base.minLevel
    asyncMode := if "async_mode" ∈ keys then c.asyncMode else base.asyncMode
    queueSize := if "queue_size" ∈ keys then c.queueSize else base.queueSize
    batchSize := if "batch_size" ∈ keys then c.batchSize else base.batchSize
    flushInterval := if "flush_interval_ms" ∈ keys then c.flushInterval else base.flushInterval
    consoleOutput := if "console_output" ∈ keys then c.consoleOutput else base.consoleOutput
    coloredOutput := if "colored_output" ∈ keys then c.coloredOutput else base.coloredOutput
    logFile := if "log_file" ∈ keys then c.logFile else base.logFile
    pattern := if "conversion_pattern" ∈ keys then c.pattern else base.pattern
    captureLocation := if "capture_location" ∈ keys then c.captureLocation
      else base.captureLocation }

/-! ## 1. Taking fields over -/

theorem take_nil (c base : Config) : c.take [] base = base := by
  simp [take]

theorem take_take (c base : Config) (keys more : List String) :
    c.take more (c.take keys base) = c.take (keys ++ more) base := by
  have both {α : Type} (key : String) (x y : α) :
      (if key ∈ more then x else if key ∈ keys then x else y) =
        if key ∈ keys ++ more then x else y := by
    by_cases early : key ∈ keys <;> simp [early]
  simp only [take, both]

/-! ## 2. Settings -/

theorem readSetting_eq_ok {environment : List (String × String)} {key : String} {v : Value}
    {convert : Value → Except Fault Change} {change : Change}
    (found : (setters environment).lookup key = some convert) (given : v ≠ .null)
    (converted : convert v = .ok change) :
    readSetting environment key v = ⟨[], .ok change⟩ := by
  cases v <;> first | exact absurd rfl given | simp only [readSetting, found, converted]

theorem expand_str {environment : List (String × String)} {s : String}
    (none : ¬ HoldsReference s.toList) : expand environment (.str s) = s :=
  Setting.substitute_of_not_holdsReference none _

theorem readSetting_null {environment : List (String × String)} {key : String}
    {convert : Value → Except Fault Change}
    (found : (setters environment).lookup key = some convert) :
    readSetting environment key .null = .ok id := by
  simp only [readSetting, found]

/-- The change that a setting asks for takes over the field of its key. -/
theorem readSetting_take {c : Config} {environment : List (String × String)} {key : String}
    {v : Value} {convert : Value → Except Fault Change}
    (found : (setters environment).lookup key = some convert) (given : v ≠ .null)
    (converted : convert v = .ok (c.take [key])) :
    ∃ keys, readSetting environment key v = .ok (c.take keys) ∧ (v ≠ .null → key ∈ keys) :=
  ⟨[key], readSetting_eq_ok found given converted, fun _ => List.mem_singleton_self key⟩

/-- The same for a setting that is read by a conversion. -/
theorem readSetting_take_of_conversion {c : Config} {environment : List (String × String)}
    {key : String} {x v : Value} {α : Type} {read : Value → Except Fault α} {put : α → Change}
    {a : α} (found : (setters environment).lookup key = some fun v => (read v).map put)
    (something : x ≠ .null) (gives : Gives x v) (back : read v = .ok a)
    (taken : put a = c.take [key]) :
    ∃ keys, readSetting environment key v = .ok (c.take keys) ∧ (v ≠ .null → key ∈ keys) :=
  readSetting_take found (gives.ne_null something) (by rw [back, ← taken]; rfl)

theorem eq_str_of_isText {v : Value} (text : isText v = true) : ∃ s, v = .str s := by
  cases v with
  | str s => exact ⟨s, rfl⟩
  | _ => cases text

theorem quantity_ne_null (q : Setting.Quantity) : q.value ≠ .null := by
  cases q <;> simp [Setting.Quantity.value]

/-- A setting that gives a field takes it over, unless the field is nothing. -/
theorem readSetting_given {c : Config} (valid : c.IsValid) (literal : c.IsLiteral)
    (environment : List (String × String)) {key : String} {x v : Value}
    (field : (key, x) ∈ c.fields) (gives : Gives x v)
    (level : ∀ l, x = .level l → key ≠ "min_level" → v = .level l) :
    ∃ keys, readSetting environment key v = .ok (c.take keys) ∧ (v ≠ .null → key ∈ keys) := by
  obtain ⟨queue, batch, -, -, text⟩ := valid
  have quantity (given : key ≠ "min_level") {q : Setting.Quantity} (number : x = q.value) :
      ∀ l, q = .level l → v = .level l := by
    rintro l rfl
    exact level l number given
  simp only [fields, List.mem_cons, Prod.mk.injEq, List.not_mem_nil, or_false] at field
  rcases field with name | minLevel | asyncMode | queueSize | batchSize | flushInterval |
    consoleOutput | coloredOutput | logFile | pattern | captureLocation
  · obtain ⟨rfl, rfl⟩ := name
    cases gives
    refine readSetting_take rfl (by simp) ?_
    rw [expand_str literal.name]
    rfl
  · obtain ⟨rfl, rfl⟩ := minLevel
    exact readSetting_take_of_conversion rfl (by simp) gives (Setting.toLevel_of_gives gives) rfl
  · obtain ⟨rfl, rfl⟩ := asyncMode
    exact readSetting_take_of_conversion rfl (by simp) gives (Setting.toBoolean_of_gives gives) rfl
  · obtain ⟨rfl, rfl⟩ := queueSize
    exact readSetting_take_of_conversion rfl (quantity_ne_null _) gives
      (Setting.toPositiveInteger_of_gives gives (quantity (by decide) rfl) queue) rfl
  · obtain ⟨rfl, rfl⟩ := batchSize
    exact readSetting_take_of_conversion rfl (quantity_ne_null _) gives
      (Setting.toPositiveInteger_of_gives gives (quantity (by decide) rfl) batch) rfl
  · obtain ⟨rfl, rfl⟩ := flushInterval
    exact readSetting_take_of_conversion rfl (quantity_ne_null _) gives
      (Setting.toInteger_of_gives gives (quantity (by decide) rfl)) rfl
  · obtain ⟨rfl, rfl⟩ := consoleOutput
    exact readSetting_take_of_conversion rfl (by simp) gives (Setting.toBoolean_of_gives gives) rfl
  · obtain ⟨rfl, rfl⟩ := coloredOutput
    exact readSetting_take_of_conversion rfl (by simp) gives (Setting.toBoolean_of_gives gives) rfl
  · obtain ⟨rfl, rfl⟩ := logFile
    cases file : c.logFile with
    | none =>
      -- The setting is nothing too, which leaves every field as it is.
      rw [file] at gives
      cases gives
      refine ⟨[], ?_, fun something => absurd rfl something⟩
      rw [Option.elim_none, readSetting_null rfl, funext c.take_nil]
      rfl
    | some p =>
      rw [file] at gives
      obtain ⟨isNormal, none⟩ := literal.path p file
      cases gives
      refine readSetting_take rfl (by simp) ?_
      rw [Option.elim_some, expand_str none, FilePath.ofText_text isNormal, ← file]
      rfl
  · obtain ⟨rfl, rfl⟩ := pattern
    obtain ⟨s, isStr⟩ := eq_str_of_isText text
    rw [isStr] at gives
    cases gives
    refine readSetting_take rfl (by simp) ?_
    rw [Value.text, ← isStr]
    rfl
  · obtain ⟨rfl, rfl⟩ := captureLocation
    exact readSetting_take_of_conversion rfl (by simp) gives (Setting.toBoolean_of_gives gives) rfl

/-- A run of settings that give fields takes over those of the settings that are something. -/
theorem readSettings_given {c : Config} (valid : c.IsValid) (literal : c.IsLiteral)
    (environment : List (String × String)) :
    ∀ (settings : List (String × Value)) (base : Config),
      (∀ key v, (key, v) ∈ settings → ∃ x, (key, x) ∈ c.fields ∧ Gives x v) →
      (∀ key l v, (key, .level l) ∈ c.fields → key ≠ "min_level" → (key, v) ∈ settings →
        v = .level l) →
      ∃ keys, readSettings environment base settings = .ok (c.take keys base) ∧
        ∀ key v, (key, v) ∈ settings → v ≠ .null → key ∈ keys := by
  intro settings
  induction settings with
  | nil =>
    intro base _ _
    exact ⟨[], by rw [take_nil]; rfl, by simp⟩
  | cons setting settings ih =>
    obtain ⟨key, v⟩ := setting
    intro base given level
    obtain ⟨x, field, gives⟩ := given key v List.mem_cons_self
    obtain ⟨keys, first, taken⟩ := readSetting_given valid literal environment field gives
      fun l isLevel other => level key l v (isLevel ▸ field) other List.mem_cons_self
    obtain ⟨more, rest, takenMore⟩ := ih (c.take keys base)
      (fun key v member => given key v (List.mem_cons_of_mem _ member))
      (fun key l v field other member => level key l v field other (List.mem_cons_of_mem _ member))
    refine ⟨keys ++ more, ?_, ?_⟩
    · rw [readSettings, first, Warned.ok_andThen, rest, take_take]
    · intro key v member something
      rcases List.mem_cons.1 member with same | member
      · cases same
        exact List.mem_append_left _ (taken something)
      · exact List.mem_append_right _ (takenMore key v member something)

/-! ## 3. The whole description -/

theorem eq_of_mem_fields {c : Config} {key : String} {x y : Value} (first : (key, x) ∈ c.fields)
    (second : (key, y) ∈ c.fields) : x = y := by
  have distinct : (c.fields.map (·.1)).Nodup := by simp [fields]
  exact congrArg Prod.snd (List.inj_on_of_nodup_map distinct first second rfl)

theorem ne_null_of_mem_fields {c : Config} (valid : c.IsValid) {key : String} {x : Value}
    (field : (key, x) ∈ c.fields) (other : key ≠ "log_file") : x ≠ .null := by
  obtain ⟨s, isStr⟩ := eq_str_of_isText valid.2.2.2.2
  simp only [fields, List.mem_cons, Prod.mk.injEq, List.not_mem_nil, or_false] at field
  rcases field with ⟨rfl, rfl⟩ | ⟨rfl, rfl⟩ | ⟨rfl, rfl⟩ | ⟨rfl, rfl⟩ | ⟨rfl, rfl⟩ | ⟨rfl, rfl⟩ |
    ⟨rfl, rfl⟩ | ⟨rfl, rfl⟩ | ⟨rfl, rfl⟩ | ⟨rfl, rfl⟩ | ⟨rfl, rfl⟩ <;>
    first
    | exact absurd rfl other
    | exact quantity_ne_null _
    | simp [isStr]

/-- Taking over the fields that are something gives all of them: only the path can be nothing, and
without a setting there is no path. -/
theorem take_eq_self {c : Config} (valid : c.IsValid) {keys : List String}
    (all : ∀ key x, (key, x) ∈ c.fields → x ≠ .null → key ∈ keys) : c.take keys {} = c := by
  have path : (if "log_file" ∈ keys then c.logFile else none) = c.logFile := by
    cases file : c.logFile with
    | none => simp
    | some p => rw [if_pos (all "log_file" (.str p.text) (by simp [fields, file]) (by simp))]
  have taken : ∀ key ∈ c.fields.map (·.1), key ≠ "log_file" → key ∈ keys := by
    intro key member other
    obtain ⟨⟨key, x⟩, field, rfl⟩ := List.mem_map.1 member
    exact all key x field (ne_null_of_mem_fields valid field other)
  simp [fields] at taken
  simp [take, path, taken]

/-- Reading a valid configuration back from its fields, in any order and each of them as it is or as
a text, gives the configuration and no warning. -/
theorem ofSettings_given {c : Config} (valid : c.IsValid) (literal : c.IsLiteral)
    (environment : List (String × String)) {settings : List (String × Value)}
    (described : c.AreGiven settings) : ofSettings environment settings = .ok c := by
  obtain ⟨keys, run, taken⟩ :=
    readSettings_given valid literal environment settings {} described.given described.level
  have all : ∀ key x, (key, x) ∈ c.fields → x ≠ .null → key ∈ keys := by
    intro key x field something
    obtain ⟨⟨key, v⟩, member, rfl⟩ := List.mem_map.1 (described.complete key x field something)
    obtain ⟨y, again, gives⟩ := described.given key v member
    cases eq_of_mem_fields field again
    exact taken key v member (gives.ne_null something)
  rw [ofSettings, run, Warned.ok_andThen, take_eq_self valid all,
    check_eq_ok_iff.2 ⟨valid, rfl⟩]
  rfl

/-- A configuration for a program that keeps its log in a file. -/
def filed : Config where
  name := "$billing"
  minLevel := .debug
  asyncMode := false
  queueSize := .number 2500
  logFile := some ⟨.slash, ["var".toList, "billing.log".toList]⟩

/-- Its fields in another order, some of them as texts. -/
def filedSettings : List (String × Value) :=
  [("log_file", .str "/var/billing.log"), ("queue_size", .str "2500"), ("min_level", .str "DEBUG"),
   ("capture_location", .str "False"), ("async_mode", .bool false), ("console_output", .str "True"),
   ("batch_size", .int 100), ("colored_output", .bool true), ("flush_interval_ms", .str "100"),
   ("name", .str "$billing"), ("conversion_pattern", .str "%d\x7bISO8601\x7d [%-5p] %c: %m")]

theorem areGiven_filedSettings : filed.AreGiven filedSettings where
  given := by
    have digits {n : Int} {s : String} (written : toString n = s) (small : n.natAbs < 10 ^ 4) :
        Gives (.int n) (.str s) :=
      written ▸ .digits (lt_of_lt_of_le small (Nat.pow_le_pow_right (by decide) (by decide)))
    have field (place : Nat) {key : String} {x v : Value}
        (found : filed.fields[place]? = some (key, x)) (gives : Gives x v) :
        ∃ x, (key, x) ∈ filed.fields ∧ Gives x v :=
      ⟨x, List.mem_of_getElem? found, gives⟩
    intro key v member
    simp only [filedSettings, List.mem_cons, Prod.mk.injEq, List.not_mem_nil, or_false] at member
    rcases member with ⟨rfl, rfl⟩ | ⟨rfl, rfl⟩ | ⟨rfl, rfl⟩ | ⟨rfl, rfl⟩ | ⟨rfl, rfl⟩ |
      ⟨rfl, rfl⟩ | ⟨rfl, rfl⟩ | ⟨rfl, rfl⟩ | ⟨rfl, rfl⟩ | ⟨rfl, rfl⟩ | ⟨rfl, rfl⟩
    · exact field 8 rfl (.asItIs _)
    · exact field 3 rfl (digits (by decide +kernel) (by decide))
    · exact field 1 rfl (.name .debug)
    · exact field 10 rfl (.word false)
    · exact field 2 rfl (.asItIs _)
    · exact field 6 rfl (.word true)
    · exact field 4 rfl (.asItIs _)
    · exact field 7 rfl (.asItIs _)
    · exact field 5 rfl (digits (by decide +kernel) (by decide))
    · exact field 0 rfl (.asItIs _)
    · exact field 9 rfl (.asItIs _)
  complete := by
    intro key x field _
    have same : (filed.fields.map (·.1)).all (filedSettings.map (·.1)).contains = true := by
      decide
    exact List.contains_iff_mem.1 (List.all_eq_true.1 same key (List.mem_map_of_mem field))
  level := by
    intro key l v field other
    simp [fields, filed, Setting.Quantity.value, other] at field

theorem ofSettings_given_filed :
    filed.IsValid ∧ filed.IsLiteral ∧ filed.AreGiven filedSettings ∧
      ofSettings [("HOME", "/root")] filedSettings = .ok filed := by
  have valid : filed.IsValid := by unfold IsValid; decide
  have literal : filed.IsLiteral := by
    refine ⟨Setting.not_holdsReference_of_not_mem (by decide), ?_⟩
    rintro p ⟨rfl⟩
    exact ⟨by unfold FilePath.IsNormal; decide, Setting.not_holdsReference_of_not_mem (by decide)⟩
  exact ⟨valid, literal, areGiven_filedSettings,
    ofSettings_given valid literal _ areGiven_filedSettings⟩

end LogLayout.Config
