import LogLayout.Proofs.Config.Described

/-!
# Settings in any order

Every setting changes the field of its key and nothing else. So a configuration follows from the
set of the settings that are read, and the order in which an object holds them shows only in the
warnings and in what comes before a setting that fails.

Results:
1. `exists_take`: a setting that is read takes over one field.
2. `readSettings_eq_ok_iff`, `ofSettings_eq_ok_iff`: which configuration is given, without an order.
3. `warnings_of_ok`, `readSettings_eq_error`: the warnings, and what is reported before a failure.
4. `ofSettings_any_order`: all of it.
-/

namespace LogLayout.Config

variable {environment : List (String × String)} {settings : List (String × Value)}

/-! ## Definitions -/

/-- The keys of the fields. -/
def knownKeys : List String := (fields {}).map (·.1)

/-- The key is one of a field, and something is given. -/
def isRead : String × Value → Bool
  | (_, .null) => false
  | (key, _) => knownKeys.contains key

/-- The settings whose key is that of no field. -/
def isUnknown (setting : String × Value) : Bool := !knownKeys.contains setting.1

/-- The keys of the settings that are read. -/
def readKeys (settings : List (String × Value)) : List String := (settings.filter isRead).map (·.1)

/-- The warnings of the settings whose keys are unknown, in the order of the settings. -/
def unknownWarnings (settings : List (String × Value)) : List Warning :=
  (settings.filter isUnknown).map fun setting => .configKey setting.1

/-- The configuration has what each setting that is read asks for. -/
def Follows (environment : List (String × String)) (settings : List (String × Value))
    (c : Config) : Prop :=
  ∀ key v, (key, v) ∈ settings → isRead (key, v) = true →
    (readSetting environment key v).result = .ok (c.take [key])

/-! ## 1. One setting -/

theorem knownKeys_eq (environment : List (String × String)) :
    knownKeys = (setters environment).map (·.1) := rfl

theorem exists_setter (environment : List (String × String)) {key : String}
    (known : key ∈ knownKeys) : ∃ convert, (setters environment).lookup key = some convert := by
  rw [knownKeys_eq environment] at known
  obtain ⟨⟨key, convert⟩, member, rfl⟩ := List.mem_map.1 known
  exact Option.isSome_iff_exists.1 (List.lookup_isSome_iff.2 ⟨_, member, by simp⟩)

theorem readSetting_of_not_mem {key : String} (v : Value) (unknown : key ∉ knownKeys) :
    readSetting environment key v = ⟨[.configKey key], .ok id⟩ := by
  have missing : (setters environment).lookup key = none := by
    rw [knownKeys_eq environment] at unknown
    refine Option.not_isSome_iff_eq_none.1 fun found => unknown ?_
    obtain ⟨setter, member, same⟩ := List.lookup_isSome_iff.1 found
    exact List.mem_map.2 ⟨setter, member, (beq_iff_eq.1 same).symm⟩
  simp only [readSetting, missing]

theorem isRead_iff {key : String} {v : Value} :
    isRead (key, v) = true ↔ key ∈ knownKeys ∧ v ≠ .null := by
  cases v <;> simp [isRead]

theorem result_readSetting {key : String} {v : Value} {convert : Value → Except Fault Change}
    (found : (setters environment).lookup key = some convert) (something : v ≠ .null) :
    (readSetting environment key v).result = convert v := by
  cases v <;> first | exact absurd rfl something | simp only [readSetting, found]

/-- A setting that is not read changes nothing. -/
theorem result_of_not_isRead {key : String} {v : Value} (skipped : ¬ isRead (key, v) = true) :
    (readSetting environment key v).result = .ok id := by
  by_cases known : key ∈ knownKeys
  · obtain ⟨convert, found⟩ := exists_setter environment known
    rw [isRead_iff, not_and, not_not] at skipped
    rw [skipped known, readSetting_null found]
    rfl
  · rw [readSetting_of_not_mem v known]

theorem warnings_readSetting (environment : List (String × String)) (key : String) (v : Value) :
    (readSetting environment key v).warnings = unknownWarnings [(key, v)] := by
  by_cases known : key ∈ knownKeys
  · obtain ⟨convert, found⟩ := exists_setter environment known
    have none : unknownWarnings [(key, v)] = [] := by simp [unknownWarnings, isUnknown, known]
    rw [none]
    simp only [readSetting, found]
    cases v <;> rfl
  · simp [readSetting_of_not_mem v known, unknownWarnings, isUnknown, known]

/-- What a conversion puts into a configuration is one of its fields. -/
theorem take_of_map {key : String} {α : Type} {read : Except Fault α} {put : α → Change}
    {change : Change} (converted : read.map put = .ok change)
    (taken : ∀ a, put a = (put a {}).take [key]) : ∃ c : Config, change = c.take [key] := by
  cases read with
  | error fault => cases converted
  | ok a =>
    cases converted
    exact ⟨put a {}, taken a⟩

/-- A setting that is read takes over the field of its key from some configuration. -/
theorem exists_take {key : String} {v : Value} {change : Change} (read : isRead (key, v) = true)
    (changed : (readSetting environment key v).result = .ok change) :
    ∃ c : Config, change = c.take [key] := by
  obtain ⟨known, something⟩ := isRead_iff.1 read
  obtain ⟨convert, found⟩ := exists_setter environment known
  have converted : convert v = .ok change := (result_readSetting found something).symm.trans changed
  obtain ⟨before, after, all, -⟩ := List.lookup_eq_some_iff.1 found
  have member : (key, convert) ∈ setters environment := by simp [all]
  clear found all changed
  simp only [setters, List.mem_cons, Prod.mk.injEq, List.not_mem_nil, or_false] at member
  rcases member with name | minLevel | asyncMode | queueSize | batchSize | flushInterval |
    consoleOutput | coloredOutput | logFile | pattern | captureLocation
  · obtain ⟨rfl, rfl⟩ := name
    cases converted
    exact ⟨{ name := _ }, rfl⟩
  · obtain ⟨rfl, rfl⟩ := minLevel
    exact take_of_map converted fun _ => rfl
  · obtain ⟨rfl, rfl⟩ := asyncMode
    exact take_of_map converted fun _ => rfl
  · obtain ⟨rfl, rfl⟩ := queueSize
    exact take_of_map converted fun _ => rfl
  · obtain ⟨rfl, rfl⟩ := batchSize
    exact take_of_map converted fun _ => rfl
  · obtain ⟨rfl, rfl⟩ := flushInterval
    exact take_of_map converted fun _ => rfl
  · obtain ⟨rfl, rfl⟩ := consoleOutput
    exact take_of_map converted fun _ => rfl
  · obtain ⟨rfl, rfl⟩ := coloredOutput
    exact take_of_map converted fun _ => rfl
  · obtain ⟨rfl, rfl⟩ := logFile
    cases converted
    exact ⟨{ logFile := _ }, rfl⟩
  · obtain ⟨rfl, rfl⟩ := pattern
    cases converted
    exact ⟨{ pattern := _ }, rfl⟩
  · obtain ⟨rfl, rfl⟩ := captureLocation
    exact take_of_map converted fun _ => rfl

/-! ## 2. Runs of settings -/

theorem take_congr {c base : Config} {keys keys' : List String}
    (same : ∀ key, key ∈ keys ↔ key ∈ keys') : c.take keys base = c.take keys' base := by
  simp only [take, same]

/-- The field of a key is what was taken over for it last. -/
theorem take_singleton_take {c d base : Config} {key : String} {keys : List String}
    (other : key ∉ keys) : (c.take keys (d.take [key] base)).take [key] = d.take [key] := by
  have last {α : Type} (place : String) (x y z w : α) :
      (if place ∈ [key] then
          (if place ∈ keys then x else if place ∈ [key] then y else z) else w) =
        if place ∈ [key] then y else w := by
    by_cases here : place = key
    · simp [here, other]
    · simp [here]
  funext base
  simp only [take, last]

theorem readKeys_cons {key : String} {v : Value} :
    readKeys ((key, v) :: settings) =
      if isRead (key, v) then key :: readKeys settings else readKeys settings := by
  by_cases read : isRead (key, v) = true <;> simp [readKeys, read]

theorem follows_cons {key : String} {v : Value} {c : Config} :
    Follows environment ((key, v) :: settings) c ↔
      (isRead (key, v) = true → (readSetting environment key v).result = .ok (c.take [key])) ∧
        Follows environment settings c := by
  simp [Follows, or_imp, forall_and]

theorem mem_readKeys {key : String} (member : key ∈ readKeys settings) :
    key ∈ settings.map (·.1) := by
  obtain ⟨setting, found, rfl⟩ := List.mem_map.1 member
  exact List.mem_map_of_mem (List.mem_of_mem_filter found)

/-- A run of settings with different keys gives the configuration that follows all of them, and has
the other fields of the one that the run starts with. -/
theorem readSettings_eq_ok_iff (distinct : (settings.map (·.1)).Nodup) {base c : Config} :
    (readSettings environment base settings).result = .ok c ↔
      Follows environment settings c ∧ c = c.take (readKeys settings) base := by
  induction settings generalizing base with
  | nil =>
    simp only [readSettings, Warned.ok, Except.ok.injEq, readKeys, List.filter_nil, List.map_nil,
      take_nil]
    exact ⟨fun same => ⟨by simp [Follows], same.symm⟩, fun same => same.2.symm⟩
  | cons setting settings ih =>
    obtain ⟨key, v⟩ := setting
    obtain ⟨fresh, distinct⟩ := List.nodup_cons.1 distinct
    rw [readSettings, Warned.result_andThen_eq_ok_iff, follows_cons, readKeys_cons]
    by_cases read : isRead (key, v) = true
    · rw [if_pos read]
      constructor
      · rintro ⟨change, changed, run⟩
        obtain ⟨d, rfl⟩ := exists_take read changed
        obtain ⟨follows, same⟩ := (ih distinct).1 run
        have own : c.take [key] = d.take [key] :=
          (congrArg (·.take [key]) same).trans
            (take_singleton_take fun again => fresh (mem_readKeys again))
        rw [← own, take_take] at same
        exact ⟨⟨fun _ => own ▸ changed, follows⟩, same⟩
      · rintro ⟨⟨own, follows⟩, same⟩
        refine ⟨_, own read, (ih distinct).2 ⟨follows, ?_⟩⟩
        rw [take_take]
        exact same
    · have skipped : (readSetting environment key v).result = .ok id := result_of_not_isRead read
      rw [if_neg read, skipped]
      constructor
      · rintro ⟨change, ⟨rfl⟩, run⟩
        obtain ⟨follows, same⟩ := (ih distinct).1 run
        exact ⟨⟨fun now => absurd now read, follows⟩, same⟩
      · rintro ⟨⟨-, follows⟩, same⟩
        exact ⟨id, rfl, (ih distinct).2 ⟨follows, same⟩⟩

/-- A configuration is given exactly if it keeps the rules, has what the settings ask for and is the
default one everywhere else. -/
theorem ofSettings_eq_ok_iff (distinct : (settings.map (·.1)).Nodup) {c : Config} :
    (ofSettings environment settings).result = .ok c ↔
      c.IsValid ∧ Follows environment settings c ∧ c = c.take (readKeys settings) {} := by
  rw [ofSettings, Warned.result_andThen_eq_ok_iff]
  constructor
  · rintro ⟨c', run, checked⟩
    obtain ⟨valid, rfl⟩ := check_eq_ok_iff.1 checked
    exact ⟨valid, (readSettings_eq_ok_iff distinct).1 run⟩
  · rintro ⟨valid, follows⟩
    exact ⟨c, (readSettings_eq_ok_iff distinct).2 follows, check_eq_ok_iff.2 ⟨valid, rfl⟩⟩

/-- Settings of which the same ones are read give the same. -/
theorem ofSettings_congr {settings' : List (String × Value)}
    (distinct : (settings.map (·.1)).Nodup) (distinct' : (settings'.map (·.1)).Nodup)
    (same : ∀ setting, isRead setting = true → (setting ∈ settings' ↔ setting ∈ settings))
    (c : Config) :
    (ofSettings environment settings').result = .ok c ↔
      (ofSettings environment settings).result = .ok c := by
  have follows : Follows environment settings' c ↔ Follows environment settings c := by
    constructor
    · exact fun follows key v member read => follows key v ((same _ read).2 member) read
    · exact fun follows key v member read => follows key v ((same _ read).1 member) read
  have keys : ∀ key, key ∈ readKeys settings' ↔ key ∈ readKeys settings := by
    intro key
    simp only [readKeys, List.mem_map, List.mem_filter]
    constructor
    · rintro ⟨setting, ⟨member, read⟩, rfl⟩
      exact ⟨setting, ⟨(same _ read).1 member, read⟩, rfl⟩
    · rintro ⟨setting, ⟨member, read⟩, rfl⟩
      exact ⟨setting, ⟨(same _ read).2 member, read⟩, rfl⟩
  rw [ofSettings_eq_ok_iff distinct, ofSettings_eq_ok_iff distinct', follows, take_congr keys]

/-! ## 3. Warnings and failures -/

theorem unknownWarnings_append (settings settings' : List (String × Value)) :
    unknownWarnings (settings ++ settings') =
      unknownWarnings settings ++ unknownWarnings settings' := by
  simp [unknownWarnings]

/-- A run that comes to its end has warned of the unknown keys, in their order. -/
theorem warnings_of_ok {base c : Config} {warnings : List Warning}
    (run : readSettings environment base settings = ⟨warnings, .ok c⟩) :
    warnings = unknownWarnings settings := by
  induction settings generalizing base warnings with
  | nil =>
    obtain ⟨-, rfl⟩ := Warned.ok_eq_iff.1 run
    rfl
  | cons setting settings ih =>
    obtain ⟨key, v⟩ := setting
    obtain ⟨change, first, second, head, rest, rfl⟩ := Warned.andThen_eq_ok_iff.1 run
    have reported := warnings_readSetting environment key v
    rw [head] at reported
    rw [show first = unknownWarnings [(key, v)] from reported, ih rest, ← unknownWarnings_append]
    rfl

/-- A run fails at the first setting that is not converted, and has warned of the unknown keys in
front of it. -/
theorem readSettings_eq_error {base : Config} {warnings : List Warning} {fault : Fault}
    (run : readSettings environment base settings = ⟨warnings, .error fault⟩) :
    ∃ before key v after, settings = before ++ (key, v) :: after ∧
      (∃ c, (readSettings environment base before).result = .ok c) ∧
      (readSetting environment key v).result = .error fault ∧
      warnings = unknownWarnings before := by
  induction settings generalizing base warnings with
  | nil => cases run
  | cons setting settings ih =>
    obtain ⟨key, v⟩ := setting
    have reported := warnings_readSetting environment key v
    rcases Warned.andThen_eq_error_iff.1 run with here | ⟨change, first, second, head, rest, rfl⟩
    · refine ⟨[], key, v, settings, rfl, ⟨base, rfl⟩, by rw [here], ?_⟩
      have known : ¬ isUnknown (key, v) = true := by
        intro unknown
        have missing : key ∉ knownKeys := by simpa [isUnknown] using unknown
        rw [readSetting_of_not_mem v missing] at here
        cases here
      rw [here] at reported
      rw [show warnings = unknownWarnings [(key, v)] from reported]
      simp [unknownWarnings, known]
    · obtain ⟨before, key', v', after, rfl, ⟨c, reached⟩, failed, rfl⟩ := ih rest
      refine ⟨(key, v) :: before, key', v', after, rfl, ⟨c, ?_⟩, failed, ?_⟩
      · rw [readSettings, Warned.result_andThen_eq_ok_iff]
        exact ⟨change, by rw [head], reached⟩
      · rw [head] at reported
        rw [show first = unknownWarnings [(key, v)] from reported, ← unknownWarnings_append]
        rfl

/-- A field that is not taken over keeps its value. -/
theorem mem_fields_of_take {c base : Config} {keys : List String} {key : String} {x : Value}
    (field : (key, x) ∈ (c.take keys base).fields) (other : key ∉ keys) :
    (key, x) ∈ base.fields := by
  simp only [fields, take, List.mem_cons, Prod.mk.injEq, List.not_mem_nil, or_false] at field ⊢
  rcases field with field | field | field | field | field | field | field | field | field | field |
    field <;>
  · obtain ⟨rfl, rfl⟩ := field
    simp [other]

/-! ## 4. Whole objects -/

/-- An object that has no configuration breaks off at a setting, or else its settings are all read
and break a rule together. -/
theorem ofSettings_eq_error {warnings : List Warning} {fault : Fault}
    (run : ofSettings environment settings = ⟨warnings, .error fault⟩) :
    (∃ before key v after, settings = before ++ (key, v) :: after ∧
      (∃ c, (readSettings environment {} before).result = .ok c) ∧
      (readSetting environment key v).result = .error fault ∧
      warnings = unknownWarnings before) ∨
    ∃ c, (readSettings environment {} settings).result = .ok c ∧ c.check = .error fault ∧
      warnings = unknownWarnings settings := by
  rcases Warned.andThen_eq_error_iff.1 run with broken | ⟨c, first, second, read, checked, rfl⟩
  · exact .inl (readSettings_eq_error broken)
  · obtain ⟨rfl, failed⟩ := Warned.mk.inj checked
    exact .inr ⟨c, by rw [read], failed, by rw [List.append_nil, warnings_of_ok read]⟩

/-- An object of settings gives a configuration in every order or in none, and in every order the
same one; settings with unknown keys and those of nothing could as well be left out. A configuration
comes with one warning for each unknown key, in the order of the settings, and has the default for
each field that is not given. A failure at a setting comes after the warnings of the unknown keys in
front of it. -/
theorem ofSettings_any_order (environment : List (String × String))
    {settings : List (String × Value)} (distinct : (settings.map (·.1)).Nodup) :
    (∀ settings', settings'.Perm settings → ∀ c,
      (ofSettings environment settings').result = .ok c ↔
        (ofSettings environment settings).result = .ok c) ∧
    (∀ c, (ofSettings environment (settings.filter isRead)).result = .ok c ↔
      (ofSettings environment settings).result = .ok c) ∧
    (∀ warnings c, ofSettings environment settings = ⟨warnings, .ok c⟩ →
      warnings = unknownWarnings settings ∧
      ∀ key x, (key, x) ∈ c.fields → (∀ v, (key, v) ∈ settings → v = .null) →
        (key, x) ∈ (fields {})) ∧
    ∀ warnings fault, ofSettings environment settings = ⟨warnings, .error fault⟩ →
      (∃ before key v after, settings = before ++ (key, v) :: after ∧
        (∃ c, (readSettings environment {} before).result = .ok c) ∧
        (readSetting environment key v).result = .error fault ∧
        warnings = unknownWarnings before) ∨
      ∃ c, (readSettings environment {} settings).result = .ok c ∧ c.check = .error fault ∧
        warnings = unknownWarnings settings := by
  refine ⟨fun settings' perm c => ?_, fun c => ?_, fun warnings c given => ?_,
    fun warnings fault broken => ofSettings_eq_error broken⟩
  · have distinct' := (perm.map (·.1)).nodup_iff.2 distinct
    exact ofSettings_congr distinct distinct' (fun setting _ => perm.mem_iff) c
  · have distinct' : ((settings.filter isRead).map (·.1)).Nodup :=
      distinct.sublist (List.filter_sublist.map Prod.fst)
    refine ofSettings_congr distinct distinct' (fun setting read => ?_) c
    rw [List.mem_filter]
    exact and_iff_left read
  · obtain ⟨c', first, second, read, checked, rfl⟩ := Warned.andThen_eq_ok_iff.1 given
    obtain ⟨rfl, passed⟩ := Warned.mk.inj checked
    obtain ⟨-, rfl⟩ := check_eq_ok_iff.1 passed
    refine ⟨by rw [List.append_nil, warnings_of_ok read], fun key x field absent => ?_⟩
    obtain ⟨-, same⟩ := (readSettings_eq_ok_iff distinct).1 (congrArg Warned.result read)
    refine mem_fields_of_take (same ▸ field) fun asked => ?_
    obtain ⟨⟨key, v⟩, member, rfl⟩ := List.mem_map.1 asked
    obtain ⟨found, read⟩ := List.mem_filter.1 member
    exact (isRead_iff.1 read).2 (absent v found)

/-- Settings of which one has an unknown key and one is nothing. The queue is large enough for the
batch only by the later setting. -/
def looseSettings : List (String × Value) :=
  [("batch_size", .int 20000), ("appenders", .object []), ("min_level", .null),
   ("queue_size", .int 50000)]

theorem ofSettings_any_order_looseSettings :
    (looseSettings.map (·.1)).Nodup ∧ looseSettings.reverse.Perm looseSettings ∧
      looseSettings.filter isRead = [("batch_size", .int 20000), ("queue_size", .int 50000)] ∧
      ∃ c, c.queueSize = .number 50000 ∧ c.minLevel = .info ∧
        ofSettings [] looseSettings = ⟨[.configKey "appenders"], .ok c⟩ ∧
        (ofSettings [] looseSettings.reverse).result = .ok c ∧
        (ofSettings [] (looseSettings.filter isRead)).result = .ok c := by
  have distinct : (looseSettings.map (·.1)).Nodup := by decide
  obtain ⟨anyOrder, onlyRead, -, -⟩ := ofSettings_any_order [] distinct
  have perm := looseSettings.reverse_perm
  have given : ofSettings [] looseSettings =
      ⟨[.configKey "appenders"],
        .ok { queueSize := .number 50000, batchSize := .number 20000 }⟩ := rfl
  have result := congrArg Warned.result given
  exact ⟨distinct, perm, rfl, _, rfl, rfl, given, (anyOrder _ perm _).2 result,
    (onlyRead _).2 result⟩

end LogLayout.Config
