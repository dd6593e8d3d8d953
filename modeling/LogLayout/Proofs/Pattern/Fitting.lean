import LogLayout.Pattern.Layout

/-!
# What a directive renders

The text of a field is cut to the largest width, on one of its sides, and then filled up with spaces
to the smallest, again on one side. The relations `HasText`, `Keeps` and `IsFilled` say so without
the renderer: which text a field has, what is kept of a text, and where how many spaces stand.

Results:
1. `hasText_iff`: the text of a field, also of one with several lines or of one that fails.
2. `keeps_iff`: what is kept of a text, at one end of it.
3. `isFilled_iff`: the kept text filled up.
4. `isDefault_iff_apply_eq_self`: rules that leave every text as it is.
5. `render_fits`: all of this for any directive whose smallest width some text can have.
-/

namespace LogLayout.Pattern

/-! ## Definitions -/

/-- The text of a field before it is fitted: what its resolver yields as text, lines joined with
newlines, the plain text of any other value, or no text at all if the resolver fails. -/
inductive FieldConverter.HasText (f : FieldConverter) (s : Surroundings) (e : Entry) : String → Prop
  | text {t : String} : f.resolver.resolve s e = .ok (.str t) → HasText f s e t
  | lines {v : Value} {vs : List Value} :
      f.resolver.resolve s e = .ok v → (v = .list vs ∨ v = .tuple vs) →
      HasText f s e ("\n".intercalate (vs.map Value.text))
  | other {v : Value} :
      f.resolver.resolve s e = .ok v → (∀ t, v ≠ .str t) → (∀ vs, v ≠ .list vs ∧ v ≠ .tuple vs) →
      HasText f s e v.text
  | failed {fault : Fault} : f.resolver.resolve s e = .error fault → HasText f s e ""

namespace Width

/-- What the largest width leaves of a text: all of it if it is not longer, else as many characters
of one end. -/
inductive Keeps (w : Width) (cs : List Char) : List Char → Prop
  | all : (∀ most ∈ w.atMost, cs.length ≤ most) → Keeps w cs cs
  | last {most : Nat} {kept : List Char} :
      w.atMost = some most → most < cs.length → w.trimLeft = true →
      kept <:+ cs → kept.length = most → Keeps w cs kept
  | first {most : Nat} {kept : List Char} :
      w.atMost = some most → most < cs.length → w.trimLeft = false →
      kept <+: cs → kept.length = most → Keeps w cs kept

/-- The line is the kept text with as many spaces on one side as it is short of the smallest
width. -/
def IsFilled (w : Width) (kept line : List Char) : Prop :=
  ∃ spaces : List Char, (∀ c ∈ spaces, c = ' ') ∧
    (spaces.length : Int) = max 0 (w.atLeast - kept.length) ∧
    (w.padLeft = true ∧ line = spaces ++ kept ∨ w.padLeft = false ∧ line = kept ++ spaces)

end Width

/-- The directive renders its field as this line: what is kept of the field's text, filled up. A
failure that was reported before makes no difference. -/
structure FieldConverter.IsRendered (f : FieldConverter) (s : Surroundings) (e : Entry)
    (t : String) (kept : List Char) (line : String) : Prop where
  hasText : ∀ t', f.HasText s e t' ↔ t' = t
  keeps : ∀ kept', f.width.Keeps t.toList kept' ↔ kept' = kept
  fills : ∀ line' : String, f.width.IsFilled kept line'.toList ↔ line' = line
  renders : (Converter.field f).render s e = .ok line
  again : ∀ reported, (renderSlots s e [⟨.field f, reported⟩]).2.result = .ok line
  length : line.length = max f.width.atLeast (f.width.atMost.elim t.length (min t.length))

/-! ## 1. The text of a field -/

theorem hasText_iff {f : FieldConverter} {s : Surroundings} {e : Entry} {t : String} :
    f.HasText s e t ↔ t = f.rawText s e := by
  rw [FieldConverter.rawText]
  constructor
  · intro text
    cases text with
    | text resolved => rw [resolved]; rfl
    | lines resolved lines =>
      rw [resolved]
      rcases lines with rfl | rfl <;> rfl
    | @other v resolved noText noLines =>
      rw [resolved]
      cases v with
      | str t => exact absurd rfl (noText t)
      | list vs => exact absurd rfl (noLines vs).1
      | tuple vs => exact absurd rfl (noLines vs).2
      | null | bool | int | float | bytes | object | level => rfl
    | failed failed => rw [failed]
  · rintro rfl
    cases resolved : f.resolver.resolve s e with
    | error fault => exact .failed resolved
    | ok v =>
      cases v with
      | str t => exact .text resolved
      | list vs => exact .lines resolved (.inl rfl)
      | tuple vs => exact .lines resolved (.inr rfl)
      | null | bool | int | float | bytes | object | level =>
        exact .other resolved (by simp) (by simp)

/-! ## 2. Cutting -/

namespace Width

variable {w : Width} {cs kept line : List Char}

theorem keeps_trim (w : Width) (cs : List Char) : w.Keeps cs (w.trim cs) := by
  have length := length_trim w cs
  cases bound : w.atMost with
  | none =>
    have same : w.trim cs = cs := by rw [trim, bound]
    rw [same]
    exact .all (by simp [bound])
  | some most =>
    rw [bound, Option.elim] at length
    by_cases fits : cs.length ≤ most
    · have same : w.trim cs = cs := by simp [trim, bound, fits]
      rw [same]
      exact .all (by simpa [bound] using fits)
    · rw [Nat.min_eq_right (by omega)] at length
      cases side : w.trimLeft with
      | true =>
        refine .last bound (by omega) side ?_ length
        simpa [trim, bound, fits, side] using List.drop_suffix _ cs
      | false =>
        refine .first bound (by omega) side ?_ length
        simpa [trim, bound, fits, side] using List.take_prefix _ cs

theorem keeps_iff : w.Keeps cs kept ↔ kept = w.trim cs := by
  constructor
  · intro keeps
    -- a part of a text at one of its ends is determined by its length
    have other := keeps_trim w cs
    generalize w.trim cs = kept' at other
    cases keeps with
    | all fits =>
      cases other with
      | all _ => rfl
      | last bound long => exact absurd (fits _ bound) (by omega)
      | first bound long => exact absurd (fits _ bound) (by omega)
    | last bound long side suffix length =>
      cases other with
      | all fits => exact absurd (fits _ bound) (by omega)
      | last bound' _ _ suffix' length' =>
        rw [bound] at bound'
        cases bound'
        exact (List.suffix_of_suffix_length_le suffix suffix' (by omega)).eq_of_length (by omega)
      | first _ _ side' => simp [side] at side'
    | first bound long side front length =>
      cases other with
      | all fits => exact absurd (fits _ bound) (by omega)
      | last _ _ side' => simp [side] at side'
      | first bound' _ _ front' length' =>
        rw [bound] at bound'
        cases bound'
        exact (List.prefix_of_prefix_length_le front front' (by omega)).eq_of_length (by omega)
  · rintro rfl
    exact keeps_trim w cs

/-! ## 3. Filling up -/

theorem isFilled_iff : w.IsFilled kept line ↔ line = w.pad kept := by
  constructor
  · rintro ⟨spaces, blank, length, sided⟩
    have same : spaces = List.replicate (w.atLeast - kept.length) ' ' :=
      List.eq_replicate_iff.2 ⟨by omega, blank⟩
    rcases sided with ⟨side, rfl⟩ | ⟨side, rfl⟩ <;> simp [pad, side, same]
  · rintro rfl
    refine ⟨List.replicate (w.atLeast - kept.length) ' ', ?_, ?_, ?_⟩
    · intro c member
      exact List.eq_of_mem_replicate member
    · rw [List.length_replicate]
      omega
    · cases side : w.padLeft <;> simp [pad, side]

theorem apply_narrow (narrow : w.atLeast < beyondTexts) (s : String) :
    w.apply s = .ok (.ofList (w.fit s.toList)) := by
  rw [apply_eq, if_neg]
  omega

theorem length_fit (w : Width) (cs : List Char) :
    (w.fit cs).length = max w.atLeast (w.atMost.elim cs.length (min cs.length)) := by
  rw [fit, length_pad, length_trim]

theorem trim_eq_self (short : ∀ most ∈ w.atMost, cs.length ≤ most) : w.trim cs = cs := by
  cases bound : w.atMost with
  | none => simp [trim, bound]
  | some most => simp [trim, bound, short most bound]

theorem fit_eq_self (long : w.atLeast ≤ cs.length) (short : ∀ most ∈ w.atMost, cs.length ≤ most) :
    w.fit cs = cs := by
  rw [fit, trim_eq_self short, pad_eq_self w long]

theorem apply_unbounded (least : w.atLeast = 0) (most : w.atMost = none) (s : String) :
    w.apply s = .ok s := by
  rw [apply_narrow (by simp [least, beyondTexts]), fit_eq_self (by simp [least]) (by simp [most]),
    String.ofList_toList]

/-! ## 4. Rules that change nothing -/

theorem isDefault_iff : w.isDefault = true ↔ w.atLeast = 0 ∧ w.atMost = none := by
  simp [isDefault]

theorem toList_of_apply {s t : String} (applied : w.apply s = .ok t) :
    t.toList = w.fit s.toList := by
  rw [apply_eq] at applied
  split at applied
  · cases applied
  · cases applied
    exact String.toList_ofList

/-- A text keeps its length exactly if it is not too short and, where it is cut, has the smallest
width, so that the spaces make good what was cut. -/
theorem length_fit_eq_iff (w : Width) (cs : List Char) :
    (w.fit cs).length = cs.length ↔
      w.atLeast ≤ cs.length ∧ ∀ most ∈ w.atMost, most < cs.length → cs.length = w.atLeast := by
  rw [length_fit]
  cases w.atMost with
  | none =>
    simp only [Option.elim, Option.not_mem_none, false_implies, implies_true, and_true]
    omega
  | some most =>
    simp only [Option.elim, Option.mem_some, forall_eq']
    omega

/-- The rules are the default ones, on whichever sides they cut and fill up, exactly if they give
back every text as it was. -/
theorem isDefault_iff_apply_eq_self {w : Width} :
    w.isDefault = true ↔ ∀ s, w.apply s = .ok s := by
  constructor
  · intro unset
    obtain ⟨least, most⟩ := isDefault_iff.1 unset
    exact apply_unbounded least most
  · intro unchanged
    have kept (cs : List Char) : w.fit cs = cs := by
      simpa using (toList_of_apply (unchanged (.ofList cs))).symm
    have lengths (cs : List Char) := (length_fit_eq_iff w cs).1 (by rw [kept cs])
    -- the empty text is not cut, so it shows the smallest width; a longer text shows the largest
    have least : w.atLeast = 0 := Nat.le_zero.1 (lengths []).1
    refine isDefault_iff.2 ⟨least, ?_⟩
    cases bound : w.atMost with
    | none => rfl
    | some most =>
      have long : most < (List.replicate (most + 1) 'x').length := by simp
      have short := (lengths _).2 most bound long
      simp [least] at short

end Width

/-! ## 5. Directives -/

/-- A directive renders its field, whichever value the resolver yields and whether it fails or not,
if some text can have the smallest width. -/
theorem render_fits {f : FieldConverter} (narrow : f.width.atLeast < Width.beyondTexts)
    (s : Surroundings) (e : Entry) : ∃ t kept line, f.IsRendered s e t kept line := by
  have rendered : (Converter.field f).render s e =
      .ok (.ofList (f.width.fit (f.rawText s e).toList)) := by
    rw [Converter.render_field, Width.apply_narrow narrow]
  refine ⟨f.rawText s e, f.width.trim (f.rawText s e).toList,
    .ofList (f.width.fit (f.rawText s e).toList), fun _ => hasText_iff, fun _ => Width.keeps_iff,
    ?_, rendered, ?_, ?_⟩
  · intro line'
    rw [Width.isFilled_iff, Width.fit, ← String.toList_inj, String.toList_ofList]
  · intro reported
    rw [Layout.renderSlots_result]
    simp [rendered, bind, Except.bind, pure, Except.pure, Except.map]
  · rw [← String.length_toList, String.toList_ofList, Width.length_fit, String.length_toList]

/-- A directive without bounds that stands alone gives the text of its field. -/
theorem render_alone {f : FieldConverter} (least : f.width.atLeast = 0)
    (most : f.width.atMost = none) (pattern : String) (s : Surroundings) (e : Entry) :
    (⟨[.field f], pattern⟩ : Chain).render s e = .ok (f.rawText s e) := by
  have rendered : (Converter.field f).render s e = .ok (f.rawText s e) := by
    rw [Converter.render_field, Width.apply_unbounded least most]
  simp [Chain.render, rendered, bind, Except.bind, pure, Except.pure]

/-- A report of two lines, cut to its last three characters and then filled up on the right. -/
def exReport : FieldConverter where
  word := "r"
  target := .other .null
  resolver := ⟨"Report", none, fun _ _ => .ok (.list [.str "up", .int 42])⟩
  width := { atLeast := 5, padLeft := false, atMost := some 3, trimLeft := true }
  option := none

theorem render_fits_exReport :
    exReport.width.atLeast < Width.beyondTexts ∧
      exReport.IsRendered default default "up\n42" ['\n', '4', '2'] "\n42  " := by
  have narrow : exReport.width.atLeast < Width.beyondTexts := by decide
  have text : exReport.HasText default default "up\n42" := hasText_iff.2 rfl
  obtain ⟨t, kept, line, fits⟩ := render_fits narrow default default
  obtain rfl : "up\n42" = t := (fits.hasText _).1 text
  obtain rfl : ['\n', '4', '2'] = kept :=
    (fits.keeps _).1 (.last rfl (by decide) rfl ⟨['u', 'p'], rfl⟩ rfl)
  obtain rfl : "\n42  " = line :=
    (fits.fills _).1 ⟨[' ', ' '], by simp, by decide, .inr ⟨rfl, rfl⟩⟩
  exact ⟨narrow, fits⟩

end LogLayout.Pattern
