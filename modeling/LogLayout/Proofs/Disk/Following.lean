import LogLayout.Disk.OpenFile

/-!
# Paths on a disk that changes

A path is followed through directories only, so it leads to the same place whatever the files hold.
The directories above a file that can be read are there, and making them changes nothing.

Results:
1. `locate_putFile`: a path leads to the same place after a file got another content.
2. `isDirectory_parent`: what lies above the place that a path leads to.
3. `makeDirectories_of_isDirectory`: making a directory that is there.
4. `Holds.locate_gather`, `Holds.locate_flush`: writing to an open file moves no file.
-/

namespace LogLayout.Disk

/-! ## Definitions -/

/-- A component leads from one place to the next, down unless it leads up. -/
def IsStep (here : Place) (part : List Char) (next : Place) : Prop :=
  (part = ['.', '.'] ∧ next = { here with names := here.names.dropLast }) ∨
    (part ≠ ['.', '.'] ∧ isLong part = false ∧ next = { here with names := here.names ++ [part] })

/-- All directories on the way to the place are there, the last one included. -/
def IsReached (d : Disk) (place : Place) : Prop :=
  ∀ names, names <+: place.names → d.node? { place with names } = some .directory

/-! ## 1. Other contents -/

theorem names_ne_nil_of_content? {d : Disk} {place : Place} {content : List UInt8}
    (file : d.content? place = some content) : place.names ≠ [] := by
  intro none
  simp [content?, node?, none] at file

theorem node?_of_content? {d : Disk} {place : Place} {content : List UInt8}
    (file : d.content? place = some content) : d.node? place = some (.file content) := by
  unfold content? at file
  split at file
  · next found => rw [found, Option.some.inj file]
  · cases file

theorem read_eq_ok_iff {d : Disk} {p : FilePath} {content : List UInt8} :
    d.read p = .ok content ↔ ∃ place, d.locate p = .ok place ∧ d.content? place = some content := by
  rw [read]
  cases d.locate p with
  | error fault => simp [bind, Except.bind]
  | ok place =>
    simp only [bind, Except.bind, Except.ok.injEq, exists_eq_left', content?]
    cases d.node? place with
    | none => simp
    | some node => cases node <;> simp [pure, Except.pure]

theorem follow_putFile {d : Disk} {place : Place} {content : List UInt8}
    (file : d.content? place = some content) (more : List UInt8) (parts : List (List Char)) :
    ∀ here, (d.putFile place more).follow here parts = d.follow here parts := by
  have named := names_ne_nil_of_content? file
  induction parts with
  | nil => exact fun here => rfl
  | cons part parts ih =>
    intro here
    rw [follow, follow]
    dsimp only
    rw [putFile, node?_put _ _ _ _ named, ← putFile, ih, ih]
    -- The place itself held a file before and holds one now, which no path goes through.
    by_cases same : { here with names := here.names ++ [part] } = place
    · simp only [same, if_true, node?_of_content? file]
    · simp only [same, if_false]

theorem locate_putFile {d : Disk} {place : Place} {content : List UInt8}
    (file : d.content? place = some content) (more : List UInt8) (p : FilePath) :
    (d.putFile place more).locate p = d.locate p := by
  simp only [locate, follow_putFile file more]

/-! ## 2. The directories above -/

theorem follow_cons (d : Disk) (here : Place) (part : List Char) (parts : List (List Char)) :
    d.follow here (part :: parts) =
      (d.follow here [part]).bind fun next => d.follow next parts := by
  rw [follow, follow]
  dsimp only
  split
  · rfl
  · split
    · rfl
    · split <;> rfl

/-- A directory that a component leads down to must be there. -/
theorem follow_singleton_eq_ok_iff {d : Disk} {here next : Place} {part : List Char} :
    d.follow here [part] = .ok next ↔
      IsStep here part next ∧ (part ≠ ['.', '.'] → d.node? next = some .directory) := by
  constructor
  · intro followed
    rw [follow] at followed
    dsimp only at followed
    split at followed
    · next up =>
      cases followed
      exact ⟨.inl ⟨up, rfl⟩, fun down => absurd up down⟩
    · next down =>
      split at followed
      · cases followed
      · next short =>
        split at followed
        · cases followed
        · cases followed
        · next there =>
          cases followed
          exact ⟨.inr ⟨down, by simpa using short, rfl⟩, fun _ => there⟩
  · rintro ⟨⟨rfl, rfl⟩ | ⟨down, short, rfl⟩, there⟩
    · rfl
    · rw [follow, if_neg down, short]
      simp only [there down]
      rfl

theorem IsReached.step {d : Disk} {here next : Place} {part : List Char}
    (reached : d.IsReached here) (step : d.follow here [part] = .ok next) : d.IsReached next := by
  obtain ⟨⟨-, rfl⟩ | ⟨down, -, rfl⟩, there⟩ := follow_singleton_eq_ok_iff.1 step
  · exact fun names above => reached names (above.trans (List.dropLast_prefix _))
  · intro names above
    rcases List.prefix_concat_iff.1 above with rfl | above
    · exact there down
    · exact reached names above

theorem IsReached.follow {d : Disk} {parts : List (List Char)} :
    ∀ {here place}, d.IsReached here → d.follow here parts = .ok place → d.IsReached place := by
  induction parts with
  | nil =>
    rintro here place reached ⟨rfl⟩
    exact reached
  | cons part parts ih =>
    intro here place reached followed
    rw [follow_cons] at followed
    cases step : d.follow here [part] with
    | error fault => simp [step, Except.bind] at followed
    | ok next =>
      rw [step] at followed
      exact ih (reached.step step) followed

theorem follow_concat (d : Disk) (last : List Char) (parts : List (List Char)) :
    ∀ here, d.follow here (parts ++ [last]) =
      (d.follow here parts).bind fun next => d.follow next [last] := by
  induction parts with
  | nil => exact fun here => rfl
  | cons part parts ih =>
    intro here
    rw [List.cons_append, follow_cons, follow_cons d here part parts]
    cases d.follow here [part] with
    | error fault => rfl
    | ok next => exact ih next

theorem isReached_start (d : Disk) (absolute : Bool) : d.IsReached { absolute } := by
  intro names above
  rw [List.prefix_nil.1 above]
  rfl

theorem locate_eq (d : Disk) (p : FilePath) :
    d.locate p =
      if p.hasNul then .error .nul
      else if pathLimit < p.text.utf8ByteSize then .error .tooLong
      else match p.parts.getLast? with
        | none => .ok { absolute := p.root ≠ .here }
        | some name => (d.follow { absolute := p.root ≠ .here } p.parts.dropLast).bind fun here =>
          if name = ['.', '.'] then .ok { here with names := here.names.dropLast }
          else if isLong name then .error .tooLong
          else .ok { here with names := here.names ++ [name] } := by
  unfold locate
  by_cases nul : p.hasNul = true
  · simp only [nul, if_true]
    rfl
  · simp only [nul]
    by_cases long : pathLimit < p.text.utf8ByteSize
    · simp only [long, if_true]
      rfl
    · simp only [long, if_false]
      cases p.parts.getLast? <;> rfl

/-- A path that leads to a place leads along directories up to its last component. -/
theorem follow_of_locate {d : Disk} {p : FilePath} {place : Place}
    (located : d.locate p = .ok place) : p.hasNul = false ∧ p.text.utf8ByteSize ≤ pathLimit ∧
      ∃ directory, d.follow { absolute := p.root ≠ .here } p.parts.dropLast = .ok directory := by
  rw [locate_eq] at located
  split at located
  · cases located
  · next free =>
    split at located
    · cases located
    · next short =>
      refine ⟨by simpa using free, Nat.not_lt.1 short, ?_⟩
      -- The last component is not followed: what it names need not be there.
      split at located
      · next none =>
        rw [List.getLast?_eq_none_iff.1 none]
        exact ⟨_, rfl⟩
      · cases followed : d.follow { absolute := p.root ≠ .here } p.parts.dropLast with
        | error fault =>
          rw [followed] at located
          cases located
        | ok directory => exact ⟨directory, rfl⟩

/-- A path along directories leads to the last of them. -/
theorem locate_of_follow {d : Disk} {p : FilePath} {directory : Place} (free : p.hasNul = false)
    (short : p.text.utf8ByteSize ≤ pathLimit)
    (followed : d.follow { absolute := p.root ≠ .here } p.parts = .ok directory) :
    d.locate p = .ok directory := by
  rw [locate_eq, free, if_neg (by decide), if_neg (Nat.not_lt.2 short)]
  rcases List.eq_nil_or_concat p.parts with none | ⟨parts, name, split⟩
  · rw [none] at followed ⊢
    exact followed
  · rw [List.concat_eq_append] at split
    rw [split, follow_concat] at followed
    rw [split, List.getLast?_concat, List.dropLast_concat]
    cases before : d.follow { absolute := p.root ≠ .here } parts with
    | error fault =>
      rw [before] at followed
      cases followed
    | ok here =>
      rw [before] at followed
      rcases (follow_singleton_eq_ok_iff.1 followed).1 with ⟨rfl, rfl⟩ | ⟨down, fits, rfl⟩
      · rfl
      · simp [Except.bind, down, fits]

theorem intercalate_dropLast_front (sep : List Char) (parts : List (List Char)) :
    sep.intercalate parts.dropLast <+: sep.intercalate parts := by
  induction parts with
  | nil => exact List.prefix_rfl
  | cons part parts ih =>
    cases parts with
    | nil => exact List.nil_prefix
    | cons next parts =>
      rw [List.dropLast_cons_cons, List.intercalate_cons_cons]
      cases front : (next :: parts).dropLast with
      | nil =>
        rw [List.intercalate_singleton, List.append_assoc]
        exact List.prefix_append part _
      | cons first others =>
        rw [front] at ih
        rw [List.intercalate_cons_cons]
        exact (List.prefix_append_right_inj (part ++ sep)).2 ih

theorem utf8ByteSize_le_of_front {cs ds : List Char} (front : cs <+: ds) :
    (String.ofList cs).utf8ByteSize ≤ (String.ofList ds).utf8ByteSize := by
  obtain ⟨more, rfl⟩ := front
  rw [String.ofList_append, String.utf8ByteSize_append]
  exact Nat.le_add_right _ _

/-- The text of the path above is not longer, but for the point that stands for no component. -/
theorem utf8ByteSize_parent (p : FilePath) :
    p.parent.text.utf8ByteSize ≤ max 1 p.text.utf8ByteSize := by
  rw [FilePath.text, FilePath.text]
  split
  · exact Nat.le_max_left 1 _
  · next above =>
    split
    · next here =>
      simp [FilePath.parent] at above here
      simp_all
    · refine Nat.le_trans (utf8ByteSize_le_of_front ?_) (Nat.le_max_right 1 _)
      exact (List.prefix_append_right_inj _).2 (intercalate_dropLast_front ['/'] p.parts)

/-- What lies above the place that a path leads to is a directory. -/
theorem isDirectory_parent {d : Disk} {p : FilePath} {place : Place}
    (located : d.locate p = .ok place) : d.isDirectory p.parent = true := by
  obtain ⟨free, short, directory, followed⟩ := follow_of_locate located
  have freeAbove : p.parent.hasNul = false := by
    simp only [FilePath.hasNul, List.any_eq_false] at free ⊢
    exact fun part member => free part (List.dropLast_subset _ member)
  have shortAbove : p.parent.text.utf8ByteSize ≤ pathLimit :=
    Nat.le_trans (utf8ByteSize_parent p) (Nat.max_le.2 ⟨by decide, short⟩)
  have above := locate_of_follow (p := p.parent) freeAbove shortAbove followed
  have reached := (isReached_start d _).follow followed
  simp [isDirectory, above, reached directory.names List.prefix_rfl]

/-! ## 3. Making what is there -/

theorem makeDirectories_of_isDirectory {d : Disk} {p : FilePath} (there : d.isDirectory p = true) :
    d.makeDirectories p = (d, .ok ()) := by
  have refused : d.makeDirectory p = .error .exists := by
    unfold isDirectory at there
    split at there
    · next place located =>
      simp [makeDirectory, located, bind, Except.bind, eq_of_beq there]
    · cases there
  rw [makeDirectories]
  cases reversed : p.parts.reverse with
  | nil => rfl
  | cons name above =>
    have whole : (⟨p.root, (name :: above).reverse⟩ : FilePath) = p := by
      rw [← reversed, List.reverse_reverse]
    simp only [makeDirectoriesReversed, whole, refused, there, if_true]

/-! ## 4. Open files -/

theorem locate_store {d : Disk} {f : OpenFile} {content : List UInt8}
    (found : d.content? f.place = some content) (bytes : List UInt8) (p : FilePath) :
    (d.store f bytes).1.locate p = d.locate p := by
  unfold store
  split
  · rfl
  · exact locate_putFile found _ p

theorem Holds.locate_flush {d : Disk} {f : OpenFile} {bytes : List UInt8}
    (holds : d.Holds f bytes) (p : FilePath) : (d.flush f).1.locate p = d.locate p := by
  obtain ⟨content, found, -⟩ := holds.stored
  exact locate_store (f := { f with block := [], gathered := [] }) found _ p

theorem Holds.locate_pass {d : Disk} {f : OpenFile} {bytes : List UInt8}
    (holds : d.Holds f bytes) (p : FilePath) : (d.pass f).1.locate p = d.locate p := by
  obtain ⟨content, found, -⟩ := holds.stored
  unfold Disk.pass
  dsimp only
  split
  · rfl
  · split
    · exact locate_store (f := { f with block := f.gathered, gathered := [] }) found _ p
    · exact locate_store (f := { f with block := [], gathered := [] }) found _ p

theorem Holds.locate_passIf {d : Disk} {f : OpenFile} {bytes : List UInt8}
    (holds : d.Holds f bytes) (full : Prop) [Decidable full] (p : FilePath) :
    (if full then d.pass f else (d, f)).1.locate p = d.locate p := by
  split
  · exact holds.locate_pass p
  · rfl

theorem Holds.locate_gather {d : Disk} {f : OpenFile} {bytes : List UInt8}
    (holds : d.Holds f bytes) (more : List UInt8) (p : FilePath) :
    (d.gather f more).1.locate p = d.locate p :=
  (((holds.passIf _).append more).locate_passIf _ p).trans (holds.locate_passIf _ p)

end LogLayout.Disk
