import LogLayout.Proofs.Disk.Following

/-!
# Disks that only gain

To make directories, or to open a file to write at its end, puts something only where nothing lies.
What lay on the disk before still lies there, so each path that led somewhere leads there still.

Results:
1. `Gains.locate`: a path leads to the same place on a disk that gained something.
2. `gains_makeDirectories`: directories that are made lie on the way, also if a later one fails.
3. `gains_openFile`: what opening a file to write at its end adds, by whether it succeeds.
-/

namespace LogLayout.Disk

/-! ## Definitions -/

/-- What lies on `d` lies unchanged on `d'`, and all else that lies there is `new`. -/
def Gains (new : Place → Node → Prop) (d d' : Disk) : Prop :=
  ∀ place, d'.node? place = d.node? place ∨
    d.node? place = none ∧ ∃ node, d'.node? place = some node ∧ new place node

/-- The node is a directory, and a front of the path leads to its place. -/
def IsOnWay (d : Disk) (p : FilePath) (place : Place) (node : Node) : Prop :=
  node = .directory ∧ ∃ parts, parts <+: p.parts ∧ d.locate ⟨p.root, parts⟩ = .ok place

/-! ## 1. Paths -/

theorem Gains.refl (new : Place → Node → Prop) (d : Disk) : d.Gains new d := fun _ => .inl rfl

theorem Gains.mono {new more : Place → Node → Prop} {d d' : Disk} (gains : Gains new d d')
    (each : ∀ place node, new place node → more place node) : Gains more d d' := by
  intro place
  rcases gains place with same | ⟨missing, node, added, isNew⟩
  · exact .inl same
  · exact .inr ⟨missing, node, added, each place node isNew⟩

theorem Gains.kept {new : Place → Node → Prop} {d d' : Disk} (gains : Gains new d d')
    {place : Place} {node : Node} (there : d.node? place = some node) :
    d'.node? place = some node := by
  rcases gains place with same | ⟨missing, -⟩
  · rw [same, there]
  · rw [there] at missing
    cases missing

theorem Gains.trans {new : Place → Node → Prop} {d d' d'' : Disk} (first : Gains new d d')
    (second : Gains new d' d'') : Gains new d d'' := by
  intro place
  rcases first place with same | ⟨missing, node, added, isNew⟩
  · rcases second place with same' | ⟨missing, node, added, isNew⟩
    · exact .inl (same'.trans same)
    · exact .inr ⟨same ▸ missing, node, added, isNew⟩
  · exact .inr ⟨missing, node, second.kept added, isNew⟩

section
variable {new : Place → Node → Prop} {d d' : Disk} (gains : Gains new d d')
include gains

theorem Gains.follow {parts : List (List Char)} :
    ∀ {here place}, d.follow here parts = .ok place → d'.follow here parts = .ok place := by
  induction parts with
  | nil => exact fun followed => followed
  | cons part parts ih =>
    intro here place followed
    rw [follow_cons] at followed ⊢
    cases step : d.follow here [part] with
    | error fault =>
      rw [step] at followed
      cases followed
    | ok next =>
      rw [step] at followed
      obtain ⟨leads, there⟩ := follow_singleton_eq_ok_iff.1 step
      rw [follow_singleton_eq_ok_iff.2 ⟨leads, fun down => gains.kept (there down)⟩]
      exact ih followed

theorem Gains.locate {p : FilePath} {place : Place} (located : d.locate p = .ok place) :
    d'.locate p = .ok place := by
  rw [locate_eq] at located ⊢
  split at located
  · cases located
  · next free =>
    rw [if_neg free]
    split at located
    · cases located
    · next short =>
      rw [if_neg short]
      split at located
      · exact located
      · -- The last component need not be there on either disk; those above it are directories.
        cases above : d.follow { absolute := p.root ≠ .here } p.parts.dropLast with
        | error fault =>
          rw [above] at located
          cases located
        | ok here =>
          rw [above] at located
          rw [gains.follow above]
          exact located

theorem IsOnWay.mono {p q : FilePath} (root : p.root = q.root) (front : p.parts <+: q.parts)
    {place : Place} {node : Node} (onWay : d.IsOnWay p place node) : d'.IsOnWay q place node := by
  obtain ⟨directory, parts, shorter, located⟩ := onWay
  exact ⟨directory, parts, shorter.trans front, gains.locate (root ▸ located)⟩

end

/-- What is on the way is also on the way to anything further down, and stays there. -/
theorem Gains.onWay {new : Place → Node → Prop} {d d' d'' : Disk} {p q : FilePath}
    (first : d.Gains (d'.IsOnWay p) d') (second : d'.Gains new d'') (root : p.root = q.root)
    (front : p.parts <+: q.parts) : d.Gains (d''.IsOnWay q) d' :=
  first.mono fun _ _ onWay => onWay.mono second root front

/-! ## 2. Directories -/

theorem names_ne_nil_of_missing {d : Disk} {place : Place} (missing : d.node? place = none) :
    place.names ≠ [] := by
  intro root
  simp [node?, root] at missing

theorem gains_put {d : Disk} {place : Place} (missing : d.node? place = none) (node : Node) :
    d.Gains (fun q n => q = place ∧ n = node) (d.put place node) := by
  have named := names_ne_nil_of_missing missing
  intro q
  rw [node?_put d place q node named]
  by_cases here : q = place
  · rw [if_pos here, here]
    exact .inr ⟨missing, node, rfl, rfl, rfl⟩
  · rw [if_neg here]
    exact .inl rfl

theorem makeDirectory_eq_ok_iff {d d' : Disk} {p : FilePath} :
    d.makeDirectory p = .ok d' ↔
      ∃ place, d.locate p = .ok place ∧ d.node? place = none ∧ d' = d.put place .directory := by
  rw [makeDirectory]
  cases d.locate p with
  | error fault => simp [bind, Except.bind]
  | ok place =>
    simp only [bind, Except.bind, Except.ok.injEq, exists_eq_left']
    cases d.node? place with
    | some node => simp
    | none => simp [pure, Except.pure, eq_comm]

theorem gains_makeDirectory {d d' : Disk} {p : FilePath} (made : d.makeDirectory p = .ok d') :
    d.Gains (d'.IsOnWay p) d' := by
  obtain ⟨place, located, missing, rfl⟩ := makeDirectory_eq_ok_iff.1 made
  have gains := gains_put missing .directory
  refine gains.mono ?_
  rintro _ _ ⟨rfl, rfl⟩
  exact ⟨rfl, p.parts, List.prefix_rfl, gains.locate located⟩

/-- Directories are made from above. Whatever ends this, those that were made are on the way. -/
theorem gains_makeDirectoriesReversed (d : Disk) (root : FilePath.Root)
    (names : List (List Char)) :
    d.Gains ((d.makeDirectoriesReversed root names).1.IsOnWay ⟨root, names.reverse⟩)
      (d.makeDirectoriesReversed root names).1 := by
  induction names with
  | nil => exact .refl _ d
  | cons name above ih =>
    have front : above.reverse <+: (name :: above).reverse := by simp
    rw [makeDirectoriesReversed]
    dsimp only
    split
    · split
      · next d' made =>
        rw [made] at ih
        split
        · next d'' added =>
          have last := gains_makeDirectory added
          exact Gains.trans (ih.onWay last rfl front) last
        · exact ih.onWay (.refl (fun _ _ => False) d') rfl front
      · next d' fault made =>
        rw [made] at ih
        exact ih.onWay (.refl (fun _ _ => False) d') rfl front
    · split
      · next added => exact gains_makeDirectory added
      · exact .refl _ d

theorem gains_makeDirectories (d : Disk) (p : FilePath) :
    d.Gains ((d.makeDirectories p).1.IsOnWay p) (d.makeDirectories p).1 := by
  have gains := gains_makeDirectoriesReversed d p.root p.parts.reverse
  rwa [List.reverse_reverse] at gains

/-! ## 3. Files -/

/-- A place that is made ready to write at the end has a file, which is new and empty unless it was
there. -/
theorem gains_prepare {d d' : Disk} {place : Place} {m : Mode} (append : m.access = .append)
    (ready : d.prepare place m = .ok d') :
    (∃ content, d'.content? place = some content) ∧
      d.Gains (fun q n => q = place ∧ n = .file []) d' := by
  unfold prepare at ready
  rw [append] at ready
  split at ready
  · cases ready
  · next missing _ =>
    cases ready
    exact ⟨⟨[], content?_putFile d [] (names_ne_nil_of_missing missing)⟩,
      gains_put missing (.file [])⟩
  · cases ready
  · cases ready
  · next mode => cases mode
  · next content there _ _ =>
    cases ready
    exact ⟨⟨content, by rw [content?, there]⟩, .refl _ d⟩

theorem gains_openAt {d d' : Disk} {place : Place} {m : Mode} (append : m.access = .append)
    {encoding : String} {known : Text.Encoding} (named : Text.Encoding.ofName encoding = .ok known)
    {outcome : Except OpenFault OpenFile} (opened : d.openAt place m encoding = (d', outcome)) :
    (∃ fault, outcome = .error fault ∧ d' = d) ∨
      ∃ file content, outcome = .ok file ∧ file.place = place ∧ file.mode = m ∧
        d'.content? place = some content ∧
        d.Gains (fun q n => q = place ∧ n = .file []) d' := by
  unfold openAt at opened
  split at opened
  · next fault _ =>
    cases opened
    exact .inl ⟨.path fault, rfl, rfl⟩
  · next ready =>
    rw [named] at opened
    cases opened
    obtain ⟨⟨content, there⟩, gains⟩ := gains_prepare append ready
    exact .inr ⟨_, content, rfl, rfl, rfl, there, gains⟩

/-- Opening a file to write at its end makes the directories above it that are missing. If it
fails, the file is not made; otherwise it is there, and empty if it was missing. -/
theorem gains_openFile {d d' : Disk} {p : FilePath} {mode encoding : String} {m : Mode}
    (read : Mode.ofText mode = .ok m) (append : m.access = .append) {known : Text.Encoding}
    (named : Text.Encoding.ofName encoding = .ok known)
    {outcome : Except OpenFault OpenFile} (opened : d.openFile p mode encoding = (d', outcome)) :
    (∃ fault, outcome = .error fault ∧ d.Gains (d'.IsOnWay p.parent) d') ∨
      ∃ file content, outcome = .ok file ∧ d'.locate p = .ok file.place ∧ file.mode = m ∧
        d'.content? file.place = some content ∧
        d.Gains (fun place node => d'.IsOnWay p.parent place node ∨
          place = file.place ∧ node = .file []) d' := by
  have above := gains_makeDirectories d p.parent
  unfold openFile at opened
  split at opened
  · next d₁ fault made =>
    rw [made] at above
    cases opened
    exact .inl ⟨_, rfl, above⟩
  · next d₁ made =>
    rw [made] at above
    split at opened
    · cases opened
      exact .inl ⟨_, rfl, above⟩
    · rw [read] at opened
      cases located : d₁.locate p with
      | error fault =>
        rw [located] at opened
        cases opened
        exact .inl ⟨_, rfl, above⟩
      | ok place =>
        rw [located] at opened
        rcases gains_openAt append named opened with
          ⟨fault, rfl, rfl⟩ | ⟨file, content, rfl, rfl, mode, there, gains⟩
        · exact .inl ⟨fault, rfl, above⟩
        · refine .inr ⟨file, content, rfl, gains.locate located, mode, there,
            Gains.trans ?_ (gains.mono ?_)⟩
          · exact (above.onWay gains rfl List.prefix_rfl).mono fun _ _ => .inl
          · exact fun _ _ => .inr

end LogLayout.Disk
