import Interdomain.Proofs.Files.Paths

/-!
# What writing leaves

To write a file is to enter the directories on the way, of which those that are not there are made,
and to put the file at the end. Directories never go away, so a path that could be followed leads to
the same location ever after, and the only file that is lost is the one at the location of the new
file. When many files are written, a path hence reads back what was written under it unless another
of the paths leads to the same location.

Writing succeeds if each file has room in the directory: there is no directory in its place and no
file on the way to it. A file takes no room from another if neither of their paths continues the
other.
-/

namespace Interdomain

namespace FileSystem

open CommandLine (below)

variable {fs fs' fs₁ : FileSystem} {base location next x : Location} {name path contents : String}
  {row : List String} {s : Sight}

/-! ## Growth -/

/-- No directory goes away, and the working directory stays. -/
structure Grows (fs fs' : FileSystem) : Prop where
  workingDirectory : fs'.workingDirectory = fs.workingDirectory
  directories : ∀ location, fs.look location = some .directory →
    fs'.look location = some .directory

namespace Grows

theorem refl (fs : FileSystem) : fs.Grows fs := ⟨rfl, fun _ h ↦ h⟩

theorem trans (h : fs.Grows fs₁) (h' : fs₁.Grows fs') : fs.Grows fs' :=
  ⟨h'.workingDirectory.trans h.workingDirectory,
    fun location hdirectory ↦ h'.directories location (h.directories location hdirectory)⟩

theorem start (h : fs.Grows fs') (path : String) : fs'.start path = fs.start path := by
  rw [FileSystem.start, FileSystem.start, h.workingDirectory]

theorem step? (h : fs.Grows fs') (hstep : fs.step? location name = some next) :
    fs'.step? location name = some next := by
  have hdirectory := (step?_cases hstep).1
  rw [FileSystem.step?, isDirectory_iff.2 hdirectory] at hstep
  rw [FileSystem.step?, isDirectory_iff.2 (h.directories location hdirectory)]
  exact hstep

theorem foldlM_step? (h : fs.Grows fs') (hsteps : row.foldlM fs.step? location = some next) :
    row.foldlM fs'.step? location = some next := by
  induction row generalizing location with
  | nil => exact hsteps
  | cons name row ih =>
    obtain ⟨next₁, hstep, hsteps⟩ := Option.bind_eq_some_iff.1 hsteps
    exact Option.bind_eq_some_iff.2 ⟨next₁, h.step? hstep, ih hsteps⟩

theorem locate? (h : fs.Grows fs') (hlocate : fs.locate? path = some location) :
    fs'.locate? path = some location := by
  obtain ⟨hallowed, hsteps⟩ := locate?_eq_some_iff.1 hlocate
  exact locate?_eq_some_iff.2 ⟨hallowed, by rw [h.start]; exact h.foldlM_step? hsteps⟩

end Grows

/-- Something is put at a location, and nothing else happens. -/
structure Puts (fs : FileSystem) (location : Location) (s : Sight) (fs' : FileSystem) : Prop where
  workingDirectory : fs'.workingDirectory = fs.workingDirectory
  look : ∀ l, fs'.look l = if l = location then some s else fs.look l

namespace Puts

theorem look_self (h : fs.Puts location s fs') : fs'.look location = some s := by
  rw [h.look, if_pos rfl]

theorem look_of_ne (h : fs.Puts location s fs') (hne : x ≠ location) :
    fs'.look x = fs.look x := by
  rw [h.look, if_neg hne]

/-- What is put is no loss if it is a directory, or if there was none. -/
theorem grows (h : fs.Puts location s fs')
    (hkeeps : s = .directory ∨ fs.look location ≠ some .directory) : fs.Grows fs' := by
  refine ⟨h.workingDirectory, fun l hl ↦ ?_⟩
  by_cases heq : l = location
  · subst heq
    rw [h.look_self, hkeeps.resolve_right fun hne ↦ hne hl]
  · rw [h.look_of_ne heq, hl]

end Puts

/-! ## Entering directories -/

/-- Where a name leads, there is a directory for a new entry. -/
theorem look_dropLast_of_step? (h : fs.step? location name = some next) :
    fs.look next.dropLast = some .directory := by
  obtain ⟨hdirectory, ⟨-, rfl⟩ | ⟨-, rfl⟩ | ⟨-, rfl⟩⟩ := step?_cases h
  · exact look_dropLast hdirectory
  · exact look_dropLast (look_dropLast hdirectory)
  · rwa [List.dropLast_concat]

theorem enter?_of_directory (hstep : fs.step? location name = some next)
    (hdirectory : fs.look next = some .directory) :
    enter? (fs, location) name = some (fs, next) := by
  obtain ⟨e, he, hsight⟩ := Option.map_eq_some_iff.1 hdirectory
  rw [enter?, hstep, Option.bind_eq_bind, Option.bind_some, contentAt?, he]
  cases e with
  | directory entries => rfl
  | file contents => exact absurd hsight (by simp [Entry.sight])

/-- A directory is entered, and made before if there is nothing; a file is not entered. -/
theorem enter?_cases (hstep : fs.step? location name = some next) :
    ((∀ contents, fs.look next ≠ some (.file contents)) ∧
        ∃ fs', enter? (fs, location) name = some (fs', next) ∧ fs.Puts next .directory fs') ∨
      (∃ contents, fs.look next = some (.file contents)) ∧
        enter? (fs, location) name = none := by
  cases hlook : fs.look next with
  | none =>
    refine .inl ⟨by simp, fs.put next (.directory []), ?_, rfl, fun l ↦ ?_⟩
    · rw [enter?, hstep, Option.bind_eq_bind, Option.bind_some, contentAt?,
        Option.map_eq_none_iff.1 hlook]
      rfl
    · refine look_put Entry.bare_directory (fun _ ↦ look_dropLast_of_step? hstep) ?_ l
      rw [hlook]
      simp
  | some s =>
    cases s with
    | directory =>
      refine .inl ⟨by simp, fs, enter?_of_directory hstep hlook, rfl, fun l ↦ ?_⟩
      split
      case isTrue heq => rw [heq, hlook]
      case isFalse => rfl
    | file contents =>
      obtain ⟨e, he, hsight⟩ := Option.map_eq_some_iff.1 hlook
      refine .inr ⟨⟨contents, rfl⟩, ?_⟩
      rw [enter?, hstep, Option.bind_eq_bind, Option.bind_some, contentAt?, he]
      cases e with
      | directory entries => exact absurd hsight (by simp [Entry.sight])
      | file contents' => rfl

/-- What entering the names of a row leaves: no file is lost or made, and the row leads from the
start to the end. -/
structure Enters (fs : FileSystem) (location : Location) (row : List String) (fs' : FileSystem)
    (next : Location) : Prop where
  grows : fs.Grows fs'
  files : ∀ l contents, fs'.look l = some (.file contents) ↔ fs.look l = some (.file contents)
  steps : row.foldlM fs'.step? location = some next
  arrival : fs.look location = some .directory → fs'.look next = some .directory

theorem enters_of_foldlM (h : row.foldlM enter? (fs, location) = some (fs', next)) :
    fs.Enters location row fs' next := by
  induction row generalizing fs location with
  | nil =>
    obtain ⟨rfl, rfl⟩ := Prod.mk.inj (Option.some.inj h)
    exact ⟨.refl fs, fun _ _ ↦ Iff.rfl, rfl, id⟩
  | cons name row ih =>
    obtain ⟨⟨fs₁, next₁⟩, henter, h⟩ := Option.bind_eq_some_iff.1 h
    have hrest := ih h
    obtain ⟨next₂, hstep, -⟩ := Option.bind_eq_some_iff.1 henter
    obtain ⟨hfree, fs₂, heq, hputs⟩ | ⟨-, hnone⟩ := enter?_cases hstep
    · obtain ⟨rfl, rfl⟩ := Prod.mk.inj (Option.some.inj (heq.symm.trans henter))
      have hgrows := (hputs.grows (.inl rfl)).trans hrest.grows
      refine ⟨hgrows, fun l contents ↦ ?_,
        Option.bind_eq_some_iff.2 ⟨_, hgrows.step? hstep, hrest.steps⟩,
        fun _ ↦ hrest.arrival hputs.look_self⟩
      rw [hrest.files, hputs.look]
      split
      case isTrue hl =>
        subst hl
        exact iff_of_false nofun (hfree contents)
      case isFalse => rfl
    · exact absurd (hnone.symm.trans henter) nofun

/-- Directories that are all there are entered as they are followed. -/
theorem foldlM_enter?_of_foldlM_step? (h : row.foldlM fs.step? location = some next)
    (hnext : fs.look next = some .directory) :
    row.foldlM enter? (fs, location) = some (fs, next) := by
  induction row generalizing location with
  | nil =>
    obtain rfl := Option.some.inj h
    rfl
  | cons name row ih =>
    obtain ⟨next₁, hstep, h⟩ := Option.bind_eq_some_iff.1 h
    have hdirectory : fs.look next₁ = some .directory := by
      cases row with
      | nil =>
        obtain rfl := Option.some.inj h
        exact hnext
      | cons name' row =>
        obtain ⟨_, hstep', -⟩ := Option.bind_eq_some_iff.1 h
        exact (step?_cases hstep').1
    exact Option.bind_eq_some_iff.2 ⟨_, enter?_of_directory hstep hdirectory, ih h⟩

/-! ## One file -/

/-- What writing a file leaves. -/
structure Writes (fs : FileSystem) (location : Location) (contents : String) (fs' : FileSystem) :
    Prop where
  grows : fs.Grows fs'
  look_self : fs'.look location = some (.file contents)
  files : ∀ l ≠ location, ∀ contents,
    fs.look l = some (.file contents) → fs'.look l = some (.file contents)

/-- The last name of a path is that of the file, and the others are the way to it. -/
theorem write?_eq_some_iff {last : String} (hnames : names path = row ++ [last]) :
    fs.write? path contents = some fs' ↔
      isAllowedPath path = true ∧ ∃ fs₁ parent location,
        row.foldlM enter? (fs, fs.start path) = some (fs₁, parent) ∧
        fs₁.step? parent last = some location ∧ fs₁.look location ≠ some .directory ∧
        fs' = fs₁.put location (.file contents) := by
  rw [write?, hnames, List.dropLast_concat, List.getLast?_concat, Option.getD_some]
  cases isAllowedPath path with
  | false => exact iff_of_false (by simp) fun h ↦ absurd h.1 (by simp)
  | true =>
    rw [Bool.not_true, if_neg Bool.false_ne_true]
    constructor
    · intro h
      obtain ⟨⟨fs₁, parent⟩, henter, h⟩ := Option.bind_eq_some_iff.1 h
      obtain ⟨location, hstep, h⟩ := Option.bind_eq_some_iff.1 h
      split at h
      case isTrue => exact absurd h (by simp)
      case isFalse hfree =>
        exact ⟨rfl, fs₁, parent, location, henter, hstep, mt isDirectory_iff.2 hfree,
          (Option.some.inj h).symm⟩
    · rintro ⟨-, fs₁, parent, location, henter, hstep, hfree, rfl⟩
      refine Option.bind_eq_some_iff.2 ⟨(fs₁, parent), henter, ?_⟩
      refine Option.bind_eq_some_iff.2 ⟨location, hstep, ?_⟩
      exact if_neg (mt isDirectory_iff.1 hfree)

theorem puts_file (hstep : fs.step? base name = some location)
    (hfree : fs.look location ≠ some .directory) (contents : String) :
    fs.Puts location (.file contents) (fs.put location (.file contents)) :=
  ⟨rfl, look_put (Entry.bare_file contents) (fun _ ↦ look_dropLast_of_step? hstep) hfree⟩

theorem exists_writes_of_write? (h : fs.write? path contents = some fs') :
    ∃ location, fs'.locate? path = some location ∧ fs.Writes location contents fs' := by
  obtain ⟨row, last, hnames⟩ := exists_names_eq path
  obtain ⟨hallowed, fs₁, parent, location, henter, hstep, hfree, rfl⟩ :=
    (write?_eq_some_iff hnames).1 h
  have henters := enters_of_foldlM henter
  have hputs := puts_file hstep hfree contents
  have hgrows := hputs.grows (.inr hfree)
  have hlocate : fs₁.locate? path = some location := by
    rw [locate?_eq_some_iff, henters.grows.start, hnames, List.foldlM_append]
    refine ⟨hallowed, Option.bind_eq_some_iff.2 ⟨parent, henters.steps, ?_⟩⟩
    exact Option.bind_eq_some_iff.2 ⟨location, hstep, rfl⟩
  refine ⟨location, hgrows.locate? hlocate, henters.grows.trans hgrows, hputs.look_self,
    fun l hl contents' hfile ↦ ?_⟩
  rw [hputs.look_of_ne hl, henters.files, hfile]

/-! ## Many files -/

/-- Write files below a directory, one after another. -/
def writes? (directory : String) (fs : FileSystem) (files : List Artifact) : Option FileSystem :=
  files.foldlM (fun fs f ↦ fs.write? (below directory f.path) f.contents) fs

def runWriteAll (directory : String) (files : List Artifact) (fs : FileSystem) :
    Except CommandLine.Failure Unit × FileSystem :=
  ((CommandLine.writeAll directory files).run : StateM FileSystem _).run fs

variable {directory : String} {f : Artifact} {files : List Artifact}

theorem runWriteAll_cons :
    runWriteAll directory (f :: files) fs =
      match fs.write? (below directory f.path) f.contents with
      | some fs₁ => runWriteAll directory files fs₁
      | none => (.error (.writing (below directory f.path)), fs) := by
  have hwrite : StateT.run (FileStore.write (below directory f.path) f.contents : StateM _ Bool) fs
      = match fs.write? (below directory f.path) f.contents with
        | some fs₁ => (true, fs₁)
        | none => (false, fs) := rfl
  rw [runWriteAll, CommandLine.writeAll]
  simp only [liftM, ExceptT.run_bind, ExceptT.run_liftM, bind_map_left, StateT.run_bind, hwrite]
  cases fs.write? (below directory f.path) f.contents <;> rfl

theorem runWriteAll_eq_ok_iff :
    runWriteAll directory files fs = (.ok (), fs') ↔ writes? directory fs files = some fs' := by
  induction files generalizing fs with
  | nil => exact ⟨fun h ↦ congrArg some (Prod.mk.inj h).2, fun h ↦ Option.some.inj h ▸ rfl⟩
  | cons f files ih =>
    rw [runWriteAll_cons, writes?, List.foldlM_cons, Option.bind_eq_bind]
    cases fs.write? (below directory f.path) f.contents with
    | none => exact iff_of_false (by simp) (by simp)
    | some fs₁ => exact ih

/-- What writing files leaves: every path leads somewhere, and a file that none of them leads to is
as it was. -/
theorem writes?_leaves (h : writes? directory fs files = some fs') :
    fs.Grows fs' ∧
      (∀ f ∈ files, ∃ location, fs'.locate? (below directory f.path) = some location) ∧
      ∀ l contents, fs.look l = some (.file contents) →
        (∀ f ∈ files, fs'.locate? (below directory f.path) ≠ some l) →
        fs'.look l = some (.file contents) := by
  induction files generalizing fs with
  | nil =>
    obtain rfl := Option.some.inj h
    exact ⟨.refl fs, fun f hf ↦ absurd hf List.not_mem_nil, fun _ _ hl _ ↦ hl⟩
  | cons f files ih =>
    obtain ⟨fs₁, hwrite, h⟩ := Option.bind_eq_some_iff.1 h
    obtain ⟨location, hlocate, hwrites⟩ := exists_writes_of_write? hwrite
    obtain ⟨hgrows, hlocated, hkept⟩ := ih h
    refine ⟨hwrites.grows.trans hgrows, ?_, fun l contents hl hother ↦ ?_⟩
    · exact List.forall_mem_cons.2 ⟨⟨location, hgrows.locate? hlocate⟩, hlocated⟩
    · obtain ⟨hf, hfiles⟩ := List.forall_mem_cons.1 hother
      refine hkept l contents (hwrites.files l ?_ contents hl) hfiles
      rintro rfl
      exact hf (hgrows.locate? hlocate)

/-- **Reading back.** If no two paths lead to one location, every path reads what was written under
it. -/
theorem read?_of_writes? (h : writes? directory fs files = some fs')
    (hapart : files.Pairwise fun f f' ↦ ∀ location,
      fs'.locate? (below directory f.path) = some location →
        fs'.locate? (below directory f'.path) ≠ some location) :
    ∀ f ∈ files, fs'.read? (below directory f.path) = some f.contents := by
  induction files generalizing fs with
  | nil => exact fun f hf ↦ absurd hf List.not_mem_nil
  | cons f files ih =>
    obtain ⟨fs₁, hwrite, h⟩ := Option.bind_eq_some_iff.1 h
    obtain ⟨hother, hapart⟩ := List.pairwise_cons.1 hapart
    obtain ⟨location, hlocate, hwrites⟩ := exists_writes_of_write? hwrite
    obtain ⟨hgrows, -, hkept⟩ := writes?_leaves h
    refine List.forall_mem_cons.2 ⟨read?_eq_some_iff.2 ⟨location, hgrows.locate? hlocate, ?_⟩,
      ih h hapart⟩
    exact hkept location f.contents hwrites.look_self fun f' hf' ↦
      hother f' hf' location (hgrows.locate? hlocate)

end FileSystem

end Interdomain
