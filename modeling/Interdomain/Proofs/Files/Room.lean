import Interdomain.Proofs.Files.Writing

/-!
# Room for files

A file has room below a directory if no directory is in its place and no file is on the way to it.
Then it is written, as far as its names are plain and not too long, and it takes no room from a file
if neither of their paths continues the other. An empty directory has room for everything, so paths
of which none continues another are all written there.
-/

namespace Interdomain

namespace FileSystem

open CommandLine (below)

variable {fs fs' fs₁ made : FileSystem} {base location next : Location}
  {directory name name' path contents : String} {row row' : List String}

/-! ## The way to a directory -/

/-- The way to a directory is there and leads to a location, where the directory is. -/
structure Leads (fs : FileSystem) (directory : String) (base : Location) : Prop where
  steps : (frontNames directory).foldlM fs.step? (fs.start (below directory "")) = some base
  arrival : fs.look base = some .directory

theorem Leads.of_grows (h : fs.Leads directory base) (hgrows : fs.Grows fs') :
    fs'.Leads directory base :=
  ⟨by rw [hgrows.start]; exact hgrows.foldlM_step? h.steps, hgrows.directories base h.arrival⟩

theorem Leads.enters (h : fs.Leads directory base) :
    (frontNames directory).foldlM enter? (fs, fs.start (below directory "")) = some (fs, base) :=
  foldlM_enter?_of_foldlM_step? h.steps h.arrival

/-- Make a directory, and the directories on the way to it, unless they are there. -/
def makeDirectory? (fs : FileSystem) (path : String) : Option (FileSystem × Location) :=
  if isAllowedPath path then (names path).foldlM enter? (fs, fs.start path) else none

/-- A slash at the end of a directory does not matter. -/
theorem enters_of_makeDirectory? (h : fs.makeDirectory? directory = some (made, base)) :
    (frontNames directory).foldlM enter? (fs, fs.start (below directory ""))
      = some (made, base) := by
  rw [makeDirectory?] at h
  split at h
  case isFalse => exact absurd h nofun
  case isTrue hallowed =>
    have hne : directory ≠ "" := by
      rintro rfl
      exact absurd hallowed (by decide)
    rw [← start_directory fs hne] at h
    rcases names_directory directory with hnames | hnames <;> rw [hnames] at h
    · exact h
    · rw [List.foldlM_append] at h
      obtain ⟨⟨fs₁, base₁⟩, henter, h⟩ := Option.bind_eq_some_iff.1 h
      obtain ⟨⟨fs₂, base₂⟩, hstay, hend⟩ := Option.bind_eq_some_iff.1 h
      obtain ⟨next, hstep, -⟩ := Option.bind_eq_some_iff.1 hstay
      obtain ⟨hdirectory, ⟨-, rfl⟩ | ⟨hup, -⟩ | ⟨hplain, -⟩⟩ := step?_cases hstep
      · exact henter.trans ((enter?_of_directory hstep hdirectory).symm.trans (hstay.trans hend))
      · exact absurd hup (by decide)
      · exact absurd rfl hplain.1

/-- To write below a directory is to make it and to write there. -/
theorem write?_eq_of_makeDirectory? (h : fs.makeDirectory? directory = some (made, base))
    (hbase : made.look base = some .directory) :
    made.Leads directory base ∧
      ∀ path contents, fs.write? (below directory path) contents
        = made.write? (below directory path) contents := by
  have henter := enters_of_makeDirectory? h
  have henters := enters_of_foldlM henter
  have hleads : made.Leads directory base :=
    ⟨by rw [henters.grows.start]; exact henters.steps, hbase⟩
  refine ⟨hleads, fun path contents ↦ Option.ext fun fs' ↦ ?_⟩
  obtain ⟨row, last, hnames⟩ := exists_names_eq path
  have hbelow : names (below directory path) = frontNames directory ++ row ++ [last] := by
    rw [names_below, hnames, List.append_assoc]
  rw [write?_eq_some_iff hbelow, write?_eq_some_iff hbelow, start_below fs, start_below made,
    List.foldlM_append, List.foldlM_append, henter, hleads.enters]

/-! ## Room -/

/-- Neither of two locations continues the other. -/
def Apart (l l' : Location) : Prop := ¬l <+: l' ∧ ¬l' <+: l

theorem Apart.ne {l l' : Location} (h : Apart l l') : l ≠ l' := by
  rintro rfl
  exact h.1 (List.prefix_refl l)

theorem apart_of_ne (h : name ≠ name') (l l' : Location) : Apart (name :: l) (name' :: l') :=
  ⟨fun hprefix ↦ h (List.cons_prefix_cons.1 hprefix).1,
    fun hprefix ↦ h (List.cons_prefix_cons.1 hprefix).1.symm⟩

theorem Apart.cons {l l' : Location} (h : Apart l l') (name : String) :
    Apart (name :: l) (name :: l') :=
  ⟨fun hprefix ↦ h.1 (List.cons_prefix_cons.1 hprefix).2,
    fun hprefix ↦ h.2 (List.cons_prefix_cons.1 hprefix).2⟩

structure HasRoom (fs : FileSystem) (base row : Location) : Prop where
  place : fs.look (base ++ row) ≠ some .directory
  way : ∀ front, front <+: row → front ≠ row →
    ∀ contents, fs.look (base ++ front) ≠ some (.file contents)

theorem hasRoom_of_empty (h : fs.contentAt? base = some (.directory [])) (hne : row ≠ []) :
    fs.HasRoom base row := by
  refine ⟨?_, fun front _ _ contents ↦ ?_⟩
  · rw [look_append_of_empty h hne]
    exact nofun
  · cases front with
    | nil =>
      have hbase : fs.look base = some .directory := congrArg (Option.map Entry.sight) h
      rw [List.append_nil, hbase]
      exact nofun
    | cons name rest =>
      rw [look_append_of_empty h (List.cons_ne_nil name rest)]
      exact nofun

theorem above_concat {l l' : Location} (h : l <+: l') (name : String) :
    l <+: l' ++ [name] ∧ l ≠ l' ++ [name] := by
  refine ⟨h.trans (List.prefix_append l' [name]), ?_⟩
  rintro rfl
  have hlength := h.length_le
  rw [List.length_append, List.length_singleton] at hlength
  omega

/-- The directories on a way without files are entered or made, and no others. -/
theorem exists_foldlM_enter? (hplain : ∀ name ∈ row, IsPlain name)
    (hallowed : ∀ name ∈ row, isAllowedName name = true)
    (hdirectory : fs.look location = some .directory)
    (hfree : ∀ front, front <+: row →
      ∀ contents, fs.look (location ++ front) ≠ some (.file contents)) :
    ∃ fs', row.foldlM enter? (fs, location) = some (fs', location ++ row) ∧
      ∀ l, fs'.look l = some .directory → fs.look l = some .directory ∨ l <+: location ++ row := by
  induction row generalizing fs location with
  | nil => exact ⟨fs, by rw [List.append_nil]; rfl, fun l hl ↦ .inl hl⟩
  | cons name row ih =>
    obtain ⟨hname, hplain⟩ := List.forall_mem_cons.1 hplain
    obtain ⟨hname', hallowed⟩ := List.forall_mem_cons.1 hallowed
    have hstep := step?_of_isPlain hdirectory hname hname'
    have hrow : location ++ [name] ++ row = location ++ name :: row := List.append_cons .. |>.symm
    obtain ⟨-, fs₁, henter, hputs⟩ | ⟨⟨contents, hfile⟩, -⟩ := enter?_cases hstep
    · have hfree₁ : ∀ front, front <+: row →
          ∀ contents, fs₁.look (location ++ [name] ++ front) ≠ some (.file contents) := by
        intro front hfront contents
        rw [hputs.look, List.append_assoc]
        split
        case isTrue => exact nofun
        case isFalse => exact hfree _ (List.cons_prefix_cons.2 ⟨rfl, hfront⟩) contents
      obtain ⟨fs', hrest, hmade⟩ := ih hplain hallowed hputs.look_self hfree₁
      rw [hrow] at hrest hmade
      refine ⟨fs', Option.bind_eq_some_iff.2 ⟨_, henter, hrest⟩, fun l hl ↦ ?_⟩
      rcases hmade l hl with hl | hl
      · rw [hputs.look] at hl
        split at hl
        case isTrue heq => exact .inr ⟨row, by rw [heq, hrow]⟩
        case isFalse => exact .inl hl
      · exact .inr hl
    · exact absurd hfile (hfree [name] (List.cons_prefix_cons.2 ⟨rfl, List.nil_prefix⟩) contents)

/-- The file system takes a path below a directory: neither it nor a name in it is too long. -/
structure Takes (directory path : String) : Prop where
  whole : isAllowedPath (below directory path) = true
  each : ∀ name ∈ names path, isAllowedName name = true

instance (directory path : String) : Decidable (Takes directory path) :=
  decidable_of_iff (isAllowedPath (below directory path) = true ∧
      ∀ name ∈ names path, isAllowedName name = true)
    ⟨fun h ↦ ⟨h.1, h.2⟩, fun h ↦ ⟨h.whole, h.each⟩⟩

/-- **A file with room is written.** No other file is there than before, and no directory other than
those on the way. -/
theorem exists_write?_of_hasRoom (hleads : fs.Leads directory base)
    (hroom : fs.HasRoom base (names path)) (htakes : Takes directory path)
    (hplain : ∀ name ∈ names path, IsPlain name) (contents : String) :
    ∃ fs', fs.write? (below directory path) contents = some fs' ∧ fs.Grows fs' ∧
      (∀ l contents', fs'.look l = some (.file contents') →
        fs.look l = some (.file contents') ∨ l = base ++ names path) ∧
      ∀ l, fs'.look l = some .directory →
        fs.look l = some .directory ∨ (l <+: base ++ names path ∧ l ≠ base ++ names path) := by
  obtain ⟨row, last, hnames⟩ := exists_names_eq path
  have hallowed := htakes.each
  rw [hnames] at hroom hplain hallowed ⊢
  obtain ⟨hrow, hlast⟩ := List.forall_mem_append.1 hplain
  obtain ⟨hrow', hlast'⟩ := List.forall_mem_append.1 hallowed
  obtain ⟨fs₁, henter, hmade⟩ := exists_foldlM_enter? hrow hrow' hleads.arrival
    fun front hfront ↦ hroom.way front (above_concat hfront last).1 (above_concat hfront last).2
  have henters := enters_of_foldlM henter
  have hstep := step?_of_isPlain (henters.arrival hleads.arrival)
    (hlast last List.mem_cons_self) (hlast' last List.mem_cons_self)
  have hnew : ∀ l, fs₁.look l = some .directory → fs.look l = some .directory ∨
      (l <+: base ++ row ++ [last] ∧ l ≠ base ++ row ++ [last]) := fun l hl ↦
    (hmade l hl).imp_right fun hprefix ↦ above_concat hprefix last
  rw [List.append_assoc] at hstep hnew
  have hfree : fs₁.look (base ++ (row ++ [last])) ≠ some .directory := fun hdirectory ↦
    (hnew _ hdirectory).elim hroom.place fun hne ↦ hne.2 rfl
  have hputs := puts_file hstep hfree contents
  have hbelow : names (below directory path) = frontNames directory ++ row ++ [last] := by
    rw [names_below, hnames, List.append_assoc]
  refine ⟨_, (write?_eq_some_iff hbelow).2 ⟨htakes.whole, fs₁, _, _, ?_, hstep, hfree, rfl⟩,
    henters.grows.trans (hputs.grows (.inr hfree)), fun l contents' hl ↦ ?_, fun l hl ↦ ?_⟩
  · rw [start_below, List.foldlM_append, hleads.enters]
    exact henter
  · by_cases heq : l = base ++ (row ++ [last])
    · exact .inr heq
    · rw [hputs.look_of_ne heq, henters.files] at hl
      exact .inl hl
  · by_cases heq : l = base ++ (row ++ [last])
    · rw [heq, hputs.look_self] at hl
      exact absurd hl nofun
    · rw [hputs.look_of_ne heq] at hl
      exact hnew l hl

theorem HasRoom.of_apart (h : fs.HasRoom base row') (hapart : Apart row row')
    (hfiles : ∀ l contents, fs'.look l = some (.file contents) →
      fs.look l = some (.file contents) ∨ l = base ++ row)
    (hdirectories : ∀ l, fs'.look l = some .directory →
      fs.look l = some .directory ∨ (l <+: base ++ row ∧ l ≠ base ++ row)) :
    fs'.HasRoom base row' := by
  refine ⟨fun hdirectory ↦ ?_, fun front hfront hne contents hfile ↦ ?_⟩
  · rcases hdirectories _ hdirectory with hold | ⟨hnew, -⟩
    · exact h.place hold
    · exact hapart.2 ((List.prefix_append_right_inj base).1 hnew)
  · rcases hfiles _ contents hfile with hold | hnew
    · exact h.way front hfront hne contents hold
    · exact hapart.1 (List.append_cancel_left hnew ▸ hfront)

/-! ## Many files -/

variable {files : List Artifact}

/-- Files that all have room, and take none from each other, are written. -/
theorem exists_writes?_of_hasRoom (hleads : fs.Leads directory base)
    (hroom : ∀ f ∈ files, fs.HasRoom base (names f.path))
    (htakes : ∀ f ∈ files, Takes directory f.path)
    (hplain : ∀ f ∈ files, ∀ name ∈ names f.path, IsPlain name)
    (hapart : files.Pairwise fun f f' ↦ Apart (names f.path) (names f'.path)) :
    ∃ fs', writes? directory fs files = some fs' := by
  induction files generalizing fs with
  | nil => exact ⟨fs, rfl⟩
  | cons f files ih =>
    obtain ⟨hroom₁, hroom⟩ := List.forall_mem_cons.1 hroom
    obtain ⟨htakes₁, htakes⟩ := List.forall_mem_cons.1 htakes
    obtain ⟨hplain₁, hplain⟩ := List.forall_mem_cons.1 hplain
    obtain ⟨hapart₁, hapart⟩ := List.pairwise_cons.1 hapart
    obtain ⟨fs₁, hwrite, hgrows, hfiles, hdirectories⟩ :=
      exists_write?_of_hasRoom hleads hroom₁ htakes₁ hplain₁ f.contents
    obtain ⟨fs', hwrites⟩ := ih (hleads.of_grows hgrows)
      (fun f' hf' ↦ (hroom f' hf').of_apart (hapart₁ f' hf') hfiles hdirectories)
      htakes hplain hapart
    exact ⟨fs', Option.bind_eq_some_iff.2 ⟨fs₁, hwrite, hwrites⟩⟩

/-- **Writing to an empty directory.** Paths of plain names of which none continues another are all
written. -/
theorem exists_writes?_of_empty (h : fs.makeDirectory? directory = some (made, base))
    (hempty : made.contentAt? base = some (.directory []))
    (htakes : ∀ f ∈ files, Takes directory f.path)
    (hplain : ∀ f ∈ files, ∀ name ∈ names f.path, IsPlain name)
    (hapart : files.Pairwise fun f f' ↦ Apart (names f.path) (names f'.path)) :
    ∃ fs', writes? directory fs files = some fs' := by
  obtain ⟨hleads, hwrite⟩ :=
    write?_eq_of_makeDirectory? h (congrArg (Option.map Entry.sight) hempty)
  obtain ⟨fs', hwrites⟩ := exists_writes?_of_hasRoom hleads
    (fun f _ ↦ hasRoom_of_empty hempty (names_ne_nil f.path)) htakes hplain hapart
  cases files with
  | nil => exact ⟨fs, rfl⟩
  | cons f files =>
    refine ⟨fs', ?_⟩
    rw [writes?, List.foldlM_cons, hwrite]
    exact hwrites

end FileSystem

end Interdomain
