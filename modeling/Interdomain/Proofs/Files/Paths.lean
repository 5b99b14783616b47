import Interdomain.CommandLine
import Interdomain.Proofs.Files.Trees

/-!
# Where paths lead

A path below a directory can be resolved without a look at the file system: a dot or an empty name
stays, two dots go up, and every other name goes down. As long as it never goes above the directory,
this is where the file system follows it, if it can be followed at all. A path of plain names leads
to the location of these names.
-/

namespace Interdomain

/-! ## Names of a path -/

namespace FileSystem

theorem names_ne_nil (path : String) : names path ≠ [] := by
  rw [names, Ne, List.map_eq_nil_iff]
  exact splitAll_ne_nil '/' path.toList

theorem exists_names_eq (path : String) : ∃ row last, names path = row ++ [last] :=
  ⟨_, _, (List.dropLast_concat_getLast (names_ne_nil path)).symm⟩

theorem names_of_not_mem {name : String} (h : '/' ∉ name.toList) : names name = [name] := by
  rw [names, splitAll_of_not_mem h, List.map_singleton, String.ofList_toList]

theorem names_append_slash (path path' : String) :
    names (path ++ "/" ++ path') = names path ++ names path' := by
  rw [names, String.append_assoc, String.toList_append, String.toList_append, names, names,
    ← List.map_append, ← splitAll_append]
  rfl

/-! ## Resolving a path -/

/-- Follow one name where there are only directories. Above the start there is nothing. -/
def climb? (location : Location) (name : String) : Option Location :=
  if name = "" ∨ name = "." then some location
  else if name = ".." then
    if location = [] then none else some location.dropLast
  else some (location ++ [name])

/-- Where a path leads below its start, if it never leaves it. -/
def resolve? (path : String) : Option Location := (names path).foldlM climb? []

/-- A name that leads down, whatever the file system. -/
def IsPlain (name : String) : Prop := name ≠ "" ∧ name ≠ "." ∧ name ≠ ".."

instance (name : String) : Decidable (IsPlain name) := inferInstanceAs (Decidable (_ ∧ _ ∧ _))

theorem climb?_of_isPlain {name : String} (h : IsPlain name) (location : Location) :
    climb? location name = some (location ++ [name]) := by
  rw [climb?, if_neg (not_or.2 ⟨h.1, h.2.1⟩), if_neg h.2.2]

theorem foldlM_climb?_of_isPlain {row : List String} (h : ∀ name ∈ row, IsPlain name)
    (location : Location) : row.foldlM climb? location = some (location ++ row) := by
  induction row generalizing location with
  | nil => rw [List.append_nil, List.foldlM_nil, Option.pure_def]
  | cons name row ih =>
    obtain ⟨hname, hrow⟩ := List.forall_mem_cons.1 h
    rw [List.foldlM_cons, climb?_of_isPlain hname, Option.bind_eq_bind, Option.bind_some, ih hrow,
      List.append_assoc, List.singleton_append]

theorem resolve?_of_isPlain {path : String} (h : ∀ name ∈ names path, IsPlain name) :
    resolve? path = some (names path) :=
  foldlM_climb?_of_isPlain h []

/-! ## Following a path -/

variable {fs : FileSystem} {base location next : Location} {name : String}

/-- Whatever is followed starts at a directory. -/
theorem step?_cases (h : fs.step? location name = some next) :
    fs.look location = some .directory ∧
      (((name = "" ∨ name = ".") ∧ next = location) ∨
        (name = ".." ∧ next = location.dropLast) ∨
        (IsPlain name ∧ next = location ++ [name])) := by
  rw [step?] at h
  split at h
  case isTrue => exact absurd h (by simp)
  case isFalse hdirectory =>
    refine ⟨isDirectory_iff.1 (by simpa using hdirectory), ?_⟩
    split at h
    case isTrue hstay => exact .inl ⟨hstay, (Option.some.inj h).symm⟩
    case isFalse hstay =>
      obtain ⟨hempty, hdot⟩ := not_or.1 hstay
      split at h
      case isTrue hup => exact .inr (.inl ⟨hup, (Option.some.inj h).symm⟩)
      case isFalse hup =>
        split at h
        case isTrue => exact .inr (.inr ⟨⟨hempty, hdot, hup⟩, (Option.some.inj h).symm⟩)
        case isFalse => exact absurd h (by simp)

theorem step?_of_isPlain (hdirectory : fs.look location = some .directory) (hplain : IsPlain name)
    (hallowed : isAllowedName name = true) :
    fs.step? location name = some (location ++ [name]) := by
  rw [step?, isDirectory_iff.2 hdirectory, Bool.not_true, if_neg Bool.false_ne_true,
    if_neg (not_or.2 ⟨hplain.1, hplain.2.1⟩), if_neg hplain.2.2, if_pos hallowed]

theorem step?_of_climb? {rel rel' : Location} (hstep : fs.step? (base ++ rel) name = some next)
    (hclimb : climb? rel name = some rel') : next = base ++ rel' := by
  obtain ⟨-, ⟨hstay, rfl⟩ | ⟨rfl, rfl⟩ | ⟨hplain, rfl⟩⟩ := step?_cases hstep
  · rw [climb?, if_pos hstay] at hclimb
    rw [Option.some.inj hclimb]
  · rw [climb?, if_neg (by decide), if_pos rfl] at hclimb
    split at hclimb
    case isTrue => exact absurd hclimb (by simp)
    case isFalse hne => rw [← Option.some.inj hclimb, List.dropLast_append_of_ne_nil hne]
  · rw [climb?_of_isPlain hplain] at hclimb
    rw [← Option.some.inj hclimb, List.append_assoc]

theorem foldlM_step?_of_foldlM_climb? {row : List String} {rel rel' : Location}
    (hsteps : row.foldlM fs.step? (base ++ rel) = some next)
    (hclimb : row.foldlM climb? rel = some rel') : next = base ++ rel' := by
  induction row generalizing rel with
  | nil => rw [← Option.some.inj hsteps, Option.some.inj hclimb]
  | cons name row ih =>
    obtain ⟨next₁, hstep, hsteps⟩ := Option.bind_eq_some_iff.1 hsteps
    obtain ⟨rel₁, hclimb₁, hclimb⟩ := Option.bind_eq_some_iff.1 hclimb
    obtain rfl := step?_of_climb? hstep hclimb₁
    exact ih hsteps hclimb

/-! ## Paths below a directory -/

open CommandLine (below)

/-- The names on the way to a directory below which a path is. -/
def frontNames (directory : String) : List String := (names (below directory "")).dropLast

theorem below_eq_append (directory path : String) :
    below directory path = below directory "" ++ path := by
  rw [below, below]
  split
  · rw [String.append_empty]
  · rw [String.append_empty]

/-- What stands before a path ends with a slash. -/
theorem exists_below_eq (directory : String) :
    ∃ front, below directory "" = front ++ "/" ∧
      (directory = front ∨ directory = below directory "") := by
  rw [below]
  split
  case isFalse => exact ⟨directory, String.append_empty, .inl rfl⟩
  case isTrue h =>
    rw [String.append_empty]
    refine ⟨String.ofList directory.toList.dropLast, ?_, .inr rfl⟩
    rw [← String.toList_inj, String.toList_append, String.toList_ofList]
    obtain ⟨front, hfront⟩ := List.getLast?_eq_some_iff.1 h
    rw [hfront, List.dropLast_concat]
    rfl

theorem names_below (directory path : String) :
    names (below directory path) = frontNames directory ++ names path := by
  obtain ⟨front, hfront, -⟩ := exists_below_eq directory
  have hempty : names (front ++ "/") = names front ++ [""] := by
    rw [← String.append_empty (s := front ++ "/"), names_append_slash]
    rfl
  rw [below_eq_append, frontNames, hfront, names_append_slash, hempty, List.dropLast_concat]

/-- The names of a directory lead the way; a slash at the end adds an empty name. -/
theorem names_directory (directory : String) :
    names directory = frontNames directory ∨ names directory = frontNames directory ++ [""] := by
  obtain ⟨front, hfront, rfl | heq⟩ := exists_below_eq directory
  · left
    rw [frontNames, hfront, ← String.append_empty (s := directory ++ "/"), names_append_slash]
    exact List.dropLast_concat.symm
  · right
    have hnames := names_below directory ""
    rw [← heq] at hnames
    exact hnames

theorem start_append (fs : FileSystem) {path : String} (h : path ≠ "") (path' : String) :
    fs.start (path ++ path') = fs.start path := by
  obtain ⟨c, cs, hpath⟩ := List.exists_cons_of_ne_nil fun hnil ↦ h (String.toList_eq_nil_iff.1 hnil)
  rw [start, start, String.toList_append, hpath, List.cons_append, List.head?_cons, List.head?_cons]

theorem start_below (fs : FileSystem) (directory path : String) :
    fs.start (below directory path) = fs.start (below directory "") := by
  obtain ⟨front, hfront, -⟩ := exists_below_eq directory
  rw [below_eq_append, start_append fs]
  rw [hfront]
  intro hempty
  exact absurd (congrArg String.toList hempty) (by simp)

theorem start_directory (fs : FileSystem) {directory : String} (h : directory ≠ "") :
    fs.start (below directory "") = fs.start directory := by
  obtain ⟨front, hfront, rfl | heq⟩ := exists_below_eq directory
  · rw [hfront, start_append fs h]
  · rw [← heq]

theorem locate?_eq_some_iff {path : String} :
    fs.locate? path = some location ↔
      isAllowedPath path = true ∧ (names path).foldlM fs.step? (fs.start path) = some location := by
  rw [locate?]
  split
  case isTrue h => exact ⟨fun heq ↦ ⟨h, heq⟩, fun heq ↦ heq.2⟩
  case isFalse h => exact iff_of_false (by simp) fun heq ↦ h heq.1

theorem exists_base (fs : FileSystem) (directory : String) :
    ∃ base, ∀ path rel location, fs.locate? (below directory path) = some location →
      resolve? path = some rel → location = base ++ rel := by
  have hall : ∀ path location, fs.locate? (below directory path) = some location →
      ∃ base, (frontNames directory).foldlM fs.step? (fs.start (below directory "")) = some base ∧
        (names path).foldlM fs.step? base = some location := by
    intro path location h
    have hsteps := (locate?_eq_some_iff.1 h).2
    rw [names_below, start_below, List.foldlM_append] at hsteps
    exact Option.bind_eq_some_iff.1 hsteps
  cases hfront : (frontNames directory).foldlM fs.step? (fs.start (below directory "")) with
  | none =>
    refine ⟨[], fun path rel location h _ ↦ ?_⟩
    obtain ⟨base, hbase, -⟩ := hall path location h
    exact absurd (hfront.symm.trans hbase) (by simp)
  | some base =>
    refine ⟨base, fun path rel location h hresolve ↦ ?_⟩
    obtain ⟨base', hbase, hsteps⟩ := hall path location h
    obtain rfl := Option.some.inj (hfront.symm.trans hbase)
    rw [← List.append_nil base] at hsteps
    exact foldlM_step?_of_foldlM_climb? hsteps hresolve

/-- Paths that resolve to one location lead to one location, and read the same. -/
theorem read?_below_unique {directory path path' contents contents' : String} {rel : Location}
    (h : resolve? path = some rel) (h' : resolve? path' = some rel)
    (hread : fs.read? (below directory path) = some contents)
    (hread' : fs.read? (below directory path') = some contents') : contents = contents' := by
  obtain ⟨location, hlocate, hfile⟩ := read?_eq_some_iff.1 hread
  obtain ⟨location', hlocate', hfile'⟩ := read?_eq_some_iff.1 hread'
  obtain ⟨base, hbase⟩ := fs.exists_base directory
  rw [hbase path rel location hlocate h] at hfile
  rw [hbase path' rel location' hlocate' h'] at hfile'
  exact Sight.file.inj (Option.some.inj (hfile.symm.trans hfile'))

theorem locate?_below_ne {directory path path' : String} {rel rel' : Location}
    (h : resolve? path = some rel) (h' : resolve? path' = some rel') (hne : rel ≠ rel')
    (hlocate : fs.locate? (below directory path) = some location) :
    fs.locate? (below directory path') ≠ some location := by
  intro hlocate'
  obtain ⟨base, hbase⟩ := fs.exists_base directory
  have heq := (hbase path rel location hlocate h).symm.trans
    (hbase path' rel' location hlocate' h')
  exact hne (List.append_cancel_left heq)

end FileSystem

end Interdomain
