import Interdomain.FileSystem

/-!
# What is seen of a file system

Of an entry nothing else is seen than that it is a directory, or the contents of a file. A new file
or an empty directory changes what is seen at its own location only: where a file was, or nothing,
there was nothing below it either. All that is known of a file system is known of what is seen at
each of its locations.
-/

namespace Interdomain

inductive Sight where
  | directory
  | file (contents : String)
  deriving DecidableEq

namespace Entry

/-- What is seen of an entry. -/
def sight : Entry → Sight
  | directory _ => .directory
  | file contents => .file contents

/-- What is seen at the end of some names. -/
def look (e : Entry) (location : Location) : Option Sight := (e.find? location).map sight

@[simp] theorem look_nil (e : Entry) : e.look [] = some e.sight := by
  rw [look, find?, Option.map_some]

@[simp] theorem look_directory_cons (entries : List (String × Entry)) (name : String)
    (rest : Location) :
    (directory entries).look (name :: rest) = (List.lookup name entries).bind (look · rest) := by
  rw [look, find?, Option.map_bind]
  rfl

@[simp] theorem look_file_cons (contents name : String) (rest : Location) :
    (file contents).look (name :: rest) = none := rfl

theorem find?_append (e : Entry) (location location' : Location) :
    e.find? (location ++ location') = (e.find? location).bind (find? · location') := by
  induction location generalizing e with
  | nil => rw [List.nil_append, find?, Option.bind_some]
  | cons name rest ih =>
    cases e with
    | file contents => rfl
    | directory entries =>
      rw [List.cons_append, find?, find?, Option.bind_assoc]
      exact congrArg _ (funext ih)

theorem look_dropLast {e : Entry} {location : Location} {s : Sight} (hne : location ≠ [])
    (h : e.look location = some s) : e.look location.dropLast = some .directory := by
  induction location generalizing e with
  | nil => exact absurd rfl hne
  | cons name rest ih =>
    cases e with
    | file contents => exact absurd h (by simp)
    | directory entries =>
      cases rest with
      | nil => rfl
      | cons name' rest =>
        rw [look_directory_cons] at h
        obtain ⟨e', he', h⟩ := Option.bind_eq_some_iff.1 h
        rw [List.dropLast_cons_of_ne_nil (List.cons_ne_nil name' rest), look_directory_cons, he',
          Option.bind_some]
        exact ih (List.cons_ne_nil name' rest) h

/-! ## Putting an entry -/

theorem lookup_cons (name key : String) (e : Entry) (rest : List (String × Entry)) :
    List.lookup name ((key, e) :: rest) = if name = key then some e else List.lookup name rest := by
  by_cases h : name = key
  · rw [if_pos h, List.lookup_cons, beq_iff_eq.2 h]
  · rw [if_neg h, List.lookup_cons, beq_false_of_ne h]

theorem lookup_assign (name name' : String) (new : Entry) (entries : List (String × Entry)) :
    List.lookup name' (assign name new entries) =
      if name' = name then some new else List.lookup name' entries := by
  induction entries with
  | nil => rw [assign, lookup_cons]
  | cons e rest ih =>
    obtain ⟨key, old⟩ := e
    rw [assign]
    split
    case isTrue hkey =>
      obtain rfl : key = name := hkey
      rw [lookup_cons, lookup_cons]
      split <;> rfl
    case isFalse hkey =>
      rw [lookup_cons, lookup_cons, ih]
      split
      case isTrue heq => rw [if_neg fun h ↦ hkey (heq.symm.trans h)]
      case isFalse => rfl

theorem look_assign (name name' : String) (new : Entry) (entries : List (String × Entry))
    (rest : Location) :
    (directory (assign name new entries)).look (name' :: rest) =
      if name' = name then new.look rest else (directory entries).look (name' :: rest) := by
  rw [look_directory_cons, lookup_assign]
  split
  case isTrue => rw [Option.bind_some]
  case isFalse => rw [look_directory_cons]

/-- A file, or a directory with nothing in it. -/
def Bare (e : Entry) : Prop := ∀ name rest, e.look (name :: rest) = none

theorem bare_file (contents : String) : (file contents).Bare := fun _ _ ↦ rfl

theorem bare_directory : (directory []).Bare := fun _ _ ↦ rfl

/-- A bare entry changes what is seen at its own location, and nowhere else. -/
theorem look_put {e new : Entry} {location : Location} (hbare : new.Bare)
    (hparent : location ≠ [] → e.look location.dropLast = some .directory)
    (hfree : e.look location ≠ some .directory) (l : Location) :
    (e.put location new).look l = if l = location then some new.sight else e.look l := by
  induction location generalizing e l with
  | nil =>
    rw [put]
    cases l with
    | nil => rw [look_nil, if_pos rfl]
    | cons name rest =>
      rw [if_neg (List.cons_ne_nil name rest), hbare]
      cases e with
      | directory entries => exact absurd rfl hfree
      | file contents => rfl
  | cons name rest ih =>
    have hparent := hparent (List.cons_ne_nil name rest)
    cases e with
    | file contents => cases rest <;> exact absurd hparent (by simp [sight])
    | directory entries =>
      -- The directory gets another entry of the first name.
      obtain ⟨e', hput, hlook⟩ : ∃ e', (directory entries).put (name :: rest) new =
          directory (assign name e' entries) ∧ ∀ r, e'.look r =
            if r = rest then some new.sight else (directory entries).look (name :: r) := by
        cases hlookup : List.lookup name entries with
        | some e' =>
          refine ⟨e'.put rest new, by rw [put, hlookup], fun r ↦ ?_⟩
          rw [look_directory_cons, hlookup, Option.bind_some] at hfree ⊢
          refine ih (fun hne ↦ ?_) hfree r
          rw [List.dropLast_cons_of_ne_nil hne, look_directory_cons, hlookup] at hparent
          exact hparent
        | none =>
          cases rest with
          | nil =>
            refine ⟨new, by rw [put, hlookup, List.isEmpty_nil, if_pos rfl], fun r ↦ ?_⟩
            rw [look_directory_cons, hlookup, Option.bind_none]
            cases r with
            | nil => rw [look_nil, if_pos rfl]
            | cons name' r => rw [hbare, if_neg (List.cons_ne_nil name' r)]
          | cons name' rest =>
            rw [List.dropLast_cons_of_ne_nil (List.cons_ne_nil name' rest), look_directory_cons,
              hlookup] at hparent
            exact absurd hparent (by simp)
      rw [hput]
      cases l with
      | nil => rw [if_neg (List.cons_ne_nil name rest).symm, look_nil, look_nil, sight, sight]
      | cons name' rest' =>
        rw [look_assign]
        by_cases hname : name' = name
        · rw [if_pos hname, hlook, hname]
          simp
        · rw [if_neg hname, if_neg fun h ↦ hname (List.cons.inj h).1]

end Entry

namespace FileSystem

/-- What is seen at a location. -/
def look (fs : FileSystem) (location : Location) : Option Sight := fs.root.look location

variable {fs : FileSystem} {location : Location}

theorem isDirectory_iff : fs.isDirectory location = true ↔ fs.look location = some .directory := by
  rw [isDirectory, contentAt?, look, Entry.look]
  cases fs.root.find? location with
  | none => simp
  | some e => cases e <;> simp [Entry.isDirectory, Entry.sight]

theorem look_dropLast (h : fs.look location = some .directory) :
    fs.look location.dropLast = some .directory := by
  cases location with
  | nil => exact h
  | cons name rest => exact Entry.look_dropLast (List.cons_ne_nil name rest) h

theorem look_put {new : Entry} (hbare : new.Bare)
    (hparent : location ≠ [] → fs.look location.dropLast = some .directory)
    (hfree : fs.look location ≠ some .directory) (l : Location) :
    (fs.put location new).look l = if l = location then some new.sight else fs.look l :=
  Entry.look_put hbare hparent hfree l

theorem look_append_of_empty {rest : Location}
    (h : fs.contentAt? location = some (.directory [])) (hne : rest ≠ []) :
    fs.look (location ++ rest) = none := by
  rw [contentAt?] at h
  cases rest with
  | nil => exact absurd rfl hne
  | cons name rest =>
    rw [look, Entry.look, Entry.find?_append, h, Option.bind_some]
    rfl

theorem read?_eq_some_iff {path contents : String} :
    fs.read? path = some contents ↔
      ∃ location, fs.locate? path = some location ∧
        fs.look location = some (.file contents) := by
  have hcontent : fs.read? path = some contents ↔ fs.find? path = some (.file contents) := by
    rw [read?]
    rcases fs.find? path with _ | _ | _ <;> simp
  rw [hcontent, find?, Option.bind_eq_some_iff]
  refine exists_congr fun location ↦ and_congr_right fun _ ↦ ?_
  rw [contentAt?, look, Entry.look]
  rcases fs.root.find? location with _ | _ | _ <;> simp [Entry.sight]

end FileSystem

end Interdomain
