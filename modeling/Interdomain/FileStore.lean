/-!
# Stores of files

What a program needs of the place where its files are. The program is written for any such place, so
it runs on the files of a computer and on a model of them alike.
-/

namespace Interdomain

/-- A place where files are found by path. -/
class FileStore (m : Type → Type) where
  /-- The contents of a file, if there is one at a path. -/
  read? : String → m (Option String)
  /-- Whether there is a file or a directory at a path. -/
  isThere : String → m Bool
  /-- Remove a directory with all that is in it, and tell whether that was possible. -/
  remove : String → m Bool
  /-- Write a file, make the directories on the way to it, and tell whether that was possible. -/
  write : String → String → m Bool

end Interdomain
