/-!
# Splitting texts

A text is split at every occurrence of a character. There is always at least one part, and parts may
be empty.
-/

namespace Interdomain

/-- Split a text at every occurrence of a character. -/
def splitAll (sep : Char) : List Char → List (List Char)
  | [] => [[]]
  | c :: cs =>
    if c = sep then [] :: splitAll sep cs
    else match splitAll sep cs with
      | [] => [[c]]
      | part :: parts => (c :: part) :: parts

theorem splitAll_ne_nil (sep : Char) (cs : List Char) : splitAll sep cs ≠ [] := by
  cases cs with
  | nil => simp [splitAll]
  | cons c cs =>
    unfold splitAll
    split
    · simp
    · split <;> simp

theorem splitAll_append (sep : Char) (cs cs' : List Char) :
    splitAll sep (cs ++ sep :: cs') = splitAll sep cs ++ splitAll sep cs' := by
  induction cs with
  | nil => simp [splitAll]
  | cons c cs ih =>
    rw [List.cons_append, splitAll, splitAll]
    split
    case isTrue => rw [ih, List.cons_append]
    case isFalse =>
      rw [ih]
      cases h : splitAll sep cs with
      | nil => exact absurd h (splitAll_ne_nil sep cs)
      | cons part parts => rfl

theorem splitAll_of_not_mem {sep : Char} {cs : List Char} (h : sep ∉ cs) :
    splitAll sep cs = [cs] := by
  induction cs with
  | nil => rfl
  | cons c cs ih =>
    obtain ⟨hc, hcs⟩ := not_or.1 fun hmem ↦ h (List.mem_cons.2 hmem)
    rw [splitAll, if_neg (Ne.symm hc), ih hcs]

end Interdomain
