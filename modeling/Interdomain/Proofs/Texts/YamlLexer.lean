import Interdomain.Proofs.Texts.YamlPlain
import Interdomain.Yaml.Token

/-!
# Tokens of printed YAML

A printed value is lexed token by token. Between two tokens the lexer is `ready`: outside of
brackets, with no key in suspense. From there it `Reads` on to the next such state. The blocks that
a value leaves open are closed only by the next token, but the tokens stay the same when they are
closed at the end of the value, because what follows is indented less (`agrees_end`).
-/

namespace Interdomain.Yaml

namespace Lexer

variable {rest cs : List Char} {place : Place} {blocks : List Nat} {keyAllowed : Bool}
  {ts : List Token} {l l' : Lexer}

/-- Between two tokens outside of brackets, with no key in suspense. -/
def ready (rest : List Char) (place : Place) (blocks : List Nat) (keyAllowed : Bool)
    (ts : List Token) : Lexer where
  rest
  place
  blocks
  keyAllowed
  tokens := ts.toArray

/-! ## Between tokens -/

/-- A character at which what is between two tokens is over. -/
structure IsSolid (c : Char) : Prop where
  gap : isGap c = false
  mark : c ≠ byteOrderMark
  hash : c ≠ '#'

instance : DecidablePred IsSolid := fun c ↦
  decidable_of_iff (isGap c = false ∧ c ≠ byteOrderMark ∧ c ≠ '#')
    ⟨fun h ↦ ⟨h.1, h.2.1, h.2.2⟩, fun h ↦ ⟨h.gap, h.mark, h.hash⟩⟩

theorem skip_of_isSolid {c : Char} (hrest : l.rest = c :: cs) (hc : IsSolid c) : l.skip = l := by
  obtain ⟨hgap, hmark, hhash⟩ := hc
  rw [isGap, isSpacing] at hgap
  simp only [Bool.or_eq_false_iff] at hgap
  obtain ⟨⟨⟨hspace, htab⟩, hbreak⟩, -⟩ := hgap
  rw [skip, hrest, skipFrom]
  simp only [hbreak, hspace, htab, beq_eq_false_iff_ne.2 hmark, beq_eq_false_iff_ne.2 hhash,
    Bool.false_and, Bool.or_self, Bool.false_eq_true, if_false]
  rw [← hrest]

theorem skip_of_nil (hrest : l.rest = []) : l.skip = l := by
  rw [skip, hrest, skipFrom, ← hrest]

theorem skipFrom_with_rest (l : Lexer) (rest : List Char) (inComment : Bool) (cs : List Char) :
    { l with rest }.skipFrom inComment cs = l.skipFrom inComment cs := by
  induction cs generalizing l inComment with
  | nil => rfl
  | cons c cs ih =>
    rw [skipFrom, skipFrom]
    by_cases hbreak : isBreak c = true
    · rw [if_pos hbreak, if_pos hbreak]
      exact ih { l with place := l.place.step c, keyAllowed := _ } false
    rw [if_neg hbreak, if_neg hbreak]
    by_cases hpass : (inComment || c == ' ' || (c == '\t' && (l.inFlow || !l.keyAllowed)) ||
        (c == byteOrderMark && l.place.column == 0)) = true
    · exact (if_pos hpass).trans
        ((ih { l with place := l.place.step c } inComment).trans (if_pos hpass).symm)
    refine (if_neg hpass).trans (.trans ?_ (if_neg hpass).symm)
    by_cases hcomment : (c == '#') = true
    · rw [if_pos hcomment, if_pos hcomment]
      exact ih { l with place := l.place.step c } true
    · rw [if_neg hcomment, if_neg hcomment]

theorem skip_space (hrest : l.rest = ' ' :: cs) :
    l.skip = { l with rest := cs, place := l.place.step ' ' }.skip := by
  rw [skip, hrest, skipFrom, if_neg (by decide), if_pos (by simp)]
  exact (skipFrom_with_rest { l with place := l.place.step ' ' } cs false cs).symm

theorem skip_newline (hrest : l.rest = '\n' :: cs) (hflow : l.outer = []) :
    l.skip = { l with rest := cs, place := l.place.step '\n', keyAllowed := true }.skip := by
  have hallowed : (l.keyAllowed || !l.inFlow) = true := by simp [inFlow, hflow]
  rw [skip, hrest, skipFrom, if_pos (by decide)]
  dsimp only
  rw [hallowed]
  exact (skipFrom_with_rest { l with place := l.place.step '\n', keyAllowed := true } cs false
    cs).symm

theorem skip_spaces (n : Nat) (hrest : l.rest = spaces n ++ cs) :
    l.skip = { l with rest := cs, place := l.place.after (spaces n) }.skip := by
  induction n generalizing l with
  | zero =>
    have hsame : l.rest = cs := hrest
    rw [← hsame]
    rfl
  | succ n ih =>
    have hcons : l.rest = ' ' :: (spaces n ++ cs) := hrest
    rw [skip_space hcons]
    exact ih rfl

theorem skip_of_head (h : ∀ c ∈ l.rest.head?, IsSolid c) : l.skip = l := by
  cases hrest : l.rest with
  | nil => exact skip_of_nil hrest
  | cons c cs => exact skip_of_isSolid hrest (h c (by rw [hrest]; rfl))

/-! ## Keys in suspense -/

/-- A candidate that need not be a key is given up on the next line. -/
theorem giveUpStale?_of_stale {candidate : Option Candidate}
    (hstale : ∀ c ∈ candidate, c.place.line < place.line ∧ c.required = false) :
    giveUpStale? place candidate = some none := by
  cases candidate with
  | none => rfl
  | some c =>
    obtain ⟨hline, hrequired⟩ := hstale c rfl
    simp [giveUpStale?, hline, giveUp?, hrequired]

theorem dropStale?_of_stale (hstale : ∀ c ∈ l.candidate, c.place.line < l.place.line ∧
    c.required = false) (hflow : l.outer = []) :
    l.dropStale? = some { l with candidate := none } := by
  rw [dropStale?, giveUpStale?_of_stale hstale, hflow]
  obtain ⟨rest, place, blocks, candidate, outer, keyAllowed, tokens⟩ := l
  obtain rfl : outer = [] := hflow
  rfl

/-- A candidate on the same line and not far away may still be a key. -/
theorem giveUpStale?_of_near {candidate : Option Candidate}
    (hnear : ∀ c ∈ candidate, place.line ≤ c.place.line ∧
      place.bytes ≤ c.place.bytes + longestKey) :
    giveUpStale? place candidate = some candidate := by
  cases candidate with
  | none => rfl
  | some c =>
    obtain ⟨hline, hbytes⟩ := hnear c rfl
    simp [giveUpStale?, Nat.not_lt.2 hline, Nat.not_lt.2 hbytes]

theorem dropStale?_of_near (hnear : ∀ c ∈ l.candidate, l.place.line ≤ c.place.line ∧
    l.place.bytes ≤ c.place.bytes + longestKey) (hflow : l.outer = []) :
    l.dropStale? = some l := by
  rw [dropStale?, giveUpStale?_of_near hnear, hflow]
  obtain ⟨rest, place, blocks, candidate, outer, keyAllowed, tokens⟩ := l
  obtain rfl : outer = [] := hflow
  rfl

theorem dropStale?_ready (rest : List Char) (place : Place) (blocks : List Nat) (keyAllowed : Bool)
    (ts : List Token) : (ready rest place blocks keyAllowed ts).dropStale?
      = some (ready rest place blocks keyAllowed ts) := rfl

/-! ## Runs -/

/-- All tokens are the same from two states. -/
def Agrees (l l' : Lexer) : Prop := ∀ fuel, run? fuel l = run? fuel l'

/-- From one state another is reached, with no more tokens than there are characters between them,
and all of these can stand in a document. -/
def Reads (l l' : Lexer) : Prop :=
  ∃ taken n, l.rest = taken ++ l'.rest ∧ n ≤ taken.length ∧ (∀ c ∈ taken, IsOrdinary c) ∧
    ∀ fuel, run? (fuel + n) l = run? fuel l'

theorem reads_of_agrees (h : Agrees l l') (hrest : l.rest = l'.rest) : Reads l l' :=
  ⟨[], 0, hrest, Nat.le_refl 0, by simp, h⟩

theorem Reads.trans {l'' : Lexer} (h : Reads l l') (h' : Reads l' l'') : Reads l l'' := by
  obtain ⟨taken, n, hrest, hn, hall, hrun⟩ := h
  obtain ⟨taken', n', hrest', hn', hall', hrun'⟩ := h'
  refine ⟨taken ++ taken', n + n', ?_, ?_, ?_, fun fuel ↦ ?_⟩
  · rw [hrest, hrest', List.append_assoc]
  · rw [List.length_append]
    exact Nat.add_le_add hn hn'
  · exact List.forall_mem_append.2 ⟨hall, hall'⟩
  · rw [Nat.add_comm n n', ← Nat.add_assoc, hrun, hrun']

/-- What stands between tokens makes no difference. -/
theorem agrees_of_skip (h : l.skip.dropStale? = l'.skip.dropStale?) : Agrees l l' := fun fuel ↦ by
  cases fuel with
  | zero => rfl
  | succ fuel => rw [run?, run?, h]

theorem reads_of_skip (taken : List Char) (h : l.skip.dropStale? = l'.skip.dropStale?)
    (hrest : l.rest = taken ++ l'.rest) (htaken : ∀ c ∈ taken, IsOrdinary c) : Reads l l' :=
  ⟨taken, 0, hrest, Nat.zero_le _, htaken, agrees_of_skip h⟩

theorem reads_token (taken : List Char) {l₁ : Lexer} {c : Char} (hsolid : l.rest = c :: cs)
    (hc : IsSolid c) (hfresh : l.dropStale? = some l) (hclosed : l.closeBlocks = l)
    (htoken : l.token? = some l₁) (hafter : l₁.skip.dropStale? = l'.skip.dropStale?)
    (hrest : l.rest = taken ++ l'.rest) (hne : taken ≠ []) (htaken : ∀ c ∈ taken, IsOrdinary c) :
    Reads l l' := by
  refine ⟨taken, 1, hrest, List.length_pos_iff.2 hne, htaken, fun fuel ↦ ?_⟩
  rw [run?, skip_of_isSolid hsolid hc, hfresh, Option.bind_eq_bind, Option.bind_some, hclosed,
    if_neg (by simp [hsolid]), htoken]
  exact agrees_of_skip hafter fuel

theorem reads_spaces (n : Nat) (cs : List Char) (place : Place) (blocks : List Nat)
    (keyAllowed : Bool) (ts : List Token) :
    Reads (ready (spaces n ++ cs) place blocks keyAllowed ts)
      (ready cs (place.after (spaces n)) blocks keyAllowed ts) := by
  refine reads_of_skip (spaces n) (congrArg dropStale? (skip_spaces n rfl)) rfl fun c hc ↦ ?_
  rw [List.eq_of_mem_replicate hc]
  decide

theorem reads_newline (cs : List Char) (place : Place) (blocks : List Nat) (keyAllowed : Bool)
    (ts : List Token) : Reads (ready ('\n' :: cs) place blocks keyAllowed ts)
      (ready cs (place.step '\n') blocks true ts) :=
  reads_of_skip ['\n'] (congrArg dropStale? (skip_newline rfl rfl)) rfl
    (List.forall_mem_singleton.2 (by decide))

/-! ## Ends of blocks -/

/-- The ends of some blocks. -/
def ends (blocks : List Nat) : List Token := blocks.map fun _ ↦ .blockEnd

theorem push_ready (t : Token) :
    (ready rest place blocks keyAllowed ts).push t
      = ready rest place blocks keyAllowed (ts ++ [t]) := by
  simp [ready, push]

theorem closeTo_ready (column : Nat) (before bs : List Nat) (ts : List Token) :
    closeTo column (ready rest place before keyAllowed ts) bs
      = ready rest place (bs.dropWhile (column < ·)) keyAllowed
        (ts ++ ends (bs.takeWhile (column < ·))) := by
  induction bs generalizing ts with
  | nil => rw [ends, List.takeWhile_nil, List.map_nil, List.append_nil]; rfl
  | cons b bs ih =>
    rw [closeTo]
    split
    case isTrue h =>
      rw [push_ready, ih, List.dropWhile_cons_of_pos (by simpa using h),
        List.takeWhile_cons_of_pos (by simpa using h), List.append_assoc]
      rfl
    case isFalse h =>
      rw [List.dropWhile_cons_of_neg (by simpa using h),
        List.takeWhile_cons_of_neg (by simpa using h), ends, List.map_nil, List.append_nil]
      rfl

theorem closeBlocks_ready : (ready rest place blocks keyAllowed ts).closeBlocks
    = ready rest place (blocks.dropWhile (place.column < ·)) keyAllowed
      (ts ++ ends (blocks.takeWhile (place.column < ·))) :=
  closeTo_ready place.column blocks blocks ts

/-- At the end of the text all blocks end. -/
theorem run?_nil (place : Place) (blocks : List Nat) (keyAllowed : Bool) (ts : List Token)
    (fuel : Nat) :
    run? (fuel + 1) (ready [] place blocks keyAllowed ts) = some (ts ++ ends blocks).toArray := by
  have hready : (ready [] place blocks keyAllowed ts).skip.dropStale?
      = some (ready [] place blocks keyAllowed ts) := rfl
  have hends : ends blocks = ends (blocks.takeWhile (place.column < ·))
      ++ ends (blocks.dropWhile (place.column < ·)) := by
    rw [ends, ends, ends, ← List.map_append, List.takeWhile_append_dropWhile]
  rw [run?, hready, Option.bind_eq_bind, Option.bind_some, closeBlocks_ready, hends]
  simp [ready, closeAllBlocks, inFlow, noKey?, giveUp?, ends]

theorem closeBlocks_of_le (hflow : l.outer = []) (h : ∀ b ∈ l.blocks.head?, b ≤ l.place.column) :
    l.closeBlocks = l := by
  obtain ⟨rest, place, blocks, candidate, outer, keyAllowed, tokens⟩ := l
  obtain rfl : outer = [] := hflow
  cases blocks with
  | nil => rfl
  | cons b bs => exact if_neg (Nat.not_lt.2 (h b rfl))

/-- What follows a block: nothing, or a line that is indented less than some columns. -/
inductive Follows (bound : Nat) : List Char → Prop where
  | nothing : Follows bound []
  | line {n : Nat} {c : Char} {cs : List Char} (hn : n < bound) (hc : IsSolid c) :
    Follows bound (spaces n ++ c :: cs)

theorem Follows.mono {bound bound' : Nat} (h : Follows bound rest) (hle : bound ≤ bound') :
    Follows bound' rest := by
  cases h with
  | nothing => exact .nothing
  | line hn hc => exact .line (Nat.lt_of_lt_of_le hn hle) hc

theorem Follows.exists_spaces {bound : Nat} {after : List Char} (h : Follows bound after) :
    ∃ n tail, after = spaces n ++ tail ∧ (tail ≠ [] → n < bound) ∧
      ∀ c ∈ tail.head?, IsSolid c := by
  cases h with
  | nothing => exact ⟨0, [], rfl, by simp, by simp⟩
  | @line n c cs hn hc => exact ⟨n, c :: cs, rfl, fun _ ↦ hn, by simpa using hc⟩

/-- A block ends where less indented text follows. -/
theorem agrees_end {b : Nat} (h : Follows b rest) (hplace : place.column = 0) :
    Agrees (ready rest place (b :: blocks) keyAllowed ts)
      (ready rest place blocks keyAllowed (ts ++ [.blockEnd])) := by
  cases h with
  | nothing =>
    rintro (_ | fuel)
    · rfl
    · rw [run?_nil, run?_nil, ends, ends, List.map_cons, List.append_assoc,
        List.singleton_append]
  | @line n c cs hn hc =>
    rintro (_ | fuel)
    · rfl
    have hskip : ∀ blocks ts, (ready (spaces n ++ c :: cs) place blocks keyAllowed ts).skip
        = ready (c :: cs) (place.after (spaces n)) blocks keyAllowed ts := fun blocks ts ↦
      (skip_spaces n rfl).trans (skip_of_isSolid rfl hc)
    have hcolumn : (place.after (spaces n)).column < b := by
      rw [PlainText.after_spaces, hplace, Nat.zero_add]
      exact hn
    have hclose : (ready (c :: cs) (place.after (spaces n)) (b :: blocks) keyAllowed ts).closeBlocks
        = (ready (c :: cs) (place.after (spaces n)) blocks keyAllowed
          (ts ++ [.blockEnd])).closeBlocks := by
      rw [closeBlocks_ready, closeBlocks_ready, List.dropWhile_cons_of_pos (by simpa using hcolumn),
        List.takeWhile_cons_of_pos (by simpa using hcolumn), List.append_assoc]
      rfl
    rw [run?, run?, hskip, hskip, dropStale?_ready, dropStale?_ready]
    simp only [Option.bind_eq_bind, Option.bind_some, hclose]

end Lexer

end Interdomain.Yaml
