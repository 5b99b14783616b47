import Interdomain.Proofs.Texts.YamlLexer

/-!
# Tokens of printed lines

What stands on a line of a printed value is lexed in a few steps: the dash before an item
(`reads_item`), a key with its colon (`reads_key`), and a scalar or empty brackets up to the end of
the line (`reads_line`, `reads_brackets`). A scalar may be a key until the colon comes or the line
ends, so the lexer is not `ready` right behind it.
-/

namespace Interdomain.Yaml

namespace Lexer

variable {rest cs : List Char} {place : Place} {blocks : List Nat} {keyAllowed : Bool}
  {ts : List Token} {l l' : Lexer}

/-! ## Items -/

theorem startsMarker_eq_false {c : Char} (h : c ≠ '-' ∧ c ≠ '.') (cs : List Char) :
    startsMarker "---" (c :: cs) = false ∧ startsMarker "..." (c :: cs) = false := by
  have hdash : "---".toList = ['-', '-', '-'] := rfl
  have hdot : "...".toList = ['.', '.', '.'] := rfl
  constructor
  · simp [startsMarker, hdash, List.isPrefixOf, Ne.symm h.1]
  · simp [startsMarker, hdot, List.isPrefixOf, Ne.symm h.2]

theorem insertIdx_length (before after : List Token) (t : Token) :
    (before ++ after).insertIdx before.length t = before ++ t :: after := by
  induction before with
  | nil => rfl
  | cons b before ih =>
    rw [List.cons_append, List.length_cons, List.insertIdx_succ_cons, ih, List.cons_append]

/-- A token of a block stands in the block that is open, or it opens one. -/
inductive Opening (blocks : List Nat) (column : Nat) (t : Token) :
    List Nat → List Token → Prop where
  | within (h : blocks.head? = some column) : Opening blocks column t blocks []
  | anew (h : ∀ b ∈ blocks.head?, b < column) : Opening blocks column t (column :: blocks) [t]

variable {blocks' : List Nat} {new : List Token} {column : Nat}

theorem openBlock_ready (rest : List Char) (place : Place) (keyAllowed : Bool) {t : Token}
    (h : Opening blocks column t blocks' new) (before after : List Token) :
    (ready rest place blocks keyAllowed (before ++ after)).openBlock column before.length t
      = ready rest place blocks' keyAllowed (before ++ new ++ after) := by
  have hflow : (ready rest place blocks keyAllowed (before ++ after)).inFlow = false := rfl
  cases h with
  | within h =>
    obtain ⟨bs, rfl⟩ := List.head?_eq_some_iff.1 h
    have hbound : (ready rest place (column :: bs) keyAllowed (before ++ after)).bound
        = column + 1 := rfl
    rw [openBlock, hflow, hbound, if_pos (by simp), List.append_nil]
  | anew h =>
    have hbound : ¬column < (ready rest place blocks keyAllowed (before ++ after)).bound := by
      cases blocks with
      | nil => exact Nat.not_lt_zero column
      | cons b bs => exact Nat.not_lt.2 (h b rfl)
    rw [openBlock, if_neg (by simp [hflow, hbound])]
    simp only [ready, List.insertIdxIfInBounds_toArray, insertIdx_length, List.append_assoc,
      List.singleton_append]

theorem head_le_of_opening {t : Token} (h : Opening blocks column t blocks' new) :
    ∀ b ∈ blocks.head?, b ≤ column := by
  intro b hb
  cases h with
  | within h =>
    rw [Option.mem_def, h] at hb
    exact Nat.le_of_eq (Option.some.inj hb).symm
  | anew h => exact Nat.le_of_lt (h b hb)

theorem token?_item (h : Opening blocks place.column .blockSequence blocks' new) :
    (ready ('-' :: ' ' :: cs) place blocks true ts).token?
      = some (ready (' ' :: cs) (place.step '-') blocks' true (ts ++ new ++ [.item])) := by
  have hdash : startsMarker "---" ('-' :: ' ' :: cs) = false := by
    have hlist : "---".toList = ['-', '-', '-'] := rfl
    simp [startsMarker, hlist, List.isPrefixOf]
  have hdot : startsMarker "..." ('-' :: ' ' :: cs) = false := by
    have hlist : "...".toList = ['.', '.', '.'] := rfl
    simp [startsMarker, hlist, List.isPrefixOf]
  have hgap : atGap (' ' :: cs) = true := rfl
  have hitem : (ready ('-' :: ' ' :: cs) place blocks true ts).item?
      = some (ready (' ' :: cs) (place.step '-') blocks' true (ts ++ new ++ [.item])) := by
    have hopen := openBlock_ready ('-' :: ' ' :: cs) place true h ts []
    rw [List.append_nil, List.append_nil] at hopen
    have hhere : (ready ('-' :: ' ' :: cs) place blocks true ts).openBlockHere? .blockSequence
        = some (ready ('-' :: ' ' :: cs) place blocks' true (ts ++ new)) := congrArg some hopen
    rw [item?, hhere, Option.bind_eq_bind, Option.bind_some]
    simp [noKey?, giveUp?, ready, take, pass, push, Place.after]
  rw [token?.eq_def]
  simp only [ready] at hitem ⊢
  simp [hdash, hdot, hgap, hitem]

/-- **A dash before an item**, with the block that it may open. -/
theorem reads_item (h : Opening blocks place.column .blockSequence blocks' new) :
    Reads (ready ('-' :: ' ' :: cs) place blocks true ts)
      (ready cs (place.after ['-', ' ']) blocks' true (ts ++ new ++ [.item])) :=
  reads_token ['-', ' '] rfl (by decide) (dropStale?_ready ..)
    (closeBlocks_of_le rfl (head_le_of_opening h)) (token?_item h)
    (congrArg dropStale? (skip_space rfl)) rfl (by simp)
    (List.forall_mem_cons.2 ⟨by decide, List.forall_mem_singleton.2 (by decide)⟩)

/-! ## Scalars -/

/-- A scalar as it is written on one line, and the token that it is read as. -/
inductive Writes : List Char → Token → Prop where
  | plain {cs : List Char} (h : IsPlain cs) : Writes cs (.plain (String.ofList cs))
  | single {cs : List Char} (h : OnOneLine cs) (hprintable : ∀ c ∈ cs, isPrintable c = true) :
    Writes ('\'' :: (QuotedText.doubled cs ++ ['\''])) (.quoted (String.ofList cs))
  | double (cs : List Char) :
    Writes ('"' :: (cs.flatMap escape ++ ['"'])) (.quoted (String.ofList cs))

/-- The key that a text may turn out to be. -/
def suspended (place : Place) (blocks : List Nat) (keyAllowed : Bool) (ts : List Token) :
    Option Candidate :=
  if keyAllowed then some ⟨ts.length, place, blocks.head? == some place.column⟩ else none

/-- After a scalar, which may turn out to be a key. -/
def scanned (rest : List Char) (place : Place) (blocks : List Nat) (candidate : Option Candidate)
    (keyAllowed : Bool) (ts : List Token) : Lexer :=
  { ready rest place blocks keyAllowed ts with candidate }

theorem remember?_ready : (ready rest place blocks keyAllowed ts).remember?
    = some (scanned rest place blocks (suspended place blocks keyAllowed ts) keyAllowed ts) := by
  cases keyAllowed
  · rfl
  · simp [remember?, ready, scanned, suspended, giveUp?, inFlow]

theorem quoted?_ready {text : QuotedText} (h : QuotedText.scan? rest = some text) :
    (ready rest place blocks keyAllowed ts).quoted?
      = some (scanned (rest.drop text.taken.length) (place.after text.taken) blocks
          (suspended place blocks keyAllowed ts) false
            (ts ++ [.quoted (String.ofList text.text)])) := by
  have hrest : (ready rest place blocks keyAllowed ts).rest = rest := rfl
  rw [quoted?, hrest, h, remember?_ready]
  simp [scanned, ready, pass, push]

theorem plain?_ready {text : PlainText}
    (h : PlainText.scan? false (ready rest place blocks keyAllowed ts).bound place rest
      = some text) :
    (ready rest place blocks keyAllowed ts).plain?
      = some (scanned (rest.drop text.taken.length) (place.after text.taken) blocks
          (suspended place blocks keyAllowed ts) text.brokeLine
            (ts ++ [.plain (String.ofList text.text)])) := by
  have hrest : (ready rest place blocks keyAllowed ts).rest = rest := rfl
  have hflow : (ready rest place blocks keyAllowed ts).inFlow = false := rfl
  have hplace : (ready rest place blocks keyAllowed ts).place = place := rfl
  rw [plain?, hflow, hrest, hplace, h, remember?_ready]
  simp [scanned, ready, pass, push]

theorem token?_quote {c : Char} (hc : c = '\'' ∨ c = '"') :
    (ready (c :: cs) place blocks keyAllowed ts).token?
      = (ready (c :: cs) place blocks keyAllowed ts).quoted? := by
  have hmarker := startsMarker_eq_false (c := c) (by rcases hc with rfl | rfl <;> decide) cs
  rw [token?.eq_def]
  rcases hc with rfl | rfl <;> simp [ready, hmarker.1, hmarker.2]

/-- A text that starts with no marker starts with none when something else follows. -/
theorem startsMarker_append {c : Char} {cs after : List Char} {marker : String}
    (hcs : marker.toList.isPrefixOf cs = false) (hmarker : marker.toList = [c, c, c])
    (hafter : after.head? ≠ some c) : startsMarker marker (cs ++ after) = false := by
  rw [startsMarker, Bool.and_eq_false_iff]
  refine .inl (Bool.eq_false_iff.2 fun hprefix ↦ ?_)
  rw [List.isPrefixOf_iff_prefix] at hprefix
  rcases Nat.lt_or_ge cs.length 3 with hshort | hlong
  · obtain ⟨more, hmore⟩ := hprefix
    have hhead : (marker.toList ++ more)[cs.length]? = some c := by
      have hreplicate : [c, c, c] = List.replicate 3 c := rfl
      rw [hmarker, List.getElem?_append_left hshort, hreplicate,
        List.getElem?_replicate_of_lt hshort]
    rw [hmore, List.getElem?_append_right (Nat.le_refl _), Nat.sub_self, ← List.head?_eq_getElem?]
      at hhead
    exact hafter hhead
  · have hle : marker.toList.length ≤ cs.length := by rwa [hmarker]
    have hshorter := List.prefix_of_prefix_length_le hprefix (List.prefix_append cs after) hle
    rw [← List.isPrefixOf_iff_prefix, hcs] at hshorter
    exact absurd hshorter (by simp)

theorem startsPlain_of_isPlain {c : Char} (h : IsPlain (c :: cs)) : startsPlain c = true := by
  have hne := fun d (hd : startIndicators.contains d = true) ↦ h.ne hd
  simp [startsPlain, PlainText.isFlowIndicator, h.not_isGap, hne '|' (by decide),
    hne '>' (by decide), hne '\'' (by decide), hne '"' (by decide), hne '%' (by decide),
    hne '@' (by decide), hne '\x60' (by decide), hne '&' (by decide), hne '*' (by decide),
    hne '!' (by decide), hne '#' (by decide), hne ',' (by decide), hne '[' (by decide),
    hne ']' (by decide), hne '\x7b' (by decide), hne '\x7d' (by decide)]

theorem token?_plain {after : List Char} (h : IsPlain cs) (hdash : after.head? ≠ some '-')
    (hdot : after.head? ≠ some '.') :
    (ready (cs ++ after) place blocks keyAllowed ts).token?
      = (ready (cs ++ after) place blocks keyAllowed ts).plain? := by
  have hnodash := startsMarker_append h.not_marker.1 rfl hdash
  have hnodot := startsMarker_append h.not_marker.2 rfl hdot
  obtain ⟨c, cs, rfl⟩ := List.exists_cons_of_ne_nil h.ne_nil
  have hgapped := h.indicator_cons.2
  have hne := fun d (hd : startIndicators.contains d = true) ↦ h.ne hd
  rw [List.cons_append] at hnodash hnodot ⊢
  have hmarks : ¬(place.column == 0 && startsMarker "---" (c :: (cs ++ after))) = true ∧
      ¬(place.column == 0 && startsMarker "..." (c :: (cs ++ after))) = true ∧
      ¬(place.column == 0 && c == '%') = true := by
    simp [hnodash, hnodot, hne '%' (by decide)]
  rw [token?.eq_def]
  simp only [ready]
  refine (if_neg hmarks.1).trans ((if_neg hmarks.2.1).trans ((if_neg hmarks.2.2).trans ?_))
  split
  case h_1 | h_2 | h_3 | h_4 | h_5 | h_6 | h_7 | h_8 => exact absurd rfl (hne _ (by decide))
  case h_9 =>
    -- A dash, a question mark and a colon are tokens before gaps only.
    have htokens : ∀ d, (d == '?' || d == ':' || d == '-') = true →
        (c == d && atGap (cs ++ after)) = false := by
      intro d hd
      rw [Bool.and_eq_false_iff, beq_eq_false_iff_ne]
      by_cases hc : c = d
      · exact .inr (PlainText.atGap_append (hgapped (hc ▸ hd)) after)
      · exact .inl hc
    have hflow : (ready (c :: (cs ++ after)) place blocks keyAllowed ts).inFlow = false := rfl
    have hbar : (c == '|') = false := beq_eq_false_iff_ne.2 (hne '|' (by decide))
    have hgreater : (c == '>') = false := beq_eq_false_iff_ne.2 (hne '>' (by decide))
    simp only [ready] at hflow
    simp only [hflow, Bool.false_or, htokens '-' rfl, htokens '?' rfl, htokens ':' rfl, hbar,
      hgreater, startsPlain_of_isPlain h, Bool.false_and, Bool.false_eq_true, if_false, if_true]

variable {p : List Char} {t : Token}

theorem Writes.exists_cons (h : Writes p t) : ∃ c cs, p = c :: cs ∧ IsSolid c := by
  cases h with
  | single => exact ⟨'\'', _, rfl, by decide⟩
  | double => exact ⟨'"', _, rfl, by decide⟩
  | plain h =>
    obtain ⟨c, cs, rfl⟩ := List.exists_cons_of_ne_nil h.ne_nil
    refine ⟨c, cs, rfl, h.not_isGap, ?_, ?_⟩
    · rintro rfl
      exact absurd (h.printable _ List.mem_cons_self) (by decide)
    · rintro rfl
      exact absurd h.indicator_cons.1 (by decide)

theorem Writes.onOneLine (h : Writes p t) : OnOneLine p := by
  cases h with
  | plain h => exact h.line
  | single h _ => exact (QuotedText.onOneLine_doubled h).between (by decide)
  | double cs => exact (QuotedText.onOneLine_flatMap_escape cs).between (by decide)

theorem drop_cons_append (quote : Char) (cs after : List Char) :
    (quote :: (cs ++ quote :: after)).drop (quote :: (cs ++ [quote])).length = after := by
  have hsplit : quote :: (cs ++ quote :: after) = quote :: (cs ++ [quote]) ++ after := by simp
  rw [hsplit, List.drop_left]

/-- A scalar before something that it does not take along. -/
theorem Writes.token? (h : Writes p t) (place : Place) (blocks : List Nat) (keyAllowed : Bool)
    (ts : List Token) {after gap : List Char} {broke : Bool}
    (hends : PlainText.Ends (ready after place blocks keyAllowed ts).bound after gap broke)
    (hhead : ∀ c ∈ after.head?, c ≠ '\'' ∧ c ≠ '-' ∧ c ≠ '.') :
    ∃ passed allowed, (ready (p ++ after) place blocks keyAllowed ts).token?
        = some (scanned (after.drop passed.length) (place.after (p ++ passed)) blocks
          (suspended place blocks keyAllowed ts) allowed (ts ++ [t])) ∧
      (passed = [] ∧ allowed = false ∨ passed = gap ∧ allowed = broke) := by
  have hquote : after.head? ≠ some '\'' := fun h ↦ (hhead _ h).1 rfl
  cases h with
  | plain h =>
    refine ⟨gap, broke, ?_, .inr ⟨rfl, rfl⟩⟩
    have hscan := PlainText.scan?_append h hends place
    have hdrop : (p ++ after).drop (p ++ gap).length = after.drop gap.length := by
      rw [List.length_append, ← List.drop_drop, List.drop_left]
    rw [token?_plain h (fun h ↦ (hhead _ h).2.1 rfl) (fun h ↦ (hhead _ h).2.2 rfl),
      plain?_ready hscan]
    simp only [hdrop]
  | @single cs h _ =>
    refine ⟨[], false, ?_, .inl ⟨rfl, rfl⟩⟩
    have hscan := QuotedText.scan?_single h hquote
    rw [List.append_nil, List.cons_append, List.append_assoc, List.singleton_append,
      token?_quote (.inl rfl), quoted?_ready hscan]
    simp only [drop_cons_append]
    rfl
  | double cs =>
    refine ⟨[], false, ?_, .inl ⟨rfl, rfl⟩⟩
    have hscan := QuotedText.scan?_double cs after
    rw [List.append_nil, List.cons_append, List.append_assoc, List.singleton_append,
      token?_quote (.inr rfl), quoted?_ready hscan]
    simp only [drop_cons_append]
    rfl

theorem Writes.isOrdinary (h : Writes p t) : ∀ c ∈ p, IsOrdinary c := by
  cases h with
  | plain h => exact fun c hc ↦ isOrdinary_of_isPrintable (h.printable c hc)
  | single _ hprintable =>
    refine List.forall_mem_cons.2 ⟨by decide, List.forall_mem_append.2
      ⟨fun c hc ↦ ?_, List.forall_mem_singleton.2 (by decide)⟩⟩
    exact isOrdinary_of_isPrintable (hprintable c (QuotedText.mem_of_mem_doubled hc))
  | double =>
    exact List.forall_mem_cons.2 ⟨by decide, List.forall_mem_append.2
      ⟨fun c hc ↦ QuotedText.isOrdinary_of_mem_flatMap_escape hc,
        List.forall_mem_singleton.2 (by decide)⟩⟩

/-- A scalar is not much longer than its text. -/
theorem Writes.byteCount_le {s : String} (h : Writes p t) (ht : t = .plain s ∨ t = .quoted s) :
    byteCount p ≤ 6 * s.utf8ByteSize + 2 := by
  have hquotes : byteCount ['\''] = 1 ∧ byteCount ['"'] = 1 := by decide
  cases h with
  | plain h =>
    obtain rfl : String.ofList p = s := by simpa using ht
    rw [← byteCount_toList, String.toList_ofList]
    omega
  | @single cs =>
    obtain rfl : String.ofList cs = s := by simpa using ht
    have hle := QuotedText.byteCount_doubled_le cs
    rw [← byteCount_toList, String.toList_ofList, ← List.singleton_append, byteCount_append,
      byteCount_append, hquotes.1]
    omega
  | double cs =>
    obtain rfl : String.ofList cs = s := by simpa using ht
    have hle := byteCount_flatMap_le QuotedText.byteCount_escape_le cs
    rw [← byteCount_toList, String.toList_ofList, ← List.singleton_append, byteCount_append,
      byteCount_append, hquotes.2]
    omega

theorem token?_colon {place' : Place} {required : Bool} (hgap : atGap cs = true)
    (h : Opening blocks place.column .blockMapping blocks' new) :
    (scanned (':' :: cs) place' blocks (some ⟨ts.length, place, required⟩) keyAllowed
      (ts ++ [t])).token?
        = some (ready cs (place'.step ':') blocks' false (ts ++ new ++ [.key, t, .value])) := by
  have hmarker := startsMarker_eq_false (c := ':') (by decide) cs
  have hinsert : (ts ++ [t]).toArray.insertIdxIfInBounds ts.length .key
      = (ts ++ [.key, t]).toArray := by
    rw [List.insertIdxIfInBounds_toArray, insertIdx_length]
  have hopen := openBlock_ready (':' :: cs) place' false h ts [.key, t]
  have hvalue : (scanned (':' :: cs) place' blocks (some ⟨ts.length, place, required⟩) keyAllowed
      (ts ++ [t])).value?
        = some (ready cs (place'.step ':') blocks' false (ts ++ new ++ [.key, t, .value])) := by
    simp only [ready] at hopen
    simp [value?, scanned, ready, hinsert, hopen, take, pass, push, Place.after]
  rw [token?.eq_def]
  simp only [scanned, ready] at hvalue ⊢
  simp [hmarker.1, hmarker.2, hgap, hvalue]

/-- **A key**, up to the colon behind it, with the block that it may open. -/
theorem reads_key (h : Writes p t) (hsize : byteCount p ≤ longestKey) (hgap : atGap cs = true)
    (hopening : Opening blocks place.column .blockMapping blocks' new) :
    Reads (ready (p ++ ':' :: cs) place blocks true ts)
      (ready cs (place.after (p ++ [':'])) blocks' false (ts ++ new ++ [.key, t, .value])) := by
  obtain ⟨c, p, rfl, hc⟩ := h.exists_cons
  have hle := head_le_of_opening hopening
  obtain ⟨passed, allowed, htoken, hpassed⟩ := h.token? place blocks true ts
    (PlainText.ends_colon hgap) (by simp)
  obtain ⟨rfl, rfl⟩ : passed = [] ∧ allowed = false := by
    rcases hpassed with ⟨rfl, rfl⟩ | ⟨rfl, rfl⟩ <;> exact ⟨rfl, rfl⟩
  rw [List.append_nil, List.length_nil, List.drop_zero] at htoken
  have hfirst : Reads (ready (c :: p ++ ':' :: cs) place blocks true ts)
      (scanned (':' :: cs) (place.after (c :: p)) blocks (suspended place blocks true ts) false
        (ts ++ [t])) :=
    reads_token (c :: p) rfl hc (dropStale?_ready ..) (closeBlocks_of_le rfl hle) htoken rfl rfl
      (by simp) h.isOrdinary
  have hafter : place.after (c :: p)
      = ⟨place.line, place.column + (c :: p).length, place.bytes + byteCount (c :: p)⟩ :=
    PlainText.after_of_onOneLine h.onOneLine place
  refine hfirst.trans (reads_token [':'] rfl (by decide)
    (dropStale?_of_near (fun k hk ↦ ?_) rfl) (closeBlocks_of_le rfl fun b hb ↦ ?_)
    (token?_colon hgap hopening) ?_ rfl (by simp) (List.forall_mem_singleton.2 (by decide)))
  · obtain rfl : _ = k := Option.some.inj hk
    rw [scanned, ready, hafter]
    dsimp only
    omega
  · have hcolumn := hle b hb
    rw [scanned, ready, hafter]
    dsimp only
    omega
  · rw [Place.after, Place.after, List.foldl_append]
    rfl

/-! ## Lines -/

variable {candidate : Option Candidate} {after : List Char} {bound : Nat}

/-- On the next line a text that may have been a key is none. -/
theorem skip_dropStale?_of_gap {n : Nat} {tail : List Char} (htail : ∀ c ∈ tail.head?, IsSolid c)
    (hstale : ∀ c ∈ candidate, c.place.line ≤ place.line ∧ c.required = false) :
    (scanned tail (place.after ('\n' :: spaces n)) blocks candidate true ts).skip.dropStale?
      = (ready (spaces n ++ tail) ⟨place.line + 1, 0, 0⟩ blocks true ts).skip.dropStale? := by
  have hstep : place.step '\n' = ⟨place.line + 1, 0, 0⟩ := rfl
  have hline : (place.after ('\n' :: spaces n)).line = place.line + 1 := by
    rw [Place.after, List.foldl_cons, ← Place.after, PlainText.after_spaces, hstep]
  have hright : (ready (spaces n ++ tail) (place.step '\n') blocks true ts).skip
      = ready tail (place.after ('\n' :: spaces n)) blocks true ts :=
    (skip_spaces n rfl).trans (skip_of_head htail)
  rw [skip_of_head (l := scanned tail _ blocks candidate true ts) htail, ← hstep, hright]
  exact dropStale?_of_stale (fun c hc ↦ ⟨hline ▸ Nat.lt_succ_of_le (hstale c hc).1,
    (hstale c hc).2⟩) rfl

theorem skip_dropStale?_of_newline (hafter : Follows bound after)
    (hstale : ∀ c ∈ candidate, c.place.line ≤ place.line ∧ c.required = false) :
    (scanned ('\n' :: after) place blocks candidate keyAllowed ts).skip.dropStale?
      = (ready after ⟨place.line + 1, 0, 0⟩ blocks true ts).skip.dropStale? := by
  obtain ⟨n, tail, rfl, -, htail⟩ := hafter.exists_spaces
  have hskip : (scanned ('\n' :: (spaces n ++ tail)) place blocks candidate keyAllowed ts).skip
      = (scanned tail (place.after ('\n' :: spaces n)) blocks candidate true ts).skip :=
    (skip_newline rfl rfl).trans (skip_spaces n rfl)
  rw [hskip, skip_dropStale?_of_gap htail hstale]

/-- A text that is indented more than the block around it need not be a key. -/
theorem not_required_of_mem_suspended (hcolumn : ∀ b ∈ blocks.head?, b < place.column) :
    ∀ c ∈ suspended place blocks keyAllowed ts, c.place = place ∧ c.required = false := by
  intro c hc
  rw [suspended] at hc
  split at hc
  case isFalse => exact absurd hc (by simp)
  case isTrue =>
    obtain rfl := Option.some.inj hc
    exact ⟨rfl, beq_eq_false_iff_ne.2 fun heq ↦ Nat.lt_irrefl _ (hcolumn _ heq)⟩

/-- The least column of what belongs to the innermost of some blocks. -/
def boundOf : List Nat → Nat
  | [] => 0
  | b :: _ => b + 1

/-- **A scalar at the end of a line.** -/
theorem reads_line (h : Writes p t) (place : Place) (blocks : List Nat) (keyAllowed : Bool)
    (ts : List Token) (hafter : Follows (boundOf blocks) after)
    (hcolumn : ∀ b ∈ blocks.head?, b < place.column) :
    Reads (ready (p ++ '\n' :: after) place blocks keyAllowed ts)
      (ready after ⟨place.line + 1, 0, 0⟩ blocks true (ts ++ [t])) := by
  obtain ⟨c, p, rfl, hc⟩ := h.exists_cons
  obtain ⟨n, tail, hspaces, hn, htail⟩ := hafter.exists_spaces
  have hbound : ∀ rest, (ready rest place blocks keyAllowed ts).bound = boundOf blocks := by
    intro rest
    cases blocks <;> rfl
  have hends : PlainText.Ends (ready ('\n' :: after) place blocks keyAllowed ts).bound
      ('\n' :: after) ('\n' :: spaces n) true := by
    rw [hbound, hspaces]
    exact PlainText.ends_line (fun c hc ↦ (htail c hc).gap) hn
  obtain ⟨passed, allowed, htoken, hpassed⟩ := h.token? place blocks keyAllowed ts hends
    (by simp)
  have hle : ∀ b ∈ blocks.head?, b ≤ place.column := fun b hb ↦ Nat.le_of_lt (hcolumn b hb)
  have hline : (place.after (c :: p)).line = place.line := by
    rw [PlainText.after_of_onOneLine h.onOneLine place]
  have hstale : ∀ k ∈ suspended place blocks keyAllowed ts,
      k.place.line ≤ (place.after (c :: p)).line ∧ k.required = false := fun k hk ↦ by
    obtain ⟨rfl, hrequired⟩ := not_required_of_mem_suspended hcolumn k hk
    exact ⟨Nat.le_of_eq hline.symm, hrequired⟩
  refine reads_token (c :: p ++ ['\n']) rfl hc (dropStale?_ready ..) (closeBlocks_of_le rfl hle)
    htoken ?_ (by rw [List.append_assoc]; rfl) (by simp)
    (List.forall_mem_append.2 ⟨h.isOrdinary, List.forall_mem_singleton.2 (by decide)⟩)
  rcases hpassed with ⟨rfl, rfl⟩ | ⟨rfl, rfl⟩
  · rw [List.append_nil, List.length_nil, List.drop_zero, ← hline]
    exact skip_dropStale?_of_newline hafter hstale
  · have hdrop : ('\n' :: after).drop ('\n' :: spaces n).length = tail := by
      rw [hspaces, ← List.cons_append, List.drop_left]
    rw [hdrop, Place.after, List.foldl_append, hspaces, ← hline]
    exact skip_dropStale?_of_gap htail hstale

/-! ## Brackets -/

/-- Brackets and their tokens. -/
inductive Brackets : Char → Token → Char → Token → Prop where
  | square : Brackets '[' .openBracket ']' .closeBracket
  | curly : Brackets '\x7b' .openBrace '\x7d' .closeBrace

/-- Behind a bracket that is open. -/
def inside (rest : List Char) (place : Place) (blocks : List Nat) (candidate : Option Candidate)
    (ts : List Token) : Lexer :=
  { ready rest place blocks true ts with outer := [candidate] }

variable {o c : Char} {t' : Token}

theorem Brackets.isSolid (h : Brackets o t c t') : IsSolid o ∧ IsSolid c := by
  cases h <;> decide

theorem Brackets.isOrdinary (h : Brackets o t c t') : IsOrdinary o ∧ IsOrdinary c := by
  cases h <;> decide

theorem token?_open (h : Brackets o t c t') :
    (ready (o :: rest) place blocks keyAllowed ts).token?
      = some (inside rest (place.step o) blocks (suspended place blocks keyAllowed ts)
        (ts ++ [t])) := by
  have hmarker := startsMarker_eq_false (c := o) (by cases h <;> decide) rest
  have hopen : (ready (o :: rest) place blocks keyAllowed ts).open? t
      = some (inside rest (place.step o) blocks (suspended place blocks keyAllowed ts)
        (ts ++ [t])) := by
    rw [open?, remember?_ready]
    simp [inside, scanned, ready, take, pass, push, Place.after]
  rw [token?.eq_def]
  simp only [ready] at hopen ⊢
  cases h <;> simp [hmarker.1, hmarker.2, hopen]

theorem token?_close (h : Brackets o t c t') :
    (inside (c :: rest) place blocks candidate ts).token?
      = some (scanned rest (place.step c) blocks candidate false (ts ++ [t'])) := by
  have hmarker := startsMarker_eq_false (c := c) (by cases h <;> decide) rest
  have hclose : (inside (c :: rest) place blocks candidate ts).close? t'
      = some (scanned rest (place.step c) blocks candidate false (ts ++ [t'])) := by
    simp [close?, noKey?, giveUp?, inside, scanned, ready, take, pass, push, Place.after]
  rw [token?.eq_def]
  simp only [inside, ready] at hclose ⊢
  cases h <;> simp [hmarker.1, hmarker.2, hclose]

/-- **Brackets with nothing between them**, at the end of a line. -/
theorem reads_brackets (h : Brackets o t c t') (place : Place) (blocks : List Nat)
    (keyAllowed : Bool) (ts : List Token) (hafter : Follows bound after)
    (hcolumn : ∀ b ∈ blocks.head?, b < place.column) :
    Reads (ready (o :: c :: '\n' :: after) place blocks keyAllowed ts)
      (ready after ⟨place.line + 1, 0, 0⟩ blocks true (ts ++ [t, t'])) := by
  have hle : ∀ b ∈ blocks.head?, b ≤ place.column := fun b hb ↦ Nat.le_of_lt (hcolumn b hb)
  have hopen : Reads (ready (o :: c :: '\n' :: after) place blocks keyAllowed ts)
      (inside (c :: '\n' :: after) (place.step o) blocks (suspended place blocks keyAllowed ts)
        (ts ++ [t])) :=
    reads_token [o] rfl h.isSolid.1 (dropStale?_ready ..) (closeBlocks_of_le rfl hle)
      (token?_open h) rfl rfl (by simp) (List.forall_mem_singleton.2 h.isOrdinary.1)
  have hstep : ((place.step o).step c).line = place.line := by
    cases h <;> rfl
  have hnear : giveUpStale? (place.step o) (suspended place blocks keyAllowed ts)
      = some (suspended place blocks keyAllowed ts) := by
    refine giveUpStale?_of_near fun k hk ↦ ?_
    obtain ⟨rfl, -⟩ := not_required_of_mem_suspended hcolumn k hk
    cases h <;> exact ⟨Nat.le_refl _, Nat.add_le_add_left (by decide) _⟩
  refine hopen.trans (reads_token [c, '\n'] rfl h.isSolid.2 ?_ rfl (token?_close h) ?_
    rfl (by simp) (List.forall_mem_cons.2
      ⟨h.isOrdinary.2, List.forall_mem_singleton.2 (by decide)⟩))
  · have houter : [suspended place blocks keyAllowed ts].mapM (giveUpStale? (place.step o))
        = some [suspended place blocks keyAllowed ts] := by simp [hnear]
    rw [dropStale?]
    dsimp only [inside, ready]
    rw [houter]
    rfl
  · rw [List.append_assoc, List.singleton_append, ← hstep]
    refine skip_dropStale?_of_newline hafter fun k hk ↦ ?_
    obtain ⟨hplace, hrequired⟩ := not_required_of_mem_suspended hcolumn k hk
    exact ⟨Nat.le_of_eq (by rw [hplace, hstep]), hrequired⟩

end Lexer

end Interdomain.Yaml
