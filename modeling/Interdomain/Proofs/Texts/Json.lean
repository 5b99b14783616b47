import Interdomain.Proofs.Texts.JsonTokens
import Mathlib.Data.List.DropRight
import Mathlib.Data.List.Nodup

/-!
# JSON values that are read back

What is written on many lines is read back as it was: lists and objects with all that is in them, in
their order. A floating point number may come back as another one, and of two entries with one name
only the later comes back, so a value must have neither to be legible.

Every call of the reader uses up some fuel. A value has at least one character for every two calls,
so what a document is read with is enough.
-/

namespace Interdomain

namespace Json

/-! ## Values -/

mutual

/-- A value that JSON text keeps: no floating point numbers, integers of 64 bits, and names that
come once as the keys of a mapping. -/
def Legible : Value → Prop
  | .integer n => FitsWord n
  | .float _ => False
  | .list items => AreItemsLegible items
  | .mapping entries => (entries.map (·.1)).Nodup ∧ AreEntriesLegible entries
  | _ => True

def AreItemsLegible : List Value → Prop
  | [] => True
  | v :: rest => Legible v ∧ AreItemsLegible rest

def AreEntriesLegible : List (Value × Value) → Prop
  | [] => True
  | (k, v) :: rest => (∃ name, k = .text name) ∧ Legible v ∧ AreEntriesLegible rest

end

/-- The characters at the start of a line at some depth. -/
def lineChars (depth : Nat) : List Char := '\n' :: List.replicate (2 * depth) ' '

mutual

/-- The characters of a value at some depth. -/
def chars (depth : Nat) : Value → List Char
  | .list [] => ['[', ']']
  | .list items => '[' :: (itemChars (depth + 1) [] items ++ (lineChars depth ++ [']']))
  | .mapping [] => ['\x7b', '\x7d']
  | .mapping entries =>
    '\x7b' :: (entryChars (depth + 1) [] entries ++ (lineChars depth ++ ['\x7d']))
  | .null => ['n', 'u', 'l', 'l']
  | .bool b => if b then ['t', 'r', 'u', 'e'] else ['f', 'a', 'l', 's', 'e']
  | .integer n => (Decimal.signedText n).toList
  | .float x => (floatText x).toList
  | .text s => (quote s).toList

/-- The characters of the items of a list, each on its line and after a separator. -/
def itemChars (depth : Nat) (sep : List Char) : List Value → List Char
  | [] => []
  | v :: rest => sep ++ (lineChars depth ++ (chars depth v ++ itemChars depth [','] rest))

/-- The characters of the entries of a mapping, each on its line and after a separator. -/
def entryChars (depth : Nat) (sep : List Char) : List (Value × Value) → List Char
  | [] => []
  | (k, v) :: rest =>
    sep ++ (lineChars depth ++
      ((keyText k).toList ++ (':' :: ' ' :: (chars depth v ++ entryChars depth [','] rest))))

end

theorem toList_lineBreak (depth : Nat) : (lineBreak depth).toList = lineChars depth := by
  simp [lineBreak, lineChars]

mutual

theorem toList_appendPretty (depth : Nat) (out : String) :
    ∀ v, (appendPretty depth out v).toList = out.toList ++ chars depth v
  | .list [] => by simp [appendPretty, chars]
  | .list (v :: rest) => by
    have hitems := toList_appendPrettyItems (depth + 1) (out ++ "[") "" (v :: rest)
    simp [appendPretty, chars, hitems, toList_lineBreak]
  | .mapping [] => by simp [appendPretty, chars]
  | .mapping (e :: rest) => by
    have hentries := toList_appendPrettyEntries (depth + 1) (out ++ "\x7b") "" (e :: rest)
    simp [appendPretty, chars, hentries, toList_lineBreak]
  | .null => by simp [appendPretty, append, chars]
  | .bool true => by simp [appendPretty, append, chars]
  | .bool false => by simp [appendPretty, append, chars]
  | .integer n => by simp [appendPretty, append, chars]
  | .float x => by simp [appendPretty, append, chars]
  | .text s => by simp [appendPretty, append, chars]

theorem toList_appendPrettyItems (depth : Nat) (out sep : String) :
    ∀ items, (appendPrettyItems depth out sep items).toList
      = out.toList ++ itemChars depth sep.toList items
  | [] => by simp [appendPrettyItems, itemChars]
  | v :: rest => by
    have hfirst := toList_appendPretty depth (out ++ sep ++ lineBreak depth) v
    have hrest := toList_appendPrettyItems depth
      (appendPretty depth (out ++ sep ++ lineBreak depth) v) "," rest
    simp [appendPrettyItems, itemChars, hrest, hfirst, toList_lineBreak]

theorem toList_appendPrettyEntries (depth : Nat) (out sep : String) :
    ∀ entries, (appendPrettyEntries depth out sep entries).toList
      = out.toList ++ entryChars depth sep.toList entries
  | [] => by simp [appendPrettyEntries, entryChars]
  | (k, v) :: rest => by
    have hfirst := toList_appendPretty depth (out ++ sep ++ lineBreak depth ++ keyText k ++ ": ") v
    have hrest := toList_appendPrettyEntries depth
      (appendPretty depth (out ++ sep ++ lineBreak depth ++ keyText k ++ ": ") v) "," rest
    simp [appendPrettyEntries, entryChars, hrest, hfirst, toList_lineBreak]

end

theorem toList_pretty (v : Value) : (pretty v).toList = chars 0 v := by
  rw [pretty, toList_appendPretty, String.toList_empty, List.nil_append]

/-! ## Reading values -/

theorem skipSpace_cons {c : Char} (h : isSpace c = false) (cs : List Char) :
    skipSpace (c :: cs) = c :: cs := List.dropWhile_cons_of_neg (by simp [h])

theorem skipSpace_lineChars (depth : Nat) (cs : List Char) :
    skipSpace (lineChars depth ++ cs) = skipSpace cs := by
  refine List.dropWhile_append_of_pos fun c hc ↦ ?_
  rcases List.mem_cons.1 hc with rfl | hc
  · rfl
  · obtain rfl := (List.mem_replicate.1 hc).2
    rfl

theorem skipSpace_skipSpace (cs : List Char) : skipSpace (skipSpace cs) = skipSpace cs :=
  List.dropWhile_idempotent isSpace cs

theorem readValue_skipSpace (fuel : Nat) (cs : List Char) :
    readValue fuel (skipSpace cs) = readValue fuel cs := by
  cases fuel with
  | zero => rfl
  | succ fuel => rw [readValue, readValue, skipSpace_skipSpace]

theorem readItems_skipSpace (fuel : Nat) (before : List Value) (cs : List Char) :
    readItems fuel before (skipSpace cs) = readItems fuel before cs := by
  cases fuel with
  | zero => rfl
  | succ fuel => rw [readItems, readItems, readValue_skipSpace]

theorem readEntries_skipSpace (fuel : Nat) (before : List (String × Value)) (cs : List Char) :
    readEntries fuel before (skipSpace cs) = readEntries fuel before cs := by
  cases fuel with
  | zero => rfl
  | succ fuel => rw [readEntries, readEntries, skipSpace_skipSpace]

theorem isSpace_of_isNumberChar {c : Char} (h : isNumberChar c = true) : isSpace c = false := by
  by_contra hspace
  simp only [isSpace, Bool.not_eq_false, Bool.or_eq_true, beq_iff_eq] at hspace
  rcases hspace with ((rfl | rfl) | rfl) | rfl <;> exact absurd h (by decide)

theorem exists_head_signedText (n : Int) :
    ∃ c cs, (Decimal.signedText n).toList = c :: cs ∧ isNumberChar c = true := by
  have hall := isNumberChar_signedText n
  cases htext : (Decimal.signedText n).toList with
  | nil =>
    rw [Decimal.signedText] at htext
    split at htext <;> simp [Decimal.text, Decimal.digits_ne_nil] at htext
  | cons c cs => exact ⟨c, cs, rfl, hall c (htext ▸ List.mem_cons_self)⟩

theorem exists_head_chars (depth : Nat) {v : Value} (h : Legible v) :
    ∃ c cs, chars depth v = c :: cs ∧ isSpace c = false ∧ c ≠ ']' := by
  cases v with
  | null => exact ⟨'n', _, rfl, rfl, by decide⟩
  | bool b => cases b <;> exact ⟨_, _, rfl, rfl, by decide⟩
  | integer n =>
    obtain ⟨c, cs, htext, hc⟩ := exists_head_signedText n
    refine ⟨c, cs, by rw [chars, htext], isSpace_of_isNumberChar hc, ?_⟩
    rintro rfl
    exact absurd hc (by decide)
  | float x => exact h.elim
  | text s => exact ⟨'"', _, by rw [chars, toList_quote], rfl, by decide⟩
  | list items => cases items <;> exact ⟨'[', _, rfl, rfl, by decide⟩
  | mapping entries => cases entries <;> exact ⟨'\x7b', _, rfl, rfl, by decide⟩

theorem readValue_number {c : Char} (hc : isNumberChar c = true) (fuel : Nat) (cs : List Char) :
    readValue (fuel + 1) (c :: cs) =
      (readNumber? ((c :: cs).takeWhile isNumberChar)).map
        fun v ↦ (v, (c :: cs).dropWhile isNumberChar) := by
  rw [readValue, skipSpace_cons (isSpace_of_isNumberChar hc)]
  split
  case h_7 => cases readNumber? ((c :: cs).takeWhile isNumberChar) <;> rfl
  all_goals
    -- No other kind of value starts with a character of a number.
    rename_i heq
    obtain ⟨rfl, -⟩ := List.cons.inj heq
    exact absurd hc (by decide)

theorem readValue_signedText {n : Int} (h : FitsWord n) (fuel : Nat) {rest : List Char}
    (hrest : EndsNumber rest) :
    readValue (fuel + 1) ((Decimal.signedText n).toList ++ rest) = some (.integer n, rest) := by
  have hall := isNumberChar_signedText n
  have htake := takeWhile_isNumberChar hall hrest
  have hdrop := dropWhile_isNumberChar hall hrest
  obtain ⟨c, cs, htext, hc⟩ := exists_head_signedText n
  rw [htext, List.cons_append] at htake hdrop
  rw [htext, List.cons_append, readValue_number hc, htake, hdrop, ← htext, readNumber?_signedText h]
  rfl

theorem endsNumber_cons {c : Char} (h : isNumberChar c = false) (cs : List Char) :
    EndsNumber (c :: cs) := by
  intro c' hc'
  rwa [← Option.some.inj hc']

/-- A value is read from its characters, whatever follows that is no number. -/
def ReadsBack (v : Value) : Prop :=
  ∀ depth fuel rest, 2 * (chars depth v).length ≤ fuel → EndsNumber rest →
    readValue fuel (chars depth v ++ rest) = some (v, rest)

/-! ### One step -/

section Steps

variable {fuel : Nat} {v : Value} {cs rest more : List Char}

theorem readItems_of_comma (hv : readValue fuel cs = some (v, rest))
    (hrest : skipSpace rest = ',' :: more) (before : List Value) :
    readItems (fuel + 1) before cs = readItems fuel (v :: before) more := by
  simp [readItems, hv, hrest]

theorem readItems_of_bracket (hv : readValue fuel cs = some (v, rest))
    (hrest : skipSpace rest = ']' :: more) (before : List Value) :
    readItems (fuel + 1) before cs = some (.list (before.reverse ++ [v]), more) := by
  simp [readItems, hv, hrest]

theorem putEntry_of_not_mem {entries : List (String × Value)} {name : String}
    (h : name ∉ entries.map (·.1)) (v : Value) :
    putEntry entries name v = entries ++ [(name, v)] := by
  rw [putEntry, if_neg]
  simpa using h

theorem readValue_bracket {c : Char} (hskip : skipSpace cs = c :: more) (hc : c ≠ ']') :
    readValue (fuel + 1) ('[' :: cs) = readItems fuel [] cs := by
  have hopen : skipSpace ('[' :: cs) = '[' :: cs := skipSpace_cons rfl cs
  rw [readValue, hopen, ← readItems_skipSpace]
  simp [hskip, hc]

theorem readValue_brace {c : Char} (hskip : skipSpace cs = c :: more) (hc : c ≠ '\x7d') :
    readValue (fuel + 1) ('\x7b' :: cs) = readEntries fuel [] cs := by
  have hopen : skipSpace ('\x7b' :: cs) = '\x7b' :: cs := skipSpace_cons rfl cs
  rw [readValue, hopen, ← readEntries_skipSpace]
  simp [hskip, hc]

variable {before : List (String × Value)} {name : String}

theorem skipSpace_quote (s : String) (cs : List Char) :
    skipSpace ((quote s).toList ++ cs) = '"' :: (s.toList.flatMap escape ++ '"' :: cs) := by
  rw [toList_quote, List.cons_append, List.append_assoc, List.singleton_append]
  exact skipSpace_cons rfl _

theorem readEntries_of_comma (hname : name ∉ before.map (·.1))
    (hv : readValue fuel cs = some (v, rest)) (hrest : skipSpace rest = ',' :: more) :
    readEntries (fuel + 1) before ((quote name).toList ++ ':' :: cs)
      = readEntries fuel (before ++ [(name, v)]) more := by
  have hcolon : skipSpace (':' :: cs) = ':' :: cs := skipSpace_cons rfl cs
  simp [readEntries, skipSpace_quote, readText_quote, hcolon, hv, hrest, putEntry_of_not_mem hname]

theorem readEntries_of_brace (hname : name ∉ before.map (·.1))
    (hv : readValue fuel cs = some (v, rest)) (hrest : skipSpace rest = '\x7d' :: more) :
    readEntries (fuel + 1) before ((quote name).toList ++ ':' :: cs)
      = some (.object (before ++ [(name, v)]), more) := by
  have hcolon : skipSpace (':' :: cs) = ':' :: cs := skipSpace_cons rfl cs
  simp [readEntries, skipSpace_quote, readText_quote, hcolon, hv, hrest, putEntry_of_not_mem hname]

end Steps

/-! ### All steps -/

section Lines

variable {depth closing : Nat} {rest : List Char}

/-- What follows an item is a comma or the line that closes the list. -/
theorem endsNumber_itemChars (items : List Value) :
    EndsNumber (itemChars depth [','] items ++ (lineChars closing ++ rest)) := by
  cases items <;> exact endsNumber_cons rfl _

theorem endsNumber_entryChars (entries : List (Value × Value)) :
    EndsNumber (entryChars depth [','] entries ++ (lineChars closing ++ rest)) := by
  rcases entries with _ | ⟨⟨k, v⟩, entries⟩ <;> exact endsNumber_cons rfl _

/-- Items are read one after another up to the bracket that closes their list. -/
theorem readItems_chars {items : List Value} (hne : items ≠ []) (hall : ∀ v ∈ items, ReadsBack v)
    (before : List Value) {fuel : Nat} (hfuel : 2 * (itemChars depth [] items).length < fuel) :
    readItems fuel before (itemChars depth [] items ++ (lineChars closing ++ ']' :: rest))
      = some (.list (before.reverse ++ items), rest) := by
  induction items generalizing before fuel with
  | nil => exact absurd rfl hne
  | cons v items ih =>
    obtain ⟨fuel, rfl⟩ : ∃ n, fuel = n + 1 := ⟨fuel - 1, by omega⟩
    have hlength : (itemChars depth [] (v :: items)).length = (lineChars depth).length +
        ((chars depth v).length + (itemChars depth [','] items).length) := by
      simp only [itemChars, List.nil_append, List.length_append]
    have hfirst := hall v List.mem_cons_self depth fuel
      (itemChars depth [','] items ++ (lineChars closing ++ ']' :: rest)) (by omega)
      (endsNumber_itemChars items)
    rw [itemChars, List.nil_append, List.append_assoc, List.append_assoc, ← readItems_skipSpace,
      skipSpace_lineChars, readItems_skipSpace]
    cases items with
    | nil =>
      exact readItems_of_bracket hfirst ((skipSpace_lineChars ..).trans (skipSpace_cons rfl _)) _
    | cons w items =>
      have hcomma : itemChars depth [','] (w :: items) = ',' :: itemChars depth [] (w :: items) :=
        rfl
      rw [hcomma, List.cons_append] at hfirst ⊢
      rw [hcomma, List.length_cons] at hlength
      rw [readItems_of_comma hfirst (skipSpace_cons rfl _),
        ih (List.cons_ne_nil _ _) (fun v hv ↦ hall v (List.mem_cons_of_mem _ hv)) _ (by omega),
        List.reverse_cons, List.append_assoc, List.singleton_append]

/-- The entries of an object. -/
def entriesOf (fields : List (String × Value)) : List (Value × Value) :=
  fields.map fun f ↦ (.text f.1, f.2)

/-- Entries are read one after another up to the bracket that closes their object. -/
theorem readEntries_chars {fields before : List (String × Value)} (hne : fields ≠ [])
    (hall : ∀ f ∈ fields, ReadsBack f.2) (hdistinct : ((before ++ fields).map (·.1)).Nodup)
    {fuel : Nat} (hfuel : 2 * (entryChars depth [] (entriesOf fields)).length < fuel) :
    readEntries fuel before
        (entryChars depth [] (entriesOf fields) ++ (lineChars closing ++ '\x7d' :: rest))
      = some (.object (before ++ fields), rest) := by
  induction fields generalizing before fuel with
  | nil => exact absurd rfl hne
  | cons f fields ih =>
    obtain ⟨name, v⟩ := f
    obtain ⟨fuel, rfl⟩ : ∃ n, fuel = n + 1 := ⟨fuel - 1, by omega⟩
    have hentries : entriesOf ((name, v) :: fields) = (.text name, v) :: entriesOf fields := rfl
    have hlength : (entryChars depth [] (entriesOf ((name, v) :: fields))).length =
        (lineChars depth).length + ((quote name).toList.length + ((chars depth v).length +
          (entryChars depth [','] (entriesOf fields)).length + 1 + 1)) := by
      simp only [hentries, entryChars, keyText, List.nil_append, List.length_append,
        List.length_cons]
    have hfirst : readValue fuel (' ' :: (chars depth v ++
          (entryChars depth [','] (entriesOf fields) ++ (lineChars closing ++ '\x7d' :: rest))))
        = some (v, entryChars depth [','] (entriesOf fields) ++
          (lineChars closing ++ '\x7d' :: rest)) := by
      rw [← readValue_skipSpace, skipSpace, List.dropWhile_cons_of_pos rfl, ← skipSpace,
        readValue_skipSpace]
      exact hall (name, v) List.mem_cons_self depth fuel _ (by dsimp only; omega)
        (endsNumber_entryChars _)
    have hname : name ∉ before.map (·.1) := by
      rw [List.map_append, List.nodup_append] at hdistinct
      exact fun hmem ↦ hdistinct.2.2 _ hmem _ List.mem_cons_self rfl
    rw [hentries, entryChars, keyText, List.nil_append, List.append_assoc, List.append_assoc,
      ← readEntries_skipSpace, skipSpace_lineChars, readEntries_skipSpace, List.cons_append,
      List.cons_append, List.append_assoc]
    cases fields with
    | nil =>
      exact readEntries_of_brace hname hfirst
        ((skipSpace_lineChars ..).trans (skipSpace_cons rfl _))
    | cons g fields =>
      have hcomma : entryChars depth [','] (entriesOf (g :: fields))
          = ',' :: entryChars depth [] (entriesOf (g :: fields)) := rfl
      rw [hcomma, List.cons_append] at hfirst ⊢
      rw [hcomma, List.length_cons] at hlength
      rw [readEntries_of_comma hname hfirst (skipSpace_cons rfl _),
        ih (List.cons_ne_nil _ _) (fun f hf ↦ hall f (List.mem_cons_of_mem _ hf)) ?_ (by omega),
        List.append_assoc, List.singleton_append]
      rwa [List.append_assoc, List.singleton_append]

end Lines

/-- The keys of a legible mapping are names. -/
theorem exists_fields_of_legible {entries : List (Value × Value)} (h : AreEntriesLegible entries) :
    ∃ fields, entries = entriesOf fields := by
  induction entries with
  | nil => exact ⟨[], rfl⟩
  | cons e entries ih =>
    obtain ⟨k, v⟩ := e
    obtain ⟨⟨name, rfl⟩, -, hrest⟩ := h
    obtain ⟨fields, rfl⟩ := ih hrest
    exact ⟨(name, v) :: fields, rfl⟩

theorem readsBack_list {items : List Value} (h : AreItemsLegible items)
    (hall : ∀ v ∈ items, ReadsBack v) : ReadsBack (.list items) := by
  rintro depth (_ | fuel) rest hfuel -
  · cases items <;> simp [chars] at hfuel
  cases items with
  | nil => rfl
  | cons v items =>
    have hchars : chars depth (.list (v :: items)) =
        '[' :: (itemChars (depth + 1) [] (v :: items) ++ (lineChars depth ++ [']'])) := by
      rw [chars]
      simp
    obtain ⟨c, cs, hcs, hspace, hc⟩ := exists_head_chars (depth + 1) h.1
    have hskip : skipSpace (itemChars (depth + 1) [] (v :: items) ++
        (lineChars depth ++ ']' :: rest)) = c :: (cs ++ itemChars (depth + 1) [','] items ++
        (lineChars depth ++ ']' :: rest)) := by
      rw [itemChars, List.nil_append, List.append_assoc, skipSpace_lineChars, hcs, List.cons_append,
        List.cons_append, skipSpace_cons hspace]
    rw [hchars, List.length_cons, List.length_append] at hfuel
    rw [hchars, List.cons_append, List.append_assoc, List.append_assoc, List.singleton_append,
      readValue_bracket hskip hc, readItems_chars (List.cons_ne_nil _ _) hall [] (by omega)]
    rfl

theorem readsBack_object {fields : List (String × Value)} (hdistinct : (fields.map (·.1)).Nodup)
    (hall : ∀ f ∈ fields, ReadsBack f.2) : ReadsBack (.object fields) := by
  rintro depth (_ | fuel) rest hfuel -
  · cases fields <;> simp [Value.object, chars] at hfuel
  cases fields with
  | nil => rfl
  | cons f fields =>
    have hchars : chars depth (.object (f :: fields)) = '\x7b' ::
        (entryChars (depth + 1) [] (entriesOf (f :: fields)) ++ (lineChars depth ++ ['\x7d'])) := by
      rw [Value.object, chars, entriesOf]
      simp
    have hskip : ∃ more, skipSpace (entryChars (depth + 1) [] (entriesOf (f :: fields)) ++
        (lineChars depth ++ '\x7d' :: rest)) = '"' :: more := by
      rw [entriesOf, List.map_cons, entryChars, keyText, List.nil_append, List.append_assoc,
        skipSpace_lineChars, List.append_assoc, skipSpace_quote]
      exact ⟨_, rfl⟩
    obtain ⟨more, hskip⟩ := hskip
    rw [hchars, List.length_cons, List.length_append] at hfuel
    rw [hchars, List.cons_append, List.append_assoc, List.append_assoc, List.singleton_append,
      readValue_brace hskip (by decide), readEntries_chars (List.cons_ne_nil _ _) hall hdistinct
        (by omega)]
    rfl

theorem readsBack_of_scalar {v : Value} (h : Legible v)
    (hscalar : (∀ items, v ≠ .list items) ∧ ∀ entries, v ≠ .mapping entries) : ReadsBack v := by
  intro depth fuel rest hfuel hrest
  obtain ⟨c, cs, hcs, -⟩ := exists_head_chars depth h
  obtain ⟨fuel, rfl⟩ : ∃ n, fuel = n + 1 := by
    rw [hcs, List.length_cons] at hfuel
    exact ⟨fuel - 1, by omega⟩
  cases v with
  | null => rfl
  | bool b => cases b <;> rfl
  | integer n => exact readValue_signedText h fuel hrest
  | float x => exact h.elim
  | text s =>
    have hskip := skipSpace_quote s rest
    rw [chars, readValue, hskip]
    simp [readText_quote]
  | list items => exact absurd rfl (hscalar.1 items)
  | mapping entries => exact absurd rfl (hscalar.2 entries)

mutual

/-- A legible value is read back, whatever stands behind it. -/
theorem readsBack_of_legible : ∀ {v : Value}, Legible v → ReadsBack v
  | .list items, h => readsBack_list h (readsBack_of_mem_items h)
  | .mapping entries, ⟨hdistinct, h⟩ => by
    have hall := readsBack_of_mem_entries h
    obtain ⟨fields, rfl⟩ := exists_fields_of_legible h
    have hnames : ((fields.map (·.1)).map Value.text).Nodup := by
      rw [List.map_map]
      rwa [entriesOf, List.map_map] at hdistinct
    exact readsBack_object (List.Nodup.of_map _ hnames) fun f hf ↦ hall _ (List.mem_map_of_mem hf)
  | .null, h => readsBack_of_scalar h (by simp)
  | .bool b, h => readsBack_of_scalar h (by simp)
  | .integer n, h => readsBack_of_scalar h (by simp)
  | .float _, h => h.elim
  | .text s, h => readsBack_of_scalar h (by simp)

theorem readsBack_of_mem_items : ∀ {items : List Value}, AreItemsLegible items →
    ∀ v ∈ items, ReadsBack v
  | [], _ => fun _ hv ↦ absurd hv List.not_mem_nil
  | _ :: _, ⟨hfirst, hrest⟩ => List.forall_mem_cons.2
    ⟨readsBack_of_legible hfirst, readsBack_of_mem_items hrest⟩

theorem readsBack_of_mem_entries : ∀ {entries : List (Value × Value)}, AreEntriesLegible entries →
    ∀ e ∈ entries, ReadsBack e.2
  | [], _ => fun _ he ↦ absurd he List.not_mem_nil
  | (_, _) :: _, ⟨_, hfirst, hrest⟩ => List.forall_mem_cons.2
    ⟨readsBack_of_legible hfirst, readsBack_of_mem_entries hrest⟩

end

/-- **Documents are read back.** The file of a legible value, with the line break at its end, is
read as the value. -/
theorem read?_pretty {v : Value} (h : Legible v) : read? (pretty v ++ "\n") = some v := by
  have hbreak : ("\n" : String).toList = ['\n'] := rfl
  have hfuel : 2 * (chars 0 v).length ≤ 2 * (chars 0 v ++ ['\n']).length + 1 := by
    rw [List.length_append]
    omega
  rw [read?, String.toList_append, toList_pretty, hbreak,
    readsBack_of_legible h 0 _ _ hfuel (endsNumber_cons rfl [])]
  rfl

end Json

end Interdomain
