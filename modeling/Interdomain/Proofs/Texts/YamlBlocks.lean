import Interdomain.Proofs.Texts.YamlParts
import Interdomain.Proofs.Texts.YamlTokens
import Mathlib.Data.Bool.AllAny

/-!
# Blocks of printed YAML

A printed value has the tokens of a document (`document`): its scalars have lost their types, and
some of them are in quotes. The text is lexed from line to line. A value leaves the lexer at the
start of a line, with the blocks that were open before it and with its tokens behind those before
it, whether it is in a block of its own (`LexesPart`) or behind its key (`LexesValue`).
-/

namespace Interdomain.Yaml

/-! ## Documents of values -/

/-- A text as a scalar, in quotes where the printer uses them. -/
def scalarOf (s : String) : Document := if styleOf s = .plain then .plain s else .quoted s

mutual

/-- A value as it is written, without the types of its scalars. -/
def document : Value → Document
  | .null => .plain "null"
  | .bool b => .plain (if b then "true" else "false")
  | .integer n => .plain (Decimal.signedText n)
  | .float x => .plain (floatText x)
  | .text s => scalarOf s
  | .list items => .list (itemDocuments items)
  | .mapping entries => .mapping (entryDocuments entries)

def itemDocuments : List Value → List Document
  | [] => []
  | v :: items => document v :: itemDocuments items

def entryDocuments : List (Value × Value) → List (Document × Document)
  | [] => []
  | (k, v) :: entries => (document k, document v) :: entryDocuments entries

end

/-- A value that is read back: its texts are on one line, its keys are distinct texts that fit the
line of their values, its integers fit 64 bits, and no more than so many lists and mappings stand
inside each other. -/
inductive IsLegible : Nat → Value → Prop where
  | null {levels : Nat} : IsLegible levels .null
  | bool {levels : Nat} (b : Bool) : IsLegible levels (.bool b)
  | integer {levels : Nat} {n : Int} (h : Scalar.fitsWord n = true) : IsLegible levels (.integer n)
  | text {levels : Nat} {s : String} (h : OnOneLine s.toList) : IsLegible levels (.text s)
  | list {levels : Nat} {items : List Value} (h : ∀ v ∈ items, IsLegible levels v) :
    IsLegible (levels + 1) (.list items)
  | mapping {levels : Nat} {fields : List (String × Value)}
    (hnames : ∀ f ∈ fields, isSimpleKey (.text f.1) = true) (hdistinct : (fields.map (·.1)).Nodup)
    (h : ∀ f ∈ fields, IsLegible levels f.2) : IsLegible (levels + 1) (Value.object fields)

theorem written_scalarOf (s : String) : (scalarOf s).Written := by
  rw [scalarOf]
  split
  case isTrue => exact .plain s
  case isFalse => exact .quoted s

theorem itemDocuments_eq_map (items : List Value) : itemDocuments items = items.map document := by
  induction items with
  | nil => rfl
  | cons v items ih => rw [itemDocuments, ih, List.map_cons]

theorem entryDocuments_eq_map (entries : List (Value × Value)) :
    entryDocuments entries = entries.map fun e ↦ (document e.1, document e.2) := by
  induction entries with
  | nil => rfl
  | cons e entries ih => rw [entryDocuments, ih, List.map_cons]

/-! ## Scalars -/

section Scalars

variable {p : List Char} {t : Token} {s : String} {v : Value}

theorem toList_endLine (h : OnOneLine p) : (endLine p).toList = p ++ ['\n'] := by
  rw [endLine, if_neg h.not_isBreak_getLast?, String.toList_ofList]

theorem indented_eq {cs : List Char} (h : OnOneLine cs) (indent : Nat) :
    indented indent false cs = cs := by
  induction cs with
  | nil => rfl
  | cons c cs ih =>
    rw [indented, if_neg (by simp [h c List.mem_cons_self]), if_neg (by simp), List.nil_append,
      ih fun d hd ↦ h d (List.mem_cons_of_mem c hd)]

theorem singleQuoted_eq {cs : List Char} (h : OnOneLine cs) (indent : Nat) :
    singleQuoted indent cs = '\'' :: (QuotedText.doubled cs ++ ['\'']) := by
  have hdoubled : cs.flatMap (fun c ↦ if c == '\'' then ['\'', '\''] else [c])
      = QuotedText.doubled cs := rfl
  rw [singleQuoted]
  simp only [if_neg h.not_isBreak_getLast?, hdoubled, indented_eq (QuotedText.onOneLine_doubled h),
    List.append_nil, List.cons_append]

theorem styleOf_ne_literal (h : OnOneLine s.toList) : styleOf s ≠ .literal := by
  have hline : ¬s.toList.contains '\n' = true := by
    intro hmem
    exact absurd (h '\n' (List.contains_iff_mem.1 hmem)) (by decide)
  rw [styleOf, if_neg hline]
  split
  case isTrue => simp
  case isFalse =>
    split
    case isTrue => simp
    case isFalse => split <;> simp

theorem isPrintable_of_styleOf (h : styleOf s ≠ .doubleQuoted) :
    ∀ c ∈ s.toList, isPrintable c = true := by
  rw [styleOf] at h
  split at h
  case isTrue => exact absurd rfl h
  case isFalse hescapes =>
    rw [Bool.or_eq_true, not_or, Bool.not_eq_true] at hescapes
    exact fun c hc ↦ by simpa using List.any_eq_false.1 hescapes.1 c hc

/-- A text on one line is written as one scalar. -/
theorem exists_writes_scalarText (h : OnOneLine s.toList) :
    ∃ p t, (∀ indent, scalarText indent s = p) ∧ Lexer.Writes p t ∧
      (∀ position, partTokens position (scalarOf s) = [t]) ∧ (t = .plain s ∨ t = .quoted s) := by
  have hplain := fun h : IsPlain s.toList ↦ Lexer.Writes.plain h
  have hsingle := fun hprintable ↦ Lexer.Writes.single h hprintable
  have hdouble := Lexer.Writes.double s.toList
  rw [String.ofList_toList] at hplain hsingle hdouble
  cases hstyle : styleOf s with
  | literal => exact absurd hstyle (styleOf_ne_literal h)
  | plain =>
    refine ⟨_, _, fun indent ↦ ?_, hplain (of_styleOf_eq_plain hstyle).2, fun position ↦ ?_,
      .inl rfl⟩
    · rw [scalarText, hstyle]
    · rw [scalarOf, if_pos hstyle, partTokens]
  | singleQuoted =>
    refine ⟨_, _, fun indent ↦ ?_, hsingle (isPrintable_of_styleOf (by simp [hstyle])),
      fun position ↦ ?_, .inr rfl⟩
    · rw [scalarText, hstyle]
      exact singleQuoted_eq h indent
    · rw [scalarOf, if_neg (by simp [hstyle]), partTokens]
  | doubleQuoted =>
    refine ⟨_, _, fun indent ↦ ?_, hdouble, fun position ↦ ?_, .inr rfl⟩
    · rw [scalarText, hstyle]
      rfl
    · rw [scalarOf, if_neg (by simp [hstyle]), partTokens]

end Scalars

/-! ## Lines -/

section Lines

open Lexer

variable {indent : Nat} {place : Place} {blocks outer : List Nat} {ts new : List Token}
  {after rest : List Char} {v : Value} {p : List Char} {t : Token}

/-- A value in a block of its own is lexed up to the start of a line. -/
def LexesPart (v : Value) : Prop :=
  ∀ (indent : Nat) (place : Place) (blocks : List Nat) (after : List Char) (ts : List Token),
    place.column = indent → (∀ b ∈ blocks.head?, b < indent) → Follows (boundOf blocks) after →
    ∃ line, Reads (ready ((block indent v).toList ++ after) place blocks true ts)
      (ready after ⟨line, 0, 0⟩ blocks true (ts ++ partTokens .inBlock (document v)))

/-- A value behind its key is lexed up to the start of a line. -/
def LexesValue (v : Value) : Prop :=
  ∀ (indent : Nat) (place : Place) (outer : List Nat) (after : List Char) (ts : List Token),
    indent < place.column → Follows (indent + 1) after →
    ∃ line, Reads (ready ((afterKey indent v).toList ++ after) place (indent :: outer) false ts)
      (ready after ⟨line, 0, 0⟩ (indent :: outer) true
        (ts ++ partTokens .inMapping (document v)))

theorem reads_space : Reads (ready (' ' :: rest) place blocks false ts)
    (ready rest (place.step ' ') blocks false ts) :=
  reads_spaces 1 rest place blocks false ts

/-- A value that is written on the rest of a line, and its tokens. -/
structure IsPiece (v : Value) (p : List Char) (new : List Token) : Prop where
  block : ∀ indent, block indent v = endLine p
  afterKey : ∀ indent, afterKey indent v = " " ++ endLine p
  tokens : ∀ position, partTokens position (document v) = new
  line : OnOneLine p
  reads : ∀ (place : Place) (blocks : List Nat) (keyAllowed : Bool) (ts : List Token)
    {after : List Char}, Follows (boundOf blocks) after →
    (∀ b ∈ blocks.head?, b < place.column) →
    Reads (ready (p ++ '\n' :: after) place blocks keyAllowed ts)
      (ready after ⟨place.line + 1, 0, 0⟩ blocks true (ts ++ new))

theorem lexesPart_of_isPiece (h : IsPiece v p new) : LexesPart v := by
  intro indent place blocks after ts hcolumn hblocks hafter
  have hline := h.reads place blocks true ts hafter
    fun b hb ↦ (hblocks b hb).trans_eq hcolumn.symm
  rw [h.block, toList_endLine h.line, h.tokens, List.append_assoc]
  exact ⟨_, hline⟩

theorem lexesValue_of_isPiece (h : IsPiece v p new) : LexesValue v := by
  intro indent place outer after ts hcolumn hafter
  have hline := h.reads (place.step ' ') (indent :: outer) false ts hafter fun b hb ↦ by
      obtain rfl := Option.some.inj hb
      exact Nat.lt_succ_of_lt hcolumn
  rw [h.afterKey, String.toList_append, toList_endLine h.line, h.tokens, List.append_assoc,
    List.append_assoc]
  exact ⟨_, reads_space.trans hline⟩

theorem isPiece_plain (name : String) (hname : IsPlain name.toList)
    (hblock : ∀ indent, block indent v = endLine name.toList)
    (hafterKey : ∀ indent, afterKey indent v = " " ++ endLine name.toList)
    (hdocument : document v = .plain name) : IsPiece v name.toList [.plain name] := by
  have hwrites := Writes.plain hname
  rw [String.ofList_toList] at hwrites
  exact ⟨hblock, hafterKey, fun position ↦ by rw [hdocument, partTokens], hname.line,
    fun place blocks keyAllowed ts _ ↦ reads_line hwrites place blocks keyAllowed ts⟩

theorem isPiece_null : IsPiece .null "null".toList [.plain "null"] :=
  isPiece_plain "null" (isPlain_of_isHarmless (List.all_iff_forall_prop.1 (by decide)) (by decide))
    (fun _ ↦ rfl) (fun _ ↦ rfl) rfl

theorem exists_isPiece_bool : ∀ b, ∃ p new, IsPiece (.bool b) p new
  | true => ⟨_, _, isPiece_plain "true"
      (isPlain_of_isHarmless (List.all_iff_forall_prop.1 (by decide)) (by decide))
      (fun _ ↦ rfl) (fun _ ↦ rfl) rfl⟩
  | false => ⟨_, _, isPiece_plain "false"
      (isPlain_of_isHarmless (List.all_iff_forall_prop.1 (by decide)) (by decide))
      (fun _ ↦ rfl) (fun _ ↦ rfl) rfl⟩

theorem isPiece_integer (n : Int) : IsPiece (.integer n) (Decimal.signedText n).toList
    [.plain (Decimal.signedText n)] :=
  isPiece_plain _ (isPlain_signedText n) (fun _ ↦ rfl) (fun _ ↦ rfl) rfl

theorem exists_isPiece_text {s : String} (h : OnOneLine s.toList) :
    ∃ p new, IsPiece (.text s) p new := by
  obtain ⟨p, t, htext, hwrites, htokens, -⟩ := exists_writes_scalarText h
  exact ⟨p, [t], fun indent ↦ congrArg endLine (htext indent),
    fun indent ↦ congrArg (" " ++ endLine ·) (htext (indent + 2)), htokens, hwrites.onOneLine,
    fun place blocks keyAllowed ts _ ↦ reads_line hwrites place blocks keyAllowed ts⟩

theorem isPiece_brackets {o c : Char} {t t' : Token} (h : Brackets o t c t')
    (hblock : ∀ indent, block indent v = endLine [o, c])
    (hafterKey : ∀ indent, afterKey indent v = " " ++ endLine [o, c])
    (htokens : ∀ position, partTokens position (document v) = [t, t']) :
    IsPiece v [o, c] [t, t'] := by
  refine ⟨hblock, hafterKey, htokens, ?_,
    fun place blocks keyAllowed ts _ ↦ reads_brackets h place blocks keyAllowed ts⟩
  cases h <;> exact List.forall_mem_cons.2 ⟨by decide, List.forall_mem_cons.2 ⟨by decide, by simp⟩⟩

theorem isPiece_nil : IsPiece (.list []) ['[', ']'] [.openBracket, .closeBracket] :=
  isPiece_brackets .square (fun _ ↦ rfl) (fun _ ↦ rfl) fun _ ↦ rfl

theorem isPiece_object_nil :
    IsPiece (.object []) ['\x7b', '\x7d'] [.openBrace, .closeBrace] :=
  isPiece_brackets .curly (fun _ ↦ rfl) (fun _ ↦ rfl) fun _ ↦ rfl

/-- A line starts at its indentation. -/
theorem reads_lineStart (begun : Bool) (blocks : List Nat) (ts : List Token) (rest : List Char)
    (hcolumn : place.column = if begun then indent else 0) :
    ∃ place', place'.column = indent ∧
      Reads (ready ((lineStart indent begun).toList ++ rest) place blocks true ts)
        (ready rest place' blocks true ts) := by
  cases begun with
  | true => exact ⟨place, hcolumn, reads_of_agrees (fun _ ↦ rfl) rfl⟩
  | false =>
    refine ⟨place.after (spaces indent), ?_, ?_⟩
    · rw [PlainText.after_spaces, hcolumn]
      exact Nat.zero_add indent
    · rw [lineStart, if_neg (by simp), String.toList_ofList]
      exact reads_spaces indent rest place blocks true ts

/-! ### Items -/

theorem lexes_item (hv : LexesPart v) (begun : Bool) (place : Place) (ts : List Token)
    (hcolumn : place.column = if begun then indent else 0)
    (hopening : Opening blocks indent .blockSequence (indent :: outer) new)
    (hafter : Follows (indent + 1) after) :
    ∃ line, Reads (ready ((lineStart indent begun).toList ++
        '-' :: ' ' :: ((block (indent + 2) v).toList ++ after)) place blocks true ts)
      (ready after ⟨line, 0, 0⟩ (indent :: outer) true
        (ts ++ new ++ .item :: partTokens .inBlock (document v))) := by
  obtain ⟨place', hplace, hstart⟩ := reads_lineStart begun blocks ts
    ('-' :: ' ' :: ((block (indent + 2) v).toList ++ after)) hcolumn
  have hitem : Reads (ready ('-' :: ' ' :: ((block (indent + 2) v).toList ++ after)) place' blocks
      true ts) (ready ((block (indent + 2) v).toList ++ after) (place'.after ['-', ' '])
        (indent :: outer) true (ts ++ new ++ [.item])) := reads_item (by rwa [hplace])
  have hbegun : (place'.after ['-', ' ']).column = indent + 2 := by
    rw [← hplace]
    rfl
  obtain ⟨line, hread⟩ := hv (indent + 2) _ (indent :: outer) after (ts ++ new ++ [.item]) hbegun
    (by simp) hafter
  refine ⟨line, ?_⟩
  rw [List.append_assoc (ts ++ new), List.singleton_append] at hread
  exact hstart.trans (hitem.trans hread)

theorem toList_blockItems (indent : Nat) (begun : Bool) (v : Value) (items : List Value) :
    (blockItems indent begun (v :: items)).toList = (lineStart indent begun).toList ++
      '-' :: ' ' :: ((block (indent + 2) v).toList ++ (blockItems indent false items).toList) := by
  have hdash : ("- " : String).toList = ['-', ' '] := rfl
  rw [blockItems]
  simp only [String.toList_append, hdash, List.append_assoc, List.cons_append, List.nil_append]

/-- Each item starts a line. -/
theorem follows_blockItems (items : List Value) (hafter : Follows (indent + 1) after) :
    Follows (indent + 1) ((blockItems indent false items).toList ++ after) := by
  cases items with
  | nil => rwa [blockItems]
  | cons v items =>
    rw [toList_blockItems, List.append_assoc, List.cons_append, lineStart, if_neg (by simp),
      String.toList_ofList]
    exact .line (Nat.lt_succ_self indent) (by decide)

theorem lexes_items {items : List Value} (hall : ∀ v ∈ items, LexesPart v)
    (outer : List Nat) (hafter : Follows (indent + 1) after) (line : Nat) (ts : List Token) :
    ∃ line', Reads (ready ((blockItems indent false items).toList ++ after) ⟨line, 0, 0⟩
        (indent :: outer) true ts)
      (ready after ⟨line', 0, 0⟩ (indent :: outer) true
        (ts ++ itemTokens (itemDocuments items))) := by
  induction items generalizing line ts with
  | nil =>
    refine ⟨line, ?_⟩
    rw [blockItems, itemDocuments, itemTokens, List.append_nil]
    exact reads_of_agrees (fun _ ↦ rfl) rfl
  | cons v items ih =>
    have hwithin : Opening (indent :: outer) indent .blockSequence (indent :: outer) [] :=
      .within rfl
    obtain ⟨line₁, hfirst⟩ := lexes_item (hall v List.mem_cons_self) false ⟨line, 0, 0⟩ ts rfl
      hwithin (follows_blockItems items hafter)
    obtain ⟨line₂, hrest⟩ := ih (fun w hw ↦ hall w (List.mem_cons_of_mem v hw)) line₁
      (ts ++ [] ++ .item :: partTokens .inBlock (document v))
    refine ⟨line₂, ?_⟩
    rw [toList_blockItems, List.append_assoc, List.cons_append, List.cons_append, List.append_assoc,
      itemDocuments, itemTokens]
    rw [List.append_nil, List.append_assoc] at hrest
    rw [List.append_nil] at hfirst
    exact hfirst.trans hrest

/-- A block that was opened ends with the text that is indented less. -/
theorem lexes_end {l : Lexer} {before : List Token} {line : Nat}
    (h : Reads l (ready after ⟨line, 0, 0⟩ (indent :: blocks) true before))
    (hafter : Follows indent after) :
    Reads l (ready after ⟨line, 0, 0⟩ blocks true (before ++ [.blockEnd])) :=
  h.trans (reads_of_agrees (agrees_end hafter rfl) rfl)

theorem boundOf_le (hblocks : ∀ b ∈ blocks.head?, b < indent) : boundOf blocks ≤ indent := by
  cases blocks with
  | nil => exact Nat.zero_le indent
  | cons b blocks => exact hblocks b rfl

theorem lexesPart_list {items : List Value} (hall : ∀ v ∈ items, LexesPart v) :
    LexesPart (.list items) := by
  cases items with
  | nil => exact lexesPart_of_isPiece isPiece_nil
  | cons v items =>
    intro indent place blocks after ts hcolumn hblocks hafter
    have hend := hafter.mono (boundOf_le hblocks)
    have hnext := hend.mono (Nat.le_succ indent)
    obtain ⟨line₁, hfirst⟩ := lexes_item (hall v List.mem_cons_self) true place ts
      (by rwa [if_pos rfl]) (.anew (t := .blockSequence) hblocks) (follows_blockItems items hnext)
    obtain ⟨line₂, hrest⟩ := lexes_items (fun w hw ↦ hall w (List.mem_cons_of_mem v hw)) blocks
      hnext line₁ _
    have hread := lexes_end (hfirst.trans hrest) hend
    have hblock : block indent (.list (v :: items)) = blockItems indent true (v :: items) := rfl
    have htokens : partTokens .inBlock (document (.list (v :: items)))
        = .blockSequence :: (itemTokens (itemDocuments (v :: items)) ++ [.blockEnd]) := rfl
    refine ⟨line₂, ?_⟩
    rw [hblock, htokens, toList_blockItems, itemDocuments, itemTokens]
    simpa only [List.append_assoc, List.cons_append, List.nil_append] using hread

theorem lexesValue_list {items : List Value} (hall : ∀ v ∈ items, LexesPart v) :
    LexesValue (.list items) := by
  cases items with
  | nil => exact lexesValue_of_isPiece isPiece_nil
  | cons v items =>
    intro indent place outer after ts hcolumn hafter
    obtain ⟨line, hread⟩ := lexes_items hall outer hafter (place.line + 1) ts
    have hblock : (afterKey indent (.list (v :: items))).toList
        = '\n' :: (blockItems indent false (v :: items)).toList := String.toList_append
    rw [hblock]
    exact ⟨line, (reads_newline _ place _ false ts).trans hread⟩

/-! ### Entries -/

theorem atGap_afterKey (indent : Nat) (v : Value) (rest : List Char) :
    atGap ((afterKey indent v).toList ++ rest) = true := by
  have hspace : ∀ p, atGap ((" " ++ endLine p).toList ++ rest) = true := fun p ↦ by
    rw [String.toList_append]
    rfl
  have hnewline : ∀ s, atGap (("\n" ++ s).toList ++ rest) = true := fun s ↦ by
    rw [String.toList_append]
    rfl
  cases v with
  | list items =>
    cases items with
    | nil => exact hspace _
    | cons v items => exact hnewline _
  | mapping entries =>
    cases entries with
    | nil => exact hspace _
    | cons e entries => exact hnewline _
  | _ => exact hspace _

variable {name : String}

theorem lexes_entry (hname : isSimpleKey (.text name) = true) (hv : LexesValue v) (begun : Bool)
    (place : Place) (ts : List Token)
    (hcolumn : place.column = if begun then indent else 0)
    (hopening : Opening blocks indent .blockMapping (indent :: outer) new)
    (hafter : Follows (indent + 1) after) :
    ∃ line, Reads (ready ((lineStart indent begun).toList ++
        (scalarText indent name ++ ':' :: ((afterKey indent v).toList ++ after))) place blocks
          true ts)
      (ready after ⟨line, 0, 0⟩ (indent :: outer) true
        (ts ++ new ++ .key :: (partTokens .inMapping (scalarOf name) ++
          .value :: partTokens .inMapping (document v)))) := by
  obtain ⟨place', hplace, hstart⟩ := reads_lineStart begun blocks ts
    (scalarText indent name ++ ':' :: ((afterKey indent v).toList ++ after)) hcolumn
  rw [isSimpleKey, Bool.and_eq_true, Bool.not_eq_true', isMultiline_eq_false_iff,
    decide_eq_true_eq] at hname
  obtain ⟨p, t, htext, hwrites, htokens, ht⟩ := exists_writes_scalarText hname.1
  have hsize : byteCount p ≤ longestKey := by
    have hle := hwrites.byteCount_le ht
    rw [longestKey]
    omega
  have hkey : Reads
      (ready (p ++ ':' :: ((afterKey indent v).toList ++ after)) place' blocks true ts)
      (ready ((afterKey indent v).toList ++ after) (place'.after (p ++ [':'])) (indent :: outer)
        false (ts ++ new ++ [.key, t, .value])) :=
    reads_key hwrites hsize (atGap_afterKey indent v after) (by rwa [hplace])
  have hbehind : indent < (place'.after (p ++ [':'])).column := by
    have hcolon : OnOneLine (p ++ [':']) := List.forall_mem_append.2
      ⟨hwrites.onOneLine, by simpa using (by decide : isBreak ':' = false)⟩
    rw [PlainText.after_of_onOneLine hcolon, List.length_append, List.length_singleton, ← hplace]
    dsimp only
    omega
  obtain ⟨line, hread⟩ := hv indent _ outer after (ts ++ new ++ [.key, t, .value]) hbehind
    hafter
  refine ⟨line, ?_⟩
  rw [List.append_assoc (ts ++ new)] at hread
  rw [htext] at hstart ⊢
  rw [htokens]
  exact hstart.trans (hkey.trans hread)

/-- The entries of an object. -/
def entriesOf (fields : List (String × Value)) : List (Value × Value) :=
  fields.map fun f ↦ (.text f.1, f.2)

theorem toList_blockEntries (indent : Nat) (begun : Bool) {f : String × Value}
    (hname : isSimpleKey (.text f.1) = true) (fields : List (String × Value)) :
    (blockEntries indent begun (entriesOf (f :: fields))).toList
      = (lineStart indent begun).toList ++ (scalarText indent f.1 ++
        ':' :: ((afterKey indent f.2).toList ++
          (blockEntries indent false (entriesOf fields)).toList)) := by
  have hcolon : (":" : String).toList = [':'] := rfl
  have hpiece : (piece? indent (.text f.1)).getD [] = scalarText indent f.1 := rfl
  rw [entriesOf, List.map_cons, ← entriesOf, blockEntries]
  simp only [hname, if_true, hpiece, String.toList_append, String.toList_ofList, hcolon,
    List.append_assoc, List.cons_append, List.nil_append]

/-- Each entry starts a line. -/
theorem follows_blockEntries {fields : List (String × Value)}
    (hnames : ∀ f ∈ fields, isSimpleKey (.text f.1) = true) (hafter : Follows (indent + 1) after) :
    Follows (indent + 1) ((blockEntries indent false (entriesOf fields)).toList ++ after) := by
  cases fields with
  | nil => rwa [entriesOf, List.map_nil, blockEntries]
  | cons f fields =>
    have hname := hnames f List.mem_cons_self
    rw [toList_blockEntries indent false hname]
    rw [isSimpleKey, Bool.and_eq_true, Bool.not_eq_true', isMultiline_eq_false_iff] at hname
    obtain ⟨p, t, htext, hwrites, -⟩ := exists_writes_scalarText hname.1
    obtain ⟨c, cs, rfl, hc⟩ := hwrites.exists_cons
    rw [htext, List.append_assoc, List.append_assoc, List.cons_append, lineStart, if_neg (by simp),
      String.toList_ofList]
    exact .line (Nat.lt_succ_self indent) hc

theorem lexes_entries {fields : List (String × Value)}
    (hnames : ∀ f ∈ fields, isSimpleKey (.text f.1) = true) (hall : ∀ f ∈ fields, LexesValue f.2)
    (outer : List Nat) (hafter : Follows (indent + 1) after) (line : Nat) (ts : List Token) :
    ∃ line', Reads (ready ((blockEntries indent false (entriesOf fields)).toList ++ after)
        ⟨line, 0, 0⟩ (indent :: outer) true ts)
      (ready after ⟨line', 0, 0⟩ (indent :: outer) true
        (ts ++ entryTokens (entryDocuments (entriesOf fields)))) := by
  induction fields generalizing line ts with
  | nil =>
    refine ⟨line, ?_⟩
    rw [entriesOf, List.map_nil, blockEntries, entryDocuments, entryTokens, List.append_nil]
    exact reads_of_agrees (fun _ ↦ rfl) rfl
  | cons f fields ih =>
    have hname := hnames f List.mem_cons_self
    have htail : ∀ g ∈ fields, isSimpleKey (.text g.1) = true := fun g hg ↦
      hnames g (List.mem_cons_of_mem f hg)
    have hwithin : Opening (indent :: outer) indent .blockMapping (indent :: outer) [] :=
      .within rfl
    obtain ⟨line₁, hfirst⟩ := lexes_entry hname (hall f List.mem_cons_self) false ⟨line, 0, 0⟩ ts
      rfl hwithin (follows_blockEntries htail hafter)
    obtain ⟨line₂, hrest⟩ := ih htail (fun g hg ↦ hall g (List.mem_cons_of_mem f hg)) line₁ _
    refine ⟨line₂, ?_⟩
    have htokens : entryTokens (entryDocuments (entriesOf (f :: fields)))
        = .key :: (partTokens .inMapping (scalarOf f.1) ++ .value ::
          (partTokens .inMapping (document f.2) ++
            entryTokens (entryDocuments (entriesOf fields)))) := rfl
    rw [toList_blockEntries indent false hname, htokens]
    simpa only [List.append_assoc, List.cons_append, List.nil_append] using hfirst.trans hrest

/-- A mapping in a block of its own, whose first entry stands on a line that may have begun. -/
theorem lexes_object {f : String × Value} {fields : List (String × Value)}
    (hnames : ∀ g ∈ f :: fields, isSimpleKey (.text g.1) = true)
    (hall : ∀ g ∈ f :: fields, LexesValue g.2) (begun : Bool) (place : Place)
    (hcolumn : place.column = if begun then indent else 0)
    (hblocks : ∀ b ∈ blocks.head?, b < indent) (hafter : Follows (boundOf blocks) after)
    (ts : List Token) :
    ∃ line, Reads (ready ((blockEntries indent begun (entriesOf (f :: fields))).toList ++ after)
        place blocks true ts)
      (ready after ⟨line, 0, 0⟩ blocks true
        (ts ++ partTokens .inBlock (document (.object (f :: fields))))) := by
  have hend := hafter.mono (boundOf_le hblocks)
  have hnext := hend.mono (Nat.le_succ indent)
  have htail : ∀ g ∈ fields, isSimpleKey (.text g.1) = true := fun g hg ↦
    hnames g (List.mem_cons_of_mem f hg)
  obtain ⟨line₁, hfirst⟩ := lexes_entry (hnames f List.mem_cons_self)
    (hall f List.mem_cons_self) begun place ts hcolumn (.anew (t := .blockMapping) hblocks)
    (follows_blockEntries htail hnext)
  obtain ⟨line₂, hrest⟩ := lexes_entries htail (fun g hg ↦ hall g (List.mem_cons_of_mem f hg))
    blocks hnext line₁ _
  have hread := lexes_end (hfirst.trans hrest) hend
  have htokens : partTokens .inBlock (document (.object (f :: fields)))
      = .blockMapping :: (.key :: (partTokens .inMapping (scalarOf f.1) ++ .value ::
        (partTokens .inMapping (document f.2) ++
          entryTokens (entryDocuments (entriesOf fields)))) ++ [.blockEnd]) := rfl
  refine ⟨line₂, ?_⟩
  rw [toList_blockEntries indent begun (hnames f List.mem_cons_self), htokens]
  simpa only [List.append_assoc, List.cons_append, List.nil_append] using hread

theorem lexesPart_object {fields : List (String × Value)}
    (hnames : ∀ f ∈ fields, isSimpleKey (.text f.1) = true)
    (hall : ∀ f ∈ fields, LexesValue f.2) : LexesPart (.object fields) := by
  cases fields with
  | nil => exact lexesPart_of_isPiece isPiece_object_nil
  | cons f fields =>
    intro indent place blocks after ts hcolumn hblocks hafter
    exact lexes_object hnames hall true place (by rwa [if_pos rfl]) hblocks hafter ts

theorem lexesValue_object {fields : List (String × Value)}
    (hnames : ∀ f ∈ fields, isSimpleKey (.text f.1) = true)
    (hall : ∀ f ∈ fields, LexesValue f.2) : LexesValue (.object fields) := by
  cases fields with
  | nil => exact lexesValue_of_isPiece isPiece_object_nil
  | cons f fields =>
    intro indent place outer after ts hcolumn hafter
    have houter : ∀ b ∈ (indent :: outer).head?, b < indent + 2 := by simp
    obtain ⟨line, hread⟩ := lexes_object hnames hall false ⟨place.line + 1, 0, 0⟩ rfl houter hafter
      ts
    have hblock : (afterKey indent (.object (f :: fields))).toList
        = '\n' :: (blockEntries (indent + 2) false (entriesOf (f :: fields))).toList :=
      String.toList_append
    rw [hblock]
    exact ⟨line, (reads_newline _ place _ false ts).trans hread⟩

theorem lexes_of_isPiece (h : IsPiece v p new) : LexesPart v ∧ LexesValue v :=
  ⟨lexesPart_of_isPiece h, lexesValue_of_isPiece h⟩

theorem lexes_of_isLegible {levels : Nat} (h : IsLegible levels v) :
    LexesPart v ∧ LexesValue v := by
  induction h with
  | null => exact lexes_of_isPiece isPiece_null
  | bool b =>
    obtain ⟨p, new, hpiece⟩ := exists_isPiece_bool b
    exact lexes_of_isPiece hpiece
  | integer => exact lexes_of_isPiece (isPiece_integer _)
  | text h =>
    obtain ⟨p, new, hpiece⟩ := exists_isPiece_text h
    exact lexes_of_isPiece hpiece
  | @list _ items _ ih =>
    have hall : ∀ v ∈ items, LexesPart v := fun v hv ↦ (ih v hv).1
    exact ⟨lexesPart_list hall, lexesValue_list hall⟩
  | @mapping _ fields hnames _ _ ih =>
    have hall : ∀ f ∈ fields, LexesValue f.2 := fun f hf ↦ (ih f hf).2
    exact ⟨lexesPart_object hnames hall, lexesValue_object hnames hall⟩

end Lines

end Interdomain.Yaml
