import Interdomain.Proofs.Texts.YamlBlocks

/-!
# YAML texts that are read back

A printed value is read back as the value, if its texts are on one line and it has no floating point
numbers (`exists_text?_eq`). Its text has the tokens of its document (`tokens?_text`), these are
read as the document (`read?_text`), and the scalars of the document have the types that they were
printed with (`value?_document`).
-/

namespace Interdomain.Yaml

variable {levels : Nat} {v : Value}

theorem unifyBreaks_of_isOrdinary {cs : List Char} (h : ∀ c ∈ cs, IsOrdinary c) :
    unifyBreaks cs = cs := by
  induction cs with
  | nil => rfl
  | cons c cs ih =>
    have hc := (h c List.mem_cons_self).2
    have hreturn : c ≠ '\r' := by
      rintro rfl
      exact absurd hc (by decide)
    rw [unifyBreaks.eq_def]
    split
    case h_1 heq => simp at heq
    case h_2 heq => exact absurd (List.cons.inj heq).1 hreturn
    case h_3 heq =>
      obtain ⟨rfl, rfl⟩ := List.cons.inj heq
      rw [hc, if_neg (by simp), ih fun d hd ↦ h d (List.mem_cons_of_mem c hd)]

/-- A text is the tokens to which it leads. -/
theorem tokens?_of_reads {cs : List Char} {ts : List Token} {place : Place}
    (h : Lexer.Reads (Lexer.ready cs {} [] true []) (Lexer.ready [] place [] true ts)) :
    tokens? cs = some ts := by
  obtain ⟨taken, n, hrest, hn, hall, hrun⟩ := h
  obtain rfl : cs = taken := hrest.trans (List.append_nil taken)
  have hallowed : cs.all isAllowed = true := List.all_eq_true.2 fun c hc ↦ (hall c hc).1
  obtain ⟨fuel, hfuel⟩ : ∃ fuel, cs.length + 1 = fuel + 1 + n := ⟨cs.length - n, by omega⟩
  have hstart : ({ rest := cs } : Lexer) = Lexer.ready cs {} [] true [] := rfl
  rw [tokens?, if_pos hallowed]
  dsimp only
  rw [unifyBreaks_of_isOrdinary hall, hstart, hfuel, hrun, Lexer.run?_nil, Lexer.ends, List.map_nil,
    List.append_nil]
  rfl

theorem text_eq_block (h : IsLegible levels v) : text v = block 0 v := by
  cases h with
  | null => rfl
  | bool b => rfl
  | integer => rfl
  | text h =>
    obtain ⟨p, t, htext, -⟩ := exists_writes_scalarText h
    exact congrArg endLine ((htext 2).trans (htext 0).symm)
  | @list _ items => cases items <;> rfl
  | @mapping _ fields => cases fields <;> rfl

theorem tokens?_text (h : IsLegible levels v) :
    tokens? (text v).toList = some (partTokens .inBlock (document v)) := by
  obtain ⟨line, hread⟩ := (lexes_of_isLegible h).1 0 {} [] [] [] rfl (by simp) .nothing
  rw [List.append_nil, List.nil_append, ← text_eq_block h] at hread
  exact tokens?_of_reads hread

theorem written_document (h : IsLegible levels v) : (document v).Written := by
  induction h with
  | null | bool | integer => exact .plain _
  | text => exact written_scalarOf _
  | @list _ items _ ih =>
    rw [document, itemDocuments_eq_map]
    exact .list (List.forall_mem_map.2 ih)
  | @mapping _ fields _ _ _ ih =>
    rw [Value.object, document, entryDocuments_eq_map, List.map_map]
    exact .mapping (List.forall_mem_map.2 fun f _ ↦ written_scalarOf f.1) (List.forall_mem_map.2 ih)

/-- **A printed value is read back**, less the types of its scalars. -/
theorem read?_text (h : IsLegible levels v) : read? (text v) = some (document v) := by
  rw [read?, tokens?_text h, Option.bind_eq_bind, Option.bind_some,
    ofTokens?_partTokens (written_document h)]

theorem value?_scalarOf (s : String) (uniqueKeys : Bool) (levels : Nat) :
    (scalarOf s).value? uniqueKeys levels = some (.text s) := by
  rw [scalarOf]
  split
  case isTrue h => exact Scalar.resolve?_of_isAmbiguous (of_styleOf_eq_plain h).1
  case isFalse => rw [Document.value?]

theorem itemValues?_map {uniqueKeys : Bool} {items : List Value}
    (h : ∀ v ∈ items, (document v).value? uniqueKeys levels = some v) :
    Document.itemValues? uniqueKeys levels (items.map document) = some items := by
  induction items with
  | nil => rfl
  | cons v items ih =>
    rw [List.map_cons, Document.itemValues?, h v List.mem_cons_self,
      ih fun w hw ↦ h w (List.mem_cons_of_mem v hw)]
    rfl

theorem entryValues?_map {uniqueKeys : Bool} {fields : List (String × Value)}
    (hdistinct : (fields.map (·.1)).Nodup)
    (h : ∀ f ∈ fields, (document f.2).value? uniqueKeys levels = some f.2) :
    Document.entryValues? uniqueKeys levels
      (fields.map fun f ↦ (scalarOf f.1, document f.2)) = some (entriesOf fields) := by
  induction fields with
  | nil => rfl
  | cons f fields ih =>
    rw [List.map_cons, List.nodup_cons] at hdistinct
    have hnew : ¬(uniqueKeys && (entriesOf fields).any fun e ↦ e.1.same (.text f.1)) = true := by
      rw [Bool.and_eq_true, not_and, Bool.not_eq_true]
      refine fun _ ↦ List.any_eq_false.2 (List.forall_mem_map.2 fun g hg ↦ ?_)
      rw [Value.same, beq_iff_eq]
      exact fun heq ↦ hdistinct.1 (heq ▸ List.mem_map_of_mem hg)
    rw [List.map_cons, Document.entryValues?, value?_scalarOf, h f List.mem_cons_self,
      ih hdistinct.2 fun g hg ↦ h g (List.mem_cons_of_mem f hg)]
    simp only [Option.bind_eq_bind, Option.bind_some, if_neg hnew]
    rfl

/-- The types of the scalars are found again. -/
theorem value?_document (h : IsLegible levels v) (uniqueKeys : Bool) :
    (document v).value? uniqueKeys levels = some v := by
  induction h with
  | null => exact Scalar.resolve?_null
  | bool b =>
    cases b with
    | true => exact Scalar.resolve?_bool (t := "true") (by decide) (by decide)
    | false => exact Scalar.resolve?_bool (t := "false") (by decide) (by decide)
  | integer h => exact Scalar.resolve?_signedText h
  | text => exact value?_scalarOf _ uniqueKeys _
  | @list levels items _ ih =>
    rw [document, itemDocuments_eq_map, Document.value?, if_neg (Nat.succ_ne_zero levels),
      Nat.add_sub_cancel, itemValues?_map ih, Option.map_some]
  | @mapping levels fields _ hdistinct _ ih =>
    have hentries : entryDocuments (fields.map fun f ↦ (Value.text f.1, f.2))
        = fields.map fun f ↦ (scalarOf f.1, document f.2) := by
      rw [entryDocuments_eq_map, List.map_map]
      rfl
    rw [Value.object, document, hentries, Document.value?, if_neg (Nat.succ_ne_zero levels),
      Nat.add_sub_cancel, entryValues?_map hdistinct ih, Option.map_some]
    rfl

theorem areItemsWritable_of_forall {items : List Value} (h : ∀ v ∈ items, isWritable v = true) :
    areItemsWritable items = true := by
  induction items with
  | nil => rfl
  | cons v items ih =>
    rw [areItemsWritable, h v List.mem_cons_self, Bool.true_and]
    exact ih fun w hw ↦ h w (List.mem_cons_of_mem v hw)

theorem areEntriesWritable_of_forall {fields : List (String × Value)}
    (h : ∀ f ∈ fields, isWritable f.2 = true) : areEntriesWritable (entriesOf fields) = true := by
  induction fields with
  | nil => rfl
  | cons f fields ih =>
    have hkey : isWritable (.text f.1) = true := rfl
    rw [entriesOf, List.map_cons, areEntriesWritable, hkey, Bool.true_and, h f List.mem_cons_self,
      Bool.true_and]
    exact ih fun g hg ↦ h g (List.mem_cons_of_mem f hg)

theorem isWritable_of_isLegible (h : IsLegible levels v) : isWritable v = true := by
  induction h with
  | null | bool | integer | text => rfl
  | list _ ih =>
    rw [isWritable]
    exact areItemsWritable_of_forall ih
  | @mapping _ fields _ _ _ ih =>
    have hsingle : isSingleInSingle (entriesOf fields) = false := by
      match fields with
      | [] => rfl
      | [_] => rfl
      | _ :: _ :: _ => rfl
    rw [Value.object, ← entriesOf, isWritable, hsingle, areEntriesWritable_of_forall ih]
    rfl

/-- **A printed value is read back** with the types of its scalars. -/
theorem exists_text?_eq (h : IsLegible levels v) (uniqueKeys : Bool) :
    ∃ s, text? v = some s ∧ (read? s).bind (Document.value? uniqueKeys levels) = some v := by
  refine ⟨text v, ?_, ?_⟩
  · rw [text?, if_pos (isWritable_of_isLegible h)]
  · rw [read?_text h, Option.bind_some, value?_document h]

-- The last text would be a mapping without its quotes.
example : text? (.object [("Size", .integer 2), ("Filter", .list [.text "1-2", .text "not: 3"])])
    = some "Size: 2\nFilter:\n- 1-2\n- 'not: 3'\n" := by
  decide +kernel

end Interdomain.Yaml
