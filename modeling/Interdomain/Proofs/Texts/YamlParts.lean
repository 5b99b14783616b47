import Interdomain.Yaml.Reader

/-!
# Tokens of documents

A document is written with one token for each scalar, and with tokens around the items and entries
of its lists and mappings. These tokens are read as the document (`ofTokens?_partTokens`), because
no part of a document starts with a token that could end what is before it.
-/

namespace Interdomain

/-- A document without typed parts. -/
inductive Document.Written : Document → Prop where
  | plain (t : String) : Written (.plain t)
  | quoted (t : String) : Written (.quoted t)
  | list {items : List Document} (h : ∀ d ∈ items, Written d) : Written (.list items)
  | mapping {entries : List (Document × Document)} (hkeys : ∀ e ∈ entries, Written e.1)
    (h : ∀ e ∈ entries, Written e.2) : Written (.mapping entries)

namespace Yaml

mutual

/-- The tokens of a document where it is not between brackets. In a mapping the items of a list need
no block of their own. -/
def partTokens (position : Position) : Document → List Token
  | .plain t => [.plain t]
  | .quoted t => [.quoted t]
  | .list [] => [.openBracket, .closeBracket]
  | .mapping [] => [.openBrace, .closeBrace]
  | .list (d :: items) =>
    if position = .inMapping then itemTokens (d :: items)
    else .blockSequence :: (itemTokens (d :: items) ++ [.blockEnd])
  | .mapping (e :: entries) => .blockMapping :: (entryTokens (e :: entries) ++ [.blockEnd])
  | .typed _ => []

def itemTokens : List Document → List Token
  | [] => []
  | d :: items => .item :: (partTokens .inBlock d ++ itemTokens items)

def entryTokens : List (Document × Document) → List Token
  | [] => []
  | (k, d) :: entries =>
    .key :: (partTokens .inMapping k ++ .value :: (partTokens .inMapping d ++ entryTokens entries))

end

variable {d : Document} {position : Position} {ts rest : List Token} {fuel : Nat}

theorem exists_head_partTokens (h : d.Written) (position : Position) (hflow : position ≠ .inFlow) :
    ∃ t ts, partTokens position d = t :: ts ∧ startsPart position (some t) = true := by
  cases h with
  | plain t => exact ⟨_, _, rfl, rfl⟩
  | quoted t => exact ⟨_, _, rfl, rfl⟩
  | @list items =>
    cases items with
    | nil => exact ⟨_, _, rfl, rfl⟩
    | cons d items =>
      rw [partTokens]
      cases position with
      | inFlow => exact absurd rfl hflow
      | inBlock => exact ⟨_, _, rfl, rfl⟩
      | inMapping => exact ⟨_, _, rfl, rfl⟩
  | @mapping entries =>
    cases entries with
    | nil => exact ⟨_, _, rfl, rfl⟩
    | cons e entries =>
      refine ⟨_, _, rfl, ?_⟩
      cases position with
      | inFlow => exact absurd rfl hflow
      | inBlock => rfl
      | inMapping => rfl

/-- A document is read from its tokens. What follows items without a block is no item. -/
def ReadsPart (d : Document) : Prop :=
  ∀ (position : Position) (fuel : Nat) (rest : List Token), position ≠ .inFlow →
    4 * (partTokens position d).length ≤ fuel →
    (position = .inMapping → rest.head? ≠ some .item) →
    readPart fuel position (partTokens position d ++ rest) = some (d, rest)

theorem readPart_of_startsPart {t : Token} (h : startsPart position (some t) = true) :
    readPart (fuel + 1) position (t :: ts) = readContent fuel position (t :: ts) := by
  rw [readPart.eq_def]
  split
  case h_1 heq => simp at heq
  case h_2 heq =>
    rw [(List.cons.inj heq).1] at h
    exact absurd h (by simp [startsPart])
  case h_3 heq _ => rw [Nat.succ.inj heq]

theorem readMappingPart_eq (fuel : Nat) (rest : List Token) (hd : d.Written) (hread : ReadsPart d)
    (hfuel : 4 * (partTokens .inMapping d).length ≤ fuel) (hrest : rest.head? ≠ some .item) :
    readMappingPart (fuel + 1) (partTokens .inMapping d ++ rest) = some (d, rest) := by
  obtain ⟨t, ts, hts, hstart⟩ := exists_head_partTokens hd .inMapping (by simp)
  have hends : endsMappingPart (partTokens .inMapping d ++ rest).head? = false := by
    rw [hts]
    cases t <;> first | exact absurd hstart (by decide) | rfl
  rw [readMappingPart, hends, if_neg (by simp)]
  exact hread .inMapping fuel rest (by simp) hfuel fun _ ↦ hrest

theorem readPart_item_eq (fuel : Nat) (rest : List Token) (hd : d.Written) (hread : ReadsPart d)
    (hfuel : 4 * (partTokens .inBlock d).length ≤ fuel) :
    ((partTokens .inBlock d ++ rest).head? ≠ some .item ∧
      endsMappingPart (partTokens .inBlock d ++ rest).head? = false) ∧
    readPart fuel .inBlock (partTokens .inBlock d ++ rest) = some (d, rest) := by
  obtain ⟨t, ts, hts, hstart⟩ := exists_head_partTokens hd .inBlock (by simp)
  refine ⟨?_, hread .inBlock fuel rest (by simp) hfuel (by simp)⟩
  rw [hts]
  cases t <;> first | exact absurd hstart (by decide) | exact ⟨by simp, rfl⟩

/-! ## Items and entries -/

section Parts

variable {items : List Document} {entries : List (Document × Document)}

theorem readBlockItems_eq (hwritten : ∀ d ∈ items, d.Written) (hread : ∀ d ∈ items, ReadsPart d)
    (hfuel : 4 * (itemTokens items).length ≤ fuel + 2) (hpos : 0 < fuel) (before : List Document) :
    readBlockItems fuel before (itemTokens items ++ .blockEnd :: rest)
      = some (.list (before.reverse ++ items), rest) := by
  induction items generalizing before fuel with
  | nil =>
    obtain ⟨fuel, rfl⟩ : ∃ n, fuel = n + 1 := ⟨fuel - 1, by omega⟩
    rw [itemTokens, List.nil_append, readBlockItems, List.append_nil]
  | cons d items ih =>
    obtain ⟨fuel, rfl⟩ : ∃ n, fuel = n + 1 := ⟨fuel - 1, by omega⟩
    rw [itemTokens, List.length_cons, List.length_append] at hfuel
    obtain ⟨⟨hitem, hends⟩, hfirst⟩ := readPart_item_eq fuel
      (itemTokens items ++ .blockEnd :: rest) (hwritten d List.mem_cons_self)
      (hread d List.mem_cons_self) (by omega)
    have hhead : ¬((partTokens .inBlock d ++ (itemTokens items ++ .blockEnd :: rest)).head?
        = some .item ∨ (partTokens .inBlock d ++ (itemTokens items ++ .blockEnd :: rest)).head?
        = some .blockEnd) := by
      rintro (h | h)
      · exact hitem h
      · rw [h] at hends
        exact absurd hends (by decide)
    rw [itemTokens, List.cons_append, List.append_assoc, readBlockItems, if_neg hhead, hfirst]
    dsimp only
    rw [ih (fun e he ↦ hwritten e (List.mem_cons_of_mem d he))
      (fun e he ↦ hread e (List.mem_cons_of_mem d he)) (by omega) (by omega), List.reverse_cons,
      List.append_assoc, List.singleton_append]

theorem readBareItems_eq (fuel : Nat) (hwritten : ∀ d ∈ items, d.Written)
    (hread : ∀ d ∈ items, ReadsPart d)
    (hfuel : 4 * (itemTokens items).length ≤ fuel + 2) (hpos : 0 < fuel)
    (hrest : rest.head? ≠ some .item) (before : List Document) :
    readBareItems fuel before (itemTokens items ++ rest)
      = some (.list (before.reverse ++ items), rest) := by
  induction items generalizing before fuel with
  | nil =>
    obtain ⟨fuel, rfl⟩ : ∃ n, fuel = n + 1 := ⟨fuel - 1, by omega⟩
    rw [itemTokens, List.nil_append, List.append_nil, readBareItems.eq_def]
    split
    case h_1 heq => simp at heq
    case h_2 => exact absurd rfl hrest
    case h_3 => rfl
  | cons d items ih =>
    obtain ⟨fuel, rfl⟩ : ∃ n, fuel = n + 1 := ⟨fuel - 1, by omega⟩
    rw [itemTokens, List.length_cons, List.length_append] at hfuel
    obtain ⟨⟨hitem, hends⟩, hfirst⟩ := readPart_item_eq fuel (itemTokens items ++ rest)
      (hwritten d List.mem_cons_self) (hread d List.mem_cons_self) (by omega)
    have hhead : ¬((partTokens .inBlock d ++ (itemTokens items ++ rest)).head? = some .item ∨
        endsMappingPart (partTokens .inBlock d ++ (itemTokens items ++ rest)).head? = true) := by
      rw [hends]
      simpa using hitem
    rw [itemTokens, List.cons_append, List.append_assoc, readBareItems, if_neg hhead, hfirst]
    dsimp only
    rw [ih _ (fun e he ↦ hwritten e (List.mem_cons_of_mem d he))
      (fun e he ↦ hread e (List.mem_cons_of_mem d he)) (by omega) (by omega), List.reverse_cons,
      List.append_assoc, List.singleton_append]

theorem readBlockEntries_eq (hkeys : ∀ e ∈ entries, e.1.Written ∧ ReadsPart e.1)
    (hvalues : ∀ e ∈ entries, e.2.Written ∧ ReadsPart e.2)
    (hfuel : 4 * (entryTokens entries).length ≤ fuel + 2) (hpos : 0 < fuel)
    (before : List (Document × Document)) :
    readBlockEntries fuel before (entryTokens entries ++ .blockEnd :: rest)
      = some (.mapping (before.reverse ++ entries), rest) := by
  induction entries generalizing before fuel with
  | nil =>
    obtain ⟨fuel, rfl⟩ : ∃ n, fuel = n + 1 := ⟨fuel - 1, by omega⟩
    rw [entryTokens, List.nil_append, readBlockEntries, List.append_nil]
  | cons e entries ih =>
    obtain ⟨k, d⟩ := e
    simp only [entryTokens, List.length_cons, List.length_append] at hfuel
    obtain ⟨fuel, rfl⟩ : ∃ n, fuel = n + 2 := ⟨fuel - 2, by omega⟩
    obtain ⟨hk, hreadk⟩ : k.Written ∧ ReadsPart k := hkeys (k, d) List.mem_cons_self
    obtain ⟨hd, hreadd⟩ : d.Written ∧ ReadsPart d := hvalues (k, d) List.mem_cons_self
    have hnext : (entryTokens entries ++ .blockEnd :: rest).head? ≠ some .item := by
      rcases entries with _ | ⟨⟨k', d'⟩, entries⟩ <;> simp [entryTokens]
    have hkey := readMappingPart_eq fuel
      (.value :: (partTokens .inMapping d ++ (entryTokens entries ++ .blockEnd :: rest))) hk hreadk
      (by omega) (by simp)
    have hvalue := readMappingPart_eq fuel _ hd hreadd (by omega) hnext
    rw [entryTokens, List.cons_append, List.append_assoc, List.cons_append, List.append_assoc,
      readBlockEntries, hkey]
    dsimp only
    rw [hvalue]
    dsimp only
    rw [ih (fun e he ↦ hkeys e (List.mem_cons_of_mem _ he))
      (fun e he ↦ hvalues e (List.mem_cons_of_mem _ he)) (by omega) (by omega), List.reverse_cons,
      List.append_assoc, List.singleton_append]

end Parts

/-- It is enough to read the part behind its anchor, of which there is none. -/
theorem readsPart_of_readContent (hd : d.Written)
    (h : ∀ (position : Position) (fuel : Nat) (rest : List Token), position ≠ .inFlow →
      4 * (partTokens position d).length ≤ fuel + 2 →
      (position = .inMapping → rest.head? ≠ some .item) →
      readContent (fuel + 1) position (partTokens position d ++ rest) = some (d, rest)) :
    ReadsPart d := by
  intro position fuel rest hflow hfuel hrest
  obtain ⟨t, ts, hts, hstart⟩ := exists_head_partTokens hd position hflow
  obtain ⟨fuel, rfl⟩ : ∃ n, fuel = n + 2 := by
    rw [hts, List.length_cons] at hfuel
    exact ⟨fuel - 2, by omega⟩
  have hread := h position fuel rest hflow hfuel hrest
  rw [hts] at hread ⊢
  rw [List.cons_append, readPart_of_startsPart hstart]
  exact hread

theorem readsPart_list {items : List Document} (h : ∀ d ∈ items, d.Written)
    (hread : ∀ d ∈ items, ReadsPart d) : ReadsPart (.list items) := by
  refine readsPart_of_readContent (.list h) fun position fuel rest hflow hfuel hrest ↦ ?_
  cases items with
  | nil =>
    obtain ⟨fuel, rfl⟩ : ∃ n, fuel = n + 1 := ⟨fuel - 1, by simp [partTokens] at hfuel; omega⟩
    rw [partTokens, List.cons_append, List.singleton_append, readContent, readFlowItems]
    rfl
  | cons d items =>
    rw [partTokens] at hfuel ⊢
    cases position with
    | inFlow => exact absurd rfl hflow
    | inBlock =>
      rw [if_neg (by simp)] at hfuel ⊢
      rw [List.length_cons, List.length_append] at hfuel
      rw [List.cons_append, List.append_assoc, List.singleton_append, readContent,
        if_neg (by simp), readBlockItems_eq h hread (by omega) (by omega)]
      rfl
    | inMapping =>
      rw [if_pos rfl] at hfuel ⊢
      have hlength : (itemTokens (d :: items)).length ≠ 0 := by simp [itemTokens]
      have hitems := readBareItems_eq fuel h hread (by omega) (by omega) (hrest rfl) []
      rw [itemTokens, List.cons_append] at hitems ⊢
      rw [readContent, if_pos rfl, hitems]
      rfl

theorem readsPart_mapping {entries : List (Document × Document)}
    (hkeys : ∀ e ∈ entries, e.1.Written ∧ ReadsPart e.1)
    (hvalues : ∀ e ∈ entries, e.2.Written ∧ ReadsPart e.2) : ReadsPart (.mapping entries) := by
  refine readsPart_of_readContent
    (.mapping (fun e he ↦ (hkeys e he).1) (fun e he ↦ (hvalues e he).1))
    fun position fuel rest hflow hfuel _ ↦ ?_
  cases entries with
  | nil =>
    obtain ⟨fuel, rfl⟩ : ∃ n, fuel = n + 1 := ⟨fuel - 1, by simp [partTokens] at hfuel; omega⟩
    rw [partTokens, List.cons_append, List.singleton_append, readContent, readFlowEntries]
    rfl
  | cons e entries =>
    rw [partTokens] at hfuel ⊢
    rw [List.length_cons, List.length_append] at hfuel
    rw [List.cons_append, List.append_assoc, List.singleton_append, readContent, if_neg hflow,
      readBlockEntries_eq hkeys hvalues (by omega) (by omega)]
    rfl

theorem readsPart_of_written (h : d.Written) : ReadsPart d := by
  induction h with
  | plain t =>
    exact readsPart_of_readContent (.plain t) fun _ _ _ _ _ _ ↦ by
      rw [partTokens, List.singleton_append, readContent]
  | quoted t =>
    exact readsPart_of_readContent (.quoted t) fun _ _ _ _ _ _ ↦ by
      rw [partTokens, List.singleton_append, readContent]
  | list h ih => exact readsPart_list h ih
  | mapping hkeys h ihk ih =>
    exact readsPart_mapping (fun e he ↦ ⟨hkeys e he, ihk e he⟩) (fun e he ↦ ⟨h e he, ih e he⟩)

/-- **A document is read from its tokens.** -/
theorem ofTokens?_partTokens (h : d.Written) : ofTokens? (partTokens .inBlock d) = some d := by
  obtain ⟨t, ts, hts, hstart⟩ := exists_head_partTokens h .inBlock (by simp)
  have hread := readsPart_of_written h .inBlock (4 * (partTokens .inBlock d).length + 4) []
    (by simp) (by omega) (by simp)
  rw [List.append_nil] at hread
  rw [hts] at hread ⊢
  have hbody : readBody? (t :: ts) = some (d, []) := by
    cases t <;> first | exact absurd hstart (by decide) | exact hread
  have hof : ofTokens? (t :: ts) = (readBody? (t :: ts)).bind fun p ↦
      if isEnd p.2 then some p.1 else none := by
    cases t <;> first | exact absurd hstart (by decide) | rfl
  rw [hof, hbody]
  rfl

end Yaml

end Interdomain
