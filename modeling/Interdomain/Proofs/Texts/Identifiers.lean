import Interdomain.Identifier
import Mathlib.Data.List.DropRight
import Mathlib.Data.Nat.Digits.Defs

/-!
# Texts of identifiers

An identifier has one text, but many texts are read as it: numbers may have leading zeros and a plus
sign, and blanks may stand around the whole. `Spells` is this grammar, said without a reader: what
is left between the blanks is a number, a dash and a number. Neither digits nor signs are dashes, so
the dash that separates the numbers is the first one, and this is where the reader splits a text.
-/

namespace Interdomain

/-! ## Numbers -/

namespace Decimal

variable {limit n : Nat} {cs : List Char}

/-- A row of digits means a number: there is at least one digit, and they are read in base ten. -/
structure Means (cs : List Char) (n : Nat) : Prop where
  nonempty : cs ≠ []
  digits : ∀ c ∈ cs, '0' ≤ c ∧ c ≤ '9'
  worth : n = Nat.ofDigits 10 (cs.reverse.map fun c ↦ c.toNat - '0'.toNat)

/-- A row of digits means a number, or does so after one plus sign. -/
def MeansUnsigned (cs : List Char) (n : Nat) : Prop :=
  Means cs n ∨ ∃ row, cs = '+' :: row ∧ Means row n

theorem isDigit_iff {c : Char} : isDigit c = true ↔ '0' ≤ c ∧ c ≤ '9' := by
  rw [isDigit, Bool.and_eq_true, decide_eq_true_eq, decide_eq_true_eq]

theorem isNumeral_iff : isNumeral cs = true ↔ cs ≠ [] ∧ ∀ c ∈ cs, '0' ≤ c ∧ c ≤ '9' := by
  simp only [isNumeral, Bool.and_eq_true, Bool.not_eq_true', List.isEmpty_eq_false_iff,
    List.all_eq_true, isDigit_iff]

theorem value_eq_ofDigits (cs : List Char) :
    value cs = Nat.ofDigits 10 (cs.reverse.map fun c ↦ c.toNat - '0'.toNat) := by
  induction cs using List.reverseRecOn with
  | nil => rfl
  | append_singleton cs c ih =>
    rw [value_append, List.reverse_append, List.reverse_singleton, List.singleton_append,
      List.map_cons, Nat.ofDigits_cons, ← ih]
    exact Nat.add_comm ..

theorem read?_eq_some_iff : read? limit cs = some n ↔ Means cs n ∧ n ≤ limit := by
  rw [read?, Option.ite_none_right_eq_some, Bool.and_eq_true, decide_eq_true_eq, isNumeral_iff,
    Option.some.injEq]
  constructor
  · rintro ⟨⟨⟨hne, hdigits⟩, hle⟩, rfl⟩
    exact ⟨⟨hne, hdigits, value_eq_ofDigits cs⟩, hle⟩
  · rintro ⟨⟨hne, hdigits, rfl⟩, hle⟩
    rw [← value_eq_ofDigits] at hle ⊢
    exact ⟨⟨⟨hne, hdigits⟩, hle⟩, rfl⟩

theorem readUnsigned?_eq_some_iff :
    readUnsigned? limit cs = some n ↔ MeansUnsigned cs n ∧ n ≤ limit := by
  unfold readUnsigned? MeansUnsigned
  split
  case h_1 row =>
    have hsign : ¬Means ('+' :: row) n := fun h ↦
      absurd (h.digits '+' List.mem_cons_self) (by decide)
    simp [read?_eq_some_iff, hsign]
  case h_2 hsign =>
    have hrow : ¬∃ row, cs = '+' :: row ∧ Means row n := fun ⟨row, h, _⟩ ↦ hsign row h
    simp only [read?_eq_some_iff, hrow, or_false]

theorem means_digits (n : Nat) : Means (Decimal.digits n) n :=
  (read?_eq_some_iff.1 (read?_digits (Nat.le_refl n))).1

/-- A number has digits in it, and perhaps a sign before them. -/
theorem MeansUnsigned.mem (h : MeansUnsigned cs n) {c : Char} (hc : c ∈ cs) :
    c = '+' ∨ '0' ≤ c ∧ c ≤ '9' := by
  rcases h with h | ⟨row, rfl, h⟩
  · exact .inr (h.digits c hc)
  · exact (List.mem_cons.1 hc).imp id (h.digits c)

end Decimal

/-! ## Blanks -/

theorem isBlank_of_digit {c : Char} (h : '0' ≤ c ∧ c ≤ '9') : isBlank c = false := by
  have hfrom : 48 ≤ c.toNat := Char.le_def.1 h.1
  have hto : c.toNat ≤ 57 := Char.le_def.1 h.2
  simp only [isBlank, Bool.or_eq_false_iff, Bool.and_eq_false_iff, decide_eq_false_iff_not,
    beq_eq_false_iff_ne]
  omega

/-- What a text holds between the blanks at its ends. -/
structure Trims (cs middle : List Char) : Prop where
  around : ∃ before behind, cs = before ++ middle ++ behind ∧
    ∀ c ∈ before ++ behind, isBlank c = true
  /-- No blank is left at the start. -/
  first : ∀ c ∈ middle.head?, isBlank c = false
  /-- No blank is left at the end. -/
  last : ∀ c ∈ middle.getLast?, isBlank c = false

theorem trims_trimBlanks (cs : List Char) : Trims cs (trimBlanks cs) := by
  have htrim : trimBlanks cs = (cs.dropWhile isBlank).rdropWhile isBlank := rfl
  refine ⟨⟨cs.takeWhile isBlank, (cs.dropWhile isBlank).rtakeWhile isBlank, ?_, fun c hc ↦ ?_⟩,
    fun c hc ↦ ?_, fun c hc ↦ ?_⟩
  · rw [htrim, List.append_assoc, List.rdropWhile_append_rtakeWhile,
      List.takeWhile_append_dropWhile]
  · rcases List.mem_append.1 hc with hc | hc
    · exact List.mem_takeWhile_imp hc
    · exact List.mem_rtakeWhile_imp hc
  -- What is taken away at the end does not touch the start.
  · obtain ⟨behind, hbehind⟩ := List.rdropWhile_prefix isBlank (cs.dropWhile isBlank)
    have hhead : (cs.dropWhile isBlank).head? = some c := by
      rw [← hbehind, List.head?_append, ← htrim, hc, Option.some_or]
    simpa [hhead] using List.head?_dropWhile_not isBlank cs
  · obtain ⟨hne, rfl⟩ := List.mem_getLast?_eq_getLast hc
    exact Bool.eq_false_iff.2 (List.rdropWhile_last_not isBlank (cs.dropWhile isBlank) hne)

theorem dropWhile_isBlank_of_head? {cs : List Char} (h : ∀ c ∈ cs.head?, isBlank c = false) :
    cs.dropWhile isBlank = cs := by
  cases cs with
  | nil => rfl
  | cons c cs => exact List.dropWhile_cons_of_neg (by rw [h c rfl]; decide)

theorem trimBlanks_of_trims {cs middle : List Char} (h : Trims cs middle) :
    trimBlanks cs = middle := by
  obtain ⟨before, behind, rfl, hblank⟩ := h.around
  rw [List.forall_mem_append] at hblank
  rw [trimBlanks, List.append_assoc, List.dropWhile_append_of_pos hblank.1]
  cases middle with
  | nil =>
    rw [List.nil_append, List.dropWhile_eq_nil_iff.2 hblank.2]
    rfl
  | cons c rest =>
    have hstart : (c :: rest ++ behind).dropWhile isBlank = c :: rest ++ behind :=
      dropWhile_isBlank_of_head? h.first
    have hend : (c :: rest).reverse.dropWhile isBlank = (c :: rest).reverse :=
      dropWhile_isBlank_of_head? fun x hx ↦ h.last x (List.head?_reverse ▸ hx)
    have hbehind : ∀ x ∈ behind.reverse, isBlank x = true := fun x hx ↦
      hblank.2 x (List.mem_reverse.1 hx)
    rw [hstart, List.reverse_append, List.dropWhile_append_of_pos hbehind, hend,
      List.reverse_reverse]

/-- Trimming leaves what stands between the blanks. -/
theorem trimBlanks_eq_iff {cs middle : List Char} : trimBlanks cs = middle ↔ Trims cs middle :=
  ⟨fun h ↦ h ▸ trims_trimBlanks cs, trimBlanks_of_trims⟩

/-! ## Identifiers -/

namespace IsdAsn

variable {s : String} {ia : IsdAsn} {isd asn : Nat}

/-- A text spells an identifier: between blanks stand the number of an isolation domain, a dash and
the number of an AS. -/
def Spells (s : String) (isd asn : Nat) : Prop :=
  ∃ first second, Trims s.toList (first ++ '-' :: second) ∧ Decimal.MeansUnsigned first isd ∧
    Decimal.MeansUnsigned second asn

/-- A text is split at its first dash. -/
theorem split_iff {cs first second : List Char} :
    cs.takeWhile (· != '-') = first ∧ cs.dropWhile (· != '-') = '-' :: second ↔
      cs = first ++ '-' :: second ∧ '-' ∉ first := by
  constructor
  · rintro ⟨rfl, hrest⟩
    refine ⟨by rw [← hrest, List.takeWhile_append_dropWhile], fun hmem ↦ ?_⟩
    exact absurd (List.mem_takeWhile_imp hmem) (by decide)
  · rintro ⟨rfl, hmem⟩
    have hfirst : ∀ c ∈ first, (c != '-') = true := fun c hc ↦
      bne_iff_ne.2 fun heq ↦ hmem (heq ▸ hc)
    rw [List.takeWhile_append_of_pos hfirst, List.dropWhile_append_of_pos hfirst]
    exact ⟨List.append_nil _, rfl⟩

theorem read?_eq_some_iff_split :
    read? s = some ia ↔ ∃ first second, trimBlanks s.toList = first ++ '-' :: second ∧
      '-' ∉ first ∧ Decimal.readUnsigned? 65535 first = some ia.isd.toNat ∧
      Decimal.readUnsigned? 4294967295 second = some ia.asn.toNat := by
  rw [read?]
  constructor
  · intro h
    split at h
    case h_1 => exact absurd h (by simp)
    case h_2 c second hrest =>
      obtain ⟨isd, hisd, h⟩ := Option.bind_eq_some_iff.1 h
      obtain ⟨asn, hasn, h⟩ := Option.bind_eq_some_iff.1 h
      obtain rfl := Option.some.inj h
      have hc : c = '-' := by
        simpa [hrest] using List.head?_dropWhile_not (· != '-') (trimBlanks s.toList)
      obtain ⟨hsplit, hdash⟩ := split_iff.1 ⟨rfl, hc ▸ hrest⟩
      -- Both numbers fit their types, so nothing of them is lost.
      have hisd_le := (Decimal.readUnsigned?_eq_some_iff.1 hisd).2
      have hasn_le := (Decimal.readUnsigned?_eq_some_iff.1 hasn).2
      refine ⟨_, second, hsplit, hdash, ?_, ?_⟩
      · rw [UInt16.toNat_ofNat_of_lt' (Nat.lt_succ_of_le hisd_le), hisd]
      · rw [UInt32.toNat_ofNat_of_lt' (Nat.lt_succ_of_le hasn_le), hasn]
  · rintro ⟨first, second, hsplit, hdash, hisd, hasn⟩
    obtain ⟨hfirst, hrest⟩ := split_iff.2 ⟨hsplit, hdash⟩
    simp [hfirst, hrest, hisd, hasn]

/-- **The grammar of identifiers.** A text is read as an identifier exactly if it spells it. -/
theorem read?_eq_some_iff_spells : read? s = some ia ↔ Spells s ia.isd.toNat ia.asn.toNat := by
  rw [read?_eq_some_iff_split]
  constructor
  · rintro ⟨first, second, htrim, -, hisd, hasn⟩
    exact ⟨first, second, trimBlanks_eq_iff.1 htrim, (Decimal.readUnsigned?_eq_some_iff.1 hisd).1,
      (Decimal.readUnsigned?_eq_some_iff.1 hasn).1⟩
  · rintro ⟨first, second, htrim, hisd, hasn⟩
    have hdash : '-' ∉ first := fun hmem ↦ by
      rcases hisd.mem hmem with heq | hdigit
      · exact absurd heq (by decide)
      · exact absurd hdigit (by decide)
    have hisd_le : ia.isd.toNat ≤ 65535 := Nat.le_of_lt_succ ia.isd.toNat_lt
    have hasn_le : ia.asn.toNat ≤ 4294967295 := Nat.le_of_lt_succ ia.asn.toNat_lt
    exact ⟨first, second, trimBlanks_eq_iff.2 htrim, hdash,
      Decimal.readUnsigned?_eq_some_iff.2 ⟨hisd, hisd_le⟩,
      Decimal.readUnsigned?_eq_some_iff.2 ⟨hasn, hasn_le⟩⟩

/-! ### Round trip -/

theorem spells_text (ia : IsdAsn) : Spells ia.text ia.isd.toNat ia.asn.toNat := by
  have hblank : ∀ n, ∀ c ∈ Decimal.digits n, isBlank c = false := fun n c hc ↦
    isBlank_of_digit ((Decimal.means_digits n).digits c hc)
  have htext : ia.text.toList = Decimal.digits ia.isd.toNat ++ '-' :: Decimal.digits ia.asn.toNat :=
    String.toList_ofList
  rw [Spells, htext]
  refine ⟨_, _, ⟨⟨[], [], by simp, by simp⟩, fun c hc ↦ ?_, fun c hc ↦ ?_⟩,
    .inl (Decimal.means_digits _), .inl (Decimal.means_digits _)⟩
  -- It starts with a digit of the first number and ends with one of the second.
  · refine hblank ia.isd.toNat c (List.mem_of_mem_head? ?_)
    rwa [List.head?_append_of_ne_nil _ (Decimal.digits_ne_nil _)] at hc
  · refine hblank ia.asn.toNat c (List.mem_of_mem_getLast? ?_)
    rwa [List.getLast?_append_of_ne_nil _ (List.cons_ne_nil _ _),
      List.getLast?_cons_of_ne_nil (Decimal.digits_ne_nil _)] at hc

theorem read?_text (ia : IsdAsn) : read? ia.text = some ia :=
  read?_eq_some_iff_spells.2 (spells_text ia)

theorem text_inj {ia ia' : IsdAsn} (h : ia.text = ia'.text) : ia = ia' :=
  Option.some.inj <| calc
    some ia = read? ia.text := (read?_text ia).symm
    _ = read? ia'.text := congrArg read? h
    _ = some ia' := read?_text ia'

/-! ### Reading -/

theorem read_eq_ok_iff_spells : read s = .ok ia ↔ Spells s ia.isd.toNat ia.asn.toNat := by
  rw [← read?_eq_some_iff_spells, read]
  cases read? s <;> simp

theorem read_eq_error_iff {e : IdentifierError} :
    read s = .error e ↔ (∀ ia, read s ≠ .ok ia) ∧ e = ⟨s⟩ := by
  rw [read]
  cases read? s <;> simp [eq_comm]

theorem exists_read_iff :
    (∃ ia, read s = .ok ia) ↔ ∃ isd asn, Spells s isd asn ∧ isd ≤ 65535 ∧ asn ≤ 4294967295 := by
  constructor
  · rintro ⟨ia, h⟩
    exact ⟨_, _, read_eq_ok_iff_spells.1 h, Nat.le_of_lt_succ ia.isd.toNat_lt,
      Nat.le_of_lt_succ ia.asn.toNat_lt⟩
  · rintro ⟨isd, asn, h, hisd, hasn⟩
    refine ⟨⟨UInt16.ofNat isd, UInt32.ofNat asn⟩, read_eq_ok_iff_spells.2 ?_⟩
    rwa [UInt16.toNat_ofNat_of_lt' (Nat.lt_succ_of_le hisd),
      UInt32.toNat_ofNat_of_lt' (Nat.lt_succ_of_le hasn)]

/-- **Texts of identifiers.** An identifier is read from its own text, so no two have one text. Any
text is read exactly if it spells two numbers that fit, 16 bits for the isolation domain and 32 for
the AS, and it is read as these two; of every other text the report keeps the whole. -/
theorem read_exact :
    (∀ ia : IsdAsn, read ia.text = .ok ia) ∧ Function.Injective IsdAsn.text ∧
      ∀ s : String,
        ((∃ ia, read s = .ok ia) ↔
          ∃ isd asn, Spells s isd asn ∧ isd ≤ 65535 ∧ asn ≤ 4294967295) ∧
        (∀ ia, read s = .ok ia ↔ Spells s ia.isd.toNat ia.asn.toNat) ∧
        ∀ e, read s = .error e ↔
          (¬∃ isd asn, Spells s isd asn ∧ isd ≤ 65535 ∧ asn ≤ 4294967295) ∧ e = ⟨s⟩ := by
  refine ⟨fun ia ↦ read_eq_ok_iff_spells.2 (spells_text ia), fun _ _ ↦ text_inj, fun s ↦
    ⟨exists_read_iff, fun ia ↦ read_eq_ok_iff_spells, fun e ↦ ?_⟩⟩
  rw [read_eq_error_iff, ← exists_read_iff, not_exists]

example : read? "\u2003+001-+0002\n" = some ⟨1, 2⟩ := by decide +kernel

example : read? "1 -2" = none := by decide +kernel

end IsdAsn

end Interdomain
