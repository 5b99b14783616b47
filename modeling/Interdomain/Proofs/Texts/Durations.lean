import Interdomain.Duration
import Mathlib.Logic.Function.Defs

/-!
# Texts of durations

The control service reads a duration as one number of one unit. `Says` tells which number of which
unit this has to be: it is the whole duration, and a larger unit would not do. There is always one
(`exists_number_unit`) and never another (`Says.unique`), and the text of the two can be taken apart
again although units share letters, for no unit starts with a digit. So the text says the duration,
and durations with one text are the same.
-/

namespace Interdomain

/-! ## Units -/

/-- The units in which the control service reads durations. -/
inductive TimeUnit where
  | hour
  | minute
  | second
  | millisecond
  | microsecond
  | nanosecond
  deriving DecidableEq

namespace TimeUnit

variable {u v : TimeUnit}

/-- How a unit is written behind a number. -/
def symbol : TimeUnit → String
  | hour => "h"
  | minute => "m"
  | second => "s"
  | millisecond => "ms"
  | microsecond => "us"
  | nanosecond => "ns"

def nanoseconds : TimeUnit → Nat
  | hour => 60 * (60 * (1000 * (1000 * 1000)))
  | minute => 60 * (1000 * (1000 * 1000))
  | second => 1000 * (1000 * 1000)
  | millisecond => 1000 * 1000
  | microsecond => 1000
  | nanosecond => 1

/-- All units, largest first. -/
def all : List TimeUnit := [hour, minute, second, millisecond, microsecond, nanosecond]

theorem units_eq : Duration.units = all.map fun u ↦ (u.symbol, u.nanoseconds) := rfl

theorem mem_all (u : TimeUnit) : u ∈ all := by
  cases u <;> simp [all]

theorem pairwise_all : all.Pairwise fun u v ↦ v.nanoseconds < u.nanoseconds := by decide

theorem nanoseconds_pos (u : TimeUnit) : 0 < u.nanoseconds := by
  cases u <;> decide

theorem nanoseconds_inj (h : u.nanoseconds = v.nanoseconds) : u = v := by
  have hall : ∀ u ∈ all, ∀ v ∈ all, u.nanoseconds = v.nanoseconds → u = v := by decide
  exact hall u u.mem_all v v.mem_all h

theorem symbol_inj (h : u.symbol = v.symbol) : u = v := by
  have hall : ∀ u ∈ all, ∀ v ∈ all, u.symbol = v.symbol → u = v := by decide
  exact hall u u.mem_all v v.mem_all h

/-- A unit does not start with a digit. -/
theorem exists_symbol_eq (u : TimeUnit) :
    ∃ c rest, u.symbol.toList = c :: rest ∧ Decimal.isDigit c = false := by
  cases u <;> exact ⟨_, _, rfl, by decide⟩

end TimeUnit

namespace Duration

open TimeUnit (all)

variable {d e : Duration} {m n : Nat} {u v : TimeUnit}

/-! ## Numbers and units -/

/-- A number of a unit says a duration in the way that the control service wants. -/
structure Says (d : Duration) (n : Nat) (u : TimeUnit) : Prop where
  amount : n * u.nanoseconds = d.nanoseconds
  /-- No larger unit would do, unless there is nothing to say. -/
  largest : d.nanoseconds ≠ 0 →
    ∀ v : TimeUnit, u.nanoseconds < v.nanoseconds → ¬v.nanoseconds ∣ d.nanoseconds
  /-- The empty duration is said in seconds. -/
  empty : d.nanoseconds = 0 → u = .second

theorem Says.dvd (h : Says d n u) : u.nanoseconds ∣ d.nanoseconds :=
  ⟨n, by rw [← h.amount, Nat.mul_comm]⟩

theorem Says.unit_unique (h : Says d m u) (h' : Says d n v) : u = v := by
  by_cases hzero : d.nanoseconds = 0
  · rw [h.empty hzero, h'.empty hzero]
  · apply TimeUnit.nanoseconds_inj
    rcases Nat.lt_trichotomy u.nanoseconds v.nanoseconds with hlt | heq | hlt
    · exact absurd h'.dvd (h.largest hzero v hlt)
    · exact heq
    · exact absurd h.dvd (h'.largest hzero u hlt)

theorem Says.unique (h : Says d m u) (h' : Says d n v) : m = n ∧ u = v := by
  obtain rfl := h.unit_unique h'
  exact ⟨Nat.eq_of_mul_eq_mul_right u.nanoseconds_pos (h.amount.trans h'.amount.symm), rfl⟩

theorem Says.duration_unique (h : Says d n u) (h' : Says e n u) : d = e :=
  Duration.ext (h.amount.symm.trans h'.amount)

/-! ## The search for a unit -/

/-- The search through the units ends with one that divides, at the latest with the nanosecond. -/
theorem exists_find?_all (k : Nat) : ∃ u, all.find? (fun u ↦ k % u.nanoseconds == 0) = some u := by
  refine Option.isSome_iff_exists.1 (List.find?_isSome.2 ⟨.nanosecond, TimeUnit.mem_all _, ?_⟩)
  exact beq_iff_eq.2 (Nat.mod_one k)

/-- It ends with the largest of them, since larger units come first. -/
theorem largest_of_find?_all {k : Nat} (h : all.find? (fun u ↦ k % u.nanoseconds == 0) = some u) :
    u.nanoseconds ∣ k ∧ ∀ v : TimeUnit, u.nanoseconds < v.nanoseconds → ¬v.nanoseconds ∣ k := by
  obtain ⟨hu, before, after, hsplit, hbefore⟩ := List.find?_eq_some_iff_append.1 h
  refine ⟨Nat.dvd_of_mod_eq_zero (beq_iff_eq.1 hu), fun v hlt hdvd ↦ ?_⟩
  have hsorted := TimeUnit.pairwise_all
  rw [hsplit, List.pairwise_append, List.pairwise_cons] at hsorted
  obtain ⟨-, ⟨hafter, -⟩, -⟩ := hsorted
  have hmem : v ∈ before ++ u :: after := hsplit ▸ TimeUnit.mem_all v
  rcases List.mem_append.1 hmem with hv | hv
  · have hnot := hbefore v hv
    rw [Nat.mod_eq_zero_of_dvd hdvd] at hnot
    exact absurd hnot (by decide)
  · rcases List.mem_cons.1 hv with rfl | hv
    · exact Nat.lt_irrefl _ hlt
    · exact Nat.lt_asymm hlt (hafter v hv)

theorem find?_units (k : Nat) :
    units.find? (fun u ↦ k % u.2 == 0) =
      (all.find? fun u ↦ k % u.nanoseconds == 0).map fun u ↦ (u.symbol, u.nanoseconds) := by
  rw [TimeUnit.units_eq, List.find?_map]
  rfl

theorem find?_units_ne_none (d : Duration) :
    units.find? (fun u ↦ d.nanoseconds % u.2 == 0) ≠ none := by
  obtain ⟨u, hu⟩ := exists_find?_all d.nanoseconds
  rw [find?_units, hu]
  exact Option.some_ne_none _

/-! ## Texts -/

theorem exists_number_unit (d : Duration) :
    ∃ n u, Says d n u ∧ d.exactText = Decimal.text n ++ u.symbol := by
  by_cases hzero : d.nanoseconds = 0
  · refine ⟨0, .second, ⟨by rw [hzero, Nat.zero_mul], fun h ↦ absurd hzero h, fun _ ↦ rfl⟩, ?_⟩
    rw [exactText, if_pos hzero, Decimal.text, Decimal.digits, if_pos (by decide)]
    rfl
  · obtain ⟨u, hfind⟩ := exists_find?_all d.nanoseconds
    obtain ⟨hdvd, hlargest⟩ := largest_of_find?_all hfind
    refine ⟨d.nanoseconds / u.nanoseconds, u,
      ⟨Nat.div_mul_cancel hdvd, fun _ ↦ hlargest, fun h ↦ absurd h hzero⟩, ?_⟩
    rw [exactText, if_neg hzero, find?_units, hfind]
    rfl

/-- Number and unit can be told from the text. -/
theorem text_append_symbol_inj
    (h : Decimal.text m ++ u.symbol = Decimal.text n ++ v.symbol) : m = n ∧ u = v := by
  obtain ⟨c, rest, hu, hc⟩ := u.exists_symbol_eq
  obtain ⟨c', rest', hv, hc'⟩ := v.exists_symbol_eq
  have hchars := congrArg String.toList h
  rw [String.toList_append, String.toList_append, Decimal.text, Decimal.text, String.toList_ofList,
    String.toList_ofList, hu, hv] at hchars
  obtain ⟨hnumber, hsymbol⟩ := Decimal.digits_append_cons_inj hc hc' hchars
  rw [← hu, ← hv] at hsymbol
  exact ⟨hnumber, TimeUnit.symbol_inj (String.toList_injective hsymbol)⟩

theorem exactText_eq_iff : d.exactText = Decimal.text n ++ u.symbol ↔ Says d n u := by
  obtain ⟨m, v, hsaid, htext⟩ := exists_number_unit d
  rw [htext]
  constructor
  · intro h
    obtain ⟨rfl, rfl⟩ := text_append_symbol_inj h
    exact hsaid
  · intro h
    obtain ⟨rfl, rfl⟩ := hsaid.unique h
    rfl

theorem exactText_inj (h : d.exactText = e.exactText) : d = e := by
  obtain ⟨n, u, hsaid, htext⟩ := exists_number_unit d
  exact hsaid.duration_unique (exactText_eq_iff.1 (h.symm.trans htext))

/-- **Texts of durations.** Every duration has a number and a unit whose product it is and for which
no larger unit would do, the empty one `0s`. Its text is the numeral of the number before the symbol
of the unit and of no other two, the search through the units always finds one, and durations with
one text are the same. -/
theorem exactText_canonical :
    (∀ d : Duration, ∃ n u, Says d n u ∧ d.exactText = Decimal.text n ++ u.symbol) ∧
      (∀ (d : Duration) (n : Nat) (u : TimeUnit),
        d.exactText = Decimal.text n ++ u.symbol ↔ Says d n u) ∧
      (∀ d : Duration, units.find? (fun u ↦ d.nanoseconds % u.2 == 0) ≠ none) ∧
      Duration.zero.exactText = "0s" ∧ Function.Injective exactText :=
  ⟨exists_number_unit, fun _ _ _ ↦ exactText_eq_iff, find?_units_ne_none, rfl,
    fun _ _ ↦ exactText_inj⟩

end Duration

end Interdomain
