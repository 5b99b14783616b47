import Interdomain.Proofs.Changes
import Interdomain.Proofs.Outcome
import Mathlib.Data.List.Induction

/-!
# Histories of calls

Parts of the network are used by one call after another, and any of the calls may be refused. A
history keeps the answers to the calls beside the state that they have led to, whatever came of
them. It grows at its end, so what holds after every history follows from what one more call does.
A call that is refused may have done something before; where all calls are atomic it has not, and
`lasting` asks only for those that are granted.
-/

namespace Interdomain

variable {κ σ ε α : Type}

/-- What came of some calls. -/
structure History (κ σ ε α : Type) where
  /-- The calls in order, each with the answer to it. -/
  answers : List (κ × Except ε α)
  /-- The state after the last call. -/
  state : σ

namespace History

/-- A call comes after the others, and works on what they have left. -/
def extend (call : κ → Change σ ε α) (h : History κ σ ε α) (k : κ) : History κ σ ε α :=
  let (r, s) := (call k).on h.state
  ⟨h.answers ++ [(k, r)], s⟩

/-- Make some calls one after another, whatever comes of each. -/
def record (call : κ → Change σ ε α) (s : σ) (ks : List κ) : History κ σ ε α :=
  ks.foldl (extend call) ⟨[], s⟩

/-- The calls that were granted in order, each with its result. -/
def granted (h : History κ σ ε α) : List (κ × α) :=
  h.answers.filterMap fun x ↦ x.2.toOption.map fun a ↦ (x.1, a)

variable {call : κ → Change σ ε α} {h : History κ σ ε α} {s s' : σ} {k : κ} {ks : List κ}

/-! ## One more call -/

theorem extend_eq (call : κ → Change σ ε α) (h : History κ σ ε α) (k : κ) :
    h.extend call k = ⟨h.answers ++ [(k, ((call k).on h.state).1)], ((call k).on h.state).2⟩ := rfl

theorem extend_of_eq_ok {a : α} (hk : (call k).outcome h.state = .ok (a, s')) :
    h.extend call k = ⟨h.answers ++ [(k, .ok a)], s'⟩ := by
  rw [extend_eq, Change.outcome_eq_ok_iff.1 hk]

theorem granted_extend_of_eq_ok {a : α} (hk : (call k).outcome h.state = .ok (a, s')) :
    (h.extend call k).granted = h.granted ++ [(k, a)] := by
  rw [extend_of_eq_ok hk, granted, List.filterMap_append]
  rfl

theorem granted_extend_of_eq_error {e : ε} (hk : (call k).outcome h.state = .error e) :
    (h.extend call k).granted = h.granted := by
  rw [extend_eq, Change.outcome_eq_error_iff.1 hk, granted, List.filterMap_append]
  exact List.append_nil _

/-- A call that is refused leaves the state as it was, if it is atomic. -/
theorem state_extend_of_eq_error (hatomic : (call k).Atomic) {e : ε}
    (hk : (call k).outcome h.state = .error e) : (h.extend call k).state = h.state :=
  congrArg Prod.snd (hatomic.on_eq hk)

/-! ## Whole histories -/

theorem record_concat (call : κ → Change σ ε α) (s : σ) (ks : List κ) (k : κ) :
    record call s (ks ++ [k]) = (record call s ks).extend call k := by
  rw [record, List.foldl_concat, record]

/-- What holds before the first call, and is kept by each call that is granted and by each that is
refused, holds after every history. -/
theorem record_induction (inv : List κ → History κ σ ε α → Prop) (start : inv [] ⟨[], s⟩)
    (granted : ∀ ks k h a s', inv ks h → (call k).outcome h.state = .ok (a, s') →
      inv (ks ++ [k]) (h.extend call k))
    (refused : ∀ ks k h e, inv ks h → (call k).outcome h.state = .error e →
      inv (ks ++ [k]) (h.extend call k))
    (ks : List κ) : inv ks (record call s ks) := by
  induction ks using List.reverseRecOn with
  | nil => exact start
  | append_singleton ks k ih =>
    rw [record_concat]
    cases hk : (call k).outcome (record call s ks).state with
    | ok r => exact granted ks k _ r.1 r.2 ih hk
    | error e => exact refused ks k _ e ih hk

/-- What every call that is granted keeps is kept from any moment on, if all calls are atomic. -/
theorem lasting {P : σ → Prop} (hatomic : ∀ k, (call k).Atomic)
    (step : ∀ s k a s', P s → (call k).outcome s = .ok (a, s') → P s')
    (h : P (record call s ks).state) (rest : List κ) : P (record call s (ks ++ rest)).state := by
  induction rest using List.reverseRecOn with
  | nil => rwa [List.append_nil]
  | append_singleton rest k ih =>
    rw [← List.append_assoc, record_concat]
    cases hk : (call k).outcome (record call s (ks ++ rest)).state with
    | ok r =>
      rw [extend_of_eq_ok hk]
      exact step _ k r.1 r.2 ih hk
    | error e =>
      rw [state_extend_of_eq_error (hatomic k) hk]
      exact ih

/-- An atomic call that is refused leaves what the history before it has led to. -/
theorem state_record_concat_of_eq_error (hatomic : (call k).Atomic) {e : ε}
    (hk : (call k).outcome (record call s ks).state = .error e) :
    (record call s (ks ++ [k])).state = (record call s ks).state := by
  rw [record_concat, state_extend_of_eq_error hatomic hk]

theorem map_fst_answers_record (call : κ → Change σ ε α) (s : σ) (ks : List κ) :
    (record call s ks).answers.map (·.1) = ks := by
  induction ks using List.reverseRecOn with
  | nil => rfl
  | append_singleton ks k ih =>
    rw [record_concat, extend_eq, List.map_append, ih]
    rfl

end History

end Interdomain
