import Interdomain.Change

/-!
# Changes that are refused

A change is atomic if it leaves the state as it was whenever it fails. Nothing makes it so but the
order of its steps, and the rules here follow the steps: looking comes first, and behind the last
step that may fail come only steps that cannot.
-/

namespace Interdomain

namespace Change

variable {σ τ ε α β : Type} {c : Change σ ε α} {f : α → Change σ ε β}

/-- A change that fails leaves the state as it was. -/
def Atomic (c : Change σ ε α) : Prop := ∀ ⦃s x⦄, (c.on s).1 = .error x → (c.on s).2 = s

/-- A change does not fail. -/
def Total (c : Change σ ε α) : Prop := ∀ s, ∃ r, c.outcome s = .ok r

theorem Atomic.on_eq (h : c.Atomic) {s : σ} {x : ε} (hx : c.outcome s = .error x) :
    c.on s = (.error x, s) := by
  have hfault := outcome_eq_error_iff.1 hx
  exact Prod.ext hfault (h hfault)

/-! ## Changes that cannot fail -/

theorem total_pure (a : α) : (pure a : Change σ ε α).Total := fun s ↦ ⟨(a, s), rfl⟩

theorem total_write (f : σ → σ) : (write f : Change σ ε Unit).Total := fun s ↦ ⟨((), f s), rfl⟩

theorem Total.bind (hc : c.Total) (hf : ∀ a, (f a).Total) : (c >>= f).Total := by
  intro s
  obtain ⟨⟨a, s'⟩, ha⟩ := hc s
  obtain ⟨r, hr⟩ := hf a s'
  exact ⟨r, by rw [outcome_bind, ha]; exact hr⟩

theorem Total.atomic (h : c.Total) : c.Atomic := by
  intro s x hx
  obtain ⟨r, hr⟩ := h s
  rw [outcome_eq_error_iff.2 hx] at hr
  exact absurd hr (by simp)

/-! ## Atomic changes -/

/-- Looking first does no harm. -/
theorem atomic_look_bind (g : σ → Except ε α) (hf : ∀ a, (f a).Atomic) :
    (look g >>= f).Atomic := by
  intro s x hx
  rw [on_look_bind] at hx ⊢
  cases hg : g s with
  | error y => rfl
  | ok a =>
    rw [hg] at hx
    exact hf a hx

/-- Behind an atomic change there may be what cannot fail. -/
theorem Atomic.bind_total (hc : c.Atomic) (hf : ∀ a, (f a).Total) : (c >>= f).Atomic := by
  intro s x hx
  rw [on_bind] at hx ⊢
  cases hon : c.on s with
  | mk r s' =>
    cases r with
    | error y =>
      have hsame := hc (s := s) (x := y) (by rw [hon])
      rwa [hon] at hsame
    | ok a =>
      rw [hon] at hx
      obtain ⟨r, hr⟩ := hf a s'
      rw [outcome_eq_error_iff.2 hx] at hr
      exact absurd hr (by simp)

/-- A part that is put back as it was makes no difference. -/
theorem Atomic.part {c : Change τ ε α} {find : σ → Except ε τ} {put : σ → τ → σ} (hc : c.Atomic)
    (hput : ∀ s t, find s = .ok t → put s t = s) : (part find put c).Atomic := by
  intro s x hx
  rw [on_part] at hx ⊢
  cases hfind : find s with
  | error y => rfl
  | ok t =>
    rw [hfind] at hx
    exact (congrArg (put s) (hc hx)).trans (hput s t hfind)

end Change

end Interdomain
