/-!
# Changes

A change works on a state step by step, and it may fail on the way. What it did before it failed
stays. So whether a change that is refused leaves the state alone is a matter of its steps: those
that may fail have to come before those that write.
-/

namespace Interdomain

/-- A change of a state, which may fail on the way. What it did before it failed stays. -/
abbrev Change (σ ε : Type) := ExceptT ε (StateM σ)

namespace Change

variable {σ τ ε α β : Type}

/-- Look at the state and leave it as it is. -/
def look (f : σ → Except ε α) : Change σ ε α := ExceptT.mk fun s ↦ (f s, s)

/-- Write, which cannot fail. -/
def write (f : σ → σ) : Change σ ε Unit := ExceptT.mk fun s ↦ (.ok (), f s)

/-- The state that a change leaves behind, beside its result or what went wrong. -/
def on (c : Change σ ε α) (s : σ) : Except ε α × σ := c.run.run s

/-- Change a part of the state, if it is there. What becomes of the part stays. -/
def part (find : σ → Except ε τ) (put : σ → τ → σ) (c : Change τ ε α) : Change σ ε α :=
  ExceptT.mk fun s ↦
    match find s with
    | .error x => (.error x, s)
    | .ok t =>
      let (r, t) := c.on t
      (r, put s t)

/-- The result of a change that succeeds, and the state after it. -/
def outcome (c : Change σ ε α) (s : σ) : Except ε (α × σ) :=
  let (r, s) := c.on s
  r.map (·, s)

/-- The state after a change that succeeds. -/
def after (c : Change σ ε α) (s : σ) : Except ε σ := (c.outcome s).map (·.2)

/-! ## Running a change -/

variable {s s' s'' : σ}

theorem on_pure (a : α) (s : σ) : (pure a : Change σ ε α).on s = (.ok a, s) := rfl

theorem on_look (f : σ → Except ε α) (s : σ) : (look f).on s = (f s, s) := rfl

theorem on_bind (c : Change σ ε α) (f : α → Change σ ε β) (s : σ) :
    (c >>= f).on s = match c.on s with
      | (.ok a, s') => (f a).on s'
      | (.error x, s') => (.error x, s') := by
  simp only [on, ExceptT.run_bind, StateT.run_bind]
  cases (ExceptT.run c).run s with
  | mk r s' => cases r <;> simp <;> rfl

theorem on_look_bind (g : σ → Except ε α) (f : α → Change σ ε β) (s : σ) :
    (look g >>= f).on s = match g s with
      | .ok a => (f a).on s
      | .error x => (.error x, s) := by
  rw [on_bind, on_look]
  cases g s <;> rfl

theorem on_bind_eq_ok_iff {c : Change σ ε α} {f : α → Change σ ε β} {b : β} :
    (c >>= f).on s = (.ok b, s'') ↔
      ∃ a s', c.on s = (.ok a, s') ∧ (f a).on s' = (.ok b, s'') := by
  rw [on_bind]
  cases h : c.on s with
  | mk r s' =>
    cases r with
    | error x => simp
    | ok a =>
      constructor
      · intro hb
        exact ⟨a, s', rfl, hb⟩
      · rintro ⟨_, _, hpair, hb⟩
        obtain ⟨hok, rfl⟩ := Prod.mk.inj hpair
        obtain rfl := Except.ok.inj hok
        exact hb

theorem on_part (find : σ → Except ε τ) (put : σ → τ → σ) (c : Change τ ε α) (s : σ) :
    (part find put c).on s = match find s with
      | .error x => (.error x, s)
      | .ok t => ((c.on t).1, put s (c.on t).2) := rfl

theorem outcome_eq_ok_iff {c : Change σ ε α} {a : α} :
    c.outcome s = .ok (a, s') ↔ c.on s = (.ok a, s') := by
  rw [outcome]
  cases c.on s with
  | mk r s' => cases r <;> simp [Except.map]

theorem outcome_eq_error_iff {c : Change σ ε α} {x : ε} :
    c.outcome s = .error x ↔ (c.on s).1 = .error x := by
  rw [outcome]
  cases c.on s with
  | mk r s' => cases r <;> simp [Except.map]

theorem outcome_pure (a : α) (s : σ) : (pure a : Change σ ε α).outcome s = .ok (a, s) := rfl

theorem outcome_look (f : σ → Except ε α) (s : σ) : (look f).outcome s = (f s).map (·, s) := rfl

theorem outcome_bind (c : Change σ ε α) (f : α → Change σ ε β) (s : σ) :
    (c >>= f).outcome s = c.outcome s >>= fun r ↦ (f r.1).outcome r.2 := by
  rw [outcome, outcome, on_bind]
  cases c.on s with
  | mk r s' => cases r <;> rfl

theorem outcome_look_bind (g : σ → Except ε α) (f : α → Change σ ε β) (s : σ) :
    (look g >>= f).outcome s = g s >>= fun a ↦ (f a).outcome s := by
  rw [outcome_bind, outcome, on_look]
  cases g s <;> rfl

theorem outcome_write_bind (g : σ → σ) (f : Unit → Change σ ε β) (s : σ) :
    (write g >>= f).outcome s = (f ()).outcome (g s) := rfl

theorem outcome_bind_pure (c : Change σ ε α) (f : α → β) (s : σ) :
    (c >>= fun a ↦ pure (f a)).outcome s = (c.outcome s).map fun r ↦ (f r.1, r.2) := by
  rw [outcome_bind]
  cases c.outcome s <;> rfl

theorem outcome_seq_pure (c : Change σ ε PUnit) (b : β) (s : σ) :
    (c >>= fun _ ↦ pure b).outcome s = (c.after s).map fun s' ↦ (b, s') := by
  rw [outcome_bind_pure, after]
  cases c.outcome s <;> rfl

theorem outcome_part (find : σ → Except ε τ) (put : σ → τ → σ) (c : Change τ ε α) (s : σ) :
    (part find put c).outcome s
      = find s >>= fun t ↦ (c.outcome t).map fun r ↦ (r.1, put s r.2) := by
  rw [outcome, on_part]
  cases find s with
  | error x => rfl
  | ok t =>
    have hpart : ((c.on t).1.map fun a ↦ (a, put s (c.on t).2))
        = (c.outcome t).map fun r ↦ (r.1, put s r.2) := by
      rw [outcome]
      cases c.on t with
      | mk r t' => cases r <;> rfl
    exact hpart

theorem outcome_mapM_cons (f : α → Change σ ε β) (a : α) (l : List α) (s : σ) :
    ((a :: l).mapM f).outcome s = (f a).outcome s >>= fun r ↦
      (l.mapM f).outcome r.2 >>= fun r' ↦ .ok (r.1 :: r'.1, r'.2) := by
  simp only [List.mapM_cons, outcome_bind]
  rfl

theorem after_eq_ok_iff {c : Change σ ε PUnit} :
    c.after s = .ok s' ↔ c.outcome s = .ok ((), s') := by
  rw [after]
  cases c.outcome s <;> simp [Except.map, Prod.ext_iff]

theorem after_eq_error_iff {c : Change σ ε α} {x : ε} :
    c.after s = .error x ↔ c.outcome s = .error x := by
  rw [after]
  cases c.outcome s <;> simp [Except.map]

theorem after_write (f : σ → σ) (s : σ) : (write f : Change σ ε Unit).after s = .ok (f s) := rfl

theorem after_look_bind (g : σ → Except ε α) (f : α → Change σ ε β) (s : σ) :
    (look g >>= f).after s = g s >>= fun a ↦ (f a).after s := by
  rw [after, outcome_look_bind]
  cases g s <;> rfl

theorem after_part (find : σ → Except ε τ) (put : σ → τ → σ) (c : Change τ ε α) (s : σ) :
    (part find put c).after s = find s >>= fun t ↦ (c.after t).map (put s) := by
  rw [after, outcome_part]
  cases find s with
  | error x => rfl
  | ok t =>
    have hmap : ((c.outcome t).map fun r ↦ (r.1, put s r.2)).map (·.2)
        = ((c.outcome t).map (·.2)).map (put s) := by cases c.outcome t <;> rfl
    exact hmap

/-- A list of changes is a fold over the states. -/
theorem after_forM (f : α → Change σ ε PUnit) (l : List α) (s : σ) :
    (l.forM f).after s = l.foldlM (fun s a ↦ (f a).after s) s := by
  induction l generalizing s with
  | nil => rfl
  | cons a l ih =>
    have hcons : (a :: l).forM f = f a >>= fun _ ↦ l.forM f := rfl
    rw [hcons, List.foldlM_cons, after, outcome_bind, after]
    cases (f a).outcome s with
    | error x => rfl
    | ok r => exact ih r.2

end Change

end Interdomain
