import Mathlib.Data.List.Forall2

/-!
# Steps that may fail

Most operations give a fault or a result, and they are chained. A chain succeeds when each of its
steps does, and a list of steps when each of them does on its own element.

What an operation does on success and why it fails are often two sides of one argument. `Yields`
states both at once, and its rules follow a chain or a fold step by step, so that one lemma for each
operation serves the success and the faults of everything that calls it.
-/

namespace Interdomain

variable {ε α β : Type}

theorem ok_bind (a : α) (f : α → Except ε β) : .ok a >>= f = f a := rfl

theorem bind_eq_ok_iff {x : Except ε α} {f : α → Except ε β} {b : β} :
    x >>= f = .ok b ↔ ∃ a, x = .ok a ∧ f a = .ok b := by
  cases x with
  | error _ =>
    constructor
    · intro h
      exact absurd h (by simp [Bind.bind, Except.bind])
    · rintro ⟨_, h, _⟩
      exact absurd h (by simp)
  | ok a =>
    constructor
    · intro h
      exact ⟨a, rfl, h⟩
    · rintro ⟨_, h, hb⟩
      obtain rfl := Except.ok.inj h
      exact hb

theorem bind_eq_error_iff {x : Except ε α} {f : α → Except ε β} {e : ε} :
    x >>= f = .error e ↔ x = .error e ∨ ∃ a, x = .ok a ∧ f a = .error e := by
  cases x with
  | error e' =>
    constructor
    · intro h
      exact .inl (congrArg Except.error (Except.error.inj h))
    · rintro (h | ⟨_, h, _⟩)
      · exact congrArg Except.error (Except.error.inj h)
      · exact absurd h (by simp)
  | ok a =>
    constructor
    · intro h
      exact .inr ⟨a, rfl, h⟩
    · rintro (h | ⟨_, h, he⟩)
      · exact absurd h (by simp)
      · obtain rfl := Except.ok.inj h
        exact he

theorem mapM_eq_ok_iff {f : α → Except ε β} {as : List α} {bs : List β} :
    as.mapM f = .ok bs ↔ List.Forall₂ (fun a b ↦ f a = .ok b) as bs := by
  induction as generalizing bs with
  | nil =>
    rw [List.mapM_nil, List.forall₂_nil_left_iff]
    constructor
    · intro h
      exact (Except.ok.inj h).symm
    · rintro rfl
      rfl
  | cons a as ih =>
    rw [List.mapM_cons, bind_eq_ok_iff, List.forall₂_cons_left_iff]
    constructor
    · rintro ⟨b, hb, h⟩
      obtain ⟨bs', hbs, h⟩ := bind_eq_ok_iff.1 h
      exact ⟨b, bs', hb, ih.1 hbs, (Except.ok.inj h).symm⟩
    · rintro ⟨b, bs', hb, hbs, rfl⟩
      exact ⟨b, hb, bind_eq_ok_iff.2 ⟨bs', ih.2 hbs, rfl⟩⟩

/-- A list of steps fails as its first step that fails. -/
theorem mapM_eq_error_iff {f : α → Except ε β} {as : List α} {e : ε} :
    as.mapM f = .error e ↔
      ∃ before a after, as = before ++ a :: after ∧ (∀ x ∈ before, ∃ b, f x = .ok b) ∧
        f a = .error e := by
  induction as with
  | nil =>
    refine iff_of_false nofun ?_
    rintro ⟨before, a, after, h, -⟩
    exact absurd h (by simp)
  | cons a as ih =>
    rw [List.mapM_cons, bind_eq_error_iff]
    constructor
    · rintro (ha | ⟨b, hb, h⟩)
      · exact ⟨[], a, as, rfl, fun x hx ↦ absurd hx List.not_mem_nil, ha⟩
      · obtain ⟨before, x, after, rfl, hbefore, hx⟩ :=
          ih.1 ((bind_eq_error_iff.1 h).resolve_right fun ⟨_, _, h⟩ ↦ nomatch h)
        exact ⟨a :: before, x, after, rfl, List.forall_mem_cons.2 ⟨⟨b, hb⟩, hbefore⟩, hx⟩
    · rintro ⟨before, x, after, hsplit, hbefore, hx⟩
      rcases List.cons_eq_append_iff.1 hsplit with ⟨rfl, hcons⟩ | ⟨rest, rfl, rfl⟩
      · obtain ⟨rfl, rfl⟩ := List.cons.inj hcons
        exact .inl hx
      · obtain ⟨⟨b, hb⟩, hrest⟩ := List.forall_mem_cons.1 hbefore
        exact .inr ⟨b, hb, bind_eq_error_iff.2 (.inl (ih.2 ⟨rest, x, after, rfl, hrest, hx⟩))⟩

/-- Where it is known of each step whether it fails and why, a list of steps fails as the first one
that is known to. -/
theorem mapM_eq_error_iff_find? {f : α → Except ε β} {as : List α} {p : α → Prop} [DecidablePred p]
    {cause : α → ε}
    (h : ∀ a ∈ as, (p a ∧ f a = .error (cause a)) ∨ (¬p a ∧ ∃ b, f a = .ok b)) {e : ε} :
    as.mapM f = .error e ↔ ∃ a, as.find? (p ·) = some a ∧ e = cause a := by
  induction as with
  | nil =>
    refine iff_of_false nofun ?_
    rintro ⟨a, hfind, -⟩
    exact absurd hfind (by simp)
  | cons a as ih =>
    obtain ⟨ha, hrest⟩ := List.forall_mem_cons.1 h
    rw [List.mapM_cons, bind_eq_error_iff]
    rcases ha with ⟨hp, ha⟩ | ⟨hp, b, ha⟩
    · rw [List.find?_cons_of_pos (by simpa using hp), ha]
      constructor
      · rintro (he | ⟨_, hok, -⟩)
        · exact ⟨a, rfl, (Except.error.inj he).symm⟩
        · exact absurd hok (by simp)
      · rintro ⟨_, hfind, rfl⟩
        obtain rfl := Option.some.inj hfind
        exact .inl rfl
    · rw [List.find?_cons_of_neg (by simpa using hp), ← ih hrest, ha]
      constructor
      · rintro (he | ⟨_, -, he⟩)
        · exact absurd he (by simp)
        · exact (bind_eq_error_iff.1 he).resolve_right fun ⟨_, _, he⟩ ↦ nomatch he
      · intro he
        exact .inr ⟨b, rfl, bind_eq_error_iff.2 (.inl he)⟩

/-- A fold that fails has failed at one element, after those before it. -/
theorem exists_of_foldlM_eq_error {σ : Type} {f : σ → α → Except ε σ} {as : List α} {s : σ} {e : ε}
    (h : as.foldlM f s = .error e) :
    ∃ before a after s', as = before ++ a :: after ∧ before.foldlM f s = .ok s' ∧
      f s' a = .error e := by
  induction as generalizing s with
  | nil => exact absurd h nofun
  | cons a as ih =>
    rw [List.foldlM_cons, bind_eq_error_iff] at h
    rcases h with ha | ⟨s', ha, h⟩
    · exact ⟨[], a, as, s, rfl, rfl, ha⟩
    · obtain ⟨before, x, after, t, rfl, hbefore, hx⟩ := ih h
      refine ⟨a :: before, x, after, t, rfl, ?_, hx⟩
      rw [List.foldlM_cons, bind_eq_ok_iff]
      exact ⟨s', ha, hbefore⟩

theorem exists_of_mem_of_forall₂ {R : α → β → Prop} {as : List α} {bs : List β}
    (h : List.Forall₂ R as bs) {a : α} (ha : a ∈ as) : ∃ b ∈ bs, R a b := by
  induction h with
  | nil => exact absurd ha List.not_mem_nil
  | @cons a' b as bs hR _ ih =>
    rcases List.mem_cons.1 ha with rfl | ha
    · exact ⟨b, List.mem_cons_self, hR⟩
    · obtain ⟨b', hb', hR'⟩ := ih ha
      exact ⟨b', List.mem_cons_of_mem b hb', hR'⟩

theorem forall₂_unique {f : α → Except ε β} {as : List α} {bs bs' : List β}
    (h : List.Forall₂ (f · = .ok ·) as bs) (h' : List.Forall₂ (f · = .ok ·) as bs') : bs = bs' :=
  Except.ok.inj ((mapM_eq_ok_iff.2 h).symm.trans (mapM_eq_ok_iff.2 h'))

theorem exists_mapM_eq_ok {f : α → Except ε β} {as : List α} (h : ∀ a ∈ as, ∃ b, f a = .ok b) :
    ∃ bs, as.mapM f = .ok bs := by
  induction as with
  | nil => exact ⟨[], rfl⟩
  | cons a as ih =>
    obtain ⟨b, hb⟩ := h a List.mem_cons_self
    obtain ⟨bs, hbs⟩ := ih fun x hx ↦ h x (List.mem_cons_of_mem a hx)
    exact ⟨b :: bs, mapM_eq_ok_iff.2 (.cons hb (mapM_eq_ok_iff.1 hbs))⟩

theorem seq_eq_ok_iff {x : Except ε PUnit} {f : PUnit → Except ε β} {b : β} :
    x >>= f = .ok b ↔ x = .ok () ∧ f () = .ok b := by
  rw [bind_eq_ok_iff]
  constructor
  · rintro ⟨_, hx, hf⟩
    exact ⟨hx, hf⟩
  · rintro ⟨hx, hf⟩
    exact ⟨(), hx, hf⟩

theorem forM_eq_ok_iff {f : α → Except ε PUnit} {as : List α} :
    as.forM f = .ok () ↔ ∀ a ∈ as, f a = .ok () := by
  induction as with
  | nil => exact iff_of_true rfl fun a ha ↦ absurd ha List.not_mem_nil
  | cons a as ih =>
    have hcons : (a :: as).forM f = f a >>= fun _ ↦ as.forM f := rfl
    rw [hcons, seq_eq_ok_iff, List.forall_mem_cons, ih]

theorem mapError_eq_ok_iff {ε' : Type} {g : ε → ε'} {x : Except ε α} {a : α} :
    x.mapError g = .ok a ↔ x = .ok a := by
  cases x with
  | error e => exact iff_of_false (by simp [Except.mapError]) (by simp)
  | ok b => simp [Except.mapError]

theorem mapError_eq_error_iff {ε' : Type} {g : ε → ε'} {x : Except ε α} {e' : ε'} :
    x.mapError g = .error e' ↔ ∃ e, x = .error e ∧ g e = e' := by
  cases x <;> simp [Except.mapError]

theorem map_eq_ok_iff {f : α → β} {x : Except ε α} {b : β} :
    x.map f = .ok b ↔ ∃ a, x = .ok a ∧ f a = b := by
  cases x <;> simp [Except.map]

theorem toOption_eq_some_iff {x : Except ε α} {a : α} : x.toOption = some a ↔ x = .ok a := by
  cases x <;> simp [Except.toOption]

/-- What is computed of a result shows that there is one. -/
theorem exists_eq_ok_of_map_toOption {x : Except ε α} {f : α → β} {b : β}
    (h : x.toOption.map f = some b) : ∃ a, x = .ok a ∧ f a = b := by
  cases x with
  | error _ => exact absurd h (by simp [Except.toOption])
  | ok a => exact ⟨a, rfl, Option.some.inj h⟩

def fault? : Except ε α → Option ε
  | .ok _ => none
  | .error e => some e

theorem eq_error_of_fault? {x : Except ε α} {e : ε} (h : fault? x = some e) : x = .error e := by
  cases x with
  | ok a => exact absurd h (by simp [fault?])
  | error _ => rw [Option.some.inj h]

/-! ## Results and causes -/

/-- On success an operation gives a good result, and a fault of it is one with a cause. -/
def Yields (x : Except ε α) (good : α → Prop) (cause : ε → Prop) : Prop :=
  match x with
  | .ok a => good a
  | .error e => cause e

namespace Yields

variable {x : Except ε α} {good good' : α → Prop} {cause cause' : ε → Prop}

theorem intro (hgood : ∀ a, x = .ok a → good a) (hcause : ∀ e, x = .error e → cause e) :
    Yields x good cause := by
  cases x with
  | ok a => exact hgood a rfl
  | error e => exact hcause e rfl

theorem good_of_ok (h : Yields x good cause) {a : α} (hx : x = .ok a) : good a := by
  rw [hx] at h
  exact h

theorem cause_of_error (h : Yields x good cause) {e : ε} (hx : x = .error e) : cause e := by
  rw [hx] at h
  exact h

theorem mono (h : Yields x good cause) (hgood : ∀ a, good a → good' a)
    (hcause : ∀ e, cause e → cause' e) : Yields x good' cause' := by
  cases x with
  | ok a => exact hgood a h
  | error e => exact hcause e h

theorem imp_cause (h : Yields x good cause) (hcause : ∀ e, cause e → cause' e) :
    Yields x good cause' :=
  h.mono (fun _ ha ↦ ha) hcause

theorem bind {f : α → Except ε β} {good' : β → Prop} (hx : Yields x good cause)
    (hf : ∀ a, good a → Yields (f a) good' cause) : Yields (x >>= f) good' cause := by
  cases x with
  | ok a => exact hf a hx
  | error e => exact hx

theorem map {f : α → β} {good' : β → Prop} (hx : Yields x good cause)
    (hf : ∀ a, good a → good' (f a)) : Yields (x.map f) good' cause := by
  cases x with
  | ok a => exact hf a hx
  | error e => exact hx

theorem mapError {ε' : Type} {g : ε → ε'} {cause' : ε' → Prop} (h : Yields x good cause)
    (hcause : ∀ e, cause e → cause' (g e)) : Yields (x.mapError g) good cause' := by
  cases x with
  | ok a => exact h
  | error e => exact hcause e h

/-- A list of steps gives a good result for each element, or it fails as one of the steps does. -/
theorem mapM {f : α → Except ε β} {as : List α} {good : α → β → Prop}
    (h : ∀ a ∈ as, Yields (f a) (good a) cause) :
    Yields (as.mapM f) (List.Forall₂ good as) cause := by
  induction as with
  | nil => exact .nil
  | cons a as ih =>
    rw [List.mapM_cons]
    refine (h a List.mem_cons_self).bind fun b hb ↦ ?_
    exact (ih fun x hx ↦ h x (List.mem_cons_of_mem a hx)).bind fun bs hbs ↦ .cons hb hbs

/-- What each step carries from the elements before it to the next one holds in the end of all
elements. -/
theorem foldlM {σ : Type} {f : σ → α → Except ε σ} {as : List α} {s : σ}
    (inv : List α → σ → Prop) (start : inv [] s)
    (step : ∀ before a after s, as = before ++ a :: after → inv before s →
      Yields (f s a) (inv (before ++ [a])) cause) :
    Yields (as.foldlM f s) (inv as) cause := by
  -- The elements done so far grow by one in each step, and together with the rest they are all.
  suffices h : ∀ before after s, as = before ++ after → inv before s →
      Yields (after.foldlM f s) (inv as) cause from h [] as s rfl start
  intro before after
  induction after generalizing before with
  | nil =>
    intro s hsplit hinv
    rw [List.append_nil] at hsplit
    exact hsplit ▸ hinv
  | cons a after ih =>
    intro s hsplit hinv
    rw [List.foldlM_cons]
    refine (step before a after s hsplit hinv).bind fun s' hinv' ↦ ?_
    exact ih (before ++ [a]) s' (by rw [hsplit, List.append_assoc, List.singleton_append]) hinv'

end Yields

/-- What each step that succeeds carries from the elements before it to the next one holds in the
end of all elements. -/
theorem foldlM_induction {σ : Type} {f : σ → α → Except ε σ} {as : List α} {s s' : σ}
    (inv : List α → σ → Prop) (start : inv [] s)
    (step : ∀ before a s s', inv before s → f s a = .ok s' → inv (before ++ [a]) s')
    (h : as.foldlM f s = .ok s') : inv as s' := by
  have hall : Yields (as.foldlM f s) (inv as) fun _ ↦ True := by
    refine Yields.foldlM inv start fun before a after s _ hinv ↦ ?_
    cases hstep : f s a with
    | ok s' => exact step before a s s' hinv hstep
    | error e => trivial
  exact hall.good_of_ok h

end Interdomain
