import Interdomain.Proofs.Generation.Settling
import Interdomain.Proofs.Resolution.Atomicity

/-!
# Configuration that fails

A configuration phase that fails leaves nothing behind but settings. Where it failed at an AS, they
are those of the ASes with smaller numbers. Where it failed in the resolution of the links, they are
those of all ASes, and since no AS is settled twice, the phase cannot be run again.
-/

namespace Interdomain

theorem mem_before_iff {l before after : List Asn} {x n : Asn} (hl : l.Pairwise (· < ·))
    (hsplit : l = before ++ x :: after) (hn : n ∈ l) : n ∈ before ↔ n < x := by
  subst hsplit
  obtain ⟨-, hafter, hbefore⟩ := List.pairwise_append.1 hl
  constructor
  · exact fun hmem ↦ hbefore n hmem x List.mem_cons_self
  · intro hlt
    refine (List.mem_append.1 hn).resolve_right fun hmem ↦ ?_
    rcases List.mem_cons.1 hmem with rfl | hmem
    · exact absurd hlt (UInt32.lt_irrefl n)
    · exact UInt32.lt_asymm hlt ((List.pairwise_cons.1 hafter).1 n hmem)

namespace Emulation

/-- The ASes of certain numbers have been settled, all for the first time, and the others are as
they were. -/
def NewlySettled (p : Asn → Prop) (e e' : Emulation) : Prop :=
  ∀ n a, e.as? n = some a →
    (p n → a.mtu = none ∧
        ∃ mtu keys, e'.as? n = some { a with mtu := some mtu, keys := some keys }) ∧
      (¬p n → e'.as? n = some a)

def IsFirst (e : Emulation) (n : Asn) (a : AutonomousSystem) : Prop :=
  e.as? n = some a ∧ ∀ m b, e.as? m = some b → n ≤ m

theorem IsFirst.unique {e : Emulation} {n n' : Asn} {a a' : AutonomousSystem}
    (h : e.IsFirst n a) (h' : e.IsFirst n' a') : a = a' := by
  obtain rfl := UInt32.le_antisymm (h.2 n' a' h'.1) (h'.2 n a h.1)
  exact Option.some.inj (h.1.symm.trans h'.1)

variable {σ : Type} [WordSource σ] {e e' : Emulation} {source source' : σ} {order : List Asn}
  {n : Asn} {a : AutonomousSystem}

theorem Settled.newlySettled (h : e.Settled order source source' e') {p : Asn → Prop}
    (hp : ∀ n a, e.as? n = some a → (n ∈ order ↔ p n)) : NewlySettled p e e' := by
  intro n a ha
  rw [← hp n a ha]
  constructor
  · intro hn
    obtain ⟨b, mtu, hb, hnone, -, hafter⟩ := h.settled n hn
    obtain rfl := Option.some.inj (ha.symm.trans hb)
    exact ⟨hnone, _, _, hafter⟩
  · exact fun hn ↦ (h.others n hn).trans ha

theorem keys_of_unsettled_eq (h : e'.unsettled = e.unsettled) : e'.ases.keys = e.ases.keys := by
  have hkeys : e'.unsettled.ases.keys = e.unsettled.ases.keys := by rw [h]
  rwa [unsettled, unsettled, SortedMap.keys_map, SortedMap.keys_map] at hkeys

theorem exists_isFirst (h : e.as? n = some a) : ∃ n a rest, e.ases.keys = n :: rest ∧
    e.IsFirst n a := by
  have hpairwise := e.pairwise_numbers
  cases hkeys : e.ases.keys with
  | nil =>
    have hn := (e.ases.mem_keys_iff).2 ⟨a, h⟩
    rw [hkeys] at hn
    exact absurd hn List.not_mem_nil
  | cons first rest =>
    obtain ⟨b, hb⟩ := (e.ases.mem_keys_iff).1 (hkeys ▸ List.mem_cons_self : first ∈ e.ases.keys)
    refine ⟨first, b, rest, rfl, hb, fun m c hc ↦ ?_⟩
    have hm : m ∈ first :: rest := hkeys ▸ (e.ases.mem_keys_iff).2 ⟨c, hc⟩
    rw [hkeys] at hpairwise
    rcases List.mem_cons.1 hm with rfl | hm
    · exact UInt32.le_refl m
    · exact UInt32.le_of_lt ((List.pairwise_cons.1 hpairwise).1 m hm)

/-- Where the first AS is settled, configuration does nothing but fail. -/
theorem configure_of_settled {rest : List Asn} {mtu : UInt32}
    (hkeys : e.ases.keys = n :: rest) (ha : e.as? n = some a) (hmtu : a.mtu = some mtu)
    (links : LinkRegistry) (options : ResolverOptions) (source : σ) :
    e.configure links options source = ⟨e, source, .error (.alreadyConfigured a.asn)⟩ := by
  have hon := AutonomousSystem.atomic_configure.on_eq
    (Change.after_eq_error_iff.1 (AutonomousSystem.configure_of_mtu hmtu source))
  have hphase : e.configureAses source e.ases.keys
      = ⟨e, source, .error (.alreadyConfigured a.asn)⟩ := by
    simp only [hkeys, configureAses, ha, hon, setAs_eq_self ha]
  rw [configure, hphase]

/-- **What a failed configuration leaves behind.** Apart from the settings the network is as it was.
If an AS failed, those with smaller numbers have been settled and no other. If the resolution of the
links failed, all ASes have been settled; and if there is any, each later configuration fails at the
first one, whatever the links and the source, and leaves the network and the source alone. -/
theorem failed_configure_leaves {links : LinkRegistry} {options : ResolverOptions} {f : Fault}
    (h : (e.configure links options source).result = .error f) :
    let after := e.configure links options source
    after.emulation.unsettled = e.unsettled ∧
      ((∃ x a, e.as? x = some a ∧ AutonomousSystem.configure.after (a, after.source) = .error f ∧
          NewlySettled (· < x) e after.emulation) ∨
        ((Resolution.resolve options links).on after.emulation = (.error f, after.emulation) ∧
          NewlySettled (fun _ ↦ True) e after.emulation ∧
          ∀ m b, e.as? m = some b → ∃ n a, e.IsFirst n a ∧
            ∀ {τ : Type} [WordSource τ] (links' : LinkRegistry) (options' : ResolverOptions)
              (source' : τ), after.emulation.configure links' options' source'
                = ⟨after.emulation, source', .error (.alreadyConfigured a.asn)⟩)) := by
  intro after
  obtain ⟨done, x, rest, a, f', hsplit, hresult, hsettled, ha, hrefused⟩ |
    ⟨settled, hsettled, hresolve⟩ := e.configure_cases links options source
  · obtain rfl := Except.error.inj (hresult.symm.trans h)
    refine ⟨hsettled.unsettled, .inl ⟨x, a, ha, hrefused, ?_⟩⟩
    exact hsettled.newlySettled fun n b hb ↦
      mem_before_iff e.pairwise_numbers hsplit ((e.ases.mem_keys_iff).2 ⟨b, hb⟩)
  · -- Resolution that fails leaves the network as it was once all ASes were settled.
    have hsame : settled = after.emulation := by
      rcases Resolution.resolve_ok_or_error options links settled with ⟨rs, e', hok⟩ | ⟨_, herror⟩
      · rw [hresolve, h] at hok
        exact absurd (Prod.ext_iff.1 hok).1 (by simp)
      · exact (Prod.ext_iff.1 (herror.symm.trans hresolve)).2
    rw [hsame, h] at hresolve
    rw [hsame] at hsettled
    have hnew : NewlySettled (fun _ ↦ True) e after.emulation :=
      hsettled.newlySettled fun n b hb ↦ iff_of_true ((e.ases.mem_keys_iff).2 ⟨b, hb⟩) trivial
    refine ⟨hsettled.unsettled, .inr ⟨hresolve, hnew, fun m b hb ↦ ?_⟩⟩
    obtain ⟨n, a, rest, hkeys, hfirst⟩ := exists_isFirst hb
    obtain ⟨-, mtu, keys, hafter⟩ := (hnew n a hfirst.1).1 trivial
    rw [← keys_of_unsettled_eq hsettled.unsettled] at hkeys
    exact ⟨n, a, hfirst, fun links' options' source' ↦
      configure_of_settled hkeys hafter rfl links' options' source'⟩

/-! ### An AS without networks, and a link to nowhere -/

/-- An AS with one network. -/
def singleNetwork (asn : Asn) : AutonomousSystem where
  asn
  networks := Roster.empty.insert "net0"
    { name := "net0", scope := .inside asn, subnet := .ofOctets 10 0 0 0 24, mtu := 1500 }

/-- Two ASes with a network each. -/
def outerTwo : Emulation where
  ases := (SortedMap.empty.insert 1 (singleNetwork 1)).insert 3 (singleNetwork 3)

/-- Between them an AS that has none. -/
def withMiddle : Emulation :=
  { outerTwo with ases := outerTwo.ases.insert 2 { asn := 2 } }

theorem isFirst_outerTwo : outerTwo.IsFirst 1 (singleNetwork 1) := by
  refine ⟨rfl, fun m b hb ↦ ?_⟩
  have hm : m ∈ [1, 3] := (outerTwo.ases.mem_keys_iff).2 ⟨b, hb⟩
  rcases List.mem_cons.1 hm with rfl | hm
  · exact UInt32.le_refl 1
  · rw [List.mem_singleton.1 hm]
    decide

/-- Configuration fails at the AS between, and it settles the first AS only. Without that AS it
settles both and fails at a link to an unknown AS; from then on it fails at the first AS. -/
theorem outerTwo_leaves :
    (∃ x a, withMiddle.as? x = some a ∧
        AutonomousSystem.configure.after
            (a, (withMiddle.configure {} {} (⟨0, 1⟩ : Stepper)).source)
          = .error (.noInternalNetworks 2) ∧
        NewlySettled (· < x) withMiddle
          (withMiddle.configure {} {} (⟨0, 1⟩ : Stepper)).emulation) ∧
      let after := outerTwo.configure (Resolution.peering 2) {} (⟨0, 1⟩ : Stepper)
      NewlySettled (fun _ ↦ True) outerTwo after.emulation ∧
        after.emulation.configure {} {} after.source
          = ⟨after.emulation, after.source, .error (.alreadyConfigured 1)⟩ := by
  have hmiddle : (withMiddle.configure {} {} (⟨0, 1⟩ : Stepper)).result
      = .error (.noInternalNetworks 2) := by rfl
  have houter : (outerTwo.configure (Resolution.peering 2) {} (⟨0, 1⟩ : Stepper)).result
      = .error (.unknownAs 110) := by rfl
  constructor
  · obtain ⟨-, hstopped | ⟨hresolve, -⟩⟩ := failed_configure_leaves hmiddle
    · exact hstopped
    · have hempty : ∀ e, (Resolution.resolve {} {}).on e = (.ok [], e) := fun _ ↦ rfl
      rw [hempty] at hresolve
      exact absurd (Prod.ext_iff.1 hresolve).1 (by simp)
  · obtain ⟨-, ⟨x, a, -, hrefused, -⟩ | ⟨-, hnew, hlater⟩⟩ :=
      failed_configure_leaves houter
    · exact absurd (AutonomousSystem.cause_of_configure_eq_error hrefused) (by simp)
    · obtain ⟨n, a, hfirst, hagain⟩ := hlater 1 (singleNetwork 1) rfl
      obtain rfl := hfirst.unique isFirst_outerTwo
      exact ⟨hnew, hagain {} {} _⟩

end Emulation

end Interdomain
