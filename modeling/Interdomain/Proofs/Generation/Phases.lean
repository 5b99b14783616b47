import Interdomain.Generation
import Interdomain.Proofs.Generation.Settling

/-!
# The phases of generation

Generation that succeeds has passed all its phases. Configuration settles the ASes of the network
that was built, one after another, resolution works on the settled network, and rendering works on
what resolution leaves.
-/

namespace Interdomain

/-! ## Configuration -/

/-- Configuration that succeeds has settled all ASes in order and resolved the links. -/
theorem Emulation.exists_settled_of_configure {σ : Type} [WordSource σ] {e : Emulation}
    {links : LinkRegistry} {options : ResolverOptions} {source : σ} {rs : List ResolvedLink}
    (h : (e.configure links options source).result = .ok rs) :
    ∃ settled : Emulation, (∃ source', e.Settled e.ases.keys source source' settled) ∧
      (Resolution.resolve options links).on settled
        = (.ok rs, (e.configure links options source).emulation) := by
  obtain ⟨_, _, _, _, f, -, hresult, -⟩ | ⟨settled, hsettled, hresolve⟩ :=
    e.configure_cases links options source
  · rw [hresult] at h
    exact absurd h (by simp)
  · exact ⟨settled, ⟨_, hsettled⟩, by rw [hresolve, h]⟩

/-- Configuration that fails has failed at an AS, or in the resolution of the links. -/
theorem Emulation.cause_of_configure_eq_error {σ : Type} [WordSource σ] {e : Emulation}
    {links : LinkRegistry} {options : ResolverOptions} {source : σ} {f : Fault}
    (h : (e.configure links options source).result = .error f) :
    (∃ n, f = .alreadyConfigured n ∨ f = .noInternalNetworks n) ∨
      ∃ settled : Emulation, settled.unsettled = e.unsettled ∧
        ((Resolution.resolve options links).on settled).1 = .error f := by
  obtain ⟨done, x, after, a, f', -, hresult, -, -, hrefused⟩ | ⟨settled, hsettled, hresolve⟩ :=
    e.configure_cases links options source
  · obtain rfl := Except.error.inj (hresult.symm.trans h)
    exact .inl ⟨a.asn, AutonomousSystem.cause_of_configure_eq_error hrefused⟩
  · exact .inr ⟨settled, hsettled.unsettled, by rw [hresolve, h]⟩

/-! ## All phases -/

/-- Generation that succeeds has passed every phase. -/
theorem phases_of_generate {σ : Type} [WordSource σ] {c : Config} {options : ResolverOptions}
    {source : σ} {g : Generation} (h : generate c options source = .ok g) :
    ∃ built settled : Emulation, c.build = .ok built ∧ c.declareLinks = .ok g.links ∧
      (∃ source', built.Settled built.ases.keys source source' settled) ∧
      (Resolution.resolve options g.links).on settled = (.ok g.resolved, g.emulation) ∧
      render g.emulation g.links g.resolved = .ok g.artifacts := by
  obtain ⟨built, hbuild, h⟩ := bind_eq_ok_iff.1 h
  obtain ⟨links, hlinks, h⟩ := bind_eq_ok_iff.1 h
  obtain ⟨resolved, hresolved, h⟩ := bind_eq_ok_iff.1 h
  obtain ⟨artifacts, hrender, h⟩ := bind_eq_ok_iff.1 h
  obtain rfl := Except.ok.inj h
  obtain ⟨settled, hsettled, hresolve⟩ :=
    Emulation.exists_settled_of_configure (mapError_eq_ok_iff.1 hresolved)
  exact ⟨built, settled, mapError_eq_ok_iff.1 hbuild, mapError_eq_ok_iff.1 hlinks, hsettled,
    hresolve, hrender⟩

end Interdomain
