import Interdomain.Proofs.Declaration
import Interdomain.Proofs.Generation.Interfaces

/-!
# The order of declared links

A configuration lists its links over cross-connects and its links over exchanges together, and a
registry keeps them apart. So a list of links matters only through its two parts: whether it can be
declared at all does not depend on the order, and the registry has each kind in its own order. As
the network is built without the links and everything later reads the registry, all of generation
depends on the two parts alone.
-/

namespace Interdomain

variable {l l' : List LinkDecl}

/-- Two lists have the same links of each kind in the same order. -/
def Interleaves (l l' : List LinkDecl) : Prop :=
  ∀ kind, l.filter (·.kind = kind) = l'.filter (·.kind = kind)

namespace Interleaves

theorem symm (h : Interleaves l l') : Interleaves l' l := fun kind ↦ (h kind).symm

theorem perm (h : Interleaves l l') : l.Perm l' := by
  have hsplit : ∀ m : List LinkDecl,
      (m.filter (·.kind = .crossConnect) ++ m.filter (·.kind = .exchange)).Perm m := by
    intro m
    have hother : m.filter (·.kind = .exchange)
        = m.filter fun x ↦ !decide (x.kind = .crossConnect) := by
      refine List.filter_congr fun x _ ↦ ?_
      cases x.kind <;> rfl
    rw [hother]
    exact List.filter_append_perm _ m
  have hmiddle := hsplit l
  rw [h .crossConnect, h .exchange] at hmiddle
  exact hmiddle.symm.trans (hsplit l')

theorem ofDecls_eq (h : Interleaves l l') : LinkRegistry.ofDecls l = .ofDecls l' := by
  rw [LinkRegistry.ofDecls, LinkRegistry.ofDecls, h .crossConnect, h .exchange]

end Interleaves

namespace Config

variable {c : Config}

theorem declareLinks_of_interleaves (h : Interleaves c.links l) {r : LinkRegistry}
    (hr : c.declareLinks = .ok r) : { c with links := l }.declareLinks = .ok r := by
  obtain ⟨hall, hdistinct, rfl⟩ := declareLinks_eq_ok_iff.1 hr
  refine declareLinks_eq_ok_iff.2 ⟨fun x hx ↦ hall x (h.perm.mem_iff.2 hx), ?_, h.ofDecls_eq⟩
  exact (h.perm.map _).nodup_iff.1 hdistinct

/-- The links can be declared in both orders, with one registry, or in neither. -/
theorem declareLinks_interleaved (h : Interleaves c.links l) :
    (∃ r, c.declareLinks = .ok r ∧ { c with links := l }.declareLinks = .ok r) ∨
      ∃ f f', c.declareLinks = .error f ∧ { c with links := l }.declareLinks = .error f' := by
  cases hr : c.declareLinks with
  | ok r => exact .inl ⟨r, rfl, declareLinks_of_interleaves h hr⟩
  | error f =>
    cases hr' : { c with links := l }.declareLinks with
    | error f' => exact .inr ⟨f, f', rfl, rfl⟩
    | ok r =>
      have hback : c.declareLinks = .ok r :=
        declareLinks_of_interleaves (c := { c with links := l }) h.symm hr'
      rw [hr] at hback
      exact absurd hback (by simp)

end Config

namespace Generation

variable {σ : Type} [WordSource σ] {c : Config}

/-- **The order of declared links.** Two configurations that differ in how the links over
cross-connects and those over exchanges are mixed in their lists both fail while the links are
declared, or generation gives the same for both: the same network, registry, links and files, or the
same fault. -/
theorem generate_interleaved {links : List LinkDecl} (h : Interleaves c.links links)
    (options : ResolverOptions) (source : σ) :
    (∃ f f', generate c options source = .error (.phase .declare f) ∧
      generate { c with links } options source = .error (.phase .declare f')) ∨
    generate { c with links } options source = generate c options source := by
  have hbuild : { c with links }.build = c.build := rfl
  cases he : c.build with
  | error f =>
    right
    rw [generate, generate, hbuild, he]
    rfl
  | ok e =>
    obtain ⟨r, hr, hr'⟩ | ⟨f, f', hf, hf'⟩ := Config.declareLinks_interleaved h
    · right
      rw [generate, generate, hbuild, hr, hr']
    · left
      refine ⟨f, f', ?_, ?_⟩
      · rw [generate, he, hf]
        rfl
      · rw [generate, hbuild, he, hf']
        rfl

/-- At the crossroads the link over the exchange comes first; it may as well come last. -/
theorem crossroads_interleaved :
    Interleaves crossroads.links crossroads.links.reverse ∧
      crossroads.links.map (·.kind) = [.exchange, .crossConnect] ∧
      ∃ g, generate crossroads {} (⟨0, 1⟩ : Stepper) = .ok g ∧
        generate { crossroads with links := crossroads.links.reverse } {} (⟨0, 1⟩ : Stepper)
          = .ok g := by
  have hinterleaves : Interleaves crossroads.links crossroads.links.reverse := by
    intro kind
    cases kind <;> rfl
  obtain ⟨g, hg, -⟩ : ∃ g, generate crossroads {} (⟨0, 1⟩ : Stepper) = .ok g ∧
      g.resolved.length = 3 := exists_eq_ok_of_map_toOption (by decide +kernel)
  refine ⟨hinterleaves, rfl, g, hg, ?_⟩
  obtain ⟨f, f', hf, -⟩ | hsame := generate_interleaved hinterleaves {} (⟨0, 1⟩ : Stepper)
  · rw [hg] at hf
    exact absurd hf (by simp)
  · rw [hsame, hg]

end Generation

end Interdomain
