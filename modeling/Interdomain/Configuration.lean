import Interdomain.Link.Resolution

/-!
# The configuration phase

All ASes are configured in the order of their numbers, and then the declared links are resolved.
The phase stops at the first fault, and what it did before stays: the result holds the network and
the source of randomness beside the outcome.
-/

namespace Interdomain

/-- The outcome of a phase that may have changed the network before it failed. -/
structure Outcome (σ α : Type) where
  /-- The network afterwards. -/
  emulation : Emulation
  source : σ
  /-- The result, or what went wrong. -/
  result : Except Fault α

namespace Emulation

variable {σ : Type} [WordSource σ]

/-- Configure the ASes of some numbers, one after another. -/
def configureAses (e : Emulation) (source : σ) : List Asn → Outcome σ Unit
  | [] => ⟨e, source, .ok ()⟩
  | asn :: rest =>
    match e.as? asn with
    | none => configureAses e source rest
    | some a =>
      match AutonomousSystem.configure.on (a, source) with
      | (.ok (), a, source) => configureAses (e.setAs asn a) source rest
      | (.error f, a, source) => ⟨e.setAs asn a, source, .error f⟩

/-- Configure all ASes and resolve all links. -/
def configure (e : Emulation) (links : LinkRegistry) (options : ResolverOptions) (source : σ) :
    Outcome σ (List ResolvedLink) :=
  let phase := e.configureAses source e.ases.keys
  match phase.result with
  | .error f => ⟨phase.emulation, phase.source, .error f⟩
  | .ok () =>
    let (result, e) := (Resolution.resolve options links).on phase.emulation
    ⟨e, phase.source, result⟩

end Emulation

end Interdomain
