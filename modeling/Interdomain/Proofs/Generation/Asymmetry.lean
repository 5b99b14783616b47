import Interdomain.Proofs.Building.ConnectionNames
import Interdomain.Proofs.Generation.CrossConnects
import Interdomain.Proofs.Resolution.Faults

/-!
# Asymmetric links

Resolution refuses a link over a connection if its two routers record different networks, and if the
network that they record is missing. On the network that a configuration builds, the second never
happens: every recorded network was declared, and the first declaration of its name is there. The
first takes two connections that are declared toward each other with different names for the network
between, and the names that both sides derive are one name, so one of the two is declared.
-/

namespace Interdomain

open Resolution (Unplannable Exceeds)

/-! ## What the build records -/

theorem Emulation.network?_crossConnect_of_unsettled_eq {e e' : Emulation}
    (h : e'.unsettled = e.unsettled) (name : String) :
    e'.network? .crossConnect name = e.network? .crossConnect name :=
  congrArg (·.crossConnectNetworks.get? name) h

namespace Config

variable {c : Config} {e s : Emulation} {a b : IsdAsn} {n n' : String}

/-- Routers of two ASes declare connections toward each other over networks of different names, at
least one of which is declared by name. -/
inductive DeclaresAsymmetry (c : Config) (a b : IsdAsn) : String → String → Prop
  | intro {near far : Port} {x y : CrossConnectDecl} (x_declared : (near, x) ∈ c.connections)
      (y_declared : (far, y) ∈ c.connections) (near_asn : near.1 = a.asn) (far_asn : far.1 = b.asn)
      (x_peer : x.peer = far) (y_peer : y.peer = near)
      (differ : (connectionNetworkOf (near, x)).name ≠ (connectionNetworkOf (far, y)).name)
      (named : x.network.isSome = true ∨ y.network.isSome = true) :
      DeclaresAsymmetry c a b (connectionNetworkOf (near, x)).name
        (connectionNetworkOf (far, y)).name

theorem DeclaresAsymmetry.not_namesNoNetwork (h : c.DeclaresAsymmetry a b n n') :
    ¬c.NamesNoNetwork := by
  intro hnone
  obtain ⟨hx, hy, -, -, -, -, -, hnamed⟩ := h
  rcases hnamed with hnamed | hnamed
  · rw [hnone _ hx] at hnamed
    exact absurd hnamed (by decide)
  · rw [hnone _ hy] at hnamed
    exact absurd hnamed (by decide)

/-- Two routers that record each other over different networks were declared so. -/
theorem declaresAsymmetry_of_crossConnect? (h : c.build = .ok e) {near far : Port}
    {near_side far_side : CrossConnect} (hnear : e.crossConnect? near far = some near_side)
    (hfar : e.crossConnect? far near = some far_side)
    (hdiffer : near_side.network ≠ far_side.network) (ha : near.1 = a.asn) (hb : far.1 = b.asn) :
    c.DeclaresAsymmetry a b near_side.network far_side.network := by
  obtain ⟨x, hx, hxpeer, rfl⟩ := exists_connection_of_crossConnect? h hnear
  obtain ⟨y, hy, hypeer, rfl⟩ := exists_connection_of_crossConnect? h hfar
  refine .intro hx hy ha hb hxpeer hypeer hdiffer ?_
  by_contra hnamed
  rw [not_or, Option.not_isSome_iff_eq_none, Option.not_isSome_iff_eq_none] at hnamed
  -- Both names are derived, from the same two ports.
  have hxname : (connectionNetworkOf (near, x)).name = crossConnectNetworkName near far := by
    rw [connectionNetworkOf_name hnamed.1, hxpeer]
  have hyname : (connectionNetworkOf (far, y)).name = crossConnectNetworkName far near := by
    rw [connectionNetworkOf_name hnamed.2, hypeer]
  apply hdiffer
  exact hxname.trans ((Port.crossConnectNetworkName_comm near far).trans hyname.symm)

/-! ## Faults of resolution on what the build records -/

/-- A fault is not one of a missing network, and if it is one of asymmetry, the configuration
declares this asymmetry. -/
def Explains (c : Config) : Fault → Prop
  | .unknownNetwork _ => False
  | .asymmetricLink a b n n' => c.DeclaresAsymmetry a b n n'
  | _ => True

theorem explains_of_unplannable (h : c.build = .ok e) (hs : s.unsettled = e.unsettled)
    {d : LinkKey × UInt32} {f : Fault} (hf : Unplannable s d f) : c.Explains f := by
  cases hf with
  | unknownAs | unknownRouter | unresolved | exchangeMembership => trivial
  | asymmetric hnear_asn hfar_asn hnear hfar hdiffer =>
    rw [Emulation.crossConnect?_of_unsettled_eq hs] at hnear hfar
    exact declaresAsymmetry_of_crossConnect? h hnear hfar hdiffer hnear_asn hfar_asn
  | unknownNetwork hrecorded hmissing =>
    rw [Emulation.crossConnect?_of_unsettled_eq hs] at hrecorded
    rw [Emulation.network?_crossConnect_of_unsettled_eq hs] at hmissing
    obtain ⟨n, hn, -⟩ := exists_network_of_crossConnect? h hrecorded
    rw [hmissing] at hn
    exact absurd hn (by simp)

theorem explains_of_resolve (h : c.build = .ok e) (hs : s.unsettled = e.unsettled)
    {options : ResolverOptions} {links : LinkRegistry} {f : Fault}
    (hf : ((Resolution.resolve options links).on s).1 = .error f) : c.Explains f := by
  obtain ⟨d, -, hunplannable⟩ | ⟨p, -, hexceeds⟩ :=
    Resolution.cause_of_resolve_eq_error (Prod.ext hf rfl)
  · exact explains_of_unplannable h hs hunplannable
  · cases hexceeds with
    | ids | ports => trivial

/-- **Asymmetry takes a declared name.** On the network that a configuration builds, whether the
links are resolved on it at once or in the configuration phase, no registry of links makes
resolution find that a network is missing. Where no connection declares the name of its network, it
finds no link asymmetric either, and wherever it finds one, the two routers declare connections
toward each other with different names, not both of which are derived. -/
theorem asymmetric_only_where_named {σ : Type} [WordSource σ] (h : c.build = .ok e)
    (options : ResolverOptions) (links : LinkRegistry) (source : σ) (f : Fault)
    (hf : ((Resolution.resolve options links).on e).1 = .error f ∨
      (e.configure links options source).result = .error f) :
    (∀ name, f ≠ .unknownNetwork name) ∧
      (c.NamesNoNetwork → ∀ a b n n', f ≠ .asymmetricLink a b n n') ∧
        ∀ a b n n', f = .asymmetricLink a b n n' → c.DeclaresAsymmetry a b n n' := by
  have hexplains : c.Explains f := by
    rcases hf with hf | hf
    · exact explains_of_resolve h rfl hf
    · obtain ⟨asn, rfl | rfl⟩ | ⟨s, hs, hf⟩ := Emulation.cause_of_configure_eq_error hf
      · trivial
      · trivial
      · exact explains_of_resolve h hs hf
  refine ⟨?_, ?_, ?_⟩
  · rintro name rfl
    exact hexplains
  · rintro hnone a b n n' rfl
    exact hexplains.not_namesNoNetwork hnone
  · rintro a b n n' rfl
    exact hexplains

/-! ### Two routers with two names for one network -/

/-- Two connected routers of which one declares the name of the network between. -/
def lopsided (network : Option String) : Config where
  isds := [1]
  ases := [
    { asn := 1
      isds := [{ isd := 1 }]
      networks := [{ name := "net0" }]
      routers := [{
        name := "br1"
        crossConnects := [{
          peerAsn := 2
          peerRouter := "br1"
          address := .ofOctets 10 3 0 1 29
          network }] }] },
    { asn := 2
      isds := [{ isd := 1 }]
      networks := [{ name := "net0" }]
      routers := [{
        name := "br1"
        crossConnects := [{
          peerAsn := 1, peerRouter := "br1", address := .ofOctets 10 3 0 2 29 }] }] }]

/-- A link between them that leaves the choice of the routers open. -/
def lopsidedLink (b : IsdAsn) : LinkRegistry where
  crossConnects := [(⟨⟨1, 1⟩, b, none, none, .core⟩, 1)]

/-- With a declared name the link is asymmetric, and the two connections are found; without one,
only a link to an AS that is not there fails. -/
theorem lopsided_declaresAsymmetry :
    (∃ e, (lopsided (some "left")).build = .ok e ∧
      ((Resolution.resolve {} (lopsidedLink ⟨1, 2⟩)).on e).1
        = .error (.asymmetricLink ⟨1, 1⟩ ⟨1, 2⟩ "left" "xc_1_br1_2_br1") ∧
      (lopsided (some "left")).DeclaresAsymmetry ⟨1, 1⟩ ⟨1, 2⟩ "left" "xc_1_br1_2_br1") ∧
    ∃ e f, (lopsided none).build = .ok e ∧ (lopsided none).NamesNoNetwork ∧
      ((Resolution.resolve {} (lopsidedLink ⟨1, 3⟩)).on e).1 = .error f ∧
      ∀ a b n n', f ≠ .asymmetricLink a b n n' := by
  constructor
  · obtain ⟨e, he, hf⟩ : ∃ e, (lopsided (some "left")).build = .ok e ∧
        ((Resolution.resolve {} (lopsidedLink ⟨1, 2⟩)).on e).1
          = .error (.asymmetricLink ⟨1, 1⟩ ⟨1, 2⟩ "left" "xc_1_br1_2_br1") :=
      exists_eq_ok_of_map_toOption (by decide +kernel)
    obtain ⟨-, -, hdeclares⟩ := asymmetric_only_where_named he {} (lopsidedLink ⟨1, 2⟩)
      (⟨0, 1⟩ : Stepper) _ (.inl hf)
    exact ⟨e, he, hf, hdeclares _ _ _ _ rfl⟩
  · obtain ⟨e, he, hf⟩ : ∃ e, (lopsided none).build = .ok e ∧
        ((Resolution.resolve {} (lopsidedLink ⟨1, 3⟩)).on e).1 = .error (.unknownAs 3) :=
      exists_eq_ok_of_map_toOption (by decide +kernel)
    have hnone : (lopsided none).NamesNoNetwork := by
      unfold NamesNoNetwork
      decide
    obtain ⟨-, hnever, -⟩ := asymmetric_only_where_named he {} (lopsidedLink ⟨1, 3⟩)
      (⟨0, 1⟩ : Stepper) _ (.inl hf)
    exact ⟨e, _, he, hnone, hf, hnever hnone⟩

end Config

end Interdomain
