import Interdomain.Proofs.Building.Emulation
import Interdomain.Proofs.Declaration

/-!
# Building after validation

Validation and building look at the same things in different ways: validation compares each item
with those before it and reads numbers from names, and the builder fills rosters and looks names up.
A validated configuration has no flaw that validation looks for, so what is left to fail are
addresses that run out or meet, gateways, and links that join an AS with itself or come twice.

On the names of exchanges the two disagree. Validation reads the number in the name, whose spelling
may have leading zeros or a plus sign, and the builder knows the one spelling `ix<id>`.
-/

namespace Interdomain

theorem defaultSubnet?_eq_none_iff {second third : Nat} :
    defaultSubnet? second third = none ↔ ¬(second ≤ 255 ∧ third ≤ 255) := by
  rw [defaultSubnet?]
  split
  case isTrue h => exact iff_of_false (by simp) (not_not_intro h)
  case isFalse h => exact iff_of_true rfl h

namespace Config

variable {c : Config}

/-- What can still go wrong in building a validated configuration. -/
inductive Residue (c : Config) : BuildFault → Prop
  | gateway {d : AsDecl} {f : Fault} (declared : d ∈ c.ases) (refused : d.RefusesGateway f) :
    Residue c (.part f)
  | exhausted (network : String) : Residue c (.address (.exhausted network))
  /-- A router joins an exchange under a name that the network of the exchange does not have. -/
  | misspelled {d : AsDecl} {router network : String} {id : ExchangeId} (declared : d ∈ c.ases)
      (joined : (router, network) ∈ d.routerNetworks)
      (stranger : network ∉ d.networks.map (·.name))
      (reads : exchangeOfName? network = some id) (exchange : id ∈ c.exchanges.map (·.id))
      (spelled : network ≠ exchangeNetworkName id) :
      Residue c (.address (.unknownNetwork d.asn router network))
  | conflict (network : String) (address : Ipv4.Address) :
    Residue c (.addressConflict network address)

theorem residue_of_system_flaw {d : AsDecl} (hd : d ∈ c.ases) (hsound : d.Sound c)
    {f : BuildFault} (hf : d.Flaw c.exchangeNames f) : c.Residue f := by
  cases hf with
  | addresses split undeclared outside =>
    rcases hsound.addresses _ _ _ split with hsome | hfits
    · rw [undeclared] at hsome
      exact absurd hsome (by simp)
    · exact absurd hfits (defaultSubnet?_eq_none_iff.1 outside)
  | networkTwice name twice => exact absurd hsound.networksDistinct twice
  | nodeTwice name twice => exact absurd hsound.nodesDistinct twice
  | @node n _ declared unattached =>
    cases unattached with
    | exhausted network => exact .exhausted network
    | unknown joined stranger =>
      have hjoined : (n.name, _) ∈ d.nodeNetworks :=
        List.mem_flatMap.2 ⟨n, declared, List.mem_map_of_mem joined⟩
      exact absurd (hsound.nodeNetworks _ hjoined) stranger
  | @router r _ declared unattached =>
    cases unattached with
    | exhausted network => exact .exhausted network
    | @unknown network joined stranger =>
      have hjoined : (r.name, network) ∈ d.routerNetworks :=
        List.mem_flatMap.2 ⟨r, declared, List.mem_map_of_mem joined⟩
      obtain ⟨hinside, hexchange⟩ := not_or.1 stranger
      -- Validation has read the number of a declared exchange from the name.
      obtain ⟨id, hreads, hid⟩ := (hsound.routerNetworks _ hjoined).resolve_left hinside
      refine .misspelled hd hjoined hinside hreads hid fun hname ↦ hexchange ?_
      obtain ⟨x, hx, rfl⟩ := List.mem_map.1 hid
      exact List.mem_map.2 ⟨x, hx, hname.symm⟩
  | gateway refused => exact .gateway hd refused

/-- A validated configuration has none of the flaws that validation looks for. -/
theorem residue_of_build {f : BuildFault} (hvalid : c.validate = .ok ())
    (h : c.build = .error f) : c.Residue f := by
  obtain ⟨-, hexchanges, hases, -⟩ := validate_eq_ok_iff.1 hvalid
  obtain ⟨hdistinct, hsound⟩ := checkAses_eq_ok_iff.1 hases
  cases c.build_yields.cause_of_error h with
  | addresses declared undeclared outside =>
    rcases (checkExchanges_eq_ok_iff.1 hexchanges).2.1 _ declared with hsome | hfits
    · rw [undeclared] at hsome
      exact absurd hsome (by simp)
    · exact absurd ⟨hfits, Nat.zero_le _⟩ (defaultSubnet?_eq_none_iff.1 outside)
  | system declared flaw => exact residue_of_system_flaw declared (hsound _ declared) flaw
  | conflict network address => exact .conflict network address
  | asTwice asn twice => exact absurd hdistinct twice

/-! ## Names of networks -/

/-- **Unknown networks.** A network that the builder does not know after validation is an exchange
whose number is spelled in another way than in the name of its network; a router joins it, and its
AS has no network of this name. -/
theorem misspelled_of_unknownNetwork {asn : Asn} {node network : String}
    (hvalid : c.validate = .ok ())
    (h : c.build = .error (.address (.unknownNetwork asn node network))) :
    ∃ d ∈ c.ases, d.asn = asn ∧ (node, network) ∈ d.routerNetworks ∧
      network ∉ d.networks.map (·.name) ∧
      ∃ id ∈ c.exchanges.map (·.id), exchangeOfName? network = some id ∧
        network ≠ exchangeNetworkName id := by
  cases residue_of_build hvalid h with
  | @misspelled d _ _ id declared joined stranger reads exchange spelled =>
    exact ⟨d, declared, rfl, joined, stranger, id, exchange, reads, spelled⟩

/-- A router that joins exchange 7 under a name with a leading zero. -/
def leadingZero : Config where
  isds := [1]
  exchanges := [{ id := 7 }]
  ases := [{
    asn := 1
    isds := [{ isd := 1 }]
    networks := [{ name := "net0" }]
    routers := [{ name := "br1", networks := ["ix07"] }] }]

/-- Validation passes the leading zero, and the builder does not know the network. -/
theorem leadingZero_unknownNetwork :
    leadingZero.validate = .ok () ∧
      leadingZero.build = .error (.address (.unknownNetwork 1 "br1" "ix07")) := by
  exact ⟨rfl, eq_error_of_fault? (by decide +kernel)⟩

theorem leadingZero_misspelled :
    leadingZero.validate = .ok () ∧
      ∃ d ∈ leadingZero.ases, d.asn = 1 ∧ ("br1", "ix07") ∈ d.routerNetworks ∧
        "ix07" ∉ d.networks.map (·.name) ∧
        ∃ id ∈ leadingZero.exchanges.map (·.id), exchangeOfName? "ix07" = some id ∧
          "ix07" ≠ exchangeNetworkName id := by
  exact ⟨rfl, misspelled_of_unknownNetwork rfl (eq_error_of_fault? (by decide +kernel))⟩

/-! ## Other faults -/

/-- **Validation is enough.** Building a validated configuration finds no AS twice, misses no
default addresses and finds no name taken in an AS, and its links are refused only where they join
an AS with itself or come twice. -/
theorem faults_of_validated (hvalid : c.validate = .ok ()) :
    (∀ f, c.build = .error f →
      (∀ asn, f ≠ .duplicateAs asn) ∧ (∀ subject, f ≠ .addressTemplate subject) ∧
        ∀ asn name, f ≠ .part (.duplicateNode asn name)) ∧
      ∀ f, c.declareLinks = .error f →
        (∃ l ∈ c.links, l.a.asn = l.b.asn ∧ f = .part (.selfLink l.a.asn)) ∨
          ∃ k, f = .part (.duplicateLink k) := by
  constructor
  · intro f h
    cases residue_of_build hvalid h with
    | gateway declared refused =>
      refine ⟨fun _ ↦ nofun, fun _ ↦ nofun, fun asn name heq ↦ ?_⟩
      obtain rfl := BuildFault.part.inj heq
      exact nomatch refused
    | exhausted => exact ⟨fun _ ↦ nofun, fun _ ↦ nofun, fun _ _ ↦ nofun⟩
    | misspelled => exact ⟨fun _ ↦ nofun, fun _ ↦ nofun, fun _ _ ↦ nofun⟩
    | conflict => exact ⟨fun _ ↦ nofun, fun _ ↦ nofun, fun _ _ ↦ nofun⟩
  · intro f h
    obtain ⟨-, -, -, hlinks⟩ := validate_eq_ok_iff.1 hvalid
    obtain ⟨l, hl, hrefused⟩ := c.declareLinks_yields.cause_of_error h
    obtain ⟨hcount, hmedium⟩ := wellFormed_of_linkDefect? (checkLinks_eq_ok_iff.1 hlinks l hl)
    cases hrefused with
    | malformed index reason shapeless =>
      rw [shapeless] at hmedium
      exact absurd hmedium (by simp)
    | selfLink same => exact .inl ⟨l, hl, same, rfl⟩
    | zeroCount k zero => exact absurd zero hcount
    | duplicate k => exact .inr ⟨k, rfl⟩

/-- An AS with the last number of the address template, a gateway on a host that it has not, and a
link with itself. -/
def lastTemplate : Config where
  isds := [1]
  ases := [{
    asn := 255
    isds := [{ isd := 1 }]
    networks := [{ name := "net0" }]
    hosts := [{ name := "h1", networks := ["net0"] }]
    routers := [{ name := "br1", networks := ["net0"] }]
    gateways := [{
      name := "sig"
      host := "h2"
      localNet := .ofOctets 192 168 0 0 24 }] }]
  links := [{ kind := .crossConnect, a := ⟨1, 255⟩, b := ⟨1, 255⟩, linkType := .core }]

/-- Both faults are among those that validation leaves. -/
theorem lastTemplate_faults :
    lastTemplate.validate = .ok () ∧
      lastTemplate.build = .error (.part (.unknownHost 255 "h2")) ∧
      lastTemplate.declareLinks = .error (.part (.selfLink 255)) ∧
      (∀ asn name, BuildFault.part (.unknownHost 255 "h2") ≠ .part (.duplicateNode asn name)) ∧
      ((∃ l ∈ lastTemplate.links,
          l.a.asn = l.b.asn ∧ BuildFault.part (.selfLink 255) = .part (.selfLink l.a.asn)) ∨
        ∃ k, BuildFault.part (.selfLink 255) = .part (.duplicateLink k)) := by
  have hvalid : lastTemplate.validate = .ok () := rfl
  have hbuild : lastTemplate.build = .error (.part (.unknownHost 255 "h2")) := rfl
  have hlinks : lastTemplate.declareLinks = .error (.part (.selfLink 255)) := rfl
  obtain ⟨hbuilding, hdeclaring⟩ := faults_of_validated hvalid
  exact ⟨hvalid, hbuild, hlinks, (hbuilding _ hbuild).2.2, hdeclaring _ hlinks⟩

end Config

end Interdomain
