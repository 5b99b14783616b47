import Interdomain.Proofs.Building.Exchanges

/-!
# Conflicts at exchanges

The address of a router at an exchange is the one at the number of its AS. So routers of different
ASes never meet there, and two attachments of one AS always do. The check for conflicts goes through
the attachments of an AS when the AS is built, beside all that were there before. A conflict shows
an AS that attaches to an exchange twice, with two routers or with one that lists it twice, and
where an AS does so nothing is built.
-/

namespace Interdomain

theorem exchangeOfName?_exchangeNetworkName (id : ExchangeId) :
    exchangeOfName? (exchangeNetworkName id) = some id := by
  have hchars : (exchangeNetworkName id).toList = 'i' :: 'x' :: Decimal.digits id.toNat := by
    rw [exchangeNetworkName, asnText, Decimal.text, String.toList_append, String.toList_ofList,
      String.toList_ofList]
    rfl
  have hlimit : id.toNat ≤ 4294967295 := Nat.le_of_lt_succ id.toNat_lt
  rw [exchangeOfName?, hchars]
  simp only [Decimal.readUnsigned?_digits hlimit, Option.map_some, UInt32.ofNat_toNat]

/-! ## Attachments of one AS -/

namespace AsDecl

/-- The networks outside its AS that a router joins, in order and as often as they are listed. -/
def outside (d : AsDecl) (r : RouterDecl) : List String :=
  r.networks.filter (· ∉ d.networks.map (·.name))

/-- An AS attaches twice where some names lead: two of its routers join a network of such a name, or
one router joins two. -/
inductive AttachesTwice (d : AsDecl) (leads : String → Prop) : Prop
  | routers {r r' : RouterDecl} (two : [r, r'].Sublist d.routers)
      (joins : ∃ name ∈ d.outside r, leads name) (joins' : ∃ name ∈ d.outside r', leads name) :
      AttachesTwice d leads
  | router {r : RouterDecl} (declared : r ∈ d.routers) {name name' : String}
      (two : [name, name'].Sublist (d.outside r)) (joins : leads name) (joins' : leads name') :
      AttachesTwice d leads

variable {d : AsDecl} {exchanges : Roster String Network} {a : AutonomousSystem}
  {leads : String → Prop}

theorem attachesTwice_iff :
    d.AttachesTwice leads ↔
      ¬(d.routers.flatMap d.outside).Pairwise fun name name' ↦ ¬(leads name ∧ leads name') := by
  rw [List.pairwise_flatMap]
  constructor
  · rintro (⟨two, ⟨name, hname, hleads⟩, name', hname', hleads'⟩ | ⟨hr, two, hleads, hleads'⟩)
      ⟨hown, hothers⟩
    · exact List.pairwise_iff_forall_sublist.1 hothers two name hname name' hname'
        ⟨hleads, hleads'⟩
    · exact List.pairwise_iff_forall_sublist.1 (hown _ hr) two ⟨hleads, hleads'⟩
  · intro htwice
    by_contra honce
    refine htwice ⟨fun r hr ↦ ?_, ?_⟩
    · rw [List.pairwise_iff_forall_sublist]
      rintro name name' two ⟨hleads, hleads'⟩
      exact honce (.router hr two hleads hleads')
    · rw [List.pairwise_iff_forall_sublist]
      rintro r r' two name hname name' hname' ⟨hleads, hleads'⟩
      exact honce (.routers two ⟨name, hname, hleads⟩ ⟨name', hname', hleads'⟩)

/-- The interfaces on exchanges are those under the names outside the AS. -/
theorem map_network_of_attaches {names : List String} {is : List Interface}
    (h : List.Forall₂ (d.Attaches exchanges) names is) :
    (is.filter (·.scope = .exchange)).map (·.network)
      = names.filter (· ∉ d.networks.map (·.name)) := by
  induction h with
  | nil => rfl
  | @cons name i names is hi _ ih =>
    by_cases hout : name ∉ d.networks.map (·.name)
    · have hscope := hi.outside.2 hout
      rw [List.filter_cons_of_pos (by simpa using hscope),
        List.filter_cons_of_pos (by simpa using hout), List.map_cons, ih, hi.network]
    · have hscope := mt hi.outside.1 hout
      rw [List.filter_cons_of_neg (by simpa using hscope),
        List.filter_cons_of_neg (by simpa using hout), ih]

theorem map_fst_exchangeAddresses
    (h : List.Forall₂ (RouterDecl.Attached d exchanges) d.routers a.routers.entries) :
    (Construction.exchangeAddresses a).map (·.1) = d.routers.flatMap d.outside := by
  have hrouters : a.routers.values.map (fun r ↦
      ((r.interfaces.filter (·.scope = .exchange)).map fun i ↦ (i.network, i.address)).map (·.1))
      = d.routers.map d.outside := by
    rw [Roster.values, List.map_map, ← List.forall₂_eq_eq_eq, List.forall₂_map_left_iff,
      List.forall₂_map_right_iff]
    refine h.flip.imp fun x r hr ↦ ?_
    rw [Function.comp_apply, List.map_map]
    exact map_network_of_attaches hr.interfaces
  rw [Construction.exchangeAddresses, List.map_flatMap, List.flatMap_def, hrouters,
    List.flatMap_def]

/-- An attachment is to an exchange of its name, at the number of the AS. -/
theorem exists_of_mem_exchangeAddresses
    (h : List.Forall₂ (RouterDecl.Attached d exchanges) d.routers a.routers.entries)
    {x : String × Ipv4.Address} (hx : x ∈ Construction.exchangeAddresses a) :
    ∃ n, exchanges.get? x.1 = some n ∧ n.subnet.hostAddress? d.asn.toNat = some x.2 := by
  obtain ⟨router, hrouter, hx⟩ := List.mem_flatMap.1 hx
  obtain ⟨i, hi, rfl⟩ := List.mem_map.1 hx
  obtain ⟨hi, hscope⟩ := List.mem_filter.1 hi
  obtain ⟨entry, hentry, rfl⟩ := List.mem_map.1 hrouter
  obtain ⟨r, -, hattached⟩ := exists_of_mem_of_forall₂ h.flip hentry
  obtain ⟨name, -, hattaches⟩ := exists_of_mem_of_forall₂ hattached.interfaces.flip hi
  obtain rfl := hattaches.network
  exact hattaches.address (of_decide_eq_true hscope)

theorem nodup_outside
    (h : List.Forall₂ (RouterDecl.Attached d exchanges) d.routers a.routers.entries)
    (hclaimed : (Construction.exchangeAddresses a).Nodup) :
    (d.routers.flatMap d.outside).Nodup := by
  rw [← map_fst_exchangeAddresses h]
  refine hclaimed.map_on fun x hx y hy hname ↦ Prod.ext hname ?_
  obtain ⟨n, hn, hx⟩ := exists_of_mem_exchangeAddresses h hx
  obtain ⟨m, hm, hy⟩ := exists_of_mem_exchangeAddresses h hy
  rw [hname] at hn
  obtain rfl := Option.some.inj (hn.symm.trans hm)
  exact Option.some.inj (hx.symm.trans hy)

end AsDecl

/-! ## The check -/

namespace Construction

theorem cause_of_claim_eq_error {taken l : List (String × Ipv4.Address)} {f : BuildFault}
    (h : claim taken l = .error f) :
    ∃ x ∈ l, f = .addressConflict x.1 x.2 ∧ (x ∈ taken ∨ [x, x].Sublist l) := by
  induction l generalizing taken with
  | nil => exact absurd h nofun
  | cons x l ih =>
    rw [claim] at h
    split at h
    case isTrue htaken => exact ⟨x, List.mem_cons_self, (Except.error.inj h).symm, .inl htaken⟩
    case isFalse =>
      obtain ⟨y, hy, hf, hcause⟩ := ih h
      refine ⟨y, List.mem_cons_of_mem x hy, hf, ?_⟩
      rcases hcause with hmem | htwice
      · rcases List.mem_cons.1 hmem with rfl | hmem
        · exact .inr ((List.singleton_sublist.2 hy).cons_cons y)
        · exact .inl hmem
      · exact .inr (htwice.cons x)

/-- No AS reports a conflict before its attachments are compared. -/
theorem exists_of_addAs_conflict {exchanges : Roster String Network} {k : Construction}
    {d : AsDecl} {network : String} {address : Ipv4.Address}
    (h : k.addAs exchanges d = .error (.addressConflict network address)) :
    ∃ site, d.build exchanges k.loopbacks = .ok site ∧
      claim k.taken (exchangeAddresses site.system)
        = .error (.addressConflict network address) := by
  rcases bind_eq_error_iff.1 h with hbuild | ⟨site, hbuild, h⟩
  · exact nomatch (d.build_yields exchanges k.loopbacks).cause_of_error hbuild
  rcases bind_eq_error_iff.1 h with hclaim | ⟨taken, -, h⟩
  · exact ⟨site, hbuild, hclaim⟩
  · split at h
    case h_1 => exact absurd (Except.error.inj h) nofun
    case h_2 => exact absurd h nofun

end Construction

namespace Config

variable {c : Config} {e : Emulation} {network : String} {address : Ipv4.Address}

/-- A conflict comes with the AS that is built last. Those before it have been added. -/
theorem exists_of_build_conflict (h : c.build = .error (.addressConflict network address)) :
    ∃ exchanges before d after sites e site loopbacks taken, c.KnowsExchanges exchanges ∧
      c.ases = before ++ d :: after ∧
      ({ c with ases := before } : Config).Assembled exchanges sites e ∧
      d.build exchanges loopbacks = .ok site ∧
      (∀ x, x ∈ taken ↔ x ∈ sites.flatMap fun s ↦ Construction.exchangeAddresses s.system) ∧
      Construction.claim taken (Construction.exchangeAddresses site.system)
        = .error (.addressConflict network address) := by
  rcases bind_eq_error_iff.1 h with hexchanges | ⟨e, hexchanges, h⟩
  · obtain ⟨-, x, -, e, -, -, hx⟩ := exists_of_foldlM_eq_error hexchanges
    have hbuild := (bind_eq_error_iff.1 hx).resolve_right fun ⟨_, _, h⟩ ↦ nomatch h
    obtain ⟨-, -, heq⟩ := (exchangeBuild_yields x).cause_of_error hbuild
    exact absurd heq nofun
  · have hases := (bind_eq_error_iff.1 h).resolve_right fun ⟨_, _, h⟩ ↦ nomatch h
    obtain ⟨before, d, after, k, hsplit, hbefore, hd⟩ := exists_of_foldlM_eq_error hases
    obtain ⟨hnoAses, hnoConnections, hdeclared⟩ := addExchanges_eq_ok hexchanges
    obtain ⟨sites, hsites, htaken⟩ := exists_assembled_of_foldlM (c := { c with ases := before })
      hnoAses hnoConnections hbefore
    obtain ⟨site, hbuild, hclaim⟩ := Construction.exists_of_addAs_conflict hd
    exact ⟨_, before, d, after, sites, _, site, _, _, knowsExchanges_of_exchanges hdeclared, hsplit,
      hsites, hbuild, htaken, hclaim⟩

/-- Two attachments that conflict are of one AS, since others would have to have its number. -/
theorem attachesTwice_of_conflict (hdistinct : (c.ases.map (·.asn)).Nodup)
    (h : c.build = .error (.addressConflict network address)) :
    ∃ d ∈ c.ases, ∃ x ∈ c.exchanges, network = exchangeNetworkName x.id ∧
      d.AttachesTwice (· = network) ∧
      ∃ n, x.build = .ok n ∧ n.subnet.hostAddress? d.asn.toNat = some address := by
  obtain ⟨exchanges, before, d, after, sites, e, site, loopbacks, taken, hknown, hsplit, hassembled,
    hbuild, htaken, hclaim⟩ := exists_of_build_conflict h
  have hnames : ∀ name n, exchanges.get? name = some n → n.name = name :=
    fun name n hn ↦ (hknown name n hn).1
  have hattached := AsDecl.attached_of_build hnames hbuild
  obtain ⟨⟨_, _⟩, hx, hf, hcause⟩ := Construction.cause_of_claim_eq_error hclaim
  obtain ⟨rfl, rfl⟩ := BuildFault.addressConflict.inj hf
  obtain ⟨n, hn, haddress⟩ := AsDecl.exists_of_mem_exchangeAddresses hattached hx
  obtain ⟨hname, x, hx, hxn⟩ := hknown _ _ hn
  refine ⟨d, hsplit ▸ List.mem_append_right _ List.mem_cons_self, x, hx,
    hname.symm.trans (ExchangeDecl.build_eq_ok hxn).2.1, ?_, n, hxn, haddress⟩
  rcases hcause with hmem | htwice
  · obtain ⟨s, hs, hmem⟩ := List.mem_flatMap.1 ((htaken _).1 hmem)
    obtain ⟨d', hd', loopbacks', hbuild'⟩ := exists_of_mem_of_forall₂ hassembled.built.flip hs
    obtain ⟨m, hm, haddress'⟩ := AsDecl.exists_of_mem_exchangeAddresses
      (AsDecl.attached_of_build hnames hbuild') hmem
    obtain rfl := Option.some.inj (hn.symm.trans hm)
    have hasn := Ipv4.Subnet.hostAddress?_inj haddress' haddress
    rw [nodup_map_iff_not_mem_before] at hdistinct
    exact absurd (List.mem_map.2 ⟨d', hd', UInt32.toNat_inj.1 hasn⟩)
      (hdistinct before d after hsplit)
  · rw [AsDecl.attachesTwice_iff, ← AsDecl.map_fst_exchangeAddresses hattached]
    intro honce
    exact List.pairwise_iff_forall_sublist.1 honce (htwice.map Prod.fst) ⟨rfl, rfl⟩

/-- In a network that was built no AS attaches to an exchange twice, however the names spell its
number. -/
theorem not_attachesTwice_of_build (h : c.build = .ok e) {d : AsDecl} (hd : d ∈ c.ases)
    (id : ExchangeId) : ¬d.AttachesTwice (exchangeOfName? · = some id) := by
  obtain ⟨hdeclared, sites, hassembled⟩ := sites_of_build h
  obtain ⟨s, hs, loopbacks, hbuild⟩ := exists_of_mem_of_forall₂ hassembled.built hd
  have hattached := attached_of_sites h d loopbacks s hbuild
  have hnodup := AsDecl.nodup_outside hattached ((List.nodup_flatMap.1 hassembled.claimed).1 s hs)
  -- The names that the builder has found are spelled in the one way that it knows.
  have hspelled : ∀ name ∈ d.routers.flatMap d.outside, exchangeOfName? name = some id →
      name = exchangeNetworkName id := by
    intro name hname hreads
    rw [← AsDecl.map_fst_exchangeAddresses hattached] at hname
    obtain ⟨x, hx, rfl⟩ := List.mem_map.1 hname
    obtain ⟨n, hn, -⟩ := AsDecl.exists_of_mem_exchangeAddresses hattached hx
    obtain ⟨hfound, y, -, hy⟩ := knowsExchanges_of_exchanges hdeclared _ n hn
    obtain ⟨-, hbuilt, -⟩ := ExchangeDecl.build_eq_ok hy
    rw [← hfound, hbuilt, exchangeOfName?_exchangeNetworkName] at hreads
    rw [← hfound, hbuilt, Option.some.inj hreads]
  rw [AsDecl.attachesTwice_iff, not_not]
  refine hnodup.imp_of_mem fun {name name'} hname hname' hne ⟨hreads, hreads'⟩ ↦ hne ?_
  rw [hspelled name hname hreads, hspelled name' hname' hreads']

/-- **Addresses at exchanges.** In a network that is built no two interfaces on one exchange have
one address. After validation, a conflict that is reported shows an AS that attaches to the exchange
of this network twice, with the address at its number. And where an AS attaches to an exchange
twice, the build fails. -/
theorem exchange_conflicts_exact (hvalid : c.validate = .ok ()) :
    (∀ e, c.build = .ok e → e.interfaces.Pairwise fun i j ↦
      i.scope = .exchange → j.scope = .exchange → i.network = j.network → i.address ≠ j.address) ∧
    (∀ network address, c.build = .error (.addressConflict network address) →
      ∃ d ∈ c.ases, ∃ x ∈ c.exchanges, network = exchangeNetworkName x.id ∧
        d.AttachesTwice (· = network) ∧
        ∃ n, x.build = .ok n ∧ n.subnet.hostAddress? d.asn.toNat = some address) ∧
    ∀ d ∈ c.ases, ∀ id, d.AttachesTwice (exchangeOfName? · = some id) →
      ∃ f, c.build = .error f := by
  obtain ⟨-, -, hases, -⟩ := validate_eq_ok_iff.1 hvalid
  refine ⟨fun e he ↦ ?_, fun network address ↦
    attachesTwice_of_conflict (checkAses_eq_ok_iff.1 hases).1, fun d hd id htwice ↦ ?_⟩
  · obtain ⟨hdistinct, -⟩ := interfaces_of_build he
    refine hdistinct.imp ?_
    rintro ⟨scope, name, address⟩ ⟨scope', name', address'⟩ hne rfl rfl rfl rfl
    exact hne rfl
  · cases he : c.build with
    | ok e => exact absurd htwice (not_attachesTwice_of_build he hd id)
    | error f => exact ⟨f, rfl⟩

/-! ### Two doors to an exchange -/

/-- Two ASes at a small exchange. The second one lists it for both of its routers. -/
def twoDoors : Config where
  isds := [1]
  exchanges := [{ id := 7, subnet := some (.ofOctets 10 7 0 3 29) }]
  ases := [
    { asn := 1
      isds := [{ isd := 1 }]
      routers := [{ name := "br1", networks := ["ix7"] }] },
    { asn := 5
      isds := [{ isd := 1 }]
      networks := [{ name := "net0" }]
      routers := [
        { name := "br1", networks := ["net0", "ix7"] },
        { name := "br2", networks := ["ix7", "net0"] }] }]

/-- The conflict is at the fifth address, which the second AS wants twice. With one door for each AS
the addresses differ. -/
theorem twoDoors_conflict :
    twoDoors.validate = .ok () ∧
      (∃ d ∈ twoDoors.ases, ∃ x ∈ twoDoors.exchanges, "ix7" = exchangeNetworkName x.id ∧
        d.AttachesTwice (· = "ix7") ∧ ∃ n, x.build = .ok n ∧
          n.subnet.hostAddress? d.asn.toNat = some (.ofOctets 10 7 0 5)) ∧
      (∃ f, twoDoors.build = .error f) ∧
      campus.validate = .ok () ∧ ∃ e, campus.build = .ok e ∧ e.interfaces.Pairwise fun i j ↦
        i.scope = .exchange → j.scope = .exchange → i.network = j.network →
          i.address ≠ j.address := by
  have hvalid : twoDoors.validate = .ok () := by decide +kernel
  have hcampus : campus.validate = .ok () := by decide +kernel
  obtain ⟨-, hreported, hfails⟩ := exchange_conflicts_exact hvalid
  obtain ⟨hdistinct, -, -⟩ := exchange_conflicts_exact hcampus
  obtain ⟨e, he, -⟩ : ∃ e, campus.build = .ok e ∧ () = () :=
    exists_eq_ok_of_map_toOption (by decide +kernel)
  refine ⟨hvalid, hreported _ _ (eq_error_of_fault? (by decide +kernel)), ?_, hcampus, e, he,
    hdistinct e he⟩
  refine hfails _ (List.mem_cons_of_mem _ List.mem_cons_self) 7
    (.routers (List.Sublist.refl _) ?_ ?_)
  · exact ⟨"ix7", by decide +kernel, by decide +kernel⟩
  · exact ⟨"ix7", by decide +kernel, by decide +kernel⟩

end Config

end Interdomain
