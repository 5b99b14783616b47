import Interdomain.Proofs.Building.Connections

/-!
# Names of networks between routers

The name that a connection derives for its network joins the numbers and names of both its ends with
underscores, and both ends derive it alike because they put the lesser port first. The number of the
first port ends at its underscore, but a router may have underscores and digits in its name, and
then the name of the first router can be read on into the second port. `Port.Absorbs` says when this
gives two readings of one text. It takes a first router with an underscore before a digit in its
name; where no router is called so, the derived name tells between which two ports the network is.
-/

namespace Interdomain

/-! ## The order of ports -/

namespace Port

variable {a b c d : Port}

/-- The order of ports: by AS number, then by the name of the router. -/
def order (a b : Port) : Ordering := (compare a.1 b.1).then (compare a.2 b.2)

instance : Std.OrientedCmp order where
  eq_swap := by
    intro a b
    rw [order, order, Ordering.swap_then, ← Std.OrientedCmp.eq_swap, ← Std.OrientedCmp.eq_swap]

theorem before_eq (a b : Port) : Port.before a b = (order a b).isLE := rfl

theorem before_total (a b : Port) : Port.before a b = true ∨ Port.before b a = true := by
  have hswap : order b a = (order a b).swap := Std.OrientedCmp.eq_swap
  rw [before_eq, before_eq, hswap]
  cases order a b <;> decide

theorem before_antisymm (hab : Port.before a b = true) (hba : Port.before b a = true) : a = b := by
  have heq : order a b = .eq := Std.OrientedCmp.isLE_antisymm hab hba
  obtain ⟨hasn, hname⟩ := Ordering.then_eq_eq.1 heq
  exact Prod.ext (Std.LawfulEqCmp.eq_of_compare hasn) (Std.LawfulEqCmp.eq_of_compare hname)

def inOrder (a b : Port) : Port × Port := if Port.before a b then (a, b) else (b, a)

theorem inOrder_comm (a b : Port) : inOrder a b = inOrder b a := by
  rw [inOrder, inOrder]
  by_cases hab : Port.before a b = true
  · by_cases hba : Port.before b a = true
    · rw [before_antisymm hab hba]
    · rw [if_pos hab, if_neg hba]
  · have hba := (before_total a b).resolve_left hab
    rw [if_neg hab, if_pos hba]

/-- Two pairs of ports are the same, in either order. -/
def SamePair (a b c d : Port) : Prop := (a = c ∧ b = d) ∨ (a = d ∧ b = c)

instance : Decidable (SamePair a b c d) := inferInstanceAs (Decidable (_ ∨ _))

theorem inOrder_eq_or (a b : Port) : inOrder a b = (a, b) ∨ inOrder a b = (b, a) := by
  rw [inOrder]
  split
  case isTrue => exact .inl rfl
  case isFalse => exact .inr rfl

theorem inOrder_eq_inOrder_iff : inOrder a b = inOrder c d ↔ SamePair a b c d := by
  constructor
  · intro h
    rcases inOrder_eq_or a b with hab | hab <;> rcases inOrder_eq_or c d with hcd | hcd
      <;> rw [hab, hcd] at h <;> obtain ⟨rfl, rfl⟩ := Prod.mk.inj h
    · exact .inl ⟨rfl, rfl⟩
    · exact .inr ⟨rfl, rfl⟩
    · exact .inr ⟨rfl, rfl⟩
    · exact .inl ⟨rfl, rfl⟩
  · rintro (⟨rfl, rfl⟩ | ⟨rfl, rfl⟩)
    · rfl
    · exact inOrder_comm a b

/-! ## Readings of a name -/

/-- The name of the network between two ports that are in order. -/
def joined (x : Port × Port) : String := "xc_" ++ text x.1 ++ "_" ++ text x.2

theorem crossConnectNetworkName_eq_joined (a b : Port) :
    crossConnectNetworkName a b = joined (inOrder a b) := by
  rw [crossConnectNetworkName, inOrder]
  split
  case isTrue => rfl
  case isFalse => rfl

/-- The first router of `y` has a name that goes on where the first name of `x` ends, through the
number of the second port of `x`, and what it leaves of `x` spells the second port of `y`. -/
def Absorbs (x y : Port × Port) : Prop :=
  y.1.1 = x.1.1 ∧ ∃ rest, y.1.2 = x.1.2 ++ "_" ++ asnText x.2.1 ++ rest ∧
    "_" ++ x.2.2 = rest ++ "_" ++ text y.2

theorem joined_eq_of_absorbs {x y : Port × Port} (h : Absorbs x y) : joined x = joined y := by
  obtain ⟨hasn, rest, hname, hrest⟩ := h
  have hy : joined y = "xc_" ++ (asnText x.1.1 ++ "_" ++ x.1.2) ++ "_" ++ asnText x.2.1
      ++ (rest ++ "_" ++ text y.2) := by
    rw [joined, text, hasn, hname]
    simp only [String.append_assoc]
  rw [hy, ← hrest, joined, text, text]
  simp only [String.append_assoc]

theorem toList_asnText (n : Asn) : (asnText n).toList = Decimal.digits n.toNat := by
  rw [asnText, Decimal.text, String.toList_ofList]

theorem toList_text (p : Port) :
    (text p).toList = Decimal.digits p.1.toNat ++ '_' :: p.2.toList := by
  rw [text, String.toList_append, String.toList_append, toList_asnText, List.append_assoc]
  rfl

theorem toList_joined (x : Port × Port) :
    (joined x).toList = 'x' :: 'c' :: '_' :: (Decimal.digits x.1.1.toNat ++
      '_' :: (x.1.2.toList ++ '_' :: (Decimal.digits x.2.1.toNat ++ '_' :: x.2.2.toList))) := by
  rw [joined, String.toList_append, String.toList_append, String.toList_append, toList_text,
    toList_text]
  simp

theorem text_inj {p q : Port} (h : (text p).toList = (text q).toList) : p = q := by
  rw [toList_text, toList_text] at h
  obtain ⟨hasn, hname⟩ := Decimal.digits_append_cons_inj (by decide) (by decide) h
  exact Prod.ext (UInt32.toNat_inj.1 hasn) (String.toList_inj.1 (List.cons.inj hname).2)

/-- Where the first name of `y` is longer than that of `x`, it goes on as far as the second name of
`x` at least, because the number between the two has no underscore in it. -/
theorem absorbs_of_toList_eq {x y : Port × Port} {rest : List Char} (hasn : y.1.1 = x.1.1)
    (hname : y.1.2.toList = x.1.2.toList ++ rest)
    (h : '_' :: (text x.2).toList = rest ++ '_' :: (text y.2).toList) :
    x = y ∨ Absorbs x y := by
  cases rest with
  | nil =>
    left
    rw [List.append_nil] at hname
    exact Prod.ext (Prod.ext hasn.symm (String.toList_inj.1 hname.symm))
      (text_inj (List.cons.inj h).2)
  | cons c rest =>
    right
    rw [List.cons_append] at h
    obtain ⟨hc, htext⟩ := List.cons.inj h
    subst hc
    rw [toList_text] at htext
    obtain ⟨rest, rfl, hrest⟩ : ∃ tail, rest = Decimal.digits x.2.1.toNat ++ tail ∧
        '_' :: x.2.2.toList = tail ++ '_' :: (text y.2).toList := by
      rcases List.append_eq_append_iff.1 htext with ⟨tail, hrest, htail⟩ | ⟨tail, hdigits, htail⟩
      · exact ⟨tail, hrest, htail⟩
      · obtain rfl := Decimal.eq_nil_of_digits_eq_append (by decide) hdigits htail
        rw [List.append_nil] at hdigits
        exact ⟨[], by rw [List.append_nil, hdigits], htail.symm⟩
    refine ⟨hasn, String.ofList rest, String.toList_inj.1 ?_, String.toList_inj.1 ?_⟩
    · simp only [String.toList_append, String.toList_ofList, toList_asnText, hname,
        List.append_assoc]
      rfl
    · simp only [String.toList_append, String.toList_ofList, List.append_assoc]
      exact hrest

theorem joined_eq_joined_iff {x y : Port × Port} :
    joined x = joined y ↔ x = y ∨ Absorbs x y ∨ Absorbs y x := by
  constructor
  · intro h
    have hchars := String.toList_inj.2 h
    simp only [toList_joined, List.cons.injEq, true_and] at hchars
    obtain ⟨hasn, hrest⟩ := Decimal.digits_append_cons_inj (by decide) (by decide) hchars
    have hasn := UInt32.toNat_inj.1 hasn
    have hrest := (List.cons.inj hrest).2
    rw [← toList_text, ← toList_text] at hrest
    rcases List.append_eq_append_iff.1 hrest with ⟨rest, hname, hrest⟩ | ⟨rest, hname, hrest⟩
    · exact (absorbs_of_toList_eq hasn.symm hname hrest).imp_right .inl
    · exact (absorbs_of_toList_eq hasn hname hrest).imp Eq.symm .inr
  · rintro (rfl | hxy | hyx)
    · rfl
    · exact joined_eq_of_absorbs hxy
    · exact (joined_eq_of_absorbs hyx).symm

/-- The names that two pairs of ports derive are one text with two readings. -/
def Misread (a b c d : Port) : Prop :=
  Absorbs (inOrder a b) (inOrder c d) ∨ Absorbs (inOrder c d) (inOrder a b)

theorem crossConnectNetworkName_eq_iff :
    crossConnectNetworkName a b = crossConnectNetworkName c d ↔
      SamePair a b c d ∨ Misread a b c d := by
  rw [crossConnectNetworkName_eq_joined, crossConnectNetworkName_eq_joined, joined_eq_joined_iff,
    inOrder_eq_inOrder_iff, Misread]

theorem crossConnectNetworkName_comm (a b : Port) :
    crossConnectNetworkName a b = crossConnectNetworkName b a :=
  crossConnectNetworkName_eq_iff.2 (.inl (.inr ⟨rfl, rfl⟩))

/-! ## Names with one reading -/

/-- No underscore in the name of the router stands before a digit. -/
def Clear (p : Port) : Prop := ∀ d, Decimal.isDigit d = true → ¬['_', d] <:+: p.2.toList

theorem Absorbs.not_clear {x y : Port × Port} (h : Absorbs x y) : ¬Clear y.1 := by
  obtain ⟨-, rest, hname, -⟩ := h
  obtain ⟨d, ds, hdigits⟩ := List.exists_cons_of_ne_nil (Decimal.digits_ne_nil x.2.1.toNat)
  have hchars : y.1.2.toList = x.1.2.toList ++ ['_', d] ++ (ds ++ rest.toList) := by
    simp only [hname, String.toList_append, toList_asnText, hdigits]
    simp
  intro hclear
  have hdigit : Decimal.isDigit d = true := by
    apply Decimal.isDigit_of_mem_digits x.2.1.toNat
    rw [hdigits]
    exact List.mem_cons_self
  exact hclear d hdigit ⟨_, _, hchars.symm⟩

theorem clear_of_not_mem {p : Port} (h : '_' ∉ p.2.toList) : Clear p :=
  fun _ _ hpart ↦ h (hpart.subset List.mem_cons_self)

theorem clear_inOrder (ha : Clear a) (hb : Clear b) : Clear (inOrder a b).1 := by
  rw [inOrder]
  split
  case isTrue => exact ha
  case isFalse => exact hb

theorem not_misread (ha : Clear a) (hb : Clear b) (hc : Clear c) (hd : Clear d) :
    ¬Misread a b c d := by
  rintro (h | h)
  · exact h.not_clear (clear_inOrder hc hd)
  · exact h.not_clear (clear_inOrder ha hb)

end Port

/-! ## Networks with derived names -/

namespace Config

open Port (SamePair Misread Clear)

variable {c : Config} {e : Emulation} {near far : Port} {side : CrossConnect}

/-- No connection declares the name of its network. -/
def NamesNoNetwork (c : Config) : Prop := ∀ y ∈ c.connections, y.2.network = none

theorem connectionNetworkOf_name {y : Port × CrossConnectDecl} (h : y.2.network = none) :
    (connectionNetworkOf y).name = crossConnectNetworkName y.1 y.2.peer := by
  have hname : (connectionNetworkOf y).name = Site.connectionName y.1.1 y.1.2 y.2 := rfl
  rw [hname, Site.connectionName, h]
  rfl

theorem network_of_crossConnect? (h : c.build = .ok e) (hnone : c.NamesNoNetwork)
    (hside : e.crossConnect? near far = some side) :
    side.network = crossConnectNetworkName near far := by
  obtain ⟨x, hx, rfl, rfl⟩ := exists_connection_of_crossConnect? h hside
  exact connectionNetworkOf_name (hnone _ hx)

/-- **Derived names.** Two pairs of ports derive one name exactly if they are the same pair or their
names are misread, and no name is misread where no router has an underscore before a digit in its
name. So without declared names, two recorded connections share their network exactly in these two
cases, and the network is as one of the connections with this name declares it. -/
theorem derived_names_identify (near far near' far' : Port) :
    (crossConnectNetworkName near far = crossConnectNetworkName near' far' ↔
      SamePair near far near' far' ∨ Misread near far near' far') ∧
    (Clear near → Clear far → Clear near' → Clear far' → ¬Misread near far near' far') ∧
    ∀ (c : Config) (e : Emulation), c.build = .ok e → c.NamesNoNetwork →
      ∀ side, e.crossConnect? near far = some side →
        (∃ y ∈ c.connections, e.network? .crossConnect side.network = some (connectionNetworkOf y) ∧
          (SamePair y.1 y.2.peer near far ∨ Misread y.1 y.2.peer near far)) ∧
        ∀ side', e.crossConnect? near' far' = some side' →
          (side.network = side'.network ↔
            SamePair near far near' far' ∨ Misread near far near' far') := by
  refine ⟨Port.crossConnectNetworkName_eq_iff, Port.not_misread, ?_⟩
  intro c e hbuild hnone side hside
  have hname := network_of_crossConnect? hbuild hnone hside
  constructor
  · obtain ⟨n, hn, hfirst⟩ := exists_network_of_crossConnect? hbuild hside
    obtain ⟨y, hy, rfl⟩ := List.mem_map.1 (List.mem_of_find?_eq_some hfirst)
    have hsame : (connectionNetworkOf y).name = side.network := by
      simpa using List.find?_some hfirst
    rw [connectionNetworkOf_name (hnone y hy), hname] at hsame
    exact ⟨y, hy, hn, Port.crossConnectNetworkName_eq_iff.1 hsame⟩
  · intro side' hside'
    rw [hname, network_of_crossConnect? hbuild hnone hside']
    exact Port.crossConnectNetworkName_eq_iff

/-! ### Two lines between two ASes -/

/-- Two ASes with two routers each, and two connections between them. -/
def twoLines (first second first' second' : String) : Config where
  isds := [1]
  ases := [
    { asn := 1
      isds := [{ isd := 1 }]
      networks := [{ name := "net0" }]
      routers := [
        { name := first
          crossConnects := [{
            peerAsn := 2
            peerRouter := first'
            address := .ofOctets 10 3 0 1 29
            mtu := some 1400 }] },
        { name := second
          crossConnects := [{
            peerAsn := 2
            peerRouter := second'
            address := .ofOctets 10 4 0 1 29
            mtu := some 9000 }] }] },
    { asn := 2
      isds := [{ isd := 1 }]
      networks := [{ name := "net0" }]
      routers := [
        { name := first'
          crossConnects := [{
            peerAsn := 1
            peerRouter := first
            address := .ofOctets 10 3 0 2 29
            mtu := some 1400 }] },
        { name := second'
          crossConnects := [{
            peerAsn := 1
            peerRouter := second
            address := .ofOctets 10 4 0 2 29
            mtu := some 9000 }] }] }]

/-- The lines share one network, and the second one gets the packet size of the first. -/
theorem twoLines_misread :
    let c := twoLines "x" "x_2_y" "y_2_z" "z"
    c.validate = .ok () ∧ c.NamesNoNetwork ∧
      crossConnectNetworkName (1, "x") (2, "y_2_z")
        = crossConnectNetworkName (1, "x_2_y") (2, "z") ∧
      ¬SamePair (1, "x") (2, "y_2_z") (1, "x_2_y") (2, "z") ∧
      ∃ e, c.build = .ok e ∧
        e.crossConnectNetworks.entries.map (fun n ↦ (n.1, n.2.mtu)) = [("xc_1_x_2_y_2_z", 1400)] ∧
        (e.crossConnect? (1, "x") (2, "y_2_z")).map (·.network) = some "xc_1_x_2_y_2_z" ∧
        (e.crossConnect? (1, "x_2_y") (2, "z")).map (·.network) = some "xc_1_x_2_y_2_z" := by
  refine ⟨by decide +kernel, by unfold NamesNoNetwork; decide, by decide +kernel, by decide, ?_⟩
  obtain ⟨e, he, hnetworks⟩ : ∃ e, (twoLines "x" "x_2_y" "y_2_z" "z").build = .ok e ∧
      (e.crossConnectNetworks.entries.map (fun n ↦ (n.1, n.2.mtu)),
        (e.crossConnect? (1, "x") (2, "y_2_z")).map (·.network),
        (e.crossConnect? (1, "x_2_y") (2, "z")).map (·.network))
        = ([("xc_1_x_2_y_2_z", 1400)], some "xc_1_x_2_y_2_z", some "xc_1_x_2_y_2_z") :=
    exists_eq_ok_of_map_toOption (by decide +kernel)
  simp only [Prod.mk.injEq] at hnetworks
  exact ⟨e, he, hnetworks⟩

/-- With other names of the routers, each line has its own network and packet size. -/
theorem twoLines_apart :
    let c := twoLines "br1" "br2" "br1" "br2"
    ∃ e side side' n, c.build = .ok e ∧ c.NamesNoNetwork ∧
      e.crossConnect? (1, "br1") (2, "br1") = some side ∧
      e.crossConnect? (2, "br2") (1, "br2") = some side' ∧ side.network ≠ side'.network ∧
      e.network? .crossConnect side'.network = some n ∧ n.mtu = 9000 := by
  obtain ⟨e, he, hrecorded⟩ : ∃ e, (twoLines "br1" "br2" "br1" "br2").build = .ok e ∧
      ((e.crossConnect? (1, "br1") (2, "br1")).isSome,
        (e.crossConnect? (2, "br2") (1, "br2")).isSome) = (true, true) :=
    exists_eq_ok_of_map_toOption (by decide +kernel)
  rw [Prod.mk.injEq] at hrecorded
  obtain ⟨side, hside⟩ := Option.isSome_iff_exists.1 hrecorded.1
  obtain ⟨side', hside'⟩ := Option.isSome_iff_exists.1 hrecorded.2
  have hnone : (twoLines "br1" "br2" "br1" "br2").NamesNoNetwork := by
    unfold NamesNoNetwork
    decide
  have hclear : ∀ y ∈ (twoLines "br1" "br2" "br1" "br2").connections,
      '_' ∉ y.1.2.toList ∧ '_' ∉ y.2.peer.2.toList := by
    decide
  have hmtu : ∀ y ∈ (twoLines "br1" "br2" "br1" "br2").connections,
      SamePair y.1 y.2.peer (2, "br2") (1, "br2") →
        (connectionNetworkOf y).mtu = 9000 := by
    decide
  have hbr1 : '_' ∉ "br1".toList := by decide
  have hbr2 : '_' ∉ "br2".toList := by decide
  obtain ⟨-, hread, hnetworks⟩ := derived_names_identify (2, "br2") (1, "br2") (1, "br1") (2, "br1")
  obtain ⟨⟨y, hy, hn, hport⟩, hshared⟩ := hnetworks _ e he hnone side' hside'
  obtain ⟨-, hread', -⟩ := derived_names_identify y.1 y.2.peer (2, "br2") (1, "br2")
  refine ⟨e, side, side', _, he, hnone, hside, hside', fun hsame ↦ ?_, hn, hmtu y hy ?_⟩
  · rcases (hshared side hside).1 hsame.symm with hpair | hmisread
    · revert hpair
      decide
    · exact hread (Port.clear_of_not_mem hbr2) (Port.clear_of_not_mem hbr2)
        (Port.clear_of_not_mem hbr1) (Port.clear_of_not_mem hbr1) hmisread
  · obtain ⟨hown, hpeer⟩ := hclear y hy
    exact hport.resolve_right (hread' (Port.clear_of_not_mem hown) (Port.clear_of_not_mem hpeer)
      (Port.clear_of_not_mem hbr2) (Port.clear_of_not_mem hbr2))

end Config

end Interdomain
