import Interdomain.Proofs.Resolution.Atomicity
import Interdomain.Proofs.Resolution.Planning

/-!
# Why resolution fails

A resolution fails because a declared link cannot be planned or because the plan needs too much.
`Unplannable` lists the causes of the first kind as facts about the network: an AS or a named router
is missing, no routers are found, the two routers record different networks, or the network that one
of them records is missing.
-/

namespace Interdomain

namespace Resolution

def IsEnd (d : LinkKey × UInt32) (ia : IsdAsn) : Prop := ia = d.1.ends.a ∨ ia = d.1.ends.b

/-- Why a declared link cannot be planned. -/
inductive Unplannable (e : Emulation) (d : LinkKey × UInt32) : Fault → Prop
  | unknownAs {ia : IsdAsn} (isEnd : IsEnd d ia) (missing : e.as? ia.asn = none) :
      Unplannable e d (.unknownAs ia.asn)
  | unknownRouter {ia : IsdAsn} {name : String} (isEnd : IsEnd d ia)
      (missing : e.router? ia.asn name = none) : Unplannable e d (.unknownRouter ia name)
  | unresolved (reason : UnresolvedReason) :
      Unplannable e d (.unresolvedLink d.1.ends.a d.1.ends.b reason)
  | asymmetric {near far : Port} {a b : CrossConnect} (near_asn : near.1 = d.1.ends.a.asn)
      (far_asn : far.1 = d.1.ends.b.asn) (near_records : e.crossConnect? near far = some a)
      (far_records : e.crossConnect? far near = some b) (differ : a.network ≠ b.network) :
      Unplannable e d (.asymmetricLink d.1.ends.a d.1.ends.b a.network b.network)
  | unknownNetwork {near far : Port} {side : CrossConnect}
      (recorded : e.crossConnect? near far = some side)
      (missing : e.network? .crossConnect side.network = none) :
      Unplannable e d (.unknownNetwork side.network)
  | exchangeMembership {ia : IsdAsn} (id : ExchangeId) (isEnd : IsEnd d ia) :
      Unplannable e d (.exchangeMembership ia id)

variable {e : Emulation} {d : LinkKey × UInt32} {ia : IsdAsn}

/-! ## ASes and named routers -/

theorem checkAs_yields (hend : IsEnd d ia) :
    Yields (checkAs e ia) (fun _ ↦ True) (Unplannable e d) := by
  rw [checkAs]
  split
  case isTrue => trivial
  case isFalse hmissing => exact .unknownAs hend (Option.not_isSome_iff_eq_none.1 hmissing)

theorem namedRouter_yields (hend : IsEnd d ia) (name : String) :
    Yields (namedRouter e ia name) (fun _ ↦ True) (Unplannable e d) := by
  rw [namedRouter]
  split
  case h_1 => trivial
  case h_2 hmissing => exact .unknownRouter hend hmissing

theorem checkNamed_yields (hend : IsEnd d ia) (router : Option String) :
    Yields (checkNamed e ia router) (fun _ ↦ True) (Unplannable e d) := by
  cases router with
  | none => trivial
  | some name => exact (namedRouter_yields hend name).bind fun _ _ ↦ trivial

theorem candidates_yields (hend : IsEnd d ia) (router : Option String) :
    Yields (candidates e ia router) (fun _ ↦ True) (Unplannable e d) := by
  cases router with
  | none => trivial
  | some name => exact (namedRouter_yields hend name).bind fun _ _ ↦ trivial

/-! ## Cross-connects -/

theorem crossConnectRouters_yields :
    Yields (crossConnectRouters e d.1.ends) (crossConnectRouters e d.1.ends = .ok ·)
      (Unplannable e d) := by
  refine .intro (fun x hx ↦ hx) fun f hf ↦ ?_
  suffices h : Yields (crossConnectRouters e d.1.ends) (fun _ ↦ True) (Unplannable e d) from
    h.cause_of_error hf
  rw [crossConnectRouters]
  split
  case h_1 a b _ _ =>
    refine (namedRouter_yields (.inl rfl) a).bind fun _ _ ↦ ?_
    exact (namedRouter_yields (.inr rfl) b).bind fun _ _ ↦ trivial
  case h_2 =>
    refine (checkNamed_yields (.inl rfl) _).bind fun _ _ ↦ ?_
    refine (checkNamed_yields (.inr rfl) _).bind fun _ _ ↦ ?_
    split
    case h_1 => trivial
    case h_2 => exact .unresolved .noRouter

theorem connection_yields (own : String × Router) (peer : String) :
    Yields (connection d.1.ends own peer ia) (own.2.crossConnects.get? (ia.asn, peer) = some ·)
      (Unplannable e d) := by
  rw [connection]
  split
  case h_1 hside => exact hside
  case h_2 => exact .unresolved _

theorem planCrossConnect_yields :
    Yields (planCrossConnect e d.1.ends d.2) (fun _ ↦ True) (Unplannable e d) := by
  rw [planCrossConnect]
  refine (checkAs_yields (.inl rfl)).bind fun _ _ ↦ ?_
  refine (checkAs_yields (.inr rfl)).bind fun _ _ ↦ ?_
  refine crossConnectRouters_yields.bind fun ⟨a, b⟩ hrouters ↦ ?_
  refine (connection_yields a b.1).bind fun aSide haSide ↦ ?_
  refine (connection_yields b a.1).bind fun bSide hbSide ↦ ?_
  -- The two routers are found, so what they record can be read off the network.
  obtain ⟨⟨ha, -⟩, hb, -⟩ := crossConnectRouters_eq_ok hrouters
  rw [← Emulation.crossConnect?_of_router? ha] at haSide
  rw [← Emulation.crossConnect?_of_router? hb] at hbSide
  split
  case isTrue hdiffer => exact .asymmetric rfl rfl haSide hbSide hdiffer
  case isFalse =>
    split
    case h_1 hmissing => exact .unknownNetwork haSide hmissing
    case h_2 => trivial

/-! ## Exchanges -/

theorem exchangeEnd_yields (hend : IsEnd d ia) (router : Option String) (id : ExchangeId) :
    Yields (exchangeEnd e ia router id) (fun _ ↦ True) (Unplannable e d) := by
  rw [exchangeEnd]
  split
  case h_1 => exact .exchangeMembership id hend
  case h_2 =>
    refine (candidates_yields hend router).bind fun _ _ ↦ ?_
    split
    case h_1 => trivial
    case h_2 => exact .exchangeMembership id hend

theorem planExchangeLink_yields (id : ExchangeId) :
    Yields (planExchangeLink e id d.1.ends d.2) (fun _ ↦ True) (Unplannable e d) := by
  rw [planExchangeLink]
  refine (checkAs_yields (.inl rfl)).bind fun _ _ ↦ ?_
  refine (checkAs_yields (.inr rfl)).bind fun _ _ ↦ ?_
  refine (exchangeEnd_yields (.inl rfl) _ id).bind fun _ _ ↦ ?_
  refine (exchangeEnd_yields (.inr rfl) _ id).bind fun _ _ ↦ ?_
  split
  case h_1 => exact .exchangeMembership id (.inl rfl)
  case h_2 => trivial

/-! ## The causes -/

theorem planLink_yields (e : Emulation) (d : LinkKey × UInt32) :
    Yields (planLink e d) (planLink e d = .ok ·) (Unplannable e d) := by
  refine .intro (fun l hl ↦ hl) fun f hf ↦ ?_
  rw [planLink] at hf
  split at hf
  case h_1 => exact planCrossConnect_yields.cause_of_error hf
  case h_2 id _ => exact (planExchangeLink_yields id).cause_of_error hf

/-- **Faults of resolution.** A resolution that fails has come to a declared link that cannot be
planned, or it has planned all of them and there is too little for the plan. -/
theorem cause_of_resolve_eq_error {options : ResolverOptions} {links : LinkRegistry}
    {e' : Emulation} {f : Fault} (h : (resolve options links).on e = (.error f, e')) :
    (∃ d ∈ links.declarations, Unplannable e d f) ∨
      ∃ p, List.Forall₂ (planLink e · = .ok ·) links.declarations p ∧ Exceeds e (demands p) f := by
  cases hplan : links.declarations.mapM (planLink e) with
  | ok p =>
    right
    obtain ⟨-, rs, e'', hok⟩ | ⟨f', hexceeds, herror⟩ := resolve_cases options hplan
    · rw [hok] at h
      exact absurd (Prod.ext_iff.1 h).1 (by simp)
    · rw [herror] at h
      obtain rfl := Except.error.inj (Prod.ext_iff.1 h).1
      exact ⟨p, mapM_eq_ok_iff.1 hplan, hexceeds⟩
  | error f' =>
    left
    have hfail : plan e links = .error f' := by
      rw [plan, hplan]
      rfl
    rw [resolve_of_plan_eq_error options hfail] at h
    obtain rfl := Except.error.inj (Prod.ext_iff.1 h).1
    have hyields : Yields (links.declarations.mapM (planLink e))
        (List.Forall₂ (planLink e · = .ok ·) links.declarations)
        fun f ↦ ∃ d ∈ links.declarations, Unplannable e d f :=
      .mapM fun d hd ↦ (planLink_yields e d).imp_cause fun f hf ↦ ⟨d, hd, hf⟩
    exact hyields.cause_of_error hplan

end Resolution

end Interdomain
