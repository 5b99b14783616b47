import Interdomain.Proofs.Resolution.Capacity

/-!
# All or nothing

Resolution changes the network only in its commits, and it gets to the commits only with a plan that
has passed the capacity check. The check counts what the commits will take, so none of their calls
can fail, and a resolution that fails has failed before the first of them.
-/

namespace Interdomain

namespace Resolution

variable {options : ResolverOptions} {links : LinkRegistry} {e : Emulation} {p : List PlannedLink}

theorem plan_eq_ok_iff :
    plan e links = .ok p ↔
      links.declarations.mapM (planLink e) = .ok p ∧ Within e (demands p) := by
  rw [plan, bind_eq_ok_iff]
  constructor
  · rintro ⟨ls, hls, h⟩
    obtain ⟨_, hcheck, h⟩ := bind_eq_ok_iff.1 h
    obtain rfl : ls = p := Except.ok.inj h
    exact ⟨hls, checkCapacity_eq_ok_iff.1 hcheck⟩
  · rintro ⟨hls, hwithin⟩
    exact ⟨p, hls, bind_eq_ok_iff.2 ⟨(), checkCapacity_eq_ok_iff.2 hwithin, rfl⟩⟩

theorem resolve_of_plan_eq_ok (options : ResolverOptions) (h : plan e links = .ok p) :
    (resolve options links).on e = ((repetitions p).mapM (commit options)).on e := by
  rw [resolve, Change.on_bind, Change.on_look, h]

theorem resolve_of_plan_eq_error (options : ResolverOptions) {f : Fault}
    (h : plan e links = .error f) : (resolve options links).on e = (.error f, e) := by
  rw [resolve, Change.on_bind, Change.on_look, h]

/-- Once there is a plan, the commits of its first repetitions pass and leave enough for the others.
-/
theorem exists_mapM_commit_of_plan (options : ResolverOptions) (h : plan e links = .ok p)
    {before after : List PlannedLink} (hsplit : repetitions p = before ++ after) :
    ∃ rs e', (before.mapM (commit options)).on e = (.ok rs, e') ∧
      Affords e'.idCounters (keys (·.ia.asn) after) ∧
      Affords e'.portCounters (keys PlannedEnd.port after) := by
  have hwithin := (plan_eq_ok_iff.1 h).2
  have hids := hwithin.affords_ids
  have hports := hwithin.affords_ports
  rw [hsplit, keys, List.flatMap_append] at hids hports
  exact exists_mapM_commit hids hports

theorem exists_resolve_of_plan (options : ResolverOptions) (h : plan e links = .ok p) :
    ∃ rs e', (resolve options links).on e = (.ok rs, e') := by
  obtain ⟨rs, e', hrun, -⟩ := exists_mapM_commit_of_plan options h (List.append_nil _).symm
  exact ⟨rs, e', (resolve_of_plan_eq_ok options h).trans hrun⟩

theorem resolve_ok_or_error (options : ResolverOptions) (links : LinkRegistry) (e : Emulation) :
    (∃ rs e', (resolve options links).on e = (.ok rs, e')) ∨
      ∃ f, (resolve options links).on e = (.error f, e) := by
  cases hplan : plan e links with
  | error f => exact .inr ⟨f, resolve_of_plan_eq_error options hplan⟩
  | ok p => exact .inl (exists_resolve_of_plan options hplan)

/-- Where all links can be planned, the resolution succeeds if the network has left what their plan
needs, and otherwise it fails at an excess. -/
theorem resolve_cases (options : ResolverOptions)
    (h : links.declarations.mapM (planLink e) = .ok p) :
    (Within e (demands p) ∧ ∃ rs e', (resolve options links).on e = (.ok rs, e')) ∨
      ∃ f, Exceeds e (demands p) f ∧ (resolve options links).on e = (.error f, e) := by
  obtain ⟨-, hwithin⟩ | ⟨f, hcheck, hexceeds⟩ := checkCapacity_cases e p
  · exact .inl ⟨hwithin, exists_resolve_of_plan options (plan_eq_ok_iff.2 ⟨h, hwithin⟩)⟩
  · have hplan : plan e links = (checkCapacity e p >>= fun _ ↦ .ok p) := by
      rw [plan, h]
      rfl
    rw [hcheck] at hplan
    exact .inr ⟨f, hexceeds, resolve_of_plan_eq_error options hplan⟩

theorem plan_of_resolve {rs : List ResolvedLink} {e' : Emulation}
    (h : (resolve options links).on e = (.ok rs, e')) :
    ∃ p, plan e links = .ok p ∧ Committed options (repetitions p) e rs e' := by
  cases hplan : plan e links with
  | error f =>
    rw [resolve_of_plan_eq_error options hplan] at h
    exact absurd (Prod.ext_iff.1 h).1 (by simp)
  | ok p =>
    rw [resolve_of_plan_eq_ok options hplan] at h
    exact ⟨p, rfl, committed_of_mapM h⟩

/-- **Resolution is all or nothing.** A resolution that fails leaves the network as it was. Once
there is a plan, the resolution succeeds: at every repetition of every link the commits before it
have passed, and all six of its calls are granted. -/
theorem resolve_all_or_nothing (options : ResolverOptions) (links : LinkRegistry) (e : Emulation) :
    (∀ f e', (resolve options links).on e = (.error f, e') → e' = e) ∧
      ∀ p, plan e links = .ok p →
        (∃ rs e', (resolve options links).on e = (.ok rs, e')) ∧
          ∀ before l after, repetitions p = before ++ l :: after →
            ∃ rs e₁ r e₂, (before.mapM (commit options)).on e = (.ok rs, e₁) ∧
              Granted options l e₁ r e₂ := by
  constructor
  · intro f e' h
    -- With a plan the resolution would have succeeded, so it has failed while it only looked.
    cases hplan : plan e links with
    | error f' =>
      rw [resolve_of_plan_eq_error options hplan] at h
      exact (Prod.ext_iff.1 h).2.symm
    | ok p =>
      obtain ⟨rs, e'', hok⟩ := exists_resolve_of_plan options hplan
      rw [hok] at h
      exact absurd (Prod.ext_iff.1 h).1 (by simp)
  · intro p hplan
    refine ⟨exists_resolve_of_plan options hplan, fun before l after hsplit ↦ ?_⟩
    obtain ⟨rs, e₁, hrun, hids, hports⟩ := exists_mapM_commit_of_plan options hplan hsplit
    obtain ⟨r, e₂, hcommit, -⟩ := exists_commit hids hports
    exact ⟨rs, e₁, r, e₂, hrun, (commit_eq_ok_iff.1 hcommit).2⟩

/-! ### Two neighbours -/

/-- An AS with one router, connected with the router of another AS, and with two ids left. -/
def neighbour (asn peer : Asn) (octet : UInt8) : AutonomousSystem where
  asn
  routers := Roster.empty.insert "br1" {
    loopback := .ofOctets 192 168 0 octet
    crossConnects := Roster.empty.insert (peer, "br1")
      { address := .ofOctets 10 3 0 octet 29, network := "xc" } }
  interfaceIds := ⟨65534⟩

/-- Two ASes that are connected with each other. -/
def neighbours : Emulation where
  ases := (SortedMap.empty.insert 110 (neighbour 110 120 1)).insert 120 (neighbour 120 110 2)
  crossConnectNetworks := Roster.empty.insert "xc"
    { name := "xc", scope := .crossConnect, subnet := .ofOctets 10 3 0 0 29,
      mtu := 1280 }

/-- Parallel peering links between them. -/
def peering (count : UInt32) : LinkRegistry where
  crossConnects := [(⟨⟨1, 110⟩, ⟨1, 120⟩, none, none, .peer⟩, count)]

theorem exists_resolve_peering :
    ∃ rs e', (resolve {} (peering 2)).on neighbours = (.ok rs, e') ∧
      (endsOf rs).map (·.id) = [65534, 65534, 65535, 65535] :=
  ⟨_, _, rfl, rfl⟩

/-- Three links fail and leave the two ASes as they were; two links have a plan and succeed. -/
theorem resolve_peering :
    (∃ e', (resolve {} (peering 3)).on neighbours = (.error (.interfaceIdsExhausted 110), e') ∧
      e' = neighbours) ∧
      ∃ p, plan neighbours (peering 2) = .ok p ∧
        ∃ rs e', (resolve {} (peering 2)).on neighbours = (.ok rs, e') :=
  ⟨⟨_, rfl, (resolve_all_or_nothing {} (peering 3) neighbours).1 _ _ rfl⟩,
    _, rfl, ((resolve_all_or_nothing {} (peering 2) neighbours).2 _ rfl).1⟩

end Resolution

end Interdomain
