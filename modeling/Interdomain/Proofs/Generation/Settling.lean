import Interdomain.Configuration
import Interdomain.Proofs.Allocation
import Interdomain.Proofs.Systems.Settings

/-!
# ASes settled in order

The configuration phase goes through the ASes one by one. Each of them draws equally much from the
source, and it draws last, when nothing can go wrong with it any more. So the keys of an AS are a
function of the source and of its place in the order, and a phase that stops has settled the ASes
before its end and touched no other.
-/

namespace Interdomain

/-! ## Draws -/

namespace MasterKeys

variable {σ : Type} [WordSource σ]

/-- The number of words that the keys of some ASes take. -/
def words (count : Nat) : Nat := count * (keyLength + keyLength)

theorem skip_words_succ (count : Nat) (source : σ) :
    WordSource.skip (words (count + 1)) source
      = (generate (WordSource.skip (words count) source)).2 := by
  rw [words, Nat.add_mul, Nat.one_mul, ← words, WordSource.skip_add, WordSource.skip_add,
    generate_snd]

/-- The keys of an AS where the ASes draw in some order. -/
def dealt (source : σ) (order : List Asn) (n : Asn) : MasterKeys :=
  (generate (WordSource.skip (words (order.idxOf n)) source)).1

variable {source : σ} {order : List Asn} {n x : Asn}

/-- Who draws later takes nothing from those before. -/
theorem dealt_concat_of_mem (h : n ∈ order) :
    dealt source (order ++ [x]) n = dealt source order n := by
  rw [dealt, dealt, List.idxOf_append_of_mem h]

theorem dealt_concat_self (h : x ∉ order) :
    dealt source (order ++ [x]) x
      = (generate (WordSource.skip (words order.length) source)).1 := by
  rw [dealt, List.idxOf_append_of_notMem h, List.idxOf_cons_self, Nat.add_zero]

end MasterKeys

/-! ## What is settled -/

/-- An AS without what configuration settles. -/
def AutonomousSystem.unsettled (a : AutonomousSystem) : AutonomousSystem :=
  { a with mtu := none, keys := none }

namespace Emulation

/-- The network without what configuration settles. -/
def unsettled (e : Emulation) : Emulation :=
  { e with ases := e.ases.map AutonomousSystem.unsettled }

theorem unsettled_setAs {e : Emulation} {n : Asn} {a b : AutonomousSystem} (h : e.as? n = some a)
    (hb : b.unsettled = a.unsettled) : (e.setAs n b).unsettled = e.unsettled := by
  rw [unsettled, unsettled, setAs, SortedMap.map_modify _ h hb]

theorem as?_unsettled (e : Emulation) (n : Asn) :
    e.unsettled.as? n = (e.as? n).map AutonomousSystem.unsettled :=
  SortedMap.get?_map ..

theorem routerAt_unsettled (e : Emulation) : e.unsettled.routerAt = e.routerAt := by
  funext p
  rw [routerAt, routerAt, router?_eq, router?_eq, as?_unsettled, Option.bind_map]
  rfl

/-! ## One AS after another -/

variable {σ : Type} [WordSource σ] {e e' : Emulation} {source source' source'' : σ}
  {before order : List Asn} {x : Asn} {a a' : AutonomousSystem}

theorem pairwise_numbers (e : Emulation) : e.ases.keys.Pairwise (· < ·) :=
  e.ases.pairwise_keys.imp fun hlt ↦ Std.compare_eq_lt.1 hlt

/-- The ASes of some numbers have been settled in their order, and nothing else has changed. -/
structure Settled (e : Emulation) (order : List Asn) (source source' : σ) (e' : Emulation) :
    Prop where
  settled : ∀ n ∈ order, ∃ a mtu, e.as? n = some a ∧ a.mtu = none ∧ a.leastMtu? = some mtu ∧
    e'.as? n = some { a with mtu := some mtu, keys := some (MasterKeys.dealt source order n) }
  others : ∀ n ∉ order, e'.as? n = e.as? n
  unsettled : e'.unsettled = e.unsettled
  /-- The source has moved by what the keys took. -/
  source : source' = WordSource.skip (MasterKeys.words order.length) source

theorem Settled.nil (source : σ) (e : Emulation) : e.Settled [] source source e :=
  ⟨fun _ hn ↦ absurd hn List.not_mem_nil, fun _ _ ↦ rfl, rfl, rfl⟩

/-- **One AS.** One more AS is settled, with the keys that come next. -/
theorem Settled.concat (h : e.Settled order source source' e') (hx : x ∉ order)
    (ha : e.as? x = some a)
    (hconfigure : AutonomousSystem.configure.after (a, source') = .ok (a', source'')) :
    e.Settled (order ++ [x]) source source'' (e'.setAs x a') := by
  obtain ⟨hnone, mtu, hmtu, rfl, rfl⟩ := AutonomousSystem.configure_eq_ok_iff.1 hconfigure
  have hbefore : e'.as? x = some a := (h.others x hx).trans ha
  refine ⟨fun n hn ↦ ?_, fun n hn ↦ ?_, ?_, ?_⟩
  · rw [as?_setAs hbefore]
    rcases List.mem_append.1 hn with hn | hn
    · have hne : n ≠ x := fun heq ↦ hx (heq ▸ hn)
      rw [Function.update_of_ne hne, MasterKeys.dealt_concat_of_mem hn]
      exact h.settled n hn
    · obtain rfl := List.mem_singleton.1 hn
      rw [Function.update_self, MasterKeys.dealt_concat_self hx, ← h.source]
      exact ⟨a, mtu, ha, hnone, hmtu, rfl⟩
  · rw [List.mem_append, not_or, List.mem_singleton] at hn
    rw [as?_setAs hbefore, Function.update_of_ne hn.2]
    exact h.others n hn.1
  · rw [← h.unsettled]
    exact unsettled_setAs hbefore rfl
  · rw [List.length_append, List.length_singleton, MasterKeys.skip_words_succ, ← h.source]

/-- **All ASes.** The phase settles one AS after another, until it is done or comes to an AS that
refuses to be configured with the source as it is then. -/
theorem configureAses_cases (rest : List Asn) (h : e.Settled before source source' e')
    (hnodup : (before ++ rest).Nodup) (hpresent : ∀ n ∈ rest, ∃ a, e.as? n = some a) :
    let phase := e'.configureAses source' rest
    (phase.result = .ok () ∧
        e.Settled (before ++ rest) source phase.source phase.emulation) ∨
      ∃ done x after a f, rest = done ++ x :: after ∧ phase.result = .error f ∧
        e.Settled (before ++ done) source phase.source phase.emulation ∧
        e.as? x = some a ∧ AutonomousSystem.configure.after (a, phase.source) = .error f := by
  induction rest generalizing before source' e' with
  | nil =>
    rw [List.append_nil]
    exact .inl ⟨rfl, h⟩
  | cons x rest ih =>
    obtain ⟨a, ha⟩ := hpresent x List.mem_cons_self
    have hx : x ∉ before := fun hmem ↦
      (List.nodup_append'.1 hnodup).2.2 hmem List.mem_cons_self
    have hfound : e'.as? x = some a := (h.others x hx).trans ha
    cases hconfigure : AutonomousSystem.configure.after (a, source') with
    | error f =>
      -- The AS that refuses is put back as it was.
      have hon : AutonomousSystem.configure.on (a, source') = (.error f, a, source') :=
        AutonomousSystem.atomic_configure.on_eq (Change.after_eq_error_iff.1 hconfigure)
      have hphase : e'.configureAses source' (x :: rest) = ⟨e', source', .error f⟩ := by
        simp only [configureAses, hfound, hon, setAs_eq_self hfound]
      rw [hphase]
      exact .inr ⟨[], x, rest, a, f, rfl, rfl, (List.append_nil before).symm ▸ h, ha, hconfigure⟩
    | ok r =>
      have hon : AutonomousSystem.configure.on (a, source') = (.ok (), r.1, r.2) :=
        Change.outcome_eq_ok_iff.1 (Change.after_eq_ok_iff.1 hconfigure)
      have hphase : e'.configureAses source' (x :: rest)
          = (e'.setAs x r.1).configureAses r.2 rest := by
        simp only [configureAses, hfound, hon]
      have hsplit : before ++ x :: rest = before ++ [x] ++ rest := by
        rw [List.append_assoc, List.singleton_append]
      rw [hphase, hsplit]
      rcases ih (h.concat hx ha hconfigure) (hsplit ▸ hnodup)
        fun n hn ↦ hpresent n (List.mem_cons_of_mem x hn) with hdone | hstopped
      · exact .inl hdone
      · obtain ⟨done, y, after, b, f, rfl, hresult, hsettled, hb, hrefused⟩ := hstopped
        refine .inr ⟨x :: done, y, after, b, f, rfl, hresult, ?_, hb, hrefused⟩
        rwa [List.append_assoc, List.singleton_append] at hsettled

/-- **The whole phase.** It stops at an AS, with those of smaller numbers settled, or it settles all
of them and ends as the resolution of the links does. -/
theorem configure_cases (e : Emulation) (links : LinkRegistry) (options : ResolverOptions)
    (source : σ) :
    let out := e.configure links options source
    (∃ done x after a f, e.ases.keys = done ++ x :: after ∧ out.result = .error f ∧
        e.Settled done source out.source out.emulation ∧
        e.as? x = some a ∧ AutonomousSystem.configure.after (a, out.source) = .error f) ∨
      ∃ settled, e.Settled e.ases.keys source out.source settled ∧
        (Resolution.resolve options links).on settled = (out.result, out.emulation) := by
  have hpresent : ∀ n ∈ e.ases.keys, ∃ a, e.as? n = some a := fun n hn ↦
    (e.ases.mem_keys_iff).1 hn
  have hcases := configureAses_cases e.ases.keys (.nil source e) e.ases.nodup_keys hpresent
  rw [configure]
  rcases hcases with ⟨hresult, hsettled⟩ | ⟨done, x, after, a, f, hsplit, hresult, hstopped⟩
  · simp only [hresult]
    exact .inr ⟨_, hsettled, rfl⟩
  · simp only [hresult]
    exact .inl ⟨done, x, after, a, f, hsplit, rfl, hstopped⟩

end Emulation

end Interdomain
