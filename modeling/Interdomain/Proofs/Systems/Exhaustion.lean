import Interdomain.Proofs.Allocation
import Interdomain.Proofs.Systems.Operations

/-!
# Exhaustion

Who hands out numbers has a counter: a call for a number takes the next one or is refused, and no
other call moves the counter (`Serves`). From this alone it follows for whole histories that the
count of free numbers is kept like a promise (`Dispenses`): so many calls for a number succeed, in
whatever company, with the last numbers in order, and from then on all of them fail and change
nothing. An AS has one such counter and a router has one. The network has those of all its ASes and
routers, and one that is missing does as an exhausted one does.

A counter is kept in 32 bits, and its number is narrowed to 16 bits on the way out. A counter that
started below 65536 never passes it, so in 32 bits nothing is lost (`Counter.Fits`).
-/

namespace Interdomain

/-! ## Counters -/

namespace Counter

/-- The counter whose numbers are all handed out. -/
def exhausted : Counter := ⟨last + 1⟩

/-- After some calls a counter stands behind the numbers that it could give for them, and there is
one for the next call exactly if fewer were asked for than were free. -/
theorem take?_add_min (c : Counter) (m : Nat) :
    (⟨c.next + min c.free m⟩ : Counter).take? =
      if m < c.free then some (c.next + m, ⟨c.next + m + 1⟩) else none := by
  by_cases h : m < c.free
  · rw [if_pos h, Nat.min_eq_right (Nat.le_of_lt h), take?, if_pos]
    simp only [free] at h
    dsimp only
    omega
  · rw [if_neg h, Nat.min_eq_left (Nat.le_of_not_lt h), take?, if_neg]
    simp only [free] at h ⊢
    omega

/-! ### In 32 bits -/

def word (c : Counter) : UInt32 := UInt32.ofNat c.next

/-- Hand out the number in a word. It is narrowed to 16 bits, and there is none where it does not
fit. -/
def takeWord? (w : UInt32) : Option (UInt16 × UInt32) :=
  if w ≤ 65535 then some (w.toUInt16, w + 1) else none

/-- How many numbers there are from a word on, by a subtraction that stops at zero. -/
def freeWord (w : UInt32) : UInt32 := if w ≤ 65536 then 65536 - w else 0

/-- A counter fits if it has not passed the last number by more than one. Then its word counts, and
hands out numbers, as it does itself, and does not wrap. -/
structure Fits (c : Counter) : Prop where
  bounded : c.next ≤ 65536
  word : c.word.toNat = c.next
  free : (freeWord c.word).toNat = c.free
  take : (takeWord? c.word).map (fun r ↦ (r.1.toNat, r.2.toNat))
    = c.take?.map fun r ↦ (r.1, r.2.next)

variable {c : Counter}

theorem toNat_word (h : c.next ≤ 65536) : c.word.toNat = c.next :=
  UInt32.toNat_ofNat_of_lt' (Nat.lt_of_le_of_lt h (by decide))

theorem toNat_freeWord (h : c.next ≤ 65536) : (freeWord c.word).toNat = c.free := by
  have hle : c.word ≤ 65536 := by
    rw [UInt32.le_iff_toNat_le, toNat_word h]
    exact h
  rw [freeWord, if_pos hle, UInt32.toNat_sub_of_le _ _ hle, toNat_word h]
  rfl

theorem map_takeWord? (h : c.next ≤ 65536) :
    (takeWord? c.word).map (fun r ↦ (r.1.toNat, r.2.toNat))
      = c.take?.map fun r ↦ (r.1, r.2.next) := by
  have hiff : c.word ≤ 65535 ↔ c.next ≤ last := by
    rw [UInt32.le_iff_toNat_le, toNat_word h]
    rfl
  by_cases hleft : c.next ≤ last
  · rw [takeWord?, if_pos (hiff.2 hleft), take?, if_pos hleft, Option.map_some, Option.map_some,
      UInt32.toNat_toUInt16, UInt32.toNat_add, toNat_word h]
    have hnarrow : c.next % 2 ^ 16 = c.next := Nat.mod_eq_of_lt (Nat.lt_succ_of_le hleft)
    have hwide : (c.next + 1) % 2 ^ 32 = c.next + 1 :=
      Nat.mod_eq_of_lt (Nat.lt_of_le_of_lt (Nat.succ_le_succ h) (by decide))
    exact congrArg some (Prod.ext hnarrow hwide)
  · rw [takeWord?, if_neg (mt hiff.1 hleft), take?, if_neg hleft]
    rfl

theorem fits_of_le (h : c.next ≤ 65536) : c.Fits :=
  ⟨h, toNat_word h, toNat_freeWord h, map_takeWord? h⟩

end Counter

/-! ## Calls for numbers -/

section Calls

variable {κ σ ε : Type} {call : κ → Change σ ε (Option Nat)} {asks : κ → Bool}
  {counter : σ → Counter}

theorem take_drop_range (bound n k : Nat) :
    ((List.range bound).drop n).take k = List.range' n (min (bound - n) k) := by
  rw [List.range_eq_range', List.drop_range', Nat.zero_add, Nat.mul_one]
  rcases Nat.le_total (bound - n) k with h | h
  · rw [List.take_range'_of_length_le h, Nat.min_eq_left h]
  · rw [List.take_range'_of_length_ge h, Nat.min_eq_right h]

/-- A counter serves the calls that ask for a number, and no other call moves it. A call that is
refused leaves everything as it was. -/
structure Serves (call : κ → Change σ ε (Option Nat)) (asks : κ → Bool)
    (counter : σ → Counter) : Prop where
  atomic : ∀ k, (call k).Atomic
  granted : ∀ {s k n c}, asks k = true → (counter s).take? = some (n, c) →
    ∃ s', (call k).outcome s = .ok (some n, s') ∧ counter s' = c
  refused : ∀ {s k}, asks k = true → (counter s).take? = none →
    ∃ f, (call k).outcome s = .error f
  other : ∀ {s k r s'}, asks k = false → (call k).outcome s = .ok (r, s') →
    counter s' = counter s

/-- From a state on, the numbers that are free are handed out to the calls that ask for one, in
order and up to the last, and then there is none. -/
structure Dispenses (call : κ → Change σ ε (Option Nat)) (asks : κ → Bool)
    (counter : σ → Counter) (s : σ) : Prop where
  /-- A call for a number gets one if fewer were asked for before it than are free. -/
  succeeds : ∀ ks k, asks k = true → ks.countP asks < (counter s).free →
    ∃ s', (call k).outcome (History.record call s ks).state
      = .ok (some (65536 - (counter s).free + ks.countP asks), s')
  /-- Once as many were asked for as are free, a call for a number fails and changes nothing. -/
  fails : ∀ ks k, asks k = true → (counter s).free ≤ ks.countP asks →
    (∃ f, (call k).outcome (History.record call s ks).state = .error f) ∧
      (History.record call s (ks ++ [k])).state = (History.record call s ks).state
  /-- The numbers that are handed out are the last ones, as far as they were asked for. -/
  numbers : ∀ ks, ((History.record call s ks).granted.filter (asks ·.1)).map (·.2)
    = (((List.range 65536).drop (65536 - (counter s).free)).take (ks.countP asks)).map some
  /-- Each call for a number takes one from what is free, while there is one. -/
  left : ∀ ks, (counter (History.record call s ks).state).free
    = (counter s).free - ks.countP asks
  /-- The counter does not run on past the last number. -/
  bounded : ∀ ks, (counter (History.record call s ks).state).next ≤ max (counter s).next 65536

namespace Serves

open History (record)

/-- What is known after some calls: the counter has given its next numbers to as many of them as it
could. -/
def Served (asks : κ → Bool) (counter : σ → Counter) (c : Counter) (ks : List κ)
    (h : History κ σ ε (Option Nat)) : Prop :=
  (h.granted.filter (asks ·.1)).map (·.2) =
      (List.range' c.next (min c.free (ks.countP asks))).map some ∧
    counter h.state = ⟨c.next + min c.free (ks.countP asks)⟩

variable {c : Counter} {ks : List κ} {h : History κ σ ε (Option Nat)} {k : κ}

theorem call_of_served (hserves : Serves call asks counter) (hh : Served asks counter c ks h)
    (hk : asks k = true) (hleft : ks.countP asks < c.free) :
    ∃ s', (call k).outcome h.state = .ok (some (c.next + ks.countP asks), s') ∧
      counter s' = ⟨c.next + ks.countP asks + 1⟩ :=
  hserves.granted hk (by rw [hh.2, Counter.take?_add_min, if_pos hleft])

theorem exists_error_of_served (hserves : Serves call asks counter)
    (hh : Served asks counter c ks h) (hk : asks k = true) (hleft : c.free ≤ ks.countP asks) :
    ∃ f, (call k).outcome h.state = .error f :=
  hserves.refused hk (by rw [hh.2, Counter.take?_add_min, if_neg (Nat.not_lt.2 hleft)])

theorem served_of_ok (hserves : Serves call asks counter) (hh : Served asks counter c ks h)
    {r : Option Nat} {s' : σ} (hcall : (call k).outcome h.state = .ok (r, s')) :
    Served asks counter c (ks ++ [k]) (h.extend call k) := by
  rw [Served, History.granted_extend_of_eq_ok hcall, History.extend_of_eq_ok hcall,
    List.filter_append, List.map_append, List.countP_append, hh.1]
  cases hk : asks k with
  | false =>
    rw [List.countP_cons_of_neg (by simp [hk]), List.filter_cons_of_neg (by simp [hk])]
    exact ⟨List.append_nil _, (hserves.other hk hcall).trans hh.2⟩
  | true =>
    rw [List.countP_cons_of_pos hk, List.countP_nil, Nat.zero_add,
      List.filter_cons_of_pos (by simp [hk])]
    rcases Nat.lt_or_ge (ks.countP asks) c.free with hleft | hleft
    · obtain ⟨s'', hcall', hcounter⟩ := hserves.call_of_served hh hk hleft
      obtain ⟨rfl, rfl⟩ := Prod.mk.inj (Except.ok.inj (hcall.symm.trans hcall'))
      rw [Nat.min_eq_right (Nat.le_of_lt hleft), Nat.min_eq_right hleft]
      refine ⟨?_, hcounter⟩
      rw [List.range'_1_concat, List.map_append]
      rfl
    · obtain ⟨f, hf⟩ := hserves.exists_error_of_served hh hk hleft
      exact absurd (hcall.symm.trans hf) (by simp)

theorem served_of_error (hserves : Serves call asks counter) (hh : Served asks counter c ks h)
    {f : ε} (hcall : (call k).outcome h.state = .error f) :
    Served asks counter c (ks ++ [k]) (h.extend call k) := by
  -- A refused call is of another kind, or all numbers are out.
  have hsame : min c.free ((ks ++ [k]).countP asks) = min c.free (ks.countP asks) := by
    rw [List.countP_append]
    cases hk : asks k with
    | false => rw [List.countP_cons_of_neg (by simp [hk]), List.countP_nil, Nat.add_zero]
    | true =>
      rcases Nat.lt_or_ge (ks.countP asks) c.free with hleft | hleft
      · obtain ⟨s', hcall', -⟩ := hserves.call_of_served hh hk hleft
        exact absurd (hcall.symm.trans hcall') (by simp)
      · rw [Nat.min_eq_left hleft, Nat.min_eq_left (Nat.le_trans hleft (Nat.le_add_right _ _))]
  rw [Served, History.granted_extend_of_eq_error hcall,
    History.state_extend_of_eq_error (hserves.atomic k) hcall, hsame]
  exact hh

/-- **A run of calls.** The counter gives its next numbers to as many calls as it can. -/
theorem served_record (hserves : Serves call asks counter) (s : σ) (ks : List κ) :
    Served asks counter (counter s) ks (record call s ks) := by
  refine History.record_induction (Served asks counter (counter s)) ?_
    (fun _ _ _ _ _ hh ↦ hserves.served_of_ok hh) (fun _ _ _ _ hh ↦ hserves.served_of_error hh) ks
  simp [Served, History.granted]

theorem dispenses (hserves : Serves call asks counter) (s : σ) :
    Dispenses call asks counter s := by
  have hfree : (counter s).free = 65536 - (counter s).next := rfl
  refine ⟨fun ks k hk hleft ↦ ?_, fun ks k hk hleft ↦ ?_, fun ks ↦ ?_, fun ks ↦ ?_, fun ks ↦ ?_⟩
  · obtain ⟨s', hcall, -⟩ := hserves.call_of_served (hserves.served_record s ks) hk hleft
    have hnext : 65536 - (counter s).free = (counter s).next := by omega
    exact ⟨s', by rw [hcall, hnext]⟩
  · obtain ⟨f, hf⟩ := hserves.exists_error_of_served (hserves.served_record s ks) hk hleft
    exact ⟨⟨f, hf⟩, History.state_record_concat_of_eq_error (hserves.atomic k) hf⟩
  · have hall : 65536 - (65536 - (counter s).free) = (counter s).free := by omega
    rw [(hserves.served_record s ks).1, take_drop_range, hall]
    rcases Nat.eq_zero_or_pos (counter s).free with hzero | hpos
    · rw [hzero, Nat.zero_min]
      rfl
    · have hnext : 65536 - (counter s).free = (counter s).next := by omega
      rw [hnext]
  · rw [(hserves.served_record s ks).2, hfree]
    simp only [Counter.free, Counter.last]
    omega
  · rw [(hserves.served_record s ks).2]
    dsimp only
    omega

end Serves

end Calls

/-! ## The interface ids of an AS -/

namespace AutonomousSystem

variable {σ : Type}

/-- Whether a call asks for an interface id. -/
def Call.asksId : Call σ → Bool
  | .takeInterfaceId => true
  | _ => false

theorem Call.asksId_iff {call : Call σ} : call.asksId = true ↔ call = .takeInterfaceId := by
  cases call <;> simp [asksId]

variable [WordSource σ]

theorem eq_none_of_perform {s s' : WithSource σ} {call : Call σ} {r : Option Nat}
    (hasks : call.asksId = false) (h : (perform call).outcome s = .ok (r, s')) : r = none := by
  cases call with
  | takeInterfaceId => exact absurd hasks (Bool.false_ne_true ∘ Eq.symm)
  | configure =>
    obtain ⟨_, -, h⟩ := map_eq_ok_iff.1 ((outcome_perform_configure s).symm.trans h)
    exact (Prod.mk.inj h).1.symm
  | replaceSource => exact (Prod.mk.inj (Except.ok.inj h)).1.symm
  | addNetwork | addRouter | modifyRouter | addHost | addControlService | setAttributes
  | setIntervals | setPolicy | setNote | setStaticInfo | addGateway =>
    obtain ⟨_, -, h⟩ := map_eq_ok_iff.1 ((outcome_quietly ..).symm.trans h)
    exact (Prod.mk.inj h).1.symm

/-- The counter of an AS serves the calls for interface ids. -/
theorem serves_perform : Serves (perform (σ := σ)) Call.asksId (·.1.interfaceIds) where
  atomic := atomic_perform
  granted := by
    intro s call n c hasks htake
    obtain rfl := Call.asksId_iff.1 hasks
    refine ⟨({ s.1 with interfaceIds := c }, s.2), ?_, rfl⟩
    rw [outcome_perform_takeInterfaceId, outcome_takeInterfaceId, htake]
    rfl
  refused := by
    intro s call hasks htake
    obtain rfl := Call.asksId_iff.1 hasks
    refine ⟨.interfaceIdsExhausted s.1.asn, ?_⟩
    rw [outcome_perform_takeInterfaceId, outcome_takeInterfaceId, htake]
    rfl
  other := by
    intro s call r s' hasks h
    obtain rfl := eq_none_of_perform hasks h
    rcases (perform_effect h).interfaceId_eq with ⟨-, hsame⟩ | ⟨hsome, -⟩
    · exact hsame
    · exact absurd hsome (Option.some_ne_none _).symm

/-- The counter of an AS never passes the last id by more than one. -/
theorem fits_history (asn : Asn) (source : σ) (calls : List (Call σ)) :
    (history asn source calls).state.1.interfaceIds.Fits :=
  Counter.fits_of_le ((serves_perform.dispenses ({ asn }, source)).bounded calls)

end AutonomousSystem

/-! ## The ports of a router -/

namespace Router

/-- A call of one of the operations on a router. -/
inductive Call where
  | join (i : Interface)
  | connect (peer : Port) (c : CrossConnect)
  | attach (id : Nat) (d : Descriptor)
  | takePort

def quietly (f : Router → Router) : Change Router Unit (Option Nat) := do
  Change.write f
  return none

/-- Make a call. The result is the port that it hands out, if any. -/
def perform : Call → Change Router Unit (Option Nat)
  | .join i => quietly (·.join i)
  | .connect peer c => quietly (·.connect peer c)
  | .attach id d => quietly (·.attach id d)
  | .takePort => do return some (← Router.takePort ())

def history (loopback : Ipv4.Address) (calls : List Call) : History Call Router Unit (Option Nat) :=
  .record perform { loopback } calls

/-- Whether a call asks for a port. -/
def Call.asksPort : Call → Bool
  | .takePort => true
  | _ => false

theorem Call.asksPort_iff {call : Call} : call.asksPort = true ↔ call = .takePort := by
  cases call <;> simp [asksPort]

theorem atomic_takePort {ε : Type} (none : ε) : (takePort none).Atomic :=
  Change.atomic_look_bind _ fun _ ↦
    ((Change.total_write _).bind fun _ ↦ Change.total_pure _).atomic

theorem atomic_perform (call : Call) : (perform call).Atomic := by
  cases call with
  | takePort => exact (atomic_takePort ()).bind_total fun _ ↦ Change.total_pure _
  | join | connect | attach =>
    exact ((Change.total_write _).bind fun _ ↦ Change.total_pure _).atomic

theorem outcome_perform_takePort (r : Router) :
    (perform .takePort).outcome r = ((takePort ()).outcome r).map fun x ↦ (some x.1, x.2) := by
  rw [perform, Change.outcome_bind_pure]

/-- The counter of a router serves the calls for ports. -/
theorem serves_perform : Serves perform Call.asksPort (·.ports) where
  atomic := atomic_perform
  granted := by
    intro r call n c hasks htake
    obtain rfl := Call.asksPort_iff.1 hasks
    refine ⟨{ r with ports := c }, ?_, rfl⟩
    rw [outcome_perform_takePort, outcome_takePort, htake]
    rfl
  refused := by
    intro r call hasks htake
    obtain rfl := Call.asksPort_iff.1 hasks
    refine ⟨(), ?_⟩
    rw [outcome_perform_takePort, outcome_takePort, htake]
    rfl
  other := by
    intro r call n r' hasks h
    cases call with
    | takePort => exact absurd hasks (Bool.false_ne_true ∘ Eq.symm)
    | join | connect | attach =>
      obtain ⟨-, rfl⟩ := Prod.mk.inj (Except.ok.inj h)
      rfl

/-- The counter of a router never passes the last port by more than one. -/
theorem fits_history (loopback : Ipv4.Address) (calls : List Call) :
    (history loopback calls).state.ports.Fits :=
  Counter.fits_of_le ((serves_perform.dispenses { loopback }).bounded calls)

end Router

/-! ## The counters of a network -/

section Keys

variable {key : Type}

/-- The counter of a key. Without one nothing is left to hand out. -/
def Counters.counter (s : Counters key) (x : key) : Counter := (s x).getD .exhausted

theorem Counters.counter_of_eq_some {s : Counters key} {x : key} {c : Counter} (h : s x = some c) :
    s.counter x = c := by
  rw [Counters.counter, h, Option.getD_some]

theorem Counters.free_counter (s : Counters key) (x : key) : (s.counter x).free = s.left x := by
  rw [Counters.counter, Counters.left]
  cases s x <;> rfl

variable {κ σ ε : Type} [DecidableEq key] {call : κ → Change σ ε (Option Nat)}
  {keyOf : κ → Option key}

theorem Issues.exists_of_single {s s' : Counters key} {x : key} {n : Nat}
    (h : Issues s [(x, n)] s') :
    ∃ c c', s x = some c ∧ c.take? = some (n, c') ∧ s' = Function.update s x (some c') := by
  cases h with
  | cons found taken rest =>
    cases rest
    exact ⟨_, _, found, taken, rfl⟩

/-- Where each call takes a number from the counter of its key, if it has a key, every counter
serves the calls of its own key. Calls of other keys are other calls, and a counter that is missing
does as an exhausted one does. -/
theorem serves_of_issues (counters : σ → Counters key) (hatomic : ∀ k, (call k).Atomic)
    (issues : ∀ {s k x r s'}, keyOf k = some x → (call k).outcome s = .ok (r, s') →
      ∃ n, r = some n ∧ Issues (counters s) [(x, n)] (counters s'))
    (keeps : ∀ {s k r s'}, keyOf k = none → (call k).outcome s = .ok (r, s') →
      counters s' = counters s)
    (exists_ok : ∀ {s k x}, keyOf k = some x → 0 < (counters s).left x →
      ∃ r, (call k).outcome s = .ok r)
    (x : key) : Serves call (keyOf · = some x) fun s ↦ (counters s).counter x where
  atomic := hatomic
  granted := by
    intro s k n c hasks htake
    have hkey : keyOf k = some x := of_decide_eq_true hasks
    have hleft : 0 < (counters s).left x := by
      rw [← Counters.free_counter, ← Counter.isSome_take?_iff, htake]
      rfl
    obtain ⟨⟨r, s'⟩, hok⟩ := exists_ok hkey hleft
    obtain ⟨n', rfl, hissues⟩ := issues hkey hok
    obtain ⟨c₁, c', found, taken, hafter⟩ := hissues.exists_of_single
    rw [Counters.counter_of_eq_some found, taken] at htake
    obtain ⟨rfl, rfl⟩ := Prod.mk.inj (Option.some.inj htake)
    exact ⟨s', hok, Counters.counter_of_eq_some (by rw [hafter, Function.update_self])⟩
  refused := by
    intro s k hasks htake
    cases hcall : (call k).outcome s with
    | error f => exact ⟨f, rfl⟩
    | ok r =>
      obtain ⟨n, -, hissues⟩ := issues (of_decide_eq_true hasks) hcall
      obtain ⟨c, c', found, taken, -⟩ := hissues.exists_of_single
      rw [Counters.counter_of_eq_some found, taken] at htake
      exact absurd htake (Option.some_ne_none _)
  other := by
    intro s k r s' hasks hcall
    cases hkey : keyOf k with
    | none => rw [keeps hkey hcall]
    | some y =>
      obtain ⟨n, -, hissues⟩ := issues hkey hcall
      obtain ⟨c, c', -, -, hafter⟩ := hissues.exists_of_single
      have hne : x ≠ y := by
        rintro rfl
        exact of_decide_eq_false hasks hkey
      rw [hafter, Counters.counter, Function.update_of_ne hne, Counters.counter]

theorem affords_singleton {s : Counters key} {x : key} (h : 0 < s.left x) : Affords s [x] := by
  intro y
  rw [List.count_singleton]
  by_cases hxy : x = y
  · rwa [if_pos (beq_iff_eq.2 hxy), ← hxy]
  · rw [if_neg (mt beq_iff_eq.1 hxy)]
    exact Nat.zero_le _

end Keys

namespace Emulation

/-- A call of one of the operations that resolution commits with. -/
inductive Call where
  | interfaceId (asn : Asn)
  | port (p : Port)
  | attach (p : Port) (id : Nat) (d : Descriptor)

/-- Make a call. The result is the number that it hands out, if any. -/
def perform : Call → Change Emulation Fault (Option Nat)
  | .interfaceId asn => do return some (← Emulation.allocateInterfaceId asn)
  | .port p => do return some (← Emulation.allocatePort p.1 p.2)
  | .attach p id d => do
    Emulation.attach p.1 p.2 id d
    return none

namespace Call

/-- The AS that a call asks for an interface id. -/
def asn? : Call → Option Asn
  | interfaceId asn => some asn
  | _ => none

/-- The router that a call asks for a port. -/
def port? : Call → Option Port
  | port p => some p
  | _ => none

end Call

/-! ### Calls that are refused -/

theorem atomic_onAs {α : Type} {asn : Asn} {c : Change AutonomousSystem Fault α} (hc : c.Atomic) :
    (onAs asn c).Atomic :=
  hc.part fun _ _ h ↦ setAs_eq_self (findAs_eq_ok_iff.1 h)

theorem atomic_onRouter {α : Type} {name : String} {c : Change Router Fault α} (hc : c.Atomic) :
    (AutonomousSystem.onRouter name c).Atomic :=
  hc.part fun _ _ h ↦ modifyRouter_eq_self (findRouter_eq_ok_iff.1 h)

/-- **A refused call.** What is missing or exhausted is found before anything is written, so a call
that is refused leaves the network as it was. -/
theorem atomic_perform (call : Call) : (perform call).Atomic := by
  cases call with
  | interfaceId asn =>
    exact (atomic_onAs AutonomousSystem.atomic_takeInterfaceId).bind_total fun _ ↦
      Change.total_pure _
  | port p =>
    exact (atomic_onAs (atomic_onRouter (Router.atomic_takePort _))).bind_total fun _ ↦
      Change.total_pure _
  | attach p id d =>
    exact (atomic_onAs (atomic_onRouter (Change.total_write _).atomic)).bind_total fun _ ↦
      Change.total_pure _

theorem outcome_perform_interfaceId (e : Emulation) (asn : Asn) :
    (perform (.interfaceId asn)).outcome e
      = ((allocateInterfaceId asn).outcome e).map fun r ↦ (some r.1, r.2) := by
  rw [perform, Change.outcome_bind_pure]

theorem outcome_perform_port (e : Emulation) (p : Port) :
    (perform (.port p)).outcome e
      = ((allocatePort p.1 p.2).outcome e).map fun r ↦ (some r.1, r.2) := by
  rw [perform, Change.outcome_bind_pure]

theorem outcome_perform_attach (e : Emulation) (p : Port) (id : Nat) (d : Descriptor) :
    (perform (.attach p id d)).outcome e
      = ((attach p.1 p.2 id d).outcome e).map fun r ↦ (none, r.2) := by
  rw [perform, Change.outcome_bind_pure]

/-! ### The counters -/

/-- The counter of each AS serves the calls for its interface ids. -/
theorem serves_ids (asn : Asn) :
    Serves perform (·.asn? = some asn) (·.idCounters.counter asn) := by
  refine serves_of_issues idCounters atomic_perform ?_ ?_ ?_ asn
  · intro e call n r e' hkey hcall
    cases call with
    | interfaceId m =>
      obtain rfl := Option.some.inj hkey
      obtain ⟨⟨id, e₁⟩, hid, h⟩ :=
        map_eq_ok_iff.1 ((outcome_perform_interfaceId ..).symm.trans hcall)
      obtain ⟨rfl, rfl⟩ := Prod.mk.inj h
      exact ⟨id, rfl, (allocateInterfaceId_effect hid).1⟩
    | port | attach => exact absurd hkey (Option.some_ne_none _).symm
  · intro e call r e' hkey hcall
    cases call with
    | interfaceId m => exact absurd hkey (Option.some_ne_none _)
    | port p =>
      obtain ⟨⟨port, e₁⟩, hport, h⟩ :=
        map_eq_ok_iff.1 ((outcome_perform_port ..).symm.trans hcall)
      obtain ⟨rfl, rfl⟩ := Prod.mk.inj h
      exact (allocatePort_effect hport).2.1
    | attach p id d =>
      obtain ⟨⟨⟨⟩, e₁⟩, hattach, h⟩ :=
        map_eq_ok_iff.1 ((outcome_perform_attach ..).symm.trans hcall)
      obtain ⟨rfl, rfl⟩ := Prod.mk.inj h
      exact (attach_effect hattach).2.1
  · intro e call n hkey hleft
    cases call with
    | interfaceId m =>
      obtain rfl := Option.some.inj hkey
      obtain ⟨id, e', hid, -⟩ := exists_allocateInterfaceId (affords_singleton hleft)
      exact ⟨_, (outcome_perform_interfaceId ..).trans (map_eq_ok_iff.2 ⟨_, hid, rfl⟩)⟩
    | port | attach => exact absurd hkey (Option.some_ne_none _).symm

theorem serves_ports (p : Port) :
    Serves perform (·.port? = some p) (·.portCounters.counter p) := by
  refine serves_of_issues portCounters atomic_perform ?_ ?_ ?_ p
  · intro e call q r e' hkey hcall
    cases call with
    | port q' =>
      obtain rfl := Option.some.inj hkey
      obtain ⟨⟨port, e₁⟩, hport, h⟩ :=
        map_eq_ok_iff.1 ((outcome_perform_port ..).symm.trans hcall)
      obtain ⟨rfl, rfl⟩ := Prod.mk.inj h
      exact ⟨port, rfl, (allocatePort_effect hport).1⟩
    | interfaceId | attach => exact absurd hkey (Option.some_ne_none _).symm
  · intro e call r e' hkey hcall
    cases call with
    | port q => exact absurd hkey (Option.some_ne_none _)
    | interfaceId asn =>
      obtain ⟨⟨id, e₁⟩, hid, h⟩ :=
        map_eq_ok_iff.1 ((outcome_perform_interfaceId ..).symm.trans hcall)
      obtain ⟨rfl, rfl⟩ := Prod.mk.inj h
      exact (allocateInterfaceId_effect hid).2.1
    | attach q id d =>
      obtain ⟨⟨⟨⟩, e₁⟩, hattach, h⟩ :=
        map_eq_ok_iff.1 ((outcome_perform_attach ..).symm.trans hcall)
      obtain ⟨rfl, rfl⟩ := Prod.mk.inj h
      exact (attach_effect hattach).2.2.1
  · intro e call q hkey hleft
    cases call with
    | port q' =>
      obtain rfl := Option.some.inj hkey
      obtain ⟨port, e', hport, -⟩ := exists_allocatePort (affords_singleton hleft)
      exact ⟨_, (outcome_perform_port ..).trans (map_eq_ok_iff.2 ⟨_, hport, rfl⟩)⟩
    | interfaceId | attach => exact absurd hkey (Option.some_ne_none _).symm

end Emulation

/-! ## What is free -/

/-- **What is free can be handed out, and nothing more.** After any calls on an AS and after any
calls on a router, the counter has not wrapped in its 32 bits, and the numbers that it counts as
free are those that further calls get, however these are mixed with others. In a network the same
holds of each AS and of each router, with nothing to hand out for one that is not there. -/
theorem free_exact :
    (∀ {σ : Type} [WordSource σ] (asn : Asn) (source : σ) (calls : List (AutonomousSystem.Call σ)),
      let s := (AutonomousSystem.history asn source calls).state
      s.1.interfaceIds.Fits ∧
        Dispenses AutonomousSystem.perform AutonomousSystem.Call.asksId (·.1.interfaceIds) s) ∧
    (∀ loopback calls,
      let r := (Router.history loopback calls).state
      r.ports.Fits ∧ Dispenses Router.perform Router.Call.asksPort (·.ports) r) ∧
    ∀ e : Emulation,
      (∀ asn, (e.idCounters.counter asn).free = e.freeInterfaceIds asn ∧
        Dispenses Emulation.perform (·.asn? = some asn) (·.idCounters.counter asn) e) ∧
      ∀ p : Port, (e.portCounters.counter p).free = e.freePorts p.1 p.2 ∧
        Dispenses Emulation.perform (·.port? = some p) (·.portCounters.counter p) e := by
  refine ⟨fun asn source calls ↦ ⟨?_, ?_⟩, fun loopback calls ↦ ⟨?_, ?_⟩, fun e ↦
    ⟨fun asn ↦ ⟨?_, ?_⟩, fun p ↦ ⟨?_, ?_⟩⟩⟩
  · exact AutonomousSystem.fits_history asn source calls
  · exact AutonomousSystem.serves_perform.dispenses _
  · exact Router.fits_history loopback calls
  · exact Router.serves_perform.dispenses _
  · rw [Counters.free_counter, Emulation.left_idCounters]
  · exact (Emulation.serves_ids asn).dispenses e
  · rw [Counters.free_counter, Emulation.left_portCounters]
  · exact (Emulation.serves_ports p).dispenses e

end Interdomain
