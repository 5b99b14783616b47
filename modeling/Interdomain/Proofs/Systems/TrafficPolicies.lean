import Interdomain.Gateway
import Interdomain.Proofs.Texts.Identifiers
import Mathlib.Data.List.Induction
import Mathlib.Data.Set.List

/-!
# Traffic policies

The remote networks of a gateway are put one after another under the text of their identifier. One
remote more adds its network behind the others of its identifier and leaves all else as it was
(`Groups.add`), for distinct identifiers have distinct texts; by induction the policy groups the
whole list. Its keys are in the order of texts, which for digits and dashes is that of their bytes:
`1-9` comes behind `1-150`.
-/

namespace Interdomain

/-! ## Byte order -/

def bytes (s : String) : List UInt8 := s.toUTF8.data.toList

/-- An ASCII character is one byte. -/
theorem bytes_ofList {cs : List Char} (h : ∀ c ∈ cs, c.toNat ≤ 127) :
    bytes (String.ofList cs) = cs.map fun c ↦ UInt8.ofNat c.toNat := by
  have hchar : ∀ c ∈ cs, String.utf8EncodeChar c = [UInt8.ofNat c.toNat] := fun c hc ↦
    if_pos (h c hc)
  rw [bytes, String.toUTF8, String.toByteArray_ofList, List.utf8Encode,
    List.toList_data_toByteArray, List.flatMap_congr hchar, List.map_eq_flatMap]

/-- A list that comes first still does so after a map that keeps the order of the elements. -/
theorem lex_map {α β : Type} {r : α → α → Prop} {r' : β → β → Prop} {f : α → β} {l l' : List α}
    (h : List.Lex r l l') (hf : ∀ a ∈ l, ∀ b ∈ l', r a b → r' (f a) (f b)) :
    List.Lex r' (l.map f) (l'.map f) := by
  induction h with
  | nil => exact .nil
  | rel hab => exact .rel (hf _ List.mem_cons_self _ List.mem_cons_self hab)
  | cons _ ih =>
    exact .cons (ih fun a ha b hb ↦ hf a (List.mem_cons_of_mem _ ha) b (List.mem_cons_of_mem _ hb))

namespace IsdAsn

/-- The characters of an identifier are ASCII. -/
theorem toNat_le_of_mem_chars {ia : IsdAsn} {c : Char} (h : c ∈ ia.chars) : c.toNat ≤ 127 := by
  have hdigit : ∀ n, c ∈ Decimal.digits n → c.toNat ≤ 127 := fun n hc ↦
    Nat.le_trans (Char.le_def.1 ((Decimal.means_digits n).digits c hc).2) (by decide)
  rcases List.mem_append.1 h with h | h
  · exact hdigit _ h
  · rcases List.mem_cons.1 h with rfl | h
    · decide
    · exact hdigit _ h

theorem bytes_text (ia : IsdAsn) : bytes ia.text = ia.chars.map fun c ↦ UInt8.ofNat c.toNat :=
  bytes_ofList fun _ ↦ toNat_le_of_mem_chars

theorem bytes_text_lt {ia ia' : IsdAsn} (h : ia.text < ia'.text) :
    bytes ia.text < bytes ia'.text := by
  have hchars : ia.text.toList < ia'.text.toList := h
  rw [text, text, String.toList_ofList, String.toList_ofList] at hchars
  rw [bytes_text, bytes_text]
  refine lex_map hchars fun c hc c' hc' hlt ↦ ?_
  have hsmall : ∀ k ≤ 127, (UInt8.ofNat k).toNat = k := fun k hk ↦
    UInt8.toNat_ofNat_of_lt' (Nat.lt_of_le_of_lt hk (by decide))
  rw [UInt8.lt_iff_toNat_lt, hsmall _ (toNat_le_of_mem_chars hc),
    hsmall _ (toNat_le_of_mem_chars hc')]
  exact UInt32.lt_iff_toNat_lt.1 (Char.lt_def.1 hlt)

end IsdAsn

/-! ## Groups -/

/-- The networks behind an identifier, in the order in which they are listed. -/
def netsBehind (remotes : List Remote) (ia : IsdAsn) : List Ipv4.Subnet :=
  (remotes.filter (·.ia = ia)).map (·.net)

namespace TrafficPolicy

variable {ases : SortedMap String (List Ipv4.Subnet)} {remotes : List Remote} {ia : IsdAsn}

/-- A map of networks by text groups some remotes: under the text of each of their identifiers are
the networks behind it, and nothing else is in the map. -/
def Groups (ases : SortedMap String (List Ipv4.Subnet)) (remotes : List Remote) : Prop :=
  ∀ key nets, ases.get? key = some nets ↔
    ∃ ia, (∃ r ∈ remotes, r.ia = ia) ∧ key = ia.text ∧ nets = netsBehind remotes ia

theorem netsBehind_eq_nil (h : ¬∃ r ∈ remotes, r.ia = ia) : netsBehind remotes ia = [] := by
  rw [netsBehind, List.map_eq_nil_iff, List.filter_eq_nil_iff]
  exact fun r hr hia ↦ h ⟨r, hr, of_decide_eq_true hia⟩

theorem netsBehind_concat (remotes : List Remote) (r : Remote) (ia : IsdAsn) :
    netsBehind (remotes ++ [r]) ia
      = netsBehind remotes ia ++ if r.ia = ia then [r.net] else [] := by
  rw [netsBehind, List.filter_append, List.map_append, ← netsBehind]
  by_cases h : r.ia = ia <;> simp [h]

/-- What stands under an identifier so far, be it nothing. -/
theorem Groups.getD (h : Groups ases remotes) (ia : IsdAsn) :
    (ases.get? ia.text).getD [] = netsBehind remotes ia := by
  cases hget : ases.get? ia.text with
  | some nets =>
    obtain ⟨ia', -, htext, rfl⟩ := (h _ _).1 hget
    rw [IsdAsn.text_inj htext]
    rfl
  | none =>
    refine (netsBehind_eq_nil fun hia ↦ ?_).symm
    rw [(h _ _).2 ⟨ia, hia, rfl, rfl⟩] at hget
    exact absurd hget (Option.some_ne_none _)

theorem groups_empty : Groups .empty [] := by
  intro key nets
  simp [SortedMap.get?, SortedMap.empty]

/-- **One remote more.** Its network comes behind the others of its identifier. -/
theorem Groups.add (h : Groups ases remotes) (r : Remote) :
    Groups (TrafficPolicy.add ases r) (remotes ++ [r]) := by
  intro key nets
  rw [TrafficPolicy.add, SortedMap.get?_insert, h.getD]
  by_cases hkey : key = r.ia.text
  · rw [if_pos hkey, Option.some.injEq]
    constructor
    · rintro rfl
      refine ⟨r.ia, ⟨r, by simp, rfl⟩, hkey, ?_⟩
      rw [netsBehind_concat, if_pos rfl]
    · rintro ⟨ia, -, htext, rfl⟩
      obtain rfl := IsdAsn.text_inj (hkey.symm.trans htext)
      rw [netsBehind_concat, if_pos rfl]
  · -- Under another text there is another identifier.
    have hother : ∀ ia : IsdAsn, key = ia.text → r.ia ≠ ia := by
      rintro ia htext rfl
      exact hkey htext
    rw [if_neg hkey, h]
    constructor
    · rintro ⟨ia, ⟨r', hr', hia⟩, htext, rfl⟩
      refine ⟨ia, ⟨r', List.mem_append_left _ hr', hia⟩, htext, ?_⟩
      rw [netsBehind_concat, if_neg (hother ia htext), List.append_nil]
    · rintro ⟨ia, ⟨r', hr', hia⟩, htext, rfl⟩
      have hmem : r' ∈ remotes := by
        rcases List.mem_append.1 hr' with hr' | hr'
        · exact hr'
        · exact absurd (List.mem_singleton.1 hr' ▸ hia) (hother ia htext)
      refine ⟨ia, ⟨r', hmem, hia⟩, htext, ?_⟩
      rw [netsBehind_concat, if_neg (hother ia htext), List.append_nil]

/-- **All remotes.** The map of the whole list groups it. -/
theorem groups_foldl_add (remotes : List Remote) :
    Groups (remotes.foldl TrafficPolicy.add .empty) remotes := by
  induction remotes using List.reverseRecOn with
  | nil => exact groups_empty
  | append_singleton remotes r ih =>
    rw [List.foldl_concat]
    exact ih.add r

end TrafficPolicy

namespace Gateway

/-- An entry of the traffic policy of a gateway belongs to an identifier among the remotes. -/
theorem mem_trafficPolicy_iff {g : Gateway} {e : String × List Ipv4.Subnet} :
    e ∈ g.trafficPolicy.ases.toList ↔
      ∃ ia, (∃ r ∈ g.remotes, r.ia = ia) ∧ e = (ia.text, netsBehind g.remotes ia) := by
  rw [SortedMap.mem_toList_iff, trafficPolicy, TrafficPolicy.groups_foldl_add]
  simp only [Prod.ext_iff]

/-- **Traffic policies.** There is one entry for each identifier among the remotes of a gateway and
no other. Its key is the text of the identifier, and it lists the networks of the remotes with this
identifier, each as often as it is given and in the given order. The keys ascend byte by byte, and
no two identifiers have one key. -/
theorem trafficPolicy_exact (g : Gateway) :
    (∃ ias : List IsdAsn,
      (∀ ia, ia ∈ ias ↔ ∃ r ∈ g.remotes, r.ia = ia) ∧
      ias.Pairwise (fun ia ia' ↦ bytes ia.text < bytes ia'.text) ∧
      g.trafficPolicy.ases.toList = ias.map fun ia ↦ (ia.text, netsBehind g.remotes ia)) ∧
    Function.Injective IsdAsn.text := by
  refine ⟨?_, fun _ _ ↦ IsdAsn.text_inj⟩
  have hinj : Function.Injective fun ia ↦ (ia.text, netsBehind g.remotes ia) := fun _ _ h ↦
    IsdAsn.text_inj (Prod.ext_iff.1 h).1
  -- Each entry is that of some identifier, so the whole list comes from a list of identifiers.
  have hentries : ∃ ias : List IsdAsn,
      ias.map (fun ia ↦ (ia.text, netsBehind g.remotes ia)) = g.trafficPolicy.ases.toList := by
    rw [← Set.mem_range, Set.range_list_map]
    intro e he
    obtain ⟨ia, -, rfl⟩ := mem_trafficPolicy_iff.1 he
    exact Set.mem_range_self ia
  obtain ⟨ias, hias⟩ := hentries
  refine ⟨ias, fun ia ↦ ?_, ?_, hias.symm⟩
  · rw [← List.mem_map_of_injective hinj, hias, mem_trafficPolicy_iff]
    constructor
    · rintro ⟨ia', h, heq⟩
      exact hinj heq ▸ h
    · exact fun h ↦ ⟨ia, h, rfl⟩
  · have hkeys := g.trafficPolicy.ases.pairwise_keys
    rw [SortedMap.keys, ← hias, List.map_map, List.pairwise_map] at hkeys
    exact hkeys.imp fun hlt ↦ IsdAsn.bytes_text_lt (compareOfLessAndEq_eq_lt.1 hlt)

/-- The order is not that of the numbers, and a network that is given twice is listed twice. -/
example :
    let near := Ipv4.Subnet.ofOctets 172 16 1 0 24
    let far := Ipv4.Subnet.ofOctets 172 16 2 0 24
    let g : Gateway :=
      { name := "sig", host := "host", localNet := near
        remotes := [⟨⟨1, 9⟩, near⟩, ⟨⟨1, 150⟩, far⟩, ⟨⟨1, 9⟩, near⟩] }
    g.trafficPolicy.ases.toList = [("1-150", [far]), ("1-9", [near, near])] := by
  decide +kernel

end Gateway

end Interdomain
