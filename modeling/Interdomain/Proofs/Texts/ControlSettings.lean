import Interdomain.ControlConfig
import Interdomain.Proofs.Maps
import Interdomain.Proofs.Texts.Durations
import Mathlib.Data.List.Perm.Basic

/-!
# Texts of the settings of control services

The settings of a control service are written in sections. The first one is always there and names
the service, whose name may need escapes. In the others nothing does: the names of intervals and
policies, the durations and the paths are written between quotes as they are. So the whole text is
known from the name of the service and the intervals and policies of its AS.
-/

namespace Interdomain

/-! ## Strings without escapes -/

namespace Toml

/-- A character that stands for itself between double quotes. -/
def isPlain (c : Char) : Bool :=
  0x20 ≤ c.toNat && c.toNat != 0x7F && c != '"' && c != '\\'

theorem isPlain_iff {c : Char} :
    isPlain c = true ↔ 0x20 ≤ c.toNat ∧ c.toNat ≠ 0x7F ∧ c ≠ '"' ∧ c ≠ '\\' := by
  simp [isPlain, and_assoc]

theorem longestRun_of_not_mem {q : Char} {cs : List Char} (h : q ∉ cs) : longestRun q 0 cs = 0 := by
  induction cs with
  | nil => rfl
  | cons c cs ih =>
    obtain ⟨hne, hrest⟩ := not_or.1 (mt List.mem_cons.2 h)
    rw [longestRun, if_neg (Ne.symm hne), ih hrest]
    rfl

theorem escapeAll_of_isPlain {multiline : Bool} {quotes run : Nat} {cs : List Char}
    (h : cs.all isPlain = true) : escapeAll multiline quotes run cs = cs := by
  induction cs generalizing run with
  | nil => rfl
  | cons c cs ih =>
    rw [List.all_cons, Bool.and_eq_true, isPlain_iff] at h
    obtain ⟨⟨hlow, hdelete, hquote, hbackslash⟩, hrest⟩ := h
    have hwritten : ∀ d : Char, d.toNat < 0x20 → c ≠ d := by
      rintro d hd rfl
      omega
    have hcontrol : ¬(c.toNat < 0x20 || c.toNat == 0x7F) = true := by
      simp only [Bool.or_eq_true, decide_eq_true_eq, beq_iff_eq]
      omega
    rw [escapeAll, if_neg hquote, ih hrest, if_neg hcontrol]
    case x_6 => exact hbackslash
    case cons => rfl
    all_goals exact hwritten _ (by decide)

/-- A string of such characters is written between double quotes as it is. -/
theorem quote_of_isPlain {s : String} (h : s.toList.all isPlain = true) :
    quote s = "\"" ++ s ++ "\"" := by
  have hcontrol : s.toList.any isControl = false := by
    rw [List.any_eq_false]
    intro c hc
    obtain ⟨hlow, hdelete, -⟩ := isPlain_iff.1 (List.all_eq_true.1 h c hc)
    simp only [isControl, Bool.or_eq_true, Bool.and_eq_true, decide_eq_true_eq, beq_iff_eq]
    omega
  have hnot : ∀ c : Char, ¬isPlain c = true → c ∉ s.toList :=
    fun c hc hmem ↦ hc (List.all_eq_true.1 h c hmem)
  have hnewline : s.toList.contains '\n' = false := by simpa using hnot '\n' (by decide)
  have hbackslash : s.toList.contains '\\' = false := by simpa using hnot '\\' (by decide)
  have hdouble : longestRun '"' 0 s.toList = 0 := longestRun_of_not_mem (hnot '"' (by decide))
  have hstyle : styleOf s.toList = .basic := by
    rw [styleOf, hcontrol, hnewline, hbackslash, hdouble]
    rfl
  rw [quote, hstyle]
  dsimp only
  rw [escapeAll_of_isPlain h, String.ofList_toList]

theorem isPlain_of_isDigit {c : Char} (h : Decimal.isDigit c = true) :
    isPlain c = true := by
  rw [Decimal.isDigit, Bool.and_eq_true, decide_eq_true_eq, decide_eq_true_eq] at h
  have hlow : 48 ≤ c.toNat := UInt32.le_iff_toNat_le.1 h.1
  have hhigh : c.toNat ≤ 57 := UInt32.le_iff_toNat_le.1 h.2
  refine isPlain_iff.2 ⟨by omega, by omega, ?_, ?_⟩
  · rintro rfl
    exact absurd hlow (by decide)
  · rintro rfl
    exact absurd hhigh (by decide)

end Toml

theorem Duration.all_isPlain_exactText (d : Duration) :
    d.exactText.toList.all Toml.isPlain = true := by
  obtain ⟨n, u, -, htext⟩ := d.exists_number_unit
  have hsymbol : u.symbol.toList.all Toml.isPlain = true := by cases u <;> decide
  have hnumber : (Decimal.digits n).all Toml.isPlain = true := List.all_eq_true.2 fun c hc ↦
    Toml.isPlain_of_isDigit (Decimal.isDigit_of_mem_digits n c hc)
  rw [htext, String.toList_append, Decimal.text, String.toList_ofList, List.all_append, hnumber,
    hsymbol]
  rfl

/-! ## The sections -/

/-- The section that every control service has. -/
def generalText (service : String) : String :=
  "[general]\nid = " ++ Toml.quote service ++ "\nconfig_dir = \"/etc/scion\"\n"

/-- The line of an interval that is set. -/
def intervalText (name : String) (interval : Option Duration) : String :=
  interval.elim "" fun d ↦ name ++ " = \"" ++ d.exactText ++ "\"\n"

/-- The line that names the file of a policy. -/
def policyText (kind : PolicyKind) : String :=
  kind.text ++ " = \"/etc/scion/" ++ policyFile kind ++ "\"\n"

/-- The settings of a control service whose AS has some intervals and policies. -/
def settingsText (service : String) (i : Intervals) (kinds : List PolicyKind) : String :=
  generalText service ++
    (if i = {} then ""
      else "\n[beaconing]\n" ++ intervalText "origination_interval" i.origination ++
        intervalText "propagation_interval" i.propagation ++
        intervalText "registration_interval" i.registration) ++
    if kinds = [] then "" else "\n[beaconing.policies]\n" ++ String.join (kinds.map policyText)

theorem settingsText_eq_generalText_iff {service : String} {i : Intervals}
    {kinds : List PolicyKind} :
    settingsText service i kinds = generalText service ↔ i = {} ∧ kinds = [] := by
  constructor
  · intro h
    have hchars := congrArg String.toList h
    rw [settingsText, String.append_assoc, String.toList_append, List.append_right_eq_self,
      String.toList_append, List.append_eq_nil_iff] at hchars
    constructor
    · by_contra hne
      exact absurd hchars.1 (by simp [hne])
    · by_contra hne
      exact absurd hchars.2 (by simp [hne])
  · rintro ⟨rfl, rfl⟩
    simp [settingsText]

/-! ## The text of a section -/

theorem intercalate_cons (mark first : String) (rest : List String) :
    String.intercalate mark (first :: rest) = first ++ String.join (rest.map (mark ++ ·)) := by
  induction rest generalizing first with
  | nil => simp
  | cons next rest ih =>
    rw [String.intercalate_cons_cons, ih, List.map_cons, String.join_cons, String.append_assoc,
      String.append_assoc]

theorem ControlConfig.text_eq (c : ControlConfig) :
    c.text = c.general ++
      String.join ((c.beaconing.elim [] (·.sections)).map ("\n" ++ ·)) :=
  intercalate_cons "\n" c.general _

/-- Where anything is set, a section with nothing in it is left out. -/
theorem BeaconingSection.join_sections {b : BeaconingSection}
    (h : b.intervalLines ≠ [] ∨ b.policies.isEmpty = false) :
    String.join (b.sections.map ("\n" ++ ·)) =
      (if b.intervalLines = [] then "" else "\n[beaconing]\n" ++ String.join b.intervalLines) ++
        if b.policies.isEmpty = true then ""
        else "\n[beaconing.policies]\n" ++
          String.join (b.policies.toList.map fun e ↦ Toml.assign e.1 e.2) := by
  have hintervals : ∀ s, "\n" ++ ("[beaconing]\n" ++ s) = "\n[beaconing]\n" ++ s :=
    fun _ ↦ (String.append_assoc ..).symm
  have hpolicies : ∀ s, "\n" ++ ("[beaconing.policies]\n" ++ s) = "\n[beaconing.policies]\n" ++ s :=
    fun _ ↦ (String.append_assoc ..).symm
  rw [sections]
  by_cases hlines : b.intervalLines = []
  · have hempty := h.resolve_left (not_not_intro hlines)
    simp [hlines, hempty, hpolicies]
  · cases hempty : b.policies.isEmpty <;>
      simp [hlines, hintervals, hpolicies, String.append_assoc]

theorem join_assign_interval (name : String) (interval : Option Duration) :
    String.join ((interval.map Duration.exactText).toList.map (Toml.assign name))
      = intervalText name interval := by
  cases interval with
  | none => rfl
  | some d =>
    have hquote := Toml.quote_of_isPlain d.all_isPlain_exactText
    rw [← String.toList_inj]
    simp [intervalText, Toml.assign, hquote]

theorem assign_policy (kind : PolicyKind) :
    Toml.assign kind.text ("/etc/scion/" ++ policyFile kind) = policyText kind := by
  have hquote := Toml.quote_of_isPlain (s := "/etc/scion/" ++ policyFile kind)
    (by cases kind <;> decide)
  rw [Toml.assign, hquote, policyText, ← String.toList_inj]
  simp

namespace AutonomousSystem

variable (a : AutonomousSystem) (service : String)

theorem toList_policies_beaconingSection :
    a.beaconingSection.policies.toList.Perm
      (a.policies.keys.map fun kind ↦ (kind.text, "/etc/scion/" ++ policyFile kind)) := by
  refine .trans (SortedMap.toList_ofList_perm ?_) (.of_eq ?_)
  · rw [List.map_map]
    exact a.policies.nodup_keys.map fun _ _ ↦ PolicyKind.text_inj
  · rfl

theorem join_intervalLines :
    String.join a.beaconingSection.intervalLines
      = intervalText "origination_interval" a.intervals.origination ++
        intervalText "propagation_interval" a.intervals.propagation ++
        intervalText "registration_interval" a.intervals.registration := by
  simp only [BeaconingSection.intervalLines, List.flatMap_cons, List.flatMap_nil,
    List.append_nil, String.join_append, beaconingSection, join_assign_interval,
    String.append_assoc]

theorem intervalLines_eq_nil_iff :
    a.beaconingSection.intervalLines = [] ↔ a.intervals = {} := by
  rw [BeaconingSection.intervalLines, beaconingSection]
  obtain ⟨_ | _, _ | _, _ | _⟩ := a.intervals <;> simp

theorem isEmpty_policies_iff :
    a.beaconingSection.policies.isEmpty = true ↔ a.policies.keys = [] := by
  have hlength := a.toList_policies_beaconingSection.length_eq
  rw [List.length_map] at hlength
  rw [SortedMap.isEmpty, List.isEmpty_iff, ← List.reverse_eq_nil_iff, ← SortedMap.toList,
    ← List.length_eq_zero_iff, hlength, List.length_eq_zero_iff]

/-- There is nothing to say about beaconing if nothing is set. -/
theorem beaconingSection_eq_default_iff :
    a.beaconingSection = {} ↔ a.intervals = {} ∧ a.policies.keys = [] := by
  constructor
  · intro h
    rw [← a.intervalLines_eq_nil_iff, ← a.isEmpty_policies_iff, h]
    exact ⟨rfl, rfl⟩
  · rintro ⟨hintervals, hpolicies⟩
    rw [beaconingSection, hintervals, hpolicies]
    rfl

/-- The policies are listed by their names, which is another order than that of the kinds. -/
theorem exists_policies_eq : ∃ kinds : List PolicyKind, kinds.Perm a.policies.keys ∧
    a.beaconingSection.policies.toList
      = kinds.map fun kind ↦ (kind.text, "/etc/scion/" ++ policyFile kind) := by
  obtain ⟨kinds, hlisted, hperm⟩ := (iff_of_eq (congrFun₂ (List.eq_map_comp_perm _) _ _)).2
    a.toList_policies_beaconingSection
  exact ⟨kinds, hperm, hlisted⟩

/-- **The settings of a control service** are written as said, with the policies in some order. -/
theorem text_controlConfig : ∃ kinds : List PolicyKind, kinds.Perm a.policies.keys ∧
    (a.controlConfig service).text = settingsText service a.intervals kinds := by
  obtain ⟨kinds, hperm, hlisted⟩ := a.exists_policies_eq
  have hgeneral : (a.controlConfig service).general = generalText service := by
    have hquote := Toml.quote_of_isPlain (s := "/etc/scion") (by decide)
    rw [ControlConfig.general, controlConfig, ControlConfig.standardDirectory, generalText,
      Toml.assign, Toml.assign, hquote, ← String.toList_inj]
    simp
  have hpolicies : a.beaconingSection.policies.toList.map (fun e ↦ Toml.assign e.1 e.2)
      = kinds.map policyText := by
    rw [hlisted, List.map_map]
    exact List.map_congr_left fun kind _ ↦ assign_policy kind
  have hempty : a.beaconingSection.policies.isEmpty = true ↔ kinds = [] := by
    rw [a.isEmpty_policies_iff, ← List.length_eq_zero_iff, ← hperm.length_eq,
      List.length_eq_zero_iff]
  refine ⟨kinds, hperm, ?_⟩
  rw [ControlConfig.text_eq, hgeneral, controlConfig]
  dsimp only
  split
  case isTrue hsilent =>
    obtain ⟨hintervals, hkeys⟩ := a.beaconingSection_eq_default_iff.1 hsilent
    have hkinds := hempty.1 (a.isEmpty_policies_iff.2 hkeys)
    rw [settingsText_eq_generalText_iff.2 ⟨hintervals, hkinds⟩]
    exact String.append_empty
  case isFalse hset =>
    have hset' : a.beaconingSection.intervalLines ≠ [] ∨
        a.beaconingSection.policies.isEmpty = false := by
      by_contra hnone
      rw [not_or, not_not, Bool.not_eq_false, a.intervalLines_eq_nil_iff,
        a.isEmpty_policies_iff] at hnone
      exact hset (a.beaconingSection_eq_default_iff.2 hnone)
    rw [Option.elim_some, BeaconingSection.join_sections hset', a.join_intervalLines, hpolicies,
      settingsText, String.append_assoc]
    simp only [a.intervalLines_eq_nil_iff, hempty, String.append_assoc]

end AutonomousSystem

end Interdomain
