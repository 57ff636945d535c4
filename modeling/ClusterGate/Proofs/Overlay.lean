import ClusterGate.Gate.Basic
import ClusterGate.Proofs.Dictionary
import ClusterGate.Proofs.Numerals

/-!
# Overlaying properties

Properties put over a configuration change the settings whose property counts, and no others
(`Config.merge_eq`). What they do can therefore be said on the properties alone: put over a
configuration one after the other, they do what the first ones do with the counting ones of the
second put over them. What counts is never blank, so a configuration that can be used stays one, and
a gate can be made from it.
-/

namespace ClusterGate

/-! ## Numbers of seconds -/

namespace Text

/-- The plus sign of a numeral adds nothing to the value of its characters. -/
theorem Numeral.digitsValue_eq {cs : List Char} {n : Nat} (h : Numeral cs n) :
    digitsValue cs = n := by
  obtain ⟨sign, digits, rfl, hsign | hsign, -, -, rfl⟩ := h
  · rw [hsign, List.nil_append]
  · rw [hsign]
    rfl

theorem readDecimal_toOption {cs : List Char} {n : Nat} :
    (readDecimal Config.secondsBound cs).toOption = some n ↔ Numeral cs n ∧ n < UInt64.size := by
  have hbound : 0 < Config.secondsBound := Nat.pow_pos (by decide)
  rw [show (n < UInt64.size) = (n < Config.secondsBound) from rfl, ← readDecimal_eq_ok_iff hbound]
  cases readDecimal Config.secondsBound cs <;> simp [Except.toOption]

theorem readDecimal_isSome {cs : List Char} :
    (readDecimal Config.secondsBound cs).toOption.isSome = true ↔
      ∃ n < UInt64.size, Numeral cs n := by
  simp only [Option.isSome_iff_exists, readDecimal_toOption, and_comm]

instance (cs : List Char) : Decidable (∃ n < UInt64.size, Numeral cs n) :=
  decidable_of_iff _ readDecimal_isSome

theorem readDecimal_toOption_eq (cs : List Char) :
    (readDecimal Config.secondsBound cs).toOption =
      if ∃ n < UInt64.size, Numeral cs n then some (digitsValue cs) else none := by
  split
  · next h =>
    obtain ⟨n, hn, hnumeral⟩ := h
    rw [hnumeral.digitsValue_eq]
    exact readDecimal_toOption.mpr ⟨hnumeral, hn⟩
  · next h => rwa [← readDecimal_isSome, Option.not_isSome_iff_eq_none] at h

end Text

/-! ## Properties that count -/

namespace Properties

def settingKeys : List String := [preferredAz, hostAzMap, checkInterval, commandNamespace]

/-- The property changes a setting: its key is the key of one and its value is not blank. An
interval in addition is a numeral of a number below 2 ^ 64. -/
def Counts (key value : String) : Prop :=
  key ∈ settingKeys ∧ Text.trim value.toList ≠ [] ∧
    (key = checkInterval → ∃ n < UInt64.size, Text.Numeral (Text.trim value.toList) n)

instance (key value : String) : Decidable (Counts key value) :=
  inferInstanceAs (Decidable (_ ∧ _ ∧ _))

/-- The value of a property that counts. -/
def counting (props : Properties) (key : String) : Option String :=
  (props.get? key).filter fun value => Counts key value

/-- The properties with those of others that count put over them. -/
def overlaidBy (p q : Properties) : Properties :=
  settingKeys.foldl (fun props key => (q.counting key).elim props (props.insert key)) p

theorem counts_of_counting {props : Properties} {key value : String}
    (h : props.counting key = some value) : Counts key value :=
  of_decide_eq_true (Option.filter_eq_some_iff.mp h).2

theorem counting_eq_none {key : String} (h : key ∉ settingKeys) (props : Properties) :
    props.counting key = none := by
  rw [Option.eq_none_iff_forall_ne_some]
  exact fun value hvalue => h (counts_of_counting hvalue).1

theorem get?_put (props : Properties) (key key' : String) (found : Option String) :
    (found.elim props (props.insert key)).get? key' =
      if key' = key then found.or (props.get? key') else props.get? key' := by
  cases found with
  | none => simp
  | some value => simp [Dict.get?_insert]

theorem get?_foldl_put (q p : Properties) (keys : List String) (key : String) :
    (keys.foldl (fun props key => (q.counting key).elim props (props.insert key)) p).get? key =
      if key ∈ keys then (q.counting key).or (p.get? key) else p.get? key := by
  induction keys generalizing p with
  | nil => rfl
  | cons first rest ih =>
    rw [List.foldl_cons, ih, get?_put]
    by_cases hfirst : key = first
    · subst hfirst
      rw [if_pos rfl, if_pos List.mem_cons_self, ← Option.or_assoc, Option.or_self, ite_self]
    · simp only [List.mem_cons, hfirst, false_or, if_false]

/-- Look-up finds what counts of the properties put over, and else what was there. -/
theorem get?_overlaidBy (p q : Properties) (key : String) :
    (p.overlaidBy q).get? key = (q.counting key).or (p.get? key) := by
  rw [overlaidBy, get?_foldl_put]
  split
  · rfl
  · next h => rw [counting_eq_none h, Option.none_or]

/-- Where both have a value that counts, the second one does. -/
theorem counting_overlaidBy (p q : Properties) (key : String) :
    (p.overlaidBy q).counting key = (q.counting key).or (p.counting key) := by
  rw [counting, get?_overlaidBy]
  cases h : q.counting key with
  | none => rfl
  | some value =>
    rw [Option.some_or, Option.some_or, Option.filter_some, if_pos]
    exact decide_eq_true (counts_of_counting h)

/-- A property that does not count is as good as one that is missing. -/
theorem counting_erase {props : Properties} {key : String} (h : props.counting key = none)
    (key' : String) : counting (props.erase key) key' = props.counting key' := by
  rw [counting, Dict.get?_erase]
  split
  · next heq => rw [heq, h, Option.filter_none]
  · rfl

/-! ## What properties ask for -/

theorem counting_of_get? {props : Properties} {key value : String}
    (h : props.get? key = some value) :
    props.counting key = if Counts key value then some value else none := by
  rw [counting, h, Option.filter_some]
  simp only [decide_eq_true_eq]

theorem counting_of_get?_eq_none {props : Properties} {key : String} (h : props.get? key = none) :
    props.counting key = none := by
  rw [counting, h, Option.filter_none]

/-- A property with a text for its value asks for the text without its outer blanks. -/
theorem effective?_eq_counting (props : Properties) {key : String} (hkey : key ∈ settingKeys)
    (hne : key ≠ checkInterval) :
    props.effective? key = (props.counting key).map Text.trimmed := by
  rw [effective?]
  cases hget : props.get? key with
  | none => rw [counting_of_get?_eq_none hget, Option.bind_none, Option.map_none]
  | some value =>
    have hcounts : Counts key value ↔ ¬Text.allBlank value.toList = true := by
      simp only [Counts, hkey, hne, Ne, Text.trim_eq_nil, true_and, false_implies, and_true]
    rw [counting_of_get? hget, Option.bind_some, Text.nonBlank?]
    by_cases hblank : Text.allBlank value.toList = true
    · rw [if_pos hblank, if_neg (by simp [hcounts, hblank]), Option.map_none]
    · rw [if_neg hblank, if_pos (hcounts.mpr hblank), Option.map_some]

end Properties

namespace Config

/-! ## What overlaying does -/

/-- The interval that properties ask for is the number that the counting one is a numeral of. -/
theorem interval?_eq_counting (props : Properties) :
    (interval? props).bind (·.2.toOption) =
      (props.counting Properties.checkInterval).map fun value =>
        Text.digitsValue (Text.trim value.toList) := by
  rw [interval?, Properties.effective?]
  cases hget : props.get? Properties.checkInterval with
  | none =>
    rw [Properties.counting_of_get?_eq_none hget]
    rfl
  | some value =>
    have hcounts : Properties.Counts Properties.checkInterval value ↔
        ¬Text.allBlank value.toList = true ∧
          ∃ n < UInt64.size, Text.Numeral (Text.trim value.toList) n := by
      rw [← Text.trim_eq_nil]
      exact ⟨fun h => ⟨h.2.1, h.2.2 rfl⟩, fun h => ⟨by decide, h.1, fun _ => h.2⟩⟩
    rw [Properties.counting_of_get? hget, Option.bind_some, Text.nonBlank?]
    by_cases hblank : Text.allBlank value.toList = true
    · rw [if_pos hblank, if_neg fun h => (hcounts.mp h).1 hblank]
      rfl
    · simp only [hcounts, hblank, Text.trimmed, String.toList_ofList, Option.map_some,
        Option.bind_some, Text.readDecimal_toOption_eq, not_false_eq_true, true_and, if_false,
        apply_ite (Option.map _), Option.map_none, Bool.false_eq_true]

/-- Every setting is what the property of its key asks for, if it counts, and else what it was. -/
theorem merge_eq (config : Config) (props : Properties) :
    config.merge props = {
      preferredAz := ((props.counting Properties.preferredAz).map Text.trimmed).or
        config.preferredAz
      hostAzMap := ((props.counting Properties.hostAzMap).map Text.trimmed).or config.hostAzMap
      checkInterval := ((props.counting Properties.checkInterval).map fun value =>
        Text.digitsValue (Text.trim value.toList)).getD config.checkInterval
      commandNamespace := ((props.counting Properties.commandNamespace).map Text.trimmed).getD
        config.commandNamespace } := by
  rw [merge, interval?_eq_counting, Properties.effective?_eq_counting props (by decide) (by decide),
    Properties.effective?_eq_counting props (by decide) (by decide),
    Properties.effective?_eq_counting props (by decide) (by decide)]

/-- Of properties only the values that count enter a configuration. -/
theorem merge_congr {p q : Properties} (h : ∀ key, p.counting key = q.counting key)
    (config : Config) : config.merge p = config.merge q := by
  simp only [merge_eq, h]

theorem merge_of_counting_eq_none {props : Properties} (h : ∀ key, props.counting key = none)
    (config : Config) : config.merge props = config := by
  simp only [merge_eq, h, Option.map_none, Option.none_or, Option.getD_none]

/-- Overlaying two properties in turn is overlaying one by the other first. -/
theorem merge_merge (config : Config) (p q : Properties) :
    (config.merge p).merge q = config.merge (p.overlaidBy q) := by
  simp only [merge_eq, Properties.counting_overlaidBy, Option.map_or, Option.or_assoc,
    Option.getD_or]

theorem merge_self (config : Config) (props : Properties) :
    (config.merge props).merge props = config.merge props := by
  rw [merge_merge]
  refine merge_congr (fun key => ?_) config
  rw [Properties.counting_overlaidBy, Option.or_self]

/-! ## Configurations that can be used -/

theorem validate_eq_ok_iff {config : Config} :
    config.validate = .ok () ↔ Text.allBlank config.commandNamespace.toList = false := by
  rw [validate]
  split <;> simp_all

theorem not_allBlank_of_counting {props : Properties} {key value : String}
    (h : props.counting key = some value) :
    Text.allBlank (Text.trimmed value).toList = false := by
  have hne := (Properties.counts_of_counting h).2.1
  rw [Ne, Text.trim_eq_nil] at hne
  rw [Text.trimmed, String.toList_ofList, Text.allBlank_trim]
  exact Bool.eq_false_iff.mpr hne

/-- A usable configuration stays usable, since a blank namespace does not count. -/
theorem validate_merge {config : Config} (h : config.validate = .ok ()) (props : Properties) :
    (config.merge props).validate = .ok () := by
  rw [validate_eq_ok_iff] at h ⊢
  rw [merge_eq]
  cases hcounting : props.counting Properties.commandNamespace with
  | none => exact h
  | some value => exact not_allBlank_of_counting hcounting

theorem validate_ofProperties (props : Properties) : (ofProperties props).validate = .ok () :=
  validate_merge (by decide) props

theorem ofConfig_of_validate {config : Config} (h : config.validate = .ok ()) :
    ∃ gate, Gate.ofConfig config = .ok gate := by
  rw [validate_eq_ok_iff] at h
  rw [Gate.ofConfig, Namespace.ofText, Text.nonBlank?, h]
  exact ⟨_, rfl⟩

/-- A blank namespace is what both checks refuse. -/
theorem validate_iff_ofConfig {config : Config} :
    config.validate = .ok () ↔ Gate.ofConfig config ≠ .error (.badConfig {}) := by
  constructor
  · intro h
    obtain ⟨gate, hgate⟩ := ofConfig_of_validate h
    rw [hgate]
    simp
  · intro h
    rw [validate_eq_ok_iff, ← Bool.not_eq_true]
    intro hblank
    refine h ?_
    rw [Gate.ofConfig, Namespace.ofText, Text.nonBlank?, if_pos hblank]

/-- Every setting is what the counting property of its key asks for. Properties act on
configurations as their overlays do, those that do not count change nothing, and none makes a
configuration invalid, which is what would keep a gate from being made. -/
theorem merge_laws (config : Config) (p q : Properties) :
    config.merge p = {
      preferredAz := ((p.counting Properties.preferredAz).map Text.trimmed).or config.preferredAz
      hostAzMap := ((p.counting Properties.hostAzMap).map Text.trimmed).or config.hostAzMap
      checkInterval := ((p.counting Properties.checkInterval).map fun value =>
        Text.digitsValue (Text.trim value.toList)).getD config.checkInterval
      commandNamespace := ((p.counting Properties.commandNamespace).map Text.trimmed).getD
        config.commandNamespace } ∧
    (config.merge p).merge q = config.merge (p.overlaidBy q) ∧
    (∀ key, (p.overlaidBy q).get? key = (q.counting key).or (p.get? key)) ∧
    (config.merge p).merge p = config.merge p ∧
    ((∀ key, p.counting key = q.counting key) → config.merge p = config.merge q) ∧
    (∀ key, p.counting key = none → config.merge (p.erase key) = config.merge p) ∧
    ((∀ key, p.counting key = none) → config.merge p = config) ∧
    (config.validate = .ok () → (config.merge p).validate = .ok ()) ∧
    (ofProperties p).validate = .ok () ∧
    (config.validate = .ok () ↔ Gate.ofConfig config ≠ .error (.badConfig {})) ∧
    (config.validate = .ok () → ∃ gate, Gate.ofConfig (config.merge p) = .ok gate) ∧
    ∃ gate, Gate.ofConfig (ofProperties p) = .ok gate :=
  ⟨merge_eq config p, merge_merge config p q, Properties.get?_overlaidBy p q, merge_self config p,
    fun h => merge_congr h config, fun _ h => merge_congr (Properties.counting_erase h) config,
    fun h => merge_of_counting_eq_none h config, fun h => validate_merge h p,
    validate_ofProperties p, validate_iff_ofConfig,
    fun h => ofConfig_of_validate (validate_merge h p),
    ofConfig_of_validate (validate_ofProperties p)⟩

/-- Properties with blanks around their values, and the largest number of seconds. -/
def paddedSettings : Properties :=
  .ofList [(Properties.preferredAz, " us-east-1a\u3000"),
    (Properties.checkInterval, "\t+018446744073709551615 ")]

/-- Properties of which the namespace counts. -/
def spoiltSettings : Properties :=
  .ofList [(Properties.preferredAz, "\u2003"), (Properties.commandNamespace, " ns"),
    (Properties.checkInterval, "18446744073709551616"), ("preferredaz", "us-east-1b")]

theorem merge_laws_spoilt :
    default.validate = .ok () ∧
    spoiltSettings.counting Properties.checkInterval = none ∧
    (default.merge paddedSettings).merge spoiltSettings =
      ⟨some "us-east-1a", none, 18446744073709551615, "ns"⟩ ∧
    default.merge (spoiltSettings.erase Properties.checkInterval) =
      default.merge spoiltSettings ∧
    ∃ gate, Gate.ofConfig (default.merge spoiltSettings) = .ok gate := by
  have hspoilt : spoiltSettings.counting Properties.checkInterval = none := by decide +kernel
  have hvalid : default.validate = .ok () := by decide
  obtain ⟨-, hmerge, -⟩ := merge_laws default paddedSettings spoiltSettings
  obtain ⟨-, -, -, -, -, herase, -, -, -, -, hgate, -⟩ :=
    merge_laws default spoiltSettings paddedSettings
  refine ⟨hvalid, hspoilt, ?_, herase _ hspoilt, hgate hvalid⟩
  rw [hmerge]
  decide +kernel

end Config

end ClusterGate
