import Allgres.Dashboard.Governance
import Allgres.Lib.JsonEquality

/-! What the model configuration of a policy may hold, and what merging two of them gives. -/

namespace Allgres

open Jsonb Sql

/-- The keys that `sanitize_llm_config` keeps, in the order of `jsonb`. -/
def configKeys : List String := ["model", "provider", "max_tokens", "temperature"]

/-- A value as it is kept: a text that is empty counts as missing. -/
def configField (key : String) (value : Option Json) : Json :=
  if key = "model" ∨ key = "provider" then .optStr (nonEmpty (value.bind Json.asText)) else value.getD .null

theorem sanitizeLlmConfig_eq (config : Json) : sanitizeLlmConfig config =
    .ofKeys configKeys fun key => Json.present (configField key (config.get? key)) := by
  have form : sanitizeLlmConfig config =
      .obj (Json.stripFields (configKeys.map fun key => (key, configField key (config.get? key)))) := rfl
  rw [form, Json.stripFields_eq_filterMap, List.filterMap_map]
  rfl

theorem nonEmpty_nonEmpty (text : Option String) : nonEmpty (nonEmpty text) = nonEmpty text := by
  cases text with
  | none => rfl
  | some text =>
    by_cases empty : (text == "") = true
    · simp [nonEmpty, empty]
    · simp [nonEmpty, empty]

/-- A value that has been kept is kept as it is. -/
theorem present_configField (key : String) (value : Option Json) :
    Json.present (configField key (Json.present (configField key value))) = Json.present (configField key value) := by
  by_cases text : key = "model" ∨ key = "provider"
  · simp only [configField, if_pos text]
    have again := nonEmpty_nonEmpty (value.bind Json.asText)
    cases kept : nonEmpty (value.bind Json.asText) with
    | none => rfl
    | some text =>
      rw [kept] at again
      simp [Json.optStr, Json.ofOption, Json.present, Json.stripNulls, Json.asText, again]
  · simp only [configField, if_neg text]
    exact Json.present_present _

/-- A configuration that `sanitize_llm_config` leaves as it is. -/
def Canonical (config : Json) : Prop := sanitizeLlmConfig config = config

theorem canonical_sanitizeLlmConfig (config : Json) : Canonical (sanitizeLlmConfig config) := by
  rw [Canonical, sanitizeLlmConfig_eq (sanitizeLlmConfig config)]
  conv_rhs => rw [sanitizeLlmConfig_eq]
  refine Json.ofKeys_congr fun key listed => ?_
  rw [sanitizeLlmConfig_eq, Json.get?_ofKeys listed]
  exact present_configField key _

theorem canonical_mergedConfig {policy : PolicyRow} (canonical : Canonical policy.llmConfig) (config : Option Json) :
    Canonical (mergedConfig policy config) := by
  cases config with
  | none => exact canonical
  | some config => exact canonical_sanitizeLlmConfig _

section Canonical

variable {config live filed : Json}

theorem Canonical.present_get? (canonical : Canonical config) {key : String} (listed : key ∈ configKeys) :
    Json.present (configField key (config.get? key)) = config.get? key := by
  have kept := @Json.get?_ofKeys _ (fun key => Json.present (configField key (config.get? key))) _ listed
  rw [← sanitizeLlmConfig_eq, canonical] at kept
  exact kept.symm

theorem Canonical.eq_ofKeys (canonical : Canonical config) : config = .ofKeys configKeys config.get? := by
  have kept : sanitizeLlmConfig config = .ofKeys configKeys config.get? := by
    rw [sanitizeLlmConfig_eq]
    exact Json.ofKeys_congr fun key listed => canonical.present_get? listed
  exact canonical.symm.trans kept

theorem Canonical.keys_subset (canonical : Canonical config) : config.keys ⊆ configKeys := by
  rw [canonical.eq_ofKeys, Json.keys_ofKeys]
  exact fun key member => (List.mem_filter.mp member).1

theorem Canonical.mem_keys (canonical : Canonical config) {key : String} (listed : key ∈ configKeys) :
    key ∈ config.keys ↔ (config.get? key).isSome = true := by
  conv_lhs => rw [canonical.eq_ofKeys]
  exact Json.mem_keys_ofKeys listed

/-- Merged over a live configuration, a filed one leaves those live values for which it has none. -/
theorem sanitizeLlmConfig_concat (now : Canonical live) (before : Canonical filed) :
    sanitizeLlmConfig (live.concat filed) = .ofKeys configKeys fun key => (filed.get? key).or (live.get? key) := by
  rw [sanitizeLlmConfig_eq]
  refine Json.ofKeys_congr fun key listed => ?_
  have merged : (live.concat filed).get? key = (filed.get? key).or (live.get? key) := by
    conv_lhs => rw [now.eq_ofKeys, before.eq_ofKeys]
    exact Json.get?_concat_ofKeys (by decide) listed
  rw [merged]
  cases value : filed.get? key with
  | none => exact now.present_get? listed
  | some value' =>
    rw [Option.some_or, ← value]
    exact before.present_get? listed

/-- A filed configuration comes back if it has a value for every key of the live one. -/
theorem restores_config_iff (now : Canonical live) (before : Canonical filed) :
    (sanitizeLlmConfig (live.concat filed)).same filed = true ↔ live.keys ⊆ filed.keys := by
  rw [sanitizeLlmConfig_concat now before]
  constructor
  · intro same key held
    have listed := now.keys_subset held
    have alike : (Json.ofKeys configKeys fun key => (filed.get? key).or (live.get? key)).same
        (.ofKeys configKeys filed.get?) = true := by
      rw [← before.eq_ofKeys]
      exact same
    have both := Json.isSome_of_same_ofKeys alike listed
    obtain ⟨value, here⟩ := Option.isSome_iff_exists.mp ((now.mem_keys listed).mp held)
    rw [before.mem_keys listed, ← both, here]
    cases filed.get? key <;> rfl
  · intro subset
    have kept : Json.ofKeys configKeys (fun key => (filed.get? key).or (live.get? key)) = filed := by
      rw [before.eq_ofKeys]
      refine Json.ofKeys_congr fun key listed => ?_
      rw [Json.get?_ofKeys listed]
      cases value : filed.get? key with
      | some value' => rfl
      | none =>
        cases live' : live.get? key with
        | none => rfl
        | some held =>
          have member := subset ((now.mem_keys listed).mpr (by rw [live']; rfl))
          rw [before.mem_keys listed, value] at member
          cases member
    rw [kept]
    exact Json.same_refl filed

end Canonical

end Allgres
