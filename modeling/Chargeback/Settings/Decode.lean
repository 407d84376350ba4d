import Chargeback.Pricing.Decode
import Chargeback.Settings.Basic
import Chargeback.Settings.Layer

/-!
# Reading settings

The tree of settings is read into `Settings`. What is missing has its default, and what has no place
is ignored.
-/

namespace Chargeback

/-- Reads a price list. -/
def CustomPricing.ofSetting? (v : Setting) : Option CustomPricing := do
  ofFound? Setting.bool? Setting.text? (← v.fields? fields)

/-- Reads the sharing. -/
def SharedSettings.ofSetting? (v : Setting) : Option SharedSettings := do
  let found ← v.fields? ["enabled", "namespaces", "label_names", "label_values"]
  let texts (name : String) := found.withDefault name Setting.texts? []
  return {
    enabled := ← found.withDefault "enabled" Setting.bool? false
    namespaces := ← texts "namespaces"
    labelNames := ← texts "label_names"
    labelValues := ← texts "label_values" }

/-- Reads the configuration. -/
def Settings.ofSetting? (v : Setting) : Option Settings := do
  let found ← v.fields? ["discount", "rate", "window", "custom_pricing", "shared_resources"]
  let default : Settings := {}
  return {
    discount := ← found.withDefault "discount" Setting.number? default.discount
    rate := ← found.withDefault "rate" Setting.text? default.rate
    window := ← found.withDefault "window" Setting.text? default.window
    customPricing := ←
      found.withDefault "custom_pricing" (Setting.nullable? CustomPricing.ofSetting?) none
    shared := ← found.withDefault "shared_resources" SharedSettings.ofSetting? default.shared }

theorem Settings.ofSetting?_empty : Settings.ofSetting? (.table []) = some {} := rfl

end Chargeback
