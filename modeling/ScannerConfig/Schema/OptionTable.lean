import ScannerConfig.Json.Value

namespace ScannerConfig

/-- The value of an option. -/
inductive Setting where
  | toggle (value : Bool)
  | number (value : Nat)
  | text (value : String)
  deriving DecidableEq, Repr

/-- The kind of value that an option takes; numbers are unsigned and have a width in bits. -/
inductive SettingKind where
  | toggle
  | number (bits : Nat)
  | text
  deriving DecidableEq, Repr

def Setting.toJson : Setting → Json
  | .toggle value => .bool value
  | .number value => .ofNat value
  | .text value => .string value

structure OptionRow where
  key : String
  kind : SettingKind
  default : Setting
  deriving DecidableEq, Repr

namespace OptionRow

def toggle (key : String) (value : Bool) : OptionRow :=
  ⟨key, .toggle, .toggle value⟩

def number (key : String) (bits value : Nat) : OptionRow :=
  ⟨key, .number bits, .number value⟩

def text (key : String) (value : String) : OptionRow :=
  ⟨key, .text, .text value⟩

end OptionRow

/-- The canonical options in their order. -/
def optionTable : List OptionRow := [
  .number "defaultSystemDelay" 64 0,
  .number "dimmerDelay" 64 5000,
  .number "duplicateDetectionTimeFrame" 64 500,
  .text "baseUrl" "",
  .text "branding" "",
  .text "email" "",
  .text "keypadBeeps" "uniden",
  .number "maxClients" 32 200,
  .toggle "playbackGoesLive" false,
  .number "pruneDays" 32 7,
  .toggle "showListenersCount" false,
  .toggle "sortTalkgroups" false,
  .toggle "time12hFormat" false,
  .toggle "userRegistrationEnabled" false,
  .toggle "publicRegistrationEnabled" false,
  .text "publicRegistrationMode" "both",
  .toggle "stripePaywallEnabled" false,
  .text "stripePublishableKey" "",
  .text "stripeSecretKey" "",
  .number "stripeGracePeriodDays" 32 0,
  .toggle "emailServiceEnabled" false,
  .text "emailProvider" "sendgrid",
  .text "emailSmtpHost" "",
  .number "emailSmtpPort" 16 587,
  .toggle "radioReferenceEnabled" false,
  .text "radioReferenceUsername" ""]

def optionKeys : List String :=
  optionTable.map OptionRow.key

/-- Keys of options that no longer exist. -/
def obsoleteOptions : List String :=
  ["afsSystems", "disableAudioConversion", "tagsToggle"]

/-- The canonical options with the values they start from. -/
def defaultOptions : Entries Json :=
  optionTable.map fun row => (row.key, row.default.toJson)

theorem optionKeys_nodup : optionKeys.Nodup := by decide

theorem obsolete_not_canonical : ∀ key ∈ obsoleteOptions, key ∉ optionKeys := by decide

end ScannerConfig
