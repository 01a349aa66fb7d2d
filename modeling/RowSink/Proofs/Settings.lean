import Mathlib.Data.List.Basic
import RowSink.Configuration

/-!
# What a configuration depends on

Whatever pairs an environment holds, and in whatever order, a configuration comes from one text for
each setting: the last one given, without the blanks around it. A setting that is blank or not given
at all has the empty text. The name of the partition column is not looked at unless the table is
partitioned, nor the place and the choice of metadata unless there are any.
-/

namespace RowSink

namespace Environment

/-- The last text that is given for a setting, without the blanks around it. -/
def text (env : Environment) (setting : Setting) : String :=
  ((env.filter fun pair => pair.1 == setting.key).getLast?.map fun pair =>
    Text.trim pair.2).getD ""

/-- Whether a setting is looked at. -/
def Consults (env : Environment) : Setting → Prop
  | .partitionKey => env.text .partitioning = "true"
  | .metadataNamespace | .metadataColumns => env.text .addMetadata = "true"
  | _ => True

section Texts

/-- The last value of a key is the value of the last pair that has the key. -/
theorem lastValue?_eq (key : String) (env : Environment) :
    lastValue? key env = (env.filter fun pair => pair.1 == key).getLast?.map (·.2) := by
  induction env with
  | nil => rfl
  | cons pair rest ih =>
    obtain ⟨other, value⟩ := pair
    rw [lastValue?, ih, List.filter_cons]
    by_cases hkey : other = key
    · rw [if_pos hkey, if_pos (beq_iff_eq.mpr hkey), List.getLast?_cons]
      cases (rest.filter fun pair => pair.1 == key).getLast? <;> rfl
    · rw [if_neg hkey, if_neg (by simpa using hkey)]
      cases (rest.filter fun pair => pair.1 == key).getLast? <;> rfl

/-- A setting has a value if its text is not empty, and then the value is the text. -/
theorem get?_eq (env : Environment) (setting : Setting) :
    env.get? setting = if env.text setting = "" then none else some (env.text setting) := by
  rw [get?, lastValue?_eq, text]
  cases (env.filter fun pair => pair.1 == setting.key).getLast? with
  | none => rfl
  | some pair => rfl

/-- A flag is on if its text says so, and in no other way. -/
theorem flag_eq_ok_true_iff (env : Environment) (setting : Setting) :
    env.flag setting = .ok true ↔ env.text setting = "true" := by
  rw [flag, get?_eq]
  by_cases hempty : env.text setting = ""
  · rw [if_pos hempty, hempty]
    refine iff_of_false (fun hflag => ?_) (by decide)
    cases hflag
  · rw [if_neg hempty]
    dsimp only
    by_cases htrue : env.text setting = "true"
    · rw [if_pos htrue]
      exact iff_of_true rfl htrue
    · rw [if_neg htrue]
      refine iff_of_false (fun hflag => ?_) htrue
      split at hflag <;> cases hflag

end Texts

section Agreement

variable {left right : Environment} {setting : Setting}

theorem get?_congr (htext : left.text setting = right.text setting) :
    left.get? setting = right.get? setting := by
  rw [get?_eq, get?_eq, htext]

theorem require_congr (htext : left.text setting = right.text setting) :
    left.require setting = right.require setting := by
  rw [require, require, get?_congr htext]

theorem flag_congr (htext : left.text setting = right.text setting) :
    left.flag setting = right.flag setting := by
  rw [flag, flag, get?_congr htext]

end Agreement

end Environment

namespace Configuration

open Environment

variable {left right : Environment}

/-- A name for the partition column counts for nothing while partitioning is off. -/
theorem loadPartitionKey_congr
    (hflag : left.text .partitioning = right.text .partitioning)
    (hkey : left.text .partitioning = "true" →
      left.text .partitionKey = right.text .partitionKey) :
    loadPartitionKey left = loadPartitionKey right := by
  rw [loadPartitionKey, loadPartitionKey, ← flag_congr hflag]
  cases hpartitioned : left.flag .partitioning with
  | error failure => rfl
  | ok on =>
    cases on with
    | false => rfl
    | true =>
      have hread := (left.flag_eq_ok_true_iff .partitioning).mp hpartitioned
      rw [require_congr (hkey hread)]

/-- Where metadata go, and which, counts for nothing while none are added. -/
theorem loadMetadata_congr
    (hflag : left.text .addMetadata = right.text .addMetadata)
    (hnamespace : left.text .addMetadata = "true" →
      left.text .metadataNamespace = right.text .metadataNamespace)
    (hcolumns : left.text .addMetadata = "true" →
      left.text .metadataColumns = right.text .metadataColumns) :
    loadMetadata left = loadMetadata right := by
  rw [loadMetadata, loadMetadata, ← flag_congr hflag]
  cases hadded : left.flag .addMetadata with
  | error failure => rfl
  | ok on =>
    cases on with
    | false => rfl
    | true =>
      have hread := (left.flag_eq_ok_true_iff .addMetadata).mp hadded
      rw [get?_congr (hnamespace hread), get?_congr (hcolumns hread)]

theorem loadMode_congr (htext : left.text .messageMode = right.text .messageMode) :
    loadMode left = loadMode right := by
  rw [loadMode, loadMode, get?_congr htext]

theorem loadCodes_congr (htext : left.text .retryableCodes = right.text .retryableCodes) :
    loadCodes left = loadCodes right := by
  rw [loadCodes, loadCodes, get?_congr htext]

/-- Environments with the same texts for the settings that are looked at lead to the same
configuration or to the same error. -/
theorem load_eq_of_texts (hsame : ∀ setting, left.Consults setting →
    left.text setting = right.text setting) : load left = load right := by
  have hpartitionKey := loadPartitionKey_congr (hsame .partitioning trivial) (hsame .partitionKey)
  have hmetadata := loadMetadata_congr (hsame .addMetadata trivial) (hsame .metadataNamespace)
    (hsame .metadataColumns)
  rw [load, load, require_congr (hsame .project trivial), require_congr (hsame .dataset trivial),
    require_congr (hsame .table trivial), hpartitionKey, hmetadata,
    loadMode_congr (hsame .messageMode trivial), loadCodes_congr (hsame .retryableCodes trivial),
    require_congr (hsame .messageClass trivial), flag_congr (hsame .allowUnknownFields trivial)]

end Configuration

namespace Overrides

/-- The settings that a sink cannot do without, and metadata. -/
def plain : Environment :=
  [(Setting.project.key, "proj"), (Setting.dataset.key, "ds"), (Setting.table.key, "events"),
    (Setting.messageClass.key, "test.Event"), (Setting.addMetadata.key, "true"),
    (Setting.partitionKey.key, "Day")]

/-- The same settings in another order, with blanks, with values that do not last, with a key that
is none of a sink's, and with another partition column that is not looked at either. -/
def overridden : Environment :=
  [(Setting.table.key, "other"), (Setting.metadataNamespace.key, "meta"), ("HOME", "/root"),
    (Setting.addMetadata.key, "no"), (Setting.messageClass.key, "test.Event\n"),
    (Setting.partitioning.key, "true"), (Setting.table.key, "\tevents"),
    (Setting.partitioning.key, " "), (Setting.dataset.key, "ds"), (Setting.project.key, " proj "),
    (Setting.partitionKey.key, "Hour"), (Setting.metadataNamespace.key, ""),
    (Setting.addMetadata.key, "true ")]

def configuration : Configuration where
  table := ⟨"proj", "ds", "events"⟩
  messageClass := "test.Event"
  messageMode := .logMessage
  allowUnknownFields := false
  converter := { metadata := some ⟨none, MetadataConfig.defaultColumns⟩ }
  retryableCodes := []

/-- Two environments that differ in all that does not count. -/
theorem load_eq_of_texts_of_overridden :
    (∀ setting, plain.Consults setting → plain.text setting = overridden.text setting) ∧
      plain.text .partitionKey ≠ overridden.text .partitionKey ∧
      Configuration.load plain = .ok configuration ∧
      Configuration.load overridden = .ok configuration := by
  have hsame : ∀ setting, plain.Consults setting →
      plain.text setting = overridden.text setting := by
    intro setting hconsults
    cases setting with
    | partitionKey =>
      have hoff : plain.text .partitioning ≠ "true" := by decide
      exact absurd hconsults hoff
    | _ => decide
  have hplain : Configuration.load plain = .ok configuration := by rfl
  have hequal := Configuration.load_eq_of_texts hsame
  exact ⟨hsame, by decide, hplain, hequal.symm.trans hplain⟩

end Overrides

end RowSink
