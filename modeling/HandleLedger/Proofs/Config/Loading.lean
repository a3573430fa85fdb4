import HandleLedger.Interception.Layer
import HandleLedger.Toml.Document

/-!
# What becomes of a configuration file

A file that exists is heeded if its configuration is taken over, or if the log says that it is not
(`Config.Heeded`). The main statement, `heeded_iff_text`, says that this is so exactly for the files
that are texts. Any other file is passed over in silence, as if there were none. Nothing is asked of
the decoder of documents.
-/

set_option autoImplicit false

namespace HandleLedger.Config

/-- Either the file spells a configuration, which holds and leaves nothing in the log, or the
default holds and the log has one entry, the warning that the file is ignored. -/
def Heeded (toml : Toml.Decoder) (path : String) (bytes : ByteArray) : Prop :=
  (∃ (text : String) (config : Config), text.toUTF8 = bytes ∧ parse? toml text = some config ∧
    loadOrDefault toml path (some bytes) = (config, [])) ∨
  ∃ warning : Log, loadOrDefault toml path (some bytes) = (default, [warning]) ∧
    warning.level = .warn ∧ warning.message = "ignoring malformed tracker configuration"

/-! ## Bytes and texts -/

theorem fromUTF8?_eq_some_iff {bytes : ByteArray} {text : String} :
    String.fromUTF8? bytes = some text ↔ text.toUTF8 = bytes := by
  rw [String.fromUTF8?]
  constructor
  · intro h
    split at h
    · cases h
      rfl
    · cases h
  · rintro rfl
    exact dif_pos text.isValidUTF8

theorem fromUTF8?_eq_none_iff {bytes : ByteArray} :
    String.fromUTF8? bytes = none ↔ ∀ text : String, text.toUTF8 ≠ bytes := by
  rw [Option.eq_none_iff_forall_ne_some]
  exact forall_congr' fun text => not_congr fromUTF8?_eq_some_iff

/-! ## The cases of a file -/

section Cases

variable {toml : Toml.Decoder} {path : String} {bytes : ByteArray} {text : String}
  {config : Config}

theorem loadOrDefault_of_not_text (h : ∀ text : String, text.toUTF8 ≠ bytes) :
    loadOrDefault toml path (some bytes) = (default, []) := by
  rw [loadOrDefault, load, fromUTF8?_eq_none_iff.mpr h]

theorem loadOrDefault_of_spelled (htext : text.toUTF8 = bytes)
    (h : parse? toml text = some config) :
    loadOrDefault toml path (some bytes) = (config, []) := by
  rw [loadOrDefault, load, fromUTF8?_eq_some_iff.mpr htext]
  simp only [h]

theorem loadOrDefault_of_malformed (htext : text.toUTF8 = bytes) (h : parse? toml text = none) :
    loadOrDefault toml path (some bytes) =
      (default, [.malformedConfig path (LoadError.malformed (toml.complaint text)).message]) := by
  rw [loadOrDefault, load, fromUTF8?_eq_some_iff.mpr htext]
  simp only [h]

theorem heeded_of_text (htext : text.toUTF8 = bytes) : Heeded toml path bytes := by
  cases h : parse? toml text with
  | none => exact Or.inr ⟨_, loadOrDefault_of_malformed htext h, rfl, rfl⟩
  | some config => exact Or.inl ⟨text, config, htext, h, loadOrDefault_of_spelled htext h⟩

end Cases

/-- A file that exists is heeded exactly if its bytes are a text. One whose bytes are no text is
passed over like one that does not exist: the default holds and nothing is logged. The same goes
for a text only if it spells the default. -/
theorem heeded_iff_text (toml : Toml.Decoder) (path : String) (bytes : ByteArray) :
    (Heeded toml path bytes ↔ ∃ text : String, text.toUTF8 = bytes) ∧
    loadOrDefault toml path none = (default, []) ∧
    ((∀ text : String, text.toUTF8 ≠ bytes) →
      loadOrDefault toml path (some bytes) = loadOrDefault toml path none) ∧
    (loadOrDefault toml path (some bytes) = (default, []) ↔
      (∀ text : String, text.toUTF8 ≠ bytes) ∨
        ∃ text : String, text.toUTF8 = bytes ∧ parse? toml text = some default) := by
  refine ⟨?heeded, rfl, loadOrDefault_of_not_text, ?silent⟩
  case heeded =>
    constructor
    · rintro (⟨text, config, htext, -⟩ | ⟨warning, hload, -⟩)
      · exact ⟨text, htext⟩
      · -- a file that is no text would have left nothing in the log
        apply Classical.byContradiction
        intro hnot
        rw [loadOrDefault_of_not_text (not_exists.mp hnot)] at hload
        cases hload
    · rintro ⟨text, htext⟩
      exact heeded_of_text htext
  case silent =>
    constructor
    · intro hload
      by_cases htext : ∃ text : String, text.toUTF8 = bytes
      · obtain ⟨text, htext⟩ := htext
        refine Or.inr ⟨text, htext, ?_⟩
        cases h : parse? toml text with
        | none =>
          rw [loadOrDefault_of_malformed htext h] at hload
          cases hload
        | some config =>
          rw [loadOrDefault_of_spelled htext h] at hload
          cases hload
          rfl
      · exact Or.inl (not_exists.mp htext)
    · rintro (hnot | ⟨text, htext, h⟩)
      · exact loadOrDefault_of_not_text hnot
      · exact loadOrDefault_of_spelled htext h

/-- A file in an encoding of one byte for each character, whose comment ends in an accented
letter. -/
def accentedFile : ByteArray :=
  "[report]\nskip_on_error = false # Caf".toUTF8 ++ ⟨#[0xe9, 0x0a]⟩

/-- The file says that errors block no calls, but they do, and the log does not say why. -/
theorem accented_file_passed_over :
    let toml := Toml.Document.decoder fun _ => "no configuration"
    parse? toml "[report]\nskip_on_error = false # Caf" =
        some ⟨⟨Reporting.defaultFlags, false⟩⟩ ∧
      (loadOrDefault toml localPath (some accentedFile)).1.report.skipOnError = true ∧
      (loadOrDefault toml localPath (some accentedFile)).2 = [] ∧
      ¬Heeded toml localPath accentedFile := by
  intro toml
  have hnot : ∀ text : String, text.toUTF8 ≠ accentedFile :=
    fromUTF8?_eq_none_iff.mp (by decide +kernel)
  obtain ⟨hheeded, -, hsilent, -⟩ := heeded_iff_text toml localPath accentedFile
  have hload := hsilent hnot
  refine ⟨by decide +kernel, ?_, ?_, ?_⟩
  · rw [hload]
    rfl
  · rw [hload]
    rfl
  · intro h
    obtain ⟨text, htext⟩ := hheeded.mp h
    exact hnot text htext

/-- Whatever is logged while the layer is loaded names the path of its configuration. -/
theorem path_mem_fields (toml : Toml.Decoder) (env : Environment) :
    ∀ entry ∈ (Layer.ofEnvironment toml env).2, ("path", path env) ∈ entry.fields := by
  have hload : ∀ entry ∈ (loadOrDefault toml (path env) (env.contents (path env))).2,
      ("path", path env) ∈ entry.fields := by
    intro entry hentry
    rw [loadOrDefault] at hentry
    split at hentry
    · cases hentry
    · rw [List.mem_singleton.mp hentry]
      exact List.mem_cons_self
    · cases hentry
  intro entry hentry
  rcases List.mem_append.mp hentry with hentry | hentry
  · exact hload entry hentry
  · rw [List.mem_singleton.mp hentry]
    exact List.mem_singleton_self _

end HandleLedger.Config
