import HandleLedger.Config
import HandleLedger.Proofs.Toml.Keys

/-!
# What a document says about reporting

Two keys matter, `flags` and `skip_on_error` of `report`. What they hold are the `Settings` of a
document. The main statement, `parse?_of_says`, reads the configuration off the settings alone: the
other entries may be anything, and all entries may stand in any order.

A look-up finds the first entry under a key. It finds the only one if no key of a document stands
twice. That is what is asked of the decoder of documents (`Toml.Decoder.Lawful`), and nothing else.
-/

set_option autoImplicit false

namespace HandleLedger

open Toml (Value Entries)

namespace Severity

theorem name_injective : Function.Injective name := by
  intro s t h
  cases s <;> cases t <;> first | rfl | exact absurd h (by decide)

theorem ofName?_eq_some_iff {text : String} {s : Severity} :
    ofName? text = some s ↔ s.name = text := by
  constructor
  · intro h
    rw [ofName?] at h
    simpa using List.find?_some h
  · rintro rfl
    cases s <;> decide

/-- The names that a configuration may use. -/
theorem exists_name_eq_iff {text : String} :
    (∃ s : Severity, s.name = text) ↔
      text ∈ ["information", "warning", "performance_warning", "error", "debug"] := by
  constructor
  · rintro ⟨s, rfl⟩
    cases s <;> decide
  · intro h
    have hname : text ∈ all.map name := h
    obtain ⟨s, -, hs⟩ := List.mem_map.mp hname
    exact ⟨s, hs⟩

end Severity

namespace Config

/-- The two keys that matter, as far as a document gives them. -/
structure Settings where
  flags : Option (List String)
  skipOnError : Option Bool

/-- The names of the severities that are logged. -/
def Settings.names (s : Settings) : List String := s.flags.getD ["error", "warning"]

/-- The entries give the key this value, or none at all. -/
def Gives (entries : Entries) (key : String) (value : Option Value) : Prop :=
  ∀ v, (key, v) ∈ entries ↔ value = some v

/-- The settings of a document whose `report` is absent or a table, in which `flags` is absent or an
array of strings and `skip_on_error` is absent or a truth value. -/
inductive Says (entries : Entries) : Settings → Prop
  | nothing (hreport : Gives entries "report" none) : Says entries ⟨none, none⟩
  | something (members : Entries) (flags : Option (List String)) (skip : Option Bool)
    (hreport : Gives entries "report" (some (.table members)))
    (hflags : Gives members "flags" (flags.map fun names => .array (names.map .string)))
    (hskip : Gives members "skip_on_error" (skip.map .boolean)) : Says entries ⟨flags, skip⟩

variable {toml : Toml.Decoder} {entries : Entries} {s : Settings}

/-! ## Reading the settings -/

/-- Where no key stands twice, a look-up finds what is given. -/
theorem gives_iff_lookup {key : String} {value : Option Value}
    (hkeys : (entries.map Prod.fst).Nodup) :
    Gives entries key value ↔ entries.lookup key = value := by
  rw [Option.ext_iff]
  exact forall_congr' fun v => iff_congr (Toml.lookup_eq_some_iff_mem hkeys).symm Iff.rfl

/-- The settings of a document in which no key stands twice are what look-ups find. -/
theorem says_of_lookup {members : Entries} {flags : Option (List String)} {skip : Option Bool}
    (hkeys : (entries.map Prod.fst).Nodup) (hmembers : (members.map Prod.fst).Nodup)
    (hreport : entries.lookup "report" = some (.table members))
    (hflags : members.lookup "flags" = flags.map fun names => .array (names.map .string))
    (hskip : members.lookup "skip_on_error" = skip.map .boolean) : Says entries ⟨flags, skip⟩ :=
  .something members flags skip ((gives_iff_lookup hkeys).mpr hreport)
    ((gives_iff_lookup hmembers).mpr hflags) ((gives_iff_lookup hmembers).mpr hskip)

/-- The severities that strings spell are the ones with these names, in the same order. -/
theorem mapM_severity?_eq_some_iff {names : List String} {flags : List Severity} :
    (names.map Value.string).mapM Reporting.severity? = some flags ↔
      flags.map Severity.name = names := by
  induction names generalizing flags with
  | nil => simp [eq_comm]
  | cons name names ih =>
    rw [List.map_cons, List.mapM_cons]
    constructor
    · intro h
      obtain ⟨s, hs, h⟩ := Option.bind_eq_some_iff.mp h
      obtain ⟨rest, hrest, h⟩ := Option.bind_eq_some_iff.mp h
      cases h
      rw [List.map_cons, Severity.ofName?_eq_some_iff.mp hs, ih.mp hrest]
    · intro h
      cases flags with
      | nil => cases h
      | cons s rest =>
        obtain ⟨hs, hrest⟩ := List.cons.inj h
        exact Option.bind_eq_some_iff.mpr ⟨s, Severity.ofName?_eq_some_iff.mpr hs,
          Option.bind_eq_some_iff.mpr ⟨rest, ih.mpr hrest, rfl⟩⟩

/-- The reporting with these settings. Each of them has a default of its own. -/
def Settings.Describe (s : Settings) (r : Reporting) : Prop :=
  r.flags.map Severity.name = s.names ∧ r.skipOnError = s.skipOnError.getD true

theorem ofMembers?_eq_some_iff {flags skip : Option Value} {r : Reporting} :
    Reporting.ofMembers? flags skip = some r ↔
      flags.elim (some Reporting.defaultFlags) Reporting.flags? = some r.flags ∧
        skip.elim (some true) Reporting.skip? = some r.skipOnError := by
  have heq : Reporting.ofMembers? flags skip =
      (flags.elim (some Reporting.defaultFlags) Reporting.flags?).bind fun flags =>
        (skip.elim (some true) Reporting.skip?).bind fun skip => some ⟨flags, skip⟩ := by
    cases flags <;> cases skip <;> rfl
  rw [heq]
  constructor
  · intro h
    obtain ⟨flags', hflags, h⟩ := Option.bind_eq_some_iff.mp h
    obtain ⟨skip', hskip, h⟩ := Option.bind_eq_some_iff.mp h
    cases h
    exact ⟨hflags, hskip⟩
  · rintro ⟨hflags, hskip⟩
    rw [hflags, hskip]
    rfl

theorem flags_eq_some_iff {flags : List Severity} :
    (s.flags.map fun names => .array (names.map .string)).elim (some Reporting.defaultFlags)
        Reporting.flags? = some flags ↔ flags.map Severity.name = s.names := by
  rw [Settings.names]
  cases s.flags with
  | none =>
    show some (Reporting.defaultFlags) = some flags ↔
      flags.map Severity.name = Reporting.defaultFlags.map Severity.name
    rw [Severity.name_injective.list_map.eq_iff, Option.some.injEq, eq_comm]
  | some names => exact mapM_severity?_eq_some_iff

theorem skip_eq_some_iff {skip : Bool} :
    (s.skipOnError.map Value.boolean).elim (some true) Reporting.skip? = some skip ↔
      skip = s.skipOnError.getD true := by
  cases s.skipOnError <;> simp [Reporting.skip?, eq_comm]

/-- A table of reporting is read as its settings say. -/
theorem describe_iff {r : Reporting} :
    Reporting.ofMembers? (s.flags.map fun names => .array (names.map .string))
        (s.skipOnError.map .boolean) = some r ↔ s.Describe r := by
  rw [ofMembers?_eq_some_iff, flags_eq_some_iff, skip_eq_some_iff]
  rfl

theorem map_mk_eq_some_iff {r : Option Reporting} {config : Config} :
    r.map Config.mk = some config ↔ r = some config.report := by
  obtain ⟨report⟩ := config
  simp

/-- The configuration of a document is the one with its settings. -/
theorem parse?_eq_some_iff (htoml : toml.Lawful) {text : String}
    (hdoc : toml.entries? text = some entries) (hs : Says entries s) {config : Config} :
    parse? toml text = some config ↔ s.Describe config.report := by
  obtain ⟨hkeys, hvalues⟩ := Toml.Value.distinct_table_iff.mp (htoml.distinct hdoc)
  have hparse : parse? toml text = ofEntries? entries := by
    rw [parse?, hdoc]
    rfl
  rw [hparse, ofEntries?, ← describe_iff]
  cases hs with
  | nothing hreport =>
    rw [(gives_iff_lookup hkeys).mp hreport]
    -- the default as a whole has the members that are the defaults of each for itself
    exact map_mk_eq_some_iff (r := some Reporting.default)
  | something members flags skip hreport hflags hskip =>
    have hmembers := (Toml.Value.distinct_table_iff.mp (hvalues _ ((hreport _).mpr rfl))).1
    rw [(gives_iff_lookup hkeys).mp hreport, ← (gives_iff_lookup hmembers).mp hflags,
      ← (gives_iff_lookup hmembers).mp hskip]
    exact map_mk_eq_some_iff

/-- Some severities have these names exactly if each is the name of one. -/
theorem exists_map_name_eq_iff {names : List String} :
    (∃ flags : List Severity, flags.map Severity.name = names) ↔
      ∀ name ∈ names,
        name ∈ ["information", "warning", "performance_warning", "error", "debug"] := by
  have hrange := Set.ext_iff.mp (Set.range_list_map Severity.name) names
  simpa only [Set.mem_range, Set.mem_ofPred_eq, Severity.exists_name_eq_iff] using hrange

/-- Whatever lawful decoder reads it, the configuration of a document depends on two keys. The
document is accepted exactly if every string of `flags` is the name of a severity. Then these
severities, in this order, are the ones that are logged, and `skip_on_error` is as given; each of the
two has its default where it is not given, whether or not the other one is. Documents with the same
settings have the same configuration. -/
theorem parse?_of_says (htoml : toml.Lawful) {text : String}
    (hdoc : toml.entries? text = some entries) (hs : Says entries s) :
    ((parse? toml text).isSome ↔ ∀ names, s.flags = some names → ∀ name ∈ names,
      name ∈ ["information", "warning", "performance_warning", "error", "debug"]) ∧
    (∀ config, parse? toml text = some config →
      config.report.flags.map Severity.name = s.flags.getD ["error", "warning"] ∧
      config.report.skipOnError = s.skipOnError.getD true ∧
      ∀ severity, config.report.enabled severity = true ↔
        severity.name ∈ s.flags.getD ["error", "warning"]) ∧
    ∀ text' entries', toml.entries? text' = some entries' → Says entries' s →
      parse? toml text' = parse? toml text := by
  refine ⟨?success, ?result, ?agreement⟩
  case success =>
    have hsome : (parse? toml text).isSome ↔
        ∃ flags : List Severity, flags.map Severity.name = s.names := by
      rw [Option.isSome_iff_exists]
      constructor
      · rintro ⟨config, hconfig⟩
        exact ⟨_, ((parse?_eq_some_iff htoml hdoc hs).mp hconfig).1⟩
      · rintro ⟨flags, hflags⟩
        exact ⟨⟨flags, s.skipOnError.getD true⟩,
          (parse?_eq_some_iff htoml hdoc hs).mpr ⟨hflags, rfl⟩⟩
    rw [hsome, exists_map_name_eq_iff, Settings.names]
    cases s.flags with
    | none => simp
    | some names => simp
  case result =>
    intro config hconfig
    obtain ⟨hflags, hskip⟩ := (parse?_eq_some_iff htoml hdoc hs).mp hconfig
    refine ⟨hflags, hskip, fun severity => ?_⟩
    rw [Reporting.enabled, List.contains_iff_mem,
      ← List.mem_map_of_injective Severity.name_injective, hflags]
    rfl
  case agreement =>
    intro text' entries' hdoc' hs'
    refine Option.ext fun config => ?_
    rw [parse?_eq_some_iff htoml hdoc hs, parse?_eq_some_iff htoml hdoc' hs']

/-- A document with both keys, and with others at every level. -/
def wordyText : String :=
  "title = \"ledger\"\n[report]\nskip_on_error = false\nlevel = \x7b flags = [1] \x7d\n" ++
    "flags = ['error', 'debug', 'error']\n[[report.flagged]]\n"

def wordyEntries : Entries :=
  [("title", .string "ledger"),
    ("report", .table
      [("skip_on_error", .boolean false),
        ("level", .table [("flags", .array [.integer 1])]),
        ("flags", .array [.string "error", .string "debug", .string "error"]),
        ("flagged", .array [.table []])])]

theorem entries?_wordyText (complaint : String → String) :
    (Toml.Document.decoder complaint).entries? wordyText = some wordyEntries := by
  show Toml.Document.parse? wordyText = some wordyEntries
  cbv

/-- The same settings without anything else, the other way round. -/
def terseText : String :=
  "report.flags = ['error', 'debug', 'error']\nreport.skip_on_error = false\n"

def terseEntries : Entries :=
  [("report", .table
    [("flags", .array [.string "error", .string "debug", .string "error"]),
      ("skip_on_error", .boolean false)])]

theorem entries?_terseText (complaint : String → String) :
    (Toml.Document.decoder complaint).entries? terseText = some terseEntries := by
  show Toml.Document.parse? terseText = some terseEntries
  cbv

/-- The repeated name stays, the number in the other `flags` does no harm, and the two documents
have one configuration. -/
theorem wordy_read_like_terse :
    let toml := Toml.Document.decoder fun _ => "no configuration"
    toml.Lawful ∧ toml.entries? wordyText = some wordyEntries ∧
      toml.entries? terseText = some terseEntries ∧
      parse? toml terseText = parse? toml wordyText ∧
      ∃ config, parse? toml wordyText = some config ∧
        config.report.flags.map Severity.name = ["error", "debug", "error"] ∧
        config.report.skipOnError = false ∧ config.report.enabled .warning = false := by
  intro toml
  have htoml : toml.Lawful := Toml.Document.lawful_decoder _
  have hwordy : toml.entries? wordyText = some wordyEntries := entries?_wordyText _
  have hterse : toml.entries? terseText = some terseEntries := entries?_terseText _
  have hsays : Says wordyEntries ⟨some ["error", "debug", "error"], some false⟩ :=
    says_of_lookup (by decide) (by decide) rfl rfl rfl
  have hsays' : Says terseEntries ⟨some ["error", "debug", "error"], some false⟩ :=
    says_of_lookup (by decide) (by decide) rfl rfl rfl
  obtain ⟨hsuccess, hresult, hagree⟩ := parse?_of_says htoml hwordy hsays
  have hnames : ∀ names, some ["error", "debug", "error"] = some names → ∀ name ∈ names,
      name ∈ ["information", "warning", "performance_warning", "error", "debug"] := by
    rintro _ ⟨⟩
    decide
  obtain ⟨config, hconfig⟩ := Option.isSome_iff_exists.mp (hsuccess.mpr hnames)
  obtain ⟨hflags, hskip, henabled⟩ := hresult config hconfig
  refine ⟨htoml, hwordy, hterse, hagree _ _ hterse hsays', config, hconfig, hflags, hskip, ?_⟩
  exact Bool.eq_false_iff.mpr fun h => absurd ((henabled .warning).mp h) (by decide)

end Config

end HandleLedger
