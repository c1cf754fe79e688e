/-
Workspace.Proofs.ExportedConfig — what `resolve --json` prints can be loaded
again.

A resolved configuration has a JSON form (`hasJson_toValue`) when its
settings have no floats and none of its texts has a split pair
(`FullConfig.Exportable`); that no integer is too long is what a successful
run tells. Read from a file, the printed text is the configuration that
declares everything that was resolved (`loadConfig_of_printed`), and this
one resolves to the printed configuration with every search that answers as
before (`ResolvedFrom.resolve_toUserConfig`).

The restriction to texts without a split pair is needed: a name that spells
one character as two halves comes back as another name (`splitWorld`).
-/
import Mathlib
import Workspace.CommandLine.Lookups
import Workspace.Proofs.ConfigLookup
import Workspace.Proofs.DocumentedShape
import Workspace.Proofs.JsonRoundTrip
import Workspace.Proofs.ResolutionFixpoint
import Workspace.Proofs.ResolutionSearches

namespace Workspace

open CommandLine (isLong projectFileNames)

/-! ## The JSON form of a configuration -/

/-- The texts of a setting that has one. -/
def Setting.texts : Setting → List Text
  | .str t => [t]
  | _ => []

/-- The texts of a project: its paths. -/
def Project.texts (p : Project) : List Text :=
  p.root :: p.package.toList ++ p.tsconfig.toList

/-- All the texts of a resolved configuration: the names and texts among its
settings, and the paths of its projects. -/
def FullConfig.texts (c : FullConfig) : List Text :=
  c.settings.flatMap (fun p => p.1 :: p.2.texts) ++ c.projects.flatMap Project.texts

/-- What is printed of the configuration can be read back: it has no floats, and
no character is spelled as two halves. -/
structure FullConfig.Exportable (c : FullConfig) : Prop where
  noFloat : ∀ p ∈ c.settings, ∀ x, p.2 ≠ .float x
  unsplit : ∀ t ∈ c.texts, t.Unsplit

theorem length_natDigits_le {n limit : Nat} (hlimit : 0 < limit) (h : ¬Nat.pow 10 limit ≤ n) :
    (Decimal.natDigits n).length ≤ limit :=
  (Nat.length_toDigits_le_iff (by decide) hlimit).mpr (Nat.lt_of_not_le h)

theorem hasJson_setting {s : Setting} (hfloat : ∀ x, s ≠ .float x) (hlong : isLong s = false)
    (hunsplit : ∀ t ∈ s.texts, t.Unsplit) (depth : Nat) : s.toValue.HasJson depth := by
  cases s with
  | bool b => exact .bool b
  | int i =>
    simp only [isLong, decide_eq_false_iff_not] at hlong
    have hlength := length_natDigits_le (by decide) hlong
    exact .int hlength
  | float x => exact absurd rfl (hfloat x)
  | str t => exact .str (hunsplit t (by simp [Setting.texts]))

theorem hasJson_settings {settings : Settings} (hnames : (settings.map Prod.fst).Nodup)
    (hfloat : ∀ p ∈ settings, ∀ x, p.2 ≠ .float x)
    (hlong : ∀ p ∈ settings, isLong p.2 = false)
    (hunsplit : ∀ p ∈ settings, ∀ t ∈ p.1 :: p.2.texts, t.Unsplit) (depth : Nat) :
    settings.toValue.HasJson (depth + 1) := by
  have hfields : settings.toValue
      = .ofFields (settings.map fun p => (p.1, p.2.toValue)) := by
    simp [Settings.toValue, Value.ofFields]
  rw [hfields]
  refine .map (by rwa [List.map_map]) ?_ ?_
  · intro f hf
    obtain ⟨p, hp, rfl⟩ := List.mem_map.mp hf
    exact hunsplit p hp p.1 (by simp)
  · intro f hf
    obtain ⟨p, hp, rfl⟩ := List.mem_map.mp hf
    exact hasJson_setting (hfloat p hp) (hlong p hp)
      (fun t ht => hunsplit p hp t (by simp [ht])) depth

/-- The fields of a project that are set. -/
def Project.fields (p : Project) : List (Text × Value) :=
  (Text.ofString "root", Value.str p.root)
    :: (p.package.toList.map fun t => (Text.ofString "package", Value.str t))
    ++ p.tsconfig.toList.map fun t => (Text.ofString "tsconfig", Value.str t)

theorem toValue_eq_ofFields (p : Project) : p.toValue = .ofFields p.fields := by
  obtain ⟨root, package, tsconfig⟩ := p
  cases package <;> cases tsconfig <;> rfl

theorem nodup_fields (p : Project) : (p.fields.map Prod.fst).Nodup := by
  have hnames : (["root", "package", "tsconfig"] : List Text).Nodup := by decide
  refine hnames.sublist ?_
  obtain ⟨root, package, tsconfig⟩ := p
  cases package <;> cases tsconfig <;> simp [Project.fields]

/-- Every field of a project is one of its paths, under an ASCII name. -/
theorem unsplit_of_mem_fields {p : Project} (hunsplit : ∀ t ∈ p.texts, t.Unsplit)
    {f : Text × Value} (hf : f ∈ p.fields) :
    f.1.Unsplit ∧ ∃ t : Text, f.2 = .str t ∧ t.Unsplit := by
  simp only [Project.fields, List.mem_append, List.mem_cons, List.mem_map] at hf
  rcases hf with (rfl | ⟨t, ht, rfl⟩) | ⟨t, ht, rfl⟩
  · exact ⟨Text.unsplit_ofString _, p.root, rfl, hunsplit _ (by simp [Project.texts])⟩
  · exact ⟨Text.unsplit_ofString _, t, rfl, hunsplit _ (by simp [Project.texts, ht])⟩
  · exact ⟨Text.unsplit_ofString _, t, rfl, hunsplit _ (by simp [Project.texts, ht])⟩

theorem hasJson_project {p : Project} (hunsplit : ∀ t ∈ p.texts, t.Unsplit) (depth : Nat) :
    p.toValue.HasJson (depth + 1) := by
  rw [toValue_eq_ofFields]
  refine .map (nodup_fields p) (fun f hf => (unsplit_of_mem_fields hunsplit hf).1) fun f hf => ?_
  obtain ⟨-, t, ht, htext⟩ := unsplit_of_mem_fields hunsplit hf
  rw [ht]
  exact .str htext

/-- **A resolved configuration has a JSON form.** -/
theorem hasJson_toValue {c : FullConfig} (hnames : (c.settings.map Prod.fst).Nodup)
    (hexport : c.Exportable) (hlong : ∀ p ∈ c.settings, isLong p.2 = false) (depth : Nat) :
    c.toValue.HasJson (depth + 3) := by
  have hfields : c.toValue = .ofFields [("settings", c.settings.toValue),
      ("projects", .list (c.projects.map Project.toValue))] := rfl
  have hsettings : c.settings.toValue.HasJson (depth + 2) :=
    hasJson_settings hnames hexport.noFloat hlong
      (fun p hp t ht => hexport.unsplit t
        (List.mem_append_left _ (List.mem_flatMap.mpr ⟨p, hp, ht⟩))) (depth + 1)
  have hprojects : (Value.list (c.projects.map Project.toValue)).HasJson (depth + 2) := by
    refine .list fun v hv => ?_
    obtain ⟨p, hp, rfl⟩ := List.mem_map.mp hv
    exact hasJson_project (fun t ht => hexport.unsplit t
      (List.mem_append_right _ (List.mem_flatMap.mpr ⟨p, hp, ht⟩))) depth
  have hkeys : (["settings", "projects"] : List Text).Nodup := by decide
  rw [hfields]
  refine .map hkeys ?_ ?_
  · simp only [List.forall_mem_cons, Text.unsplit_ofString, true_and]
    nofun
  · simp only [List.forall_mem_cons, hsettings, hprojects, true_and]
    nofun

/-! ## Reading what was printed -/

/-- The configuration is what resolution with this search gives from the base. -/
structure FullConfig.ResolvedFrom (find : Finder) (base : Text) (c : FullConfig) : Prop where
  names : (c.settings.map Prod.fst).Nodup
  declared : ∀ p ∈ c.projects, ∃ d, resolveProject find base d = .ok p
  canonical : ∀ p ∈ c.projects, p.Canonical
  sorted : sortByDepth c.projects = c.projects
  ne_nil : c.projects ≠ []

/-- Settings that were loaded have different names. -/
theorem nodup_names_of_loadConfig {w : World} {workspace : Text} {file : Option Text}
    {loaded : LoadedConfig} (h : w.loadConfig workspace file = .ok loaded) :
    ((loaded.config.settings.getD []).map Prod.fst).Nodup := by
  rcases loadConfig_eq_ok_iff.mp h with ⟨-, rfl⟩ | ⟨path, -, hload⟩
  · exact List.nodup_nil
  · obtain ⟨entries, -, haccepted, -⟩ := loadFile_eq_ok_iff.mp hload
    exact nodup_names_of_ofValue ((ofValue_map entries).trans haccepted)

/-- What a command resolves is what resolution gives. -/
theorem resolvedFrom_of_resolveWorkspace {w : World} (hcwd : IsAbsolutePath w.currentDirectory)
    {workspace : Text} {file : Option Text} {config : FullConfig}
    (h : CommandLine.resolveWorkspace w workspace file = .ok config) :
    ∃ base, config.ResolvedFrom w.finder base := by
  obtain ⟨⟨base, r⟩, hloaded, rfl⟩ := map_eq_ok_iff.mp h
  simp only [World.loadAndResolve, bind_eq_ok_iff, pure, Except.pure, Except.ok.injEq,
    Prod.mk.injEq] at hloaded
  obtain ⟨loaded, hload, _, hresolve, -, hr⟩ := hloaded
  rw [hr] at hresolve
  have hbase := isCanonical_base_of_loadConfig hcwd hload
  have hdeclared : ∀ p ∈ r.config.projects, ∃ d, resolveProject w.finder loaded.base d = .ok p := by
    intro p hp
    obtain ⟨d, -, hd⟩ := exists_declaration_of_mem_projects hresolve hp
    exact ⟨d, hd⟩
  obtain ⟨ps, -, hconfig, -⟩ := resolve_eq_ok_iff.mp hresolve
  refine ⟨loaded.base, ?_, hdeclared, ?_, ?_, projects_ne_nil_of_resolve hresolve⟩
  · rw [hconfig]
    exact nodup_names_of_loadConfig hload
  · intro p hp
    obtain ⟨d, hd⟩ := hdeclared p hp
    exact canonical_of_resolveProject (findsAbsolute_finder hcwd) hbase.isAbsolute hd
  · rw [hconfig]
    exact sortByDepth_sortByDepth ps

/-- A project is resolved by the searches for its files alone. -/
theorem resolveProject_congr {find find' : Finder} {base : Text} {d : Declaration}
    (h : ∀ name ∈ projectFileNames, find' (absolutizePath d.toRecord.root base) name
      = find (absolutizePath d.toRecord.root base) name) :
    resolveProject find' base d = resolveProject find base d := by
  refine (asks_resolveProject base d).congr find find' fun q hq => ?_
  obtain ⟨hroot, hname⟩ := of_mem_searchesFor hq
  rw [Query.answer, Query.answer, hroot]
  exact h q.fileName hname

/-- **A resolved configuration, declared as it stands, resolves to itself** with
every search that answers as before where its projects are. -/
theorem FullConfig.ResolvedFrom.resolve_toUserConfig {find find' : Finder} {base : Text}
    {c : FullConfig} (h : c.ResolvedFrom find base)
    (hfind : ∀ p ∈ c.projects, ∀ name ∈ projectFileNames, find' p.root name = find p.root name)
    (base' workspace' : Text) :
    ∃ r, resolve find' base' workspace' c.toUserConfig = .ok r ∧ r.config = c := by
  have hmap : (c.projects.map Project.toDeclaration).map (resolveProject find' base')
      = c.projects.map .ok := by
    rw [← map_resolveProject_toDeclaration h.declared h.canonical base', List.map_map, List.map_map]
    refine List.map_congr_left fun p hp => resolveProject_congr ?_
    have hroot : absolutizePath p.toDeclaration.toRecord.root base' = p.root :=
      (h.canonical p hp).root.absolutizePath_eq base'
    rw [hroot]
    exact hfind p hp
  refine ⟨⟨c, repeatedTexts (c.projects.map Project.root)⟩,
    resolve_eq_ok_iff.mpr ⟨c.projects, ?_, ?_, rfl⟩, rfl⟩
  · rw [declarationsOf_toUserConfig h.ne_nil]
    exact hmap
  · rw [h.sorted]
    rfl

/-- What is printed is loaded as the configuration that declares everything
that was resolved. -/
theorem loadConfig_of_printed {w : World} {workspace file : Text} {c : FullConfig}
    (hnames : (c.settings.map Prod.fst).Nodup) (hcanonical : ∀ p ∈ c.projects, p.Canonical)
    (hjson : c.toValue.HasJson Json.nestingLimit)
    (hextension : (Path.parse (absolutizePath file
      (absolutizePath workspace w.currentDirectory))).extension = ".json")
    (hread : w.disk.read (absolutizePath file (absolutizePath workspace w.currentDirectory))
      = .ok (Json.text c.toValue ++ "\n").toUTF8) :
    ∃ loaded, w.loadConfig workspace (some file) = .ok loaded
      ∧ loaded.config = c.toUserConfig := by
  have hrender := render_parse_absolutizePath file (absolutizePath workspace w.currentDirectory)
  have hread' := hrender.symm ▸ hread
  have hentries := readConfigFile_of_json hextension hread' (Json.read_unifyLineEnds_text hjson)
  have hconfig := ofMapping_eq_ok_iff.mpr (ofEntries_toValue hnames hcanonical)
  have hload : loadFile w.disk _ = .ok ⟨_, c.toUserConfig⟩ :=
    loadFile_eq_ok_iff.mpr ⟨_, hentries, hconfig, rfl⟩
  exact ⟨_, loadConfig_eq_ok_iff.mpr (Or.inr ⟨_, rfl, hload⟩), rfl⟩

end Workspace

namespace Workspace.CommandLine

/-- A run that ends well prints the configuration as JSON, and none of its
integers is too long. -/
theorem run_resolve_json {w : World} {words : List String} {workspace : Text}
    {file : Option Text} (hwords : Request.ofArguments words = .ok (.resolve workspace file true))
    (hexit : (run w words).exitCode = 0) {config : FullConfig}
    (hresolve : resolveWorkspace w workspace file = .ok config) :
    (run w words).output = Json.text config.toValue ++ "\n"
      ∧ ∀ p ∈ config.settings, isLong p.2 = false := by
  have hrun : run w words = jsonOutcome config := by
    simp only [run, hwords, Request.run, runResolve, hresolve, if_true]
  rw [hrun] at hexit ⊢
  unfold jsonOutcome at hexit ⊢
  split at hexit
  · exact absurd hexit (by decide)
  · next hlong =>
    rw [if_neg hlong]
    refine ⟨rfl, fun p hp => ?_⟩
    simpa using List.any_eq_false.mp (Bool.eq_false_iff.mpr hlong) p hp

end Workspace.CommandLine

namespace Workspace

open CommandLine (Request isLong projectFileNames resolveWorkspace run)

/-- In the world the file is loaded, and with every search that answers as `find`
does where the projects are it resolves to the configuration. -/
def World.ReloadsAs (w : World) (workspace file : Text) (find : Finder) (config : FullConfig) :
    Prop :=
  ∃ loaded, w.loadConfig workspace (some file) = .ok loaded
    ∧ ∀ (find' : Finder) (workspace' : Text),
        (∀ p ∈ config.projects, ∀ name ∈ projectFileNames,
          find' p.root name = find p.root name) →
        ∃ r, resolve find' loaded.base workspace' loaded.config = .ok r ∧ r.config = config

/-- **What `resolve --json` prints can be loaded again.** When a run ends well
and its settings have no floats, a `.json` file of exactly the output is loaded
from every workspace, and with searches that answer as before where the
projects are, it resolves to the same settings and the same projects. No text
may spell a character as two halves. -/
theorem reloadsAs_of_run_resolve {w : World} (hcwd : IsAbsolutePath w.currentDirectory)
    {words : List String} {workspace : Text} {file : Option Text}
    (hwords : Request.ofArguments words = .ok (.resolve workspace file true))
    (hexit : (run w words).exitCode = 0) {config : FullConfig}
    (hresolve : resolveWorkspace w workspace file = .ok config) (hexport : config.Exportable)
    {w' : World} {workspace' file' : Text}
    (hextension : (Path.parse (absolutizePath file'
      (absolutizePath workspace' w'.currentDirectory))).extension = ".json")
    (hread : w'.disk.read (absolutizePath file' (absolutizePath workspace' w'.currentDirectory))
      = .ok (run w words).output.toUTF8) :
    w'.ReloadsAs workspace' file' w.finder config := by
  obtain ⟨base, hresolved⟩ := resolvedFrom_of_resolveWorkspace hcwd hresolve
  obtain ⟨houtput, hlong⟩ := CommandLine.run_resolve_json hwords hexit hresolve
  rw [houtput] at hread
  have hjson : config.toValue.HasJson Json.nestingLimit :=
    hasJson_toValue hresolved.names hexport hlong 982
  obtain ⟨loaded, hload, hconfig⟩ :=
    loadConfig_of_printed hresolved.names hresolved.canonical hjson hextension hread
  refine ⟨loaded, hload, fun find workspace'' hfind => ?_⟩
  rw [hconfig]
  exact hresolved.resolve_toUserConfig hfind loaded.base workspace''

/-! ## Two runs -/

/-- A command for a workspace whose configuration file declares no project
resolves the workspace itself. -/
theorem resolveWorkspace_of_loadFile {w : World} {workspace here path base : Text}
    {settings : Settings} {p : Project}
    (hhere : absolutizePath workspace w.currentDirectory = here)
    (hagain : absolutizePath here w.currentDirectory = here)
    (hpath : w.configPath? here = .ok (some path))
    (hload : loadFile w.disk path = .ok ⟨base, some settings, none⟩)
    (hproject : resolveProject w.finder base (.path (normalizePath here)) = .ok p) :
    resolveWorkspace w workspace none = .ok ⟨settings, [p]⟩ := by
  have hchosen : w.chosenFile? (absolutizePath here w.currentDirectory) none = .ok (some path) := by
    rw [hagain]
    exact hpath
  have hloaded := loadConfig_eq_ok_iff.mpr (Or.inr ⟨path, hchosen, hload⟩)
  have hresolve : resolve w.finder base here ⟨some settings, none⟩ = .ok ⟨⟨settings, [p]⟩, []⟩ := by
    refine resolve_eq_ok_iff.mpr ⟨[p], congrArg (fun outcome => [outcome]) hproject, ?_, ?_⟩
    · rw [sortByDepth_singleton]
      rfl
    · simp [repeatedTexts, distinct]
  simp only [resolveWorkspace, World.loadAndResolve, Option.map_none, hhere, hloaded, hresolve,
    bind, Except.bind, pure, Except.pure, Except.map]

/-- The world after the output of a run was written to a file. -/
def World.withOutput (w : World) (words : List String) (path : Text) : World :=
  { w with disk := w.disk.write path (run w words).output.toUTF8 }

def jsonWords : List String := ["resolve", "/ws", "--json"]

theorem ofArguments_jsonWords :
    Request.ofArguments jsonWords = .ok (.resolve "/ws" none true) := rfl

/-- Without an integer that is too long the run ends well. -/
theorem exitCode_jsonWords {w : World} {config : FullConfig}
    (hresolve : resolveWorkspace w "/ws" none = .ok config)
    (hshort : (config.settings.any fun s => isLong s.2) = false) :
    (run w jsonWords).exitCode = 0 := by
  have hrun : run w jsonWords = CommandLine.jsonOutcome config := by
    simp only [run, ofArguments_jsonWords, Request.run, CommandLine.runResolve, hresolve, if_true]
  rw [hrun, CommandLine.jsonOutcome, hshort]
  rfl

/-- Settings of three kinds, with a quote, a line end, a character beyond the
basic plane and a lone half in their texts. -/
def escapesText : String :=
  "\x7b\"settings\": \x7b\"a\\\"b\": true, \"n\": -10, \"😀\": \"\\n\\ud83d\"\x7d\x7d"

def escapesWorld : World where
  disk := {
    files := [("/ws/coffeesense.config.json", escapesText.toUTF8), ("/package.json", .empty)]
    directories := []
    faults := [] }
  currentDirectory := "/cwd"
  environment := []
  envFile := none

def escapesConfig : FullConfig where
  settings := [("a\"b", .bool true), ("n", .int (-10)), ("😀", .str (.ofCodes [10, 0xd83d]))]
  projects := [⟨"/ws", some "/package.json", none⟩]

theorem read_escapesText : Json.read (Text.unifyLineEnds escapesText.toList)
    = .ok (.map [(.str "settings", escapesConfig.settings.toValue)]) := by
  simp only [escapesText, String.reduceToList]
  rfl

theorem loadFile_escapesWorld : loadFile escapesWorld.disk "/ws/coffeesense.config.json"
    = .ok ⟨"/ws", some escapesConfig.settings, none⟩ := by
  have hbytes : escapesWorld.disk.read (Path.parse "/ws/coffeesense.config.json").render
      = .ok escapesText.toUTF8 := rfl
  have hextension : (Path.parse "/ws/coffeesense.config.json").extension = ".json" := by decide
  have haccepted : UserConfig.ofMapping [(.str "settings", escapesConfig.settings.toValue)]
      = .ok ⟨some escapesConfig.settings, none⟩ := by
    rfl
  have hbase : Text.ofString "/ws" = (Path.parse "/ws/coffeesense.config.json").directoryText := by
    decide
  exact loadFile_eq_ok_iff.mpr
    ⟨_, readConfigFile_of_json hextension hbytes read_escapesText, haccepted, hbase⟩

theorem resolveWorkspace_escapesWorld :
    resolveWorkspace escapesWorld "/ws" none = .ok escapesConfig := by
  have hhere : absolutizePath "/ws" escapesWorld.currentDirectory = "/ws" := by decide
  have hlook : escapesWorld.LooksFreely "/ws" := ⟨by decide, fun _ => by decide +kernel⟩
  have hfirst : (walked configFileNames (searchDirs escapesWorld.currentDirectory "/ws")).find?
      escapesWorld.disk.holdsFile = some (Text.ofString "/ws/coffeesense.config.json") := by
    decide +kernel
  have hpath : escapesWorld.configPath? "/ws" = .ok (some "/ws/coffeesense.config.json") := by
    rw [configPath?_eq_nearestConfig? hlook, nearestConfig?_eq_find? hlook (by decide) (by decide)
      (Disk.Spells.parse (by decide)), hfirst]
  have hproject : resolveProject escapesWorld.finder "/ws" (.path (normalizePath "/ws"))
      = .ok ⟨"/ws", some "/package.json", none⟩ := by
    rfl
  exact resolveWorkspace_of_loadFile hhere hhere hpath loadFile_escapesWorld hproject

theorem exportable_escapesConfig : escapesConfig.Exportable where
  noFloat := by
    simp only [escapesConfig, List.forall_mem_cons]
    refine ⟨nofun, nofun, nofun, nofun⟩
  unsplit := by decide

/-- A file that was just written is read. -/
theorem read_write_escapesWorld (content : ByteArray) :
    (escapesWorld.disk.write "/out.json" content).read "/out.json" = .ok content := by
  rfl

/-- The output is loaded from another workspace, where the file is named by a
relative path. -/
theorem reloadsAs_escapesWorld :
    IsAbsolutePath escapesWorld.currentDirectory
      ∧ Request.ofArguments jsonWords = .ok (.resolve "/ws" none true)
      ∧ (run escapesWorld jsonWords).exitCode = 0
      ∧ resolveWorkspace escapesWorld "/ws" none = .ok escapesConfig
      ∧ escapesConfig.Exportable
      ∧ (escapesWorld.withOutput jsonWords "/out.json").ReloadsAs "/a/b" "../../out.json"
          escapesWorld.finder escapesConfig := by
  have hcwd : IsAbsolutePath escapesWorld.currentDirectory := by decide
  have hexit : (run escapesWorld jsonWords).exitCode = 0 :=
    exitCode_jsonWords resolveWorkspace_escapesWorld (by decide +kernel)
  have hpath : absolutizePath "../../out.json" (absolutizePath "/a/b" "/cwd") = "/out.json" := by
    decide
  have hextension : (Path.parse (absolutizePath "../../out.json"
      (absolutizePath "/a/b" "/cwd"))).extension = ".json" := by
    rw [hpath]
    decide
  have hread : (escapesWorld.withOutput jsonWords "/out.json").disk.read
      (absolutizePath "../../out.json" (absolutizePath "/a/b" "/cwd"))
        = .ok (run escapesWorld jsonWords).output.toUTF8 := by
    rw [hpath]
    exact read_write_escapesWorld _
  exact ⟨hcwd, ofArguments_jsonWords, hexit, resolveWorkspace_escapesWorld,
    exportable_escapesConfig, reloadsAs_of_run_resolve hcwd ofArguments_jsonWords hexit
      resolveWorkspace_escapesWorld exportable_escapesConfig hextension hread⟩

/-! ## A character spelled as two halves -/

/-- A name that spells a character as two halves. -/
def splitText : String :=
  "settings: \x7b\"\\ud83d\\ude00\": 1\x7d\n"

def splitWorld : World where
  disk := {
    files := [("/ws/coffeesense.config.yaml", splitText.toUTF8)]
    directories := []
    faults := [] }
  currentDirectory := "/cwd"
  environment := []
  envFile := none

def splitConfig : FullConfig where
  settings := [(.ofCodes [0xd83d, 0xde00], .int 1)]
  projects := [⟨"/ws", none, none⟩]

/-- The same with the character itself. -/
def joinedConfig : FullConfig where
  settings := [("😀", .int 1)]
  projects := [⟨"/ws", none, none⟩]

theorem read_splitText : Yaml.read configDepth (.whole (Text.unifyLineEnds splitText.toList))
    = .ok (.map [(.str "settings", splitConfig.settings.toValue)]) := by
  simp only [splitText, String.reduceToList]
  cbv

theorem loadFile_splitWorld : loadFile splitWorld.disk "/ws/coffeesense.config.yaml"
    = .ok ⟨"/ws", some splitConfig.settings, none⟩ := by
  have hbytes : splitWorld.disk.read (Path.parse "/ws/coffeesense.config.yaml").render
      = .ok splitText.toUTF8 := rfl
  have hextension : (Path.parse "/ws/coffeesense.config.yaml").extension = ".yaml" := by decide
  have haccepted : UserConfig.ofMapping [(.str "settings", splitConfig.settings.toValue)]
      = .ok ⟨some splitConfig.settings, none⟩ := by
    rfl
  have hbase : Text.ofString "/ws" = (Path.parse "/ws/coffeesense.config.yaml").directoryText := by
    decide
  exact loadFile_eq_ok_iff.mpr
    ⟨_, readConfigFile_of_yaml hextension hbytes (by decide) read_splitText, haccepted, hbase⟩

theorem resolveWorkspace_splitWorld :
    resolveWorkspace splitWorld "/ws" none = .ok splitConfig := by
  have hhere : absolutizePath "/ws" splitWorld.currentDirectory = "/ws" := by decide
  have hlook : splitWorld.LooksFreely "/ws" := ⟨by decide, fun _ => by decide +kernel⟩
  have hfirst : (walked configFileNames (searchDirs splitWorld.currentDirectory "/ws")).find?
      splitWorld.disk.holdsFile = some (Text.ofString "/ws/coffeesense.config.yaml") := by
    decide +kernel
  have hpath : splitWorld.configPath? "/ws" = .ok (some "/ws/coffeesense.config.yaml") := by
    rw [configPath?_eq_nearestConfig? hlook, nearestConfig?_eq_find? hlook (by decide) (by decide)
      (Disk.Spells.parse (by decide)), hfirst]
  have hproject : resolveProject splitWorld.finder "/ws" (.path (normalizePath "/ws"))
      = .ok ⟨"/ws", none, none⟩ := by
    rfl
  exact resolveWorkspace_of_loadFile hhere hhere hpath loadFile_splitWorld hproject

/-- The two configurations are printed alike. -/
theorem text_splitConfig :
    Json.text splitConfig.toValue = Json.text joinedConfig.toValue := by
  decide +kernel

theorem hasJson_joinedConfig : joinedConfig.toValue.HasJson Json.nestingLimit := by
  have hexport : joinedConfig.Exportable := by
    refine ⟨?_, by decide⟩
    simp only [joinedConfig, List.forall_mem_cons]
    exact ⟨nofun, nofun⟩
  exact hasJson_toValue (by decide) hexport (by decide +kernel) 982

theorem read_write_splitWorld (content : ByteArray) :
    (splitWorld.disk.write "/ws/out.json" content).read "/ws/out.json" = .ok content := by
  rfl

/-- What is printed is loaded with the character for the two halves. -/
theorem settings_of_loadConfig_splitWorld {loaded : LoadedConfig}
    (hexit : (run splitWorld jsonWords).exitCode = 0)
    (hload : (splitWorld.withOutput jsonWords "/ws/out.json").loadConfig "/ws"
      (some "/ws/out.json") = .ok loaded) :
    loaded.config.settings = some joinedConfig.settings := by
  have hcwd : IsAbsolutePath splitWorld.currentDirectory := by decide
  obtain ⟨base, hresolved⟩ := resolvedFrom_of_resolveWorkspace hcwd resolveWorkspace_splitWorld
  have hcanonical : ∀ p ∈ joinedConfig.projects, p.Canonical := hresolved.canonical
  have hpath : ∀ cwd, absolutizePath "/ws/out.json" (absolutizePath "/ws" cwd) = "/ws/out.json" :=
    fun cwd => (absolutizePath_of_isAbsolute (by decide) _).trans (by decide)
  have houtput : (run splitWorld jsonWords).output = Json.text joinedConfig.toValue ++ "\n" := by
    rw [← text_splitConfig]
    exact (CommandLine.run_resolve_json ofArguments_jsonWords hexit
      resolveWorkspace_splitWorld).1
  have hread : (splitWorld.withOutput jsonWords "/ws/out.json").disk.read "/ws/out.json"
      = .ok (Json.text joinedConfig.toValue ++ "\n").toUTF8 := by
    rw [← houtput]
    exact read_write_splitWorld _
  obtain ⟨loaded', hload', hconfig⟩ :=
    @loadConfig_of_printed (splitWorld.withOutput jsonWords "/ws/out.json") "/ws" "/ws/out.json"
      joinedConfig (by decide) hcanonical hasJson_joinedConfig (by rw [hpath]; decide)
      (by rw [hpath, hread])
  obtain rfl : loaded = loaded' := Except.ok.inj (hload.symm.trans hload')
  rw [hconfig]
  rfl

/-- **A name of two halves comes back as another name**, although everything
else that the round trip asks for is given. -/
theorem not_reloadsAs_splitWorld :
    IsAbsolutePath splitWorld.currentDirectory
      ∧ Request.ofArguments jsonWords = .ok (.resolve "/ws" none true)
      ∧ (run splitWorld jsonWords).exitCode = 0
      ∧ resolveWorkspace splitWorld "/ws" none = .ok splitConfig
      ∧ (∀ p ∈ splitConfig.settings, ∀ x, p.2 ≠ .float x)
      ∧ (splitWorld.withOutput jsonWords "/ws/out.json").disk.read "/ws/out.json"
          = .ok (run splitWorld jsonWords).output.toUTF8
      ∧ ¬(splitWorld.withOutput jsonWords "/ws/out.json").ReloadsAs "/ws" "/ws/out.json"
          splitWorld.finder splitConfig := by
  have hexit : (run splitWorld jsonWords).exitCode = 0 :=
    exitCode_jsonWords resolveWorkspace_splitWorld (by decide +kernel)
  refine ⟨by decide, ofArguments_jsonWords, hexit, resolveWorkspace_splitWorld, ?_,
    read_write_splitWorld _, ?_⟩
  · simp only [splitConfig, List.forall_mem_cons]
    exact ⟨nofun, nofun⟩
  · rintro ⟨loaded, hload, hresolve⟩
    obtain ⟨r, hr, hconfig⟩ := hresolve splitWorld.finder "/ws" fun _ _ _ _ => rfl
    obtain ⟨_, -, hresolved, -⟩ := resolve_eq_ok_iff.mp hr
    have hsettings : splitConfig.settings = joinedConfig.settings := by
      rw [← hconfig, hresolved, settings_of_loadConfig_splitWorld hexit hload]
      rfl
    exact absurd hsettings (by decide)

end Workspace
