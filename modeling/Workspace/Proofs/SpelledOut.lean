/-
Workspace.Proofs.SpelledOut — a configuration whose paths are spelled out in
full means the same from everywhere.

A declared root is relative to the base, and an override is relative to the
root. `UserConfig.spelledOut` turns both into absolute texts by joining them
behind what they are relative to, with nothing cancelled. The program goes the
same way in two steps and cancels in between; `Path.normalize_under` says that
the steps in between make no difference, since cancelling what was cancelled
before goes on where it stopped (`Path.cancel_append`).

So every root and every override comes out as before
(`absolutizePath_absolutizePath`), whatever the base of the second resolution,
and with them the searches and the whole outcome (`resolve_spelledOut`).
-/
import Workspace.Proofs.DocumentedShape

namespace Workspace

open Text (pieces joinWith)

/-! ## Cancelling in between -/

namespace Path

/-- Cancelling a part first changes nothing. -/
theorem cancel_append (absolute : Bool) (before after : List Text) :
    cancel absolute (cancel absolute before ++ after) = cancel absolute (before ++ after) := by
  have hsettled : Settled absolute (before.foldl (cancelStep absolute) []) :=
    settled_foldl_cancelStep absolute before [] trivial
  have hkept : (cancel absolute before).foldl (cancelStep absolute) []
      = before.foldl (cancelStep absolute) [] := by
    rw [cancel, foldl_cancelStep_of_settled (by simpa using hsettled)]
    simp
  show ((cancel absolute before ++ after).foldl (cancelStep absolute) []).reverse
    = ((before ++ after).foldl (cancelStep absolute) []).reverse
  rw [List.foldl_append, List.foldl_append, hkept]

/-- A directory may be normalized before a path is taken from it. -/
theorem normalize_under (dir p : Path) :
    (dir.normalize.under p).normalize = (dir.under p).normalize := by
  unfold under
  split
  · rfl
  · show ({ dir with segments := cancel dir.isAbsolute (cancel dir.isAbsolute dir.segments
      ++ p.segments) } : Path) = _
    rw [cancel_append]
    rfl

end Path

/-! ## Joined texts -/

/-- A path text behind that of a directory, with one slash in between. -/
def joinText (dir path : Text) : Text :=
  if dir.getLast? = some (.char '/') then dir ++ path else dir ++ .char '/' :: path

/-- A path text that is relative to `dir`, spelled out. -/
def spelledUnder (dir path : Text) : Text :=
  if IsAbsolutePath path then path else joinText dir path

theorem isAbsolutePath_iff_head? {t : Text} : IsAbsolutePath t ↔ t.head? = some (.char '/') := by
  show (Anchor.ofText t).isAbsolute = true ↔ _
  cases t with
  | nil => simp [Anchor.ofText, Anchor.isAbsolute]
  | cons c t =>
    by_cases hc : c = .char '/'
    · subst hc
      simp only [List.head?_cons, iff_true]
      unfold Anchor.ofText
      split <;> simp_all [Anchor.isAbsolute]
    · have hrelative : Anchor.ofText (c :: t) = .relative := by
        unfold Anchor.ofText
        split <;> simp_all
      simp [hrelative, hc, Anchor.isAbsolute]

/-- What follows an absolute text leaves its anchor alone, unless it lengthens
a run of slashes. -/
theorem ofText_append_of_isAbsolute {dir t : Text} (h : IsAbsolutePath dir)
    (hrun : dir.getLast? = some (.char '/') → t.head? ≠ some (.char '/')) :
    Anchor.ofText (dir ++ t) = Anchor.ofText dir := by
  -- at most three characters decide about the anchor
  match dir with
  | [] => exact absurd h (by decide)
  | [c] =>
    obtain rfl : c = .char '/' := by simpa [isAbsolutePath_iff_head?] using h
    exact Path.ofText_append (hrun rfl) .root
  | [c, d] =>
    obtain rfl : c = .char '/' := by simpa [isAbsolutePath_iff_head?] using h
    by_cases hd : d = .char '/'
    · subst hd
      exact Path.ofText_append (hrun rfl) .doubleRoot
    · simp [Anchor.ofText, hd]
  | c :: d :: e :: rest =>
    obtain rfl : c = .char '/' := by simpa [isAbsolutePath_iff_head?] using h
    by_cases hd : d = .char '/' <;> by_cases he : e = .char '/' <;>
      simp [Anchor.ofText, hd, he]

/-- **A joined text spells the path that is taken from the directory.** -/
theorem parse_joinText {dir path : Text} (hdir : IsAbsolutePath dir)
    (hpath : ¬IsAbsolutePath path) :
    Path.parse (joinText dir path) = (Path.parse dir).under (Path.parse path) := by
  have hpath' : (Path.parse path).isAbsolute = false := by simpa [IsAbsolutePath] using hpath
  rw [isAbsolutePath_iff_head?] at hpath
  rw [Path.under, hpath', if_neg (by simp)]
  unfold joinText
  split
  · next hend =>
    obtain ⟨before, rfl⟩ : ∃ before, dir = before ++ [.char '/'] :=
      ⟨dir.dropLast, (List.dropLast_append_getLast? _ hend).symm⟩
    have hsegments : ((pieces (.char '/') (before ++ [.char '/'] ++ path)).filter Path.isStep)
        = (pieces (.char '/') (before ++ [.char '/'])).filter Path.isStep
          ++ (pieces (.char '/') path).filter Path.isStep := by
      rw [List.append_assoc, List.singleton_append, Text.pieces_append_sep,
        Text.pieces_append_sep, List.filter_append, List.filter_append]
      simp [pieces, Path.isStep]
    rw [Path.parse, ofText_append_of_isAbsolute hdir fun _ => hpath, hsegments]
    rfl
  · next hend =>
    rw [Path.parse, ofText_append_of_isAbsolute hdir fun h => absurd h hend,
      Text.pieces_append_sep, List.filter_append]
    rfl

theorem parse_spelledUnder {dir : Text} (hdir : IsAbsolutePath dir) (path : Text) :
    Path.parse (spelledUnder dir path) = (Path.parse dir).under (Path.parse path) := by
  unfold spelledUnder
  split
  · next habs =>
    have hpath : (Path.parse path).isAbsolute = true := habs
    rw [Path.under, if_pos hpath]
  · next hrel => exact parse_joinText hdir hrel

theorem isAbsolutePath_spelledUnder {dir : Text} (hdir : IsAbsolutePath dir) (path : Text) :
    IsAbsolutePath (spelledUnder dir path) := by
  rw [IsAbsolutePath, parse_spelledUnder hdir]
  unfold Path.under
  split
  · assumption
  · exact hdir

/-- The spelled out text is read as the text was, from wherever. -/
theorem absolutizePath_spelledUnder {dir : Text} (hdir : IsAbsolutePath dir) (path root : Text) :
    absolutizePath (spelledUnder dir path) root = absolutizePath path dir := by
  rw [absolutizePath_of_isAbsolute (isAbsolutePath_spelledUnder hdir path), normalizePath,
    parse_spelledUnder hdir]
  rfl

/-- **One step or two**: a path is taken from a normalized directory as it is
from the directory as it was spelled. -/
theorem absolutizePath_absolutizePath (path dir base : Text) :
    absolutizePath path (absolutizePath dir base)
      = (((Path.parse base).under (Path.parse dir)).under (Path.parse path)).normalize.render := by
  rw [absolutizePath, parse_absolutizePath, Path.normalize_under]

/-! ## Spelled out declarations -/

/-- An override spelled out below a root; an empty one stands for none. -/
def spelledOverride (root : Text) (override : Option Text) : Option Text :=
  override.map fun path => if path = [] then [] else spelledUnder root path

/-- The record with a root taken from `base` and overrides taken from that root. -/
def ProjectRecord.spelledOut (base : Text) (fields : ProjectRecord) : ProjectRecord :=
  let root := spelledUnder base fields.root
  ⟨root, spelledOverride root fields.package, spelledOverride root fields.tsconfig⟩

/-- The configuration with every declaration as a record of absolute paths. -/
def UserConfig.spelledOut (base : Text) (config : UserConfig) : UserConfig :=
  { config with
    projects := config.projects.map fun ds =>
      ds.map fun d => .record (d.toRecord.spelledOut base) }

section

variable {base : Text} (hbase : IsAbsolutePath base)

include hbase

/-- An override leads to the same file, spelled out or not. -/
theorem absolutizePath_spelledOverride (root override project : Text) :
    absolutizePath (spelledUnder (spelledUnder base root) override) project
      = absolutizePath override (absolutizePath root base) := by
  rw [absolutizePath_spelledUnder (isAbsolutePath_spelledUnder hbase root),
    absolutizePath_absolutizePath, absolutizePath, parse_spelledUnder hbase]

/-- There is an override after spelling it out when there was one before. -/
theorem nonEmpty?_spelledOverride (root : Text) (override : Option Text) :
    nonEmpty? (spelledOverride (spelledUnder base root) override)
      = (nonEmpty? override).map (spelledUnder (spelledUnder base root)) := by
  cases override with
  | none => rfl
  | some path =>
    by_cases hpath : path = []
    · subst hpath
      rfl
    · have hroot := isAbsolutePath_spelledUnder hbase root
      have hspelled : spelledUnder (spelledUnder base root) path ≠ [] :=
        (isAbsolutePath_spelledUnder hroot path).ne_nil
      simp only [spelledOverride, Option.map_some, if_neg hpath]
      rw [nonEmpty?_eq_some_iff.mpr ⟨rfl, hspelled⟩, nonEmpty?_eq_some_iff.mpr ⟨rfl, hpath⟩]
      rfl

theorem resolvePackage_spelledOverride (find : Finder) (root : Text) (override : Option Text) :
    resolvePackage find (absolutizePath root base)
        (spelledOverride (spelledUnder base root) override)
      = resolvePackage find (absolutizePath root base) override := by
  unfold resolvePackage
  rw [nonEmpty?_spelledOverride hbase]
  cases nonEmpty? override with
  | none => rfl
  | some path => simp only [Option.map_some, absolutizePath_spelledOverride hbase]

theorem resolveTsconfig_spelledOverride (find : Finder) (root : Text) (override : Option Text) :
    resolveTsconfig find (absolutizePath root base)
        (spelledOverride (spelledUnder base root) override)
      = resolveTsconfig find (absolutizePath root base) override := by
  unfold resolveTsconfig
  rw [nonEmpty?_spelledOverride hbase]
  cases nonEmpty? override with
  | none => rfl
  | some path => simp only [Option.map_some, absolutizePath_spelledOverride hbase]

/-- **A spelled out declaration stands for the same project**, with the same
searches and the same error, whatever the base. -/
theorem resolveProject_spelledOut (find : Finder) (base' : Text) (d : Declaration) :
    resolveProject find base' (.record (d.toRecord.spelledOut base))
      = resolveProject find base d := by
  simp only [resolveProject, Declaration.toRecord, ProjectRecord.spelledOut,
    absolutizePath_spelledUnder hbase, resolvePackage_spelledOverride hbase,
    resolveTsconfig_spelledOverride hbase]

theorem resolveAll_spelledOut (find : Finder) (base' : Text) :
    ∀ ds : List Declaration,
      resolveAll find base' (ds.map fun d => .record (d.toRecord.spelledOut base))
        = resolveAll find base ds
  | [] => rfl
  | d :: ds => by
    rw [List.map_cons, resolveAll, resolveAll, resolveProject_spelledOut hbase find base',
      resolveAll_spelledOut find base' ds]

end

/-- Spelling out keeps the declarations one by one. -/
theorem declarationsOf_spelledOut {base : Text} {config : UserConfig}
    (hdeclared : config.projects.getD [] ≠ []) (workspace workspace' : Text) :
    declarationsOf workspace' (config.spelledOut base)
      = (declarationsOf workspace config).map fun d => .record (d.toRecord.spelledOut base) := by
  obtain ⟨settings, projects⟩ := config
  cases projects with
  | none => simp at hdeclared
  | some ds =>
    cases ds with
    | nil => simp at hdeclared
    | cons d ds => rfl

/-! ## Writing a configuration -/

/-- A declaration in the shape in which it is written; overrides that are not
there are left out. -/
def Declaration.toValue : Declaration → Value
  | .path root => .str root
  | .record fields => Project.toValue ⟨fields.root, fields.package, fields.tsconfig⟩

/-- Null stands for what is not there. -/
def orNull {α : Type} (write : α → Value) : Option α → Value
  | none => .null
  | some a => write a

/-- A configuration in the shape in which it is written. -/
def UserConfig.toValue (config : UserConfig) : Value :=
  .map [(.str "settings", orNull Settings.toValue config.settings),
    (.str "projects", orNull (fun ds => .list (ds.map Declaration.toValue)) config.projects)]

/-- A written declaration spells the declaration. -/
theorem spellsDeclaration_toValue {d : Declaration} (hroot : Text.isBlank d.toRecord.root = false) :
    SpellsDeclaration d.toValue d := by
  cases d with
  | path root => exact .path hroot
  | record fields =>
    obtain ⟨root, package, tsconfig⟩ := fields
    cases package <;> cases tsconfig <;>
      exact .record rfl hroot (by constructor <;> rfl) (by constructor <;> rfl)

theorem isPlain_settings {settings : Settings} (hnames : (settings.map Prod.fst).Nodup) :
    settings.toValue.isPlain = true := by
  have hentries : ∀ ps : Settings,
      Value.arePlainEntries (ps.map fun p => (.str p.1, p.2.toValue)) = true := by
    intro ps
    induction ps with
    | nil => rfl
    | cons p ps ih =>
      have hvalue : p.2.toValue.isPlain = true := by
        cases p.2 <;> rfl
      simp only [List.map_cons, Value.arePlainEntries, hvalue, ih, Value.isPlain, Bool.and_self]
  simp only [Settings.toValue, Value.isPlain, Bool.and_eq_true, decide_eq_true_eq]
  exact ⟨hentries settings, by rwa [textKeys_map]⟩

theorem isPlain_declarations : ∀ ds : List Declaration,
    (Value.list (ds.map Declaration.toValue)).isPlain = true
  | [] => rfl
  | d :: ds => by
    have hd : d.toValue.isPlain = true := by
      cases d with
      | path root => rfl
      | record fields =>
        obtain ⟨root, package, tsconfig⟩ := fields
        cases package <;> cases tsconfig <;> rfl
    have hds := isPlain_declarations ds
    rw [Value.isPlain] at hds ⊢
    rw [List.map_cons, Value.arePlain, hd, hds]
    rfl

theorem isPlain_orNull {α : Type} {write : α → Value} {o : Option α}
    (h : ∀ a, o = some a → (write a).isPlain = true) : (orNull write o).isPlain = true := by
  cases o with
  | none => rfl
  | some a => exact h a rfl

theorem isPlain_toValue {config : UserConfig}
    (hnames : ((config.settings.getD []).map Prod.fst).Nodup) : config.toValue.isPlain = true := by
  have hsettings : (orNull Settings.toValue config.settings).isPlain = true := by
    refine isPlain_orNull fun settings hs => isPlain_settings ?_
    rwa [hs] at hnames
  have hprojects : (orNull (fun ds => Value.list (ds.map Declaration.toValue))
      config.projects).isPlain = true := isPlain_orNull fun ds _ => isPlain_declarations ds
  have hkeys : [Text.ofString "settings", Text.ofString "projects"].Nodup := by decide
  simp only [UserConfig.toValue, Value.isPlain, Value.arePlainEntries, hsettings, hprojects,
    Bool.and_self, Bool.true_and, Value.textKeys]
  exact decide_eq_true hkeys

/-- A configuration that is written is accepted as it was, if its settings have
different names and its roots are no blank texts. -/
theorem ofArgument_toValue {config : UserConfig}
    (hnames : ((config.settings.getD []).map Prod.fst).Nodup)
    (hroots : ∀ d ∈ config.projects.getD [], Text.isBlank d.toRecord.root = false) :
    UserConfig.ofArgument config.toValue = .ok config := by
  have hplain := isPlain_toValue hnames
  obtain ⟨settings, projects⟩ := config
  refine ofMapping_eq_ok_iff.mpr ((ofEntries_eq_ok_iff hplain).mpr ⟨?_, ?_⟩)
  · cases settings with
    | none => exact .null
    | some settings => exact .given rfl
  · cases projects with
    | none => exact .null
    | some ds =>
      refine .given ⟨_, rfl, ?_⟩
      rw [List.forall₂_map_left_iff, List.forall₂_same]
      exact fun d hd => spellsDeclaration_toValue (hroots d hd)

/-- A spelled out configuration can be handed over as data. -/
theorem ofArgument_spelledOut {base : Text} (hbase : IsAbsolutePath base) {v : Value}
    {config : UserConfig} (haccepted : UserConfig.ofValue v = .ok config) :
    UserConfig.ofArgument (config.spelledOut base).toValue = .ok (config.spelledOut base) := by
  have hnames := nodup_names_of_ofValue haccepted
  refine ofArgument_toValue hnames fun d hd => ?_
  obtain ⟨settings, projects⟩ := config
  cases projects with
  | none => simp [UserConfig.spelledOut] at hd
  | some ds =>
    obtain ⟨d', -, rfl⟩ := List.mem_map.mp hd
    exact isBlank_of_isAbsolutePath (isAbsolutePath_spelledUnder hbase d'.toRecord.root)

/-! ## The spelled out configuration -/

/-- **Spelling out every path preserves the meaning of a configuration.** Taken
from an absolute base, an accepted configuration that declares a project
becomes one that is accepted, too, and has the same outcome from every other
base and for every other workspace: the same projects in the same order, the
same settings and the same repeated roots, or the same error. -/
theorem resolve_spelledOut {base : Text} {v : Value} {config : UserConfig}
    (hbase : IsAbsolutePath base) (haccepted : UserConfig.ofValue v = .ok config)
    (hdeclared : config.projects.getD [] ≠ []) :
    UserConfig.ofArgument (config.spelledOut base).toValue = .ok (config.spelledOut base)
      ∧ ∀ (find : Finder) (base' workspace workspace' : Text),
          resolve find base' workspace' (config.spelledOut base)
            = resolve find base workspace config := by
  refine ⟨ofArgument_spelledOut hbase haccepted, fun find base' workspace workspace' => ?_⟩
  rw [resolve, resolve, declarationsOf_spelledOut hdeclared workspace,
    resolveAll_spelledOut hbase find base']
  rfl

/-- A root that climbs past the top, one that repeats it from below, and
overrides of every kind: relative, absolute and empty. -/
def climbingValue : Value :=
  .map [(.str "projects", .list [.str "../../..//b/",
    .map [(.str "root", .str "c/../../../b"), (.str "package", .str "../../p"),
      (.str "tsconfig", .str "")],
    .map [(.str "root", .str "//d"), (.str "package", .str "./p"), (.str "tsconfig", .str "/t")]])]

def climbingConfig : UserConfig :=
  ⟨none, some [.path "../../..//b/", .record ⟨"c/../../../b", some "../../p", some ""⟩,
    .record ⟨"//d", some "./p", some "/t"⟩]⟩

/-- Nothing is cancelled, and no slash is added where there is one. -/
theorem resolve_spelledOut_climbing :
    IsAbsolutePath "/w/" ∧ UserConfig.ofValue climbingValue = .ok climbingConfig
      ∧ climbingConfig.projects.getD [] ≠ []
      ∧ climbingConfig.spelledOut "/w/" = ⟨none, some [.record ⟨"/w/../../..//b/", none, none⟩,
          .record ⟨"/w/c/../../../b", some "/w/c/../../../b/../../p", some ""⟩,
          .record ⟨"//d", some "//d/./p", some "/t"⟩]⟩
      ∧ ∃ r, resolve (fun _ _ => .ok none) "/w/" "" climbingConfig = .ok r
        ∧ resolve (fun _ _ => .ok none) "elsewhere" "x" (climbingConfig.spelledOut "/w/") = .ok r
        ∧ r.repeated = [(Text.ofString "/b", 2)] := by
  have hbase : IsAbsolutePath "/w/" := by decide
  have hvalue : UserConfig.ofValue climbingValue = .ok climbingConfig := rfl
  have hdeclared : climbingConfig.projects.getD [] ≠ [] := by decide
  obtain ⟨-, hsame⟩ := resolve_spelledOut hbase hvalue hdeclared
  have hr : resolve (fun _ _ => .ok none) "/w/" "" climbingConfig = .ok _ := rfl
  exact ⟨hbase, hvalue, hdeclared, rfl, _, hr, (hsame _ _ _ _).trans hr, rfl⟩

end Workspace
