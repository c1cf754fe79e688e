/-
Workspace.Proofs.ResolutionSearches — the searches that a resolution makes, and
which error it reports.

A resolution searches by a `Finder`, which may fail. The searches are known
before it starts: for each declaration in order those for the fields that it
does not override (`searchesOf`). `Asks searches run` says that `run` makes just
these searches, one after the other, and ends at the first that fails; it is
kept by doing one thing after another (`Asks.bind`), so it is derived for each
function from the searches of its parts.

What a run asks decides whether it fails and with which error
(`Asks.exists_ok_iff`, `Asks.eq_error_iff`), and what it does not ask has no
part in it (`Asks.congr`): a search for a field that is overridden can neither
fail a resolution nor change its outcome.
-/
import Workspace.CommandLine.Lookups
import Workspace.Proofs.DocumentedShape

namespace Workspace

open CommandLine (projectFileNames)

/-! ## One search after the other -/

/-- A search for a file, from a root upwards. -/
structure Query where
  root : Text
  fileName : Text
  deriving DecidableEq, Repr

/-- What a finder says to a query. -/
def Query.answer (find : Finder) (q : Query) : Except Error (Option Text) :=
  find q.root q.fileName

/-- All queries asked in order; the first error ends it. -/
def askAll (find : Finder) : List Query → Except Error Unit
  | [] => .ok ()
  | q :: rest => do
    let _ ← q.answer find
    askAll find rest

/-- The first of the queries that fails does so with this error. -/
def FailsFirst (find : Finder) (queries : List Query) (e : Error) : Prop :=
  ∃ before q after, queries = before ++ q :: after
    ∧ (∀ p ∈ before, ∃ found, p.answer find = .ok found)
    ∧ q.answer find = .error e

section

variable {find : Finder}

theorem askAll_append (queries more : List Query) :
    askAll find (queries ++ more) = askAll find queries >>= fun _ => askAll find more := by
  induction queries with
  | nil => rfl
  | cons q rest ih =>
    rw [List.cons_append, askAll, askAll, ih]
    cases q.answer find <;> rfl

theorem askAll_eq_ok_iff {queries : List Query} :
    askAll find queries = .ok () ↔ ∀ q ∈ queries, ∃ found, q.answer find = .ok found := by
  induction queries with
  | nil => simp [askAll]
  | cons q rest ih =>
    rw [askAll, bind_eq_ok_iff, List.forall_mem_cons, ih]
    simp

theorem askAll_eq_error_iff {queries : List Query} {e : Error} :
    askAll find queries = .error e ↔ FailsFirst find queries e := by
  induction queries with
  | nil => simp [askAll, FailsFirst]
  | cons q rest ih =>
    rw [askAll, bind_eq_error_iff, ih]
    constructor
    · rintro (hq | ⟨found, hq, before, p, after, rfl, hbefore, hp⟩)
      · exact ⟨[], q, rest, rfl, by simp, hq⟩
      · exact ⟨q :: before, p, after, rfl, List.forall_mem_cons.mpr ⟨⟨found, hq⟩, hbefore⟩, hp⟩
    · rintro ⟨before, p, after, hsplit, hbefore, hp⟩
      cases before with
      | nil =>
        obtain ⟨rfl, rfl⟩ := List.cons.inj hsplit
        exact Or.inl hp
      | cons q' before =>
        obtain ⟨rfl, rfl⟩ := List.cons.inj hsplit
        obtain ⟨⟨found, hq⟩, hrest⟩ := List.forall_mem_cons.mp hbefore
        exact Or.inr ⟨found, hq, before, p, after, rfl, hrest, hp⟩

end

/-! ## Runs that search -/

/-- The run asks these queries in order, ends at the first that fails with its
error, and depends on nothing else that a finder might say. -/
structure Asks {α : Type} (queries : List Query) (run : Finder → Except Error α) : Prop where
  outcome : ∀ find, (run find).map (fun _ => ()) = askAll find queries
  congr : ∀ find find', (∀ q ∈ queries, q.answer find' = q.answer find) → run find' = run find

namespace Asks

variable {α β : Type} {queries more : List Query} {run : Finder → Except Error α}

theorem pure (a : α) : Asks [] fun _ => .ok a :=
  ⟨fun _ => rfl, fun _ _ _ => rfl⟩

/-- One run after another asks the queries of the first and then those of the
second, which may go by what the first came to but always asks the same. -/
theorem bind {next : α → Finder → Except Error β} (h : Asks queries run)
    (hnext : ∀ a, Asks more (next a)) :
    Asks (queries ++ more) fun find => run find >>= fun a => next a find where
  outcome find := by
    rw [askAll_append, ← h.outcome find]
    cases run find with
    | error e => rfl
    | ok a => exact (hnext a).outcome find
  congr find find' hsame := by
    obtain ⟨hqueries, hmore⟩ := List.forall_mem_append.mp hsame
    show run find' >>= (next · find') = run find >>= (next · find)
    rw [h.congr find find' hqueries]
    cases run find with
    | error e => rfl
    | ok a => exact (hnext a).congr find find' hmore

theorem map (f : α → β) (h : Asks queries run) : Asks queries fun find => (run find).map f where
  outcome find := by
    rw [← h.outcome find]
    cases run find <;> rfl
  congr find find' hsame := by
    rw [h.congr find find' hsame]

/-- A run succeeds when every query is answered. -/
theorem exists_ok_iff (h : Asks queries run) (find : Finder) :
    (∃ a, run find = .ok a) ↔ ∀ q ∈ queries, ∃ found, q.answer find = .ok found := by
  rw [← askAll_eq_ok_iff, ← h.outcome find]
  cases run find <;> simp [Except.map]

/-- A run fails with the error of the first query that does. -/
theorem eq_error_iff (h : Asks queries run) (find : Finder) (e : Error) :
    run find = .error e ↔ FailsFirst find queries e := by
  rw [← askAll_eq_error_iff, ← h.outcome find]
  cases run find <;> simp [Except.map]

end Asks

/-! ## The searches of a resolution -/

/-- The files that are searched for from a root, unless they are overridden; an
empty override is none. -/
def searchesUnless (override : Option Text) (root : Text) (names : List Text) : List Query :=
  match nonEmpty? override with
  | some _ => []
  | none => names.map (Query.mk root)

/-- The searches for the files of a declared project. -/
def searchesFor (base : Text) (d : Declaration) : List Query :=
  searchesUnless d.toRecord.package (rootOf base d) ["package.json"]
    ++ searchesUnless d.toRecord.tsconfig (rootOf base d) ["jsconfig.json", "tsconfig.json"]

/-- The searches for the files of all declared projects. -/
def searchesOf (base : Text) (ds : List Declaration) : List Query :=
  ds.flatMap (searchesFor base)

theorem mem_searchesUnless_iff {override : Option Text} {root : Text} {names : List Text}
    {q : Query} : q ∈ searchesUnless override root names
      ↔ nonEmpty? override = none ∧ q.root = root ∧ q.fileName ∈ names := by
  obtain ⟨root', fileName⟩ := q
  unfold searchesUnless
  cases nonEmpty? override with
  | some path => simp
  | none =>
    simp only [List.mem_map, Query.mk.injEq, true_and]
    constructor
    · rintro ⟨name, hname, rfl, rfl⟩
      exact ⟨rfl, hname⟩
    · rintro ⟨rfl, hname⟩
      exact ⟨fileName, hname, rfl, rfl⟩

/-- A search for a declared project is for one of its files, from its root. -/
theorem of_mem_searchesFor {base : Text} {d : Declaration} {q : Query}
    (h : q ∈ searchesFor base d) : q.root = rootOf base d ∧ q.fileName ∈ projectFileNames := by
  rcases List.mem_append.mp h with h | h
  · obtain ⟨-, hroot, hname⟩ := mem_searchesUnless_iff.mp h
    exact ⟨hroot, List.mem_cons.mpr (Or.inl (List.mem_singleton.mp hname))⟩
  · obtain ⟨-, hroot, hname⟩ := mem_searchesUnless_iff.mp h
    exact ⟨hroot, List.mem_cons_of_mem _ hname⟩

theorem asks_findNormalized (root name : Text) :
    Asks [⟨root, name⟩] fun find => findNormalized find root name := by
  have hasked : Asks [⟨root, name⟩] (Query.answer · ⟨root, name⟩) := by
    refine ⟨fun find => ?_, fun find find' hsame => hsame _ (by simp)⟩
    rw [askAll, askAll]
    cases Query.answer find ⟨root, name⟩ <;> rfl
  exact hasked.map fun found => (nonEmpty? found).map normalizePath

theorem asks_resolvePackage (root : Text) (override : Option Text) :
    Asks (searchesUnless override root ["package.json"])
      fun find => resolvePackage find root override := by
  unfold searchesUnless resolvePackage
  cases nonEmpty? override with
  | some path => exact Asks.pure _
  | none => exact asks_findNormalized root "package.json"

/-- Both searches are made, whatever the first one finds. -/
theorem asks_resolveTsconfig (root : Text) (override : Option Text) :
    Asks (searchesUnless override root ["jsconfig.json", "tsconfig.json"])
      fun find => resolveTsconfig find root override := by
  unfold searchesUnless resolveTsconfig
  cases nonEmpty? override with
  | some path => exact Asks.pure _
  | none =>
    exact (asks_findNormalized root "jsconfig.json").bind fun loose =>
      (asks_findNormalized root "tsconfig.json").bind fun strict =>
        Asks.pure (moreSpecific loose strict)

theorem asks_resolveProject (base : Text) (d : Declaration) :
    Asks (searchesFor base d) fun find => resolveProject find base d := by
  have hfields := (asks_resolvePackage (rootOf base d) d.toRecord.package).bind fun package =>
    (asks_resolveTsconfig (rootOf base d) d.toRecord.tsconfig).bind fun tsconfig =>
      Asks.pure (⟨rootOf base d, package, tsconfig⟩ : Project)
  rwa [List.append_nil] at hfields

theorem asks_resolveAll (base : Text) (ds : List Declaration) :
    Asks (searchesOf base ds) fun find => resolveAll find base ds := by
  induction ds with
  | nil => exact Asks.pure []
  | cons d ds ih =>
    have hall := (asks_resolveProject base d).bind fun project =>
      ih.bind fun projects => Asks.pure (project :: projects)
    rwa [List.append_nil] at hall

theorem asks_resolve (base workspace : Text) (config : UserConfig) :
    Asks (searchesOf base (declarationsOf workspace config))
      fun find => resolve find base workspace config := by
  have hall := (asks_resolveAll base (declarationsOf workspace config)).bind fun projects =>
    Asks.pure (⟨⟨config.settings.getD [], sortByDepth projects⟩,
      repeatedTexts (projects.map Project.root)⟩ : Resolution)
  rwa [List.append_nil] at hall

/-! ## The error of a resolution -/

/-- Resolves the configuration that a mapping stands for. -/
def resolveMapping (find : Finder) (base workspace : Text) (entries : List (Value × Value)) :
    Except Error Resolution :=
  (UserConfig.ofArgument (.map entries)).bind (resolve find base workspace)

section

variable {base workspace : Text} {entries : List (Value × Value)}

theorem resolveMapping_of_ok {config : UserConfig}
    (h : UserConfig.ofValue (.map entries) = .ok config) (find : Finder) :
    resolveMapping find base workspace entries = resolve find base workspace config := by
  rw [ofValue_map] at h
  rw [resolveMapping, UserConfig.ofArgument, h]
  rfl

theorem resolveMapping_of_error {e : Error}
    (h : UserConfig.ofValue (.map entries) = .error e) (find : Finder) :
    resolveMapping find base workspace entries = .error e := by
  rw [ofValue_map] at h
  rw [resolveMapping, UserConfig.ofArgument, h]
  rfl

end

/-- **Which error a resolution reports.** A configuration that is not accepted
is an invalid declaration, whatever a search would say. For an accepted one the
searches are those for the fields that are not overridden, declaration by
declaration: the resolution succeeds exactly when none of them fails, otherwise
it fails with the error of the first that does, and finders that agree on them
give the same result. -/
theorem resolveMapping_failsFirst (base workspace : Text)
    (entries : List (Value × Value)) :
    (∀ e, UserConfig.ofValue (.map entries) = .error e →
      (∃ issues, e = .invalidConfig issues)
        ∧ ∀ find, resolveMapping find base workspace entries = .error e)
      ∧ ∀ config, UserConfig.ofValue (.map entries) = .ok config →
        let searches := searchesOf base (declarationsOf workspace config)
        (∀ find, (∃ r, resolveMapping find base workspace entries = .ok r)
            ↔ ∀ q ∈ searches, ∃ found, q.answer find = .ok found)
          ∧ (∀ find e, resolveMapping find base workspace entries = .error e
            ↔ FailsFirst find searches e)
          ∧ (∀ find find', (∀ q ∈ searches, q.answer find' = q.answer find) →
            resolveMapping find' base workspace entries
              = resolveMapping find base workspace entries) := by
  refine ⟨fun e hrejected => ⟨ofMapping_eq_error ((ofValue_map entries).symm.trans hrejected),
    resolveMapping_of_error hrejected⟩, fun config haccepted => ?_⟩
  simp only [resolveMapping_of_ok haccepted]
  have hasks := asks_resolve base workspace config
  exact ⟨hasks.exists_ok_iff, hasks.eq_error_iff, hasks.congr⟩

/-- A manifest that is overridden, a tsconfig file whose override is empty, and
a root that is not normalized. -/
def overridingEntries : List (Value × Value) :=
  [(.str "projects", .list [
    .map [(.str "root", .str "a"), (.str "package", .str "p.json"), (.str "tsconfig", .str "")],
    .str "b/../c"])]

def overridingConfig : UserConfig where
  settings := none
  projects := some [.record ⟨"a", some "p.json", some ""⟩, .path "b/../c"]

theorem searchesOf_overridingConfig :
    searchesOf "/ws" (declarationsOf "/ws" overridingConfig)
      = [⟨"/ws/a", "jsconfig.json"⟩, ⟨"/ws/a", "tsconfig.json"⟩, ⟨"/ws/c", "package.json"⟩,
        ⟨"/ws/c", "jsconfig.json"⟩, ⟨"/ws/c", "tsconfig.json"⟩] := by
  decide

/-- Finds nothing but jsconfig files, and fails where it looks for manifests or
tsconfig files. -/
def looseFinder : Finder := fun root name =>
  if name = "jsconfig.json" then .ok (some (root ++ "/jsconfig.json"))
  else .error (.searchFailed name root)

/-- Finds nothing, and fails for manifests of one root. -/
def sparingFinder (refused : Text) : Finder := fun root name =>
  if root = refused ∧ name = "package.json" then .error (.searchFailed name root) else .ok none

theorem answer_sparingFinder {refused : Text} {q : Query}
    (h : ¬(q.root = refused ∧ q.fileName = "package.json")) :
    q.answer (sparingFinder refused) = .ok none :=
  if_neg h

/-- The overridden manifest is not searched for. The tsconfig file is, though
its override is there and a jsconfig file was found; so its failure comes before
the failure of the second project. A blank root is refused before any search. -/
theorem resolveMapping_overridingEntries :
    UserConfig.ofValue (.map overridingEntries) = .ok overridingConfig
      ∧ resolveMapping looseFinder "/ws" "/ws" overridingEntries
        = .error (.searchFailed "tsconfig.json" "/ws/a")
      ∧ (∃ r, resolveMapping (sparingFinder "/ws/a") "/ws" "/ws" overridingEntries = .ok r)
      ∧ resolveMapping (sparingFinder "/ws/a") "/ws" "/ws" overridingEntries
        = resolveMapping (sparingFinder "/ws/b") "/ws" "/ws" overridingEntries
      ∧ ∃ issues, UserConfig.ofValue (.map [(.str "projects", .list [.str " "])])
          = .error (.invalidConfig issues)
        ∧ resolveMapping looseFinder "/ws" "/ws" [(.str "projects", .list [.str " "])]
          = .error (.invalidConfig issues) := by
  have haccepted : UserConfig.ofValue (.map overridingEntries) = .ok overridingConfig := by
    rfl
  obtain ⟨hok, herror, hcongr⟩ :=
    (resolveMapping_failsFirst "/ws" "/ws" overridingEntries).2 _ haccepted
  have hspared : ∀ refused ∈ [Text.ofString "/ws/a", "/ws/b"],
      ∀ q ∈ searchesOf "/ws" (declarationsOf "/ws" overridingConfig),
        q.answer (sparingFinder refused) = .ok none := by
    intro refused hrefused q hq
    rw [searchesOf_overridingConfig] at hq
    refine answer_sparingFinder ?_
    revert refused q
    decide
  have hfirst := hspared "/ws/a" (by simp)
  have hsecond := hspared "/ws/b" (by simp)
  refine ⟨haccepted, (herror _ _).mpr ⟨[⟨"/ws/a", "jsconfig.json"⟩], ⟨"/ws/a", "tsconfig.json"⟩, _,
    searchesOf_overridingConfig, ?_, rfl⟩, (hok _).mpr fun q hq => ⟨none, hfirst q hq⟩,
    hcongr _ _ fun q hq => (hfirst q hq).trans (hsecond q hq).symm, _, rfl,
    ((resolveMapping_failsFirst "/ws" "/ws" [(.str "projects", .list [.str " "])]).1 _ rfl).2 _⟩
  simp only [List.forall_mem_singleton]
  exact ⟨_, rfl⟩

end Workspace
