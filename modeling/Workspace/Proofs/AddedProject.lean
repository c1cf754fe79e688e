/-
Workspace.Proofs.AddedProject — one more declaration changes the owners of
the files inside it, and of no others.

The owner of a file in a list sorted by depth is known by three things: its
root covers the file, no deeper root does, and it is the first project with
its root that was declared (`findOwner_sortByDepth_eq_some_iff`). An added
project leaves all three alone for a file that it does not cover. A file that
it does cover goes over to it when the former owner, if there was one, has a
root that is less deep, or the same root declared later (`TakesOver`); in any
other case the file stays where it was (`findOwner_sortByDepth_insert`).

`findOwner_resolve_insert` says this of resolved configurations, for a
declaration inserted anywhere in the list.
-/
import Workspace.Proofs.DeepestOwner

namespace Workspace

/-! ## The owner, by what it has to fulfil -/

section

variable {ps : List Project} {file : Text}

theorem findOwner_sortByDepth_eq_none_iff (hroots : ∀ p ∈ ps, IsCanonical p.root) :
    findOwner (sortByDepth ps) file = none ↔ ∀ p ∈ ps, ¬Covers p.root file := by
  rw [findOwner_eq_none_iff fun p hp => hroots p (mem_sortByDepth.mp hp)]
  simp only [mem_sortByDepth]

/-- The owner covers the file, has the deepest root that does, and is the
first project with that root. There is only one such project. -/
theorem findOwner_sortByDepth_eq_some_iff (hroots : ∀ p ∈ ps, IsCanonical p.root) {p : Project} :
    findOwner (sortByDepth ps) file = some p ↔
      Covers p.root file
        ∧ (∀ q ∈ ps, Covers q.root file → pathDepth q.root ≤ pathDepth p.root)
        ∧ ps.find? (fun q => q.root = p.root) = some p := by
  constructor
  · intro h
    obtain ⟨hcovers, hdeep, hfirst⟩ := findOwner_sortByDepth_eq_some hroots h
    refine ⟨hcovers, fun q hq hq' => ?_, hfirst⟩
    rcases hdeep q hq hq' with heq | hancestor
    · exact Nat.le_of_eq (congrArg pathDepth heq)
    · have hp : p ∈ ps := List.mem_of_find?_eq_some hfirst
      exact Nat.le_of_lt (hancestor.pathDepth_lt (hroots q hq) (hroots p hp))
  · rintro ⟨hcovers, hdeep, hfirst⟩
    have hp : p ∈ ps := List.mem_of_find?_eq_some hfirst
    cases howner : findOwner (sortByDepth ps) file with
    | none => exact absurd hcovers ((findOwner_sortByDepth_eq_none_iff hroots).mp howner p hp)
    | some q =>
      obtain ⟨hqcovers, hqdeep, hqfirst⟩ := findOwner_sortByDepth_eq_some hroots howner
      have hq : q ∈ ps := List.mem_of_find?_eq_some hqfirst
      -- `p` is not deeper than the owner, and the owner is not deeper than `p`
      have hroot : p.root = q.root := by
        rcases hqdeep p hp hcovers with heq | hancestor
        · exact heq
        · have hlt := hancestor.pathDepth_lt (hroots p hp) (hroots q hq)
          exact absurd (hdeep q hq hqcovers) (Nat.not_le.mpr hlt)
      rw [← hqfirst, ← hroot, hfirst]

end

/-! ## Inserting a project -/

/-- A root takes a file over from its owner: there is none, or its root is
less deep, or it is the same root and not among the roots declared `earlier`. -/
def TakesOver (root : Text) (earlier : List Text) : Option Project → Prop
  | none => True
  | some owner =>
    pathDepth owner.root < pathDepth root ∨ (owner.root = root ∧ root ∉ earlier)

instance (root : Text) (earlier : List Text) (owner : Option Project) :
    Decidable (TakesOver root earlier owner) :=
  match owner with
  | none => inferInstanceAs (Decidable True)
  | some _ => inferInstanceAs (Decidable (_ ∨ _))

/-- The first match in a list with one more element. -/
theorem find?_insert {α : Type} (keep : α → Bool) (as bs : List α) (x : α) :
    (as ++ x :: bs).find? keep
      = if keep x = true ∧ as.find? keep = none then some x else (as ++ bs).find? keep := by
  rw [List.find?_append, List.find?_append, List.find?_cons]
  cases as.find? keep with
  | some a => simp
  | none => cases keep x <;> simp

section

variable {ps qs : List Project} {p : Project} {file : Text}
  (hroots : ∀ q ∈ ps ++ p :: qs, IsCanonical q.root)

include hroots

theorem isCanonical_root_of_mem_append : ∀ q ∈ ps ++ qs, IsCanonical q.root := by
  intro q hq
  refine hroots q ?_
  simp only [List.mem_append, List.mem_cons] at hq ⊢
  exact hq.imp_right Or.inr

/-- A project that does not cover a file leaves it to its owner. -/
theorem findOwner_insert_of_not_covers (h : ¬Covers p.root file) :
    findOwner (sortByDepth (ps ++ p :: qs)) file = findOwner (sortByDepth (ps ++ qs)) file := by
  have hroots' := isCanonical_root_of_mem_append hroots
  cases howner : findOwner (sortByDepth (ps ++ qs)) file with
  | none =>
    have hnobody := (findOwner_sortByDepth_eq_none_iff hroots').mp howner
    simp only [List.forall_mem_append] at hnobody
    refine (findOwner_sortByDepth_eq_none_iff hroots).mpr ?_
    simp only [List.forall_mem_append, List.forall_mem_cons]
    exact ⟨hnobody.1, h, hnobody.2⟩
  | some o =>
    obtain ⟨hcovers, hdeep, hfirst⟩ := (findOwner_sortByDepth_eq_some_iff hroots').mp howner
    have hother : p.root ≠ o.root := fun heq => h (heq ▸ hcovers)
    simp only [List.forall_mem_append] at hdeep
    refine (findOwner_sortByDepth_eq_some_iff hroots).mpr ⟨hcovers, ?_, ?_⟩
    · simp only [List.forall_mem_append, List.forall_mem_cons]
      exact ⟨hdeep.1, fun hp => absurd hp h, hdeep.2⟩
    · rw [find?_insert, if_neg (by simp [hother]), hfirst]

/-- A project that takes a file over owns it. -/
theorem findOwner_insert_of_takesOver (h : Covers p.root file)
    (htakes : TakesOver p.root (ps.map Project.root) (findOwner (sortByDepth (ps ++ qs)) file)) :
    findOwner (sortByDepth (ps ++ p :: qs)) file = some p := by
  have hroots' := isCanonical_root_of_mem_append hroots
  -- what covers the file is not deeper than `p`, and has another root where it comes before `p`
  have hbest : (∀ q ∈ ps ++ qs, Covers q.root file → pathDepth q.root ≤ pathDepth p.root)
      ∧ ∀ q ∈ ps, q.root ≠ p.root := by
    cases howner : findOwner (sortByDepth (ps ++ qs)) file with
    | none =>
      have hnobody := (findOwner_sortByDepth_eq_none_iff hroots').mp howner
      refine ⟨fun q hq hcovers => absurd hcovers (hnobody q hq), fun q hq heq => ?_⟩
      exact hnobody q (List.mem_append_left _ hq) (heq ▸ h)
    | some o =>
      obtain ⟨-, hdeep, -⟩ := (findOwner_sortByDepth_eq_some_iff hroots').mp howner
      rw [howner] at htakes
      rcases htakes with hless | ⟨hsame, hearlier⟩
      · refine ⟨fun q hq hcovers => Nat.le_trans (hdeep q hq hcovers) (Nat.le_of_lt hless), ?_⟩
        intro q hq heq
        have hle := hdeep q (List.mem_append_left _ hq) (heq ▸ h)
        rw [heq] at hle
        exact absurd hle (Nat.not_le.mpr hless)
      · refine ⟨fun q hq hcovers => hsame ▸ hdeep q hq hcovers, fun q hq heq => ?_⟩
        exact hearlier (heq ▸ List.mem_map_of_mem hq)
  obtain ⟨hdeep, hother⟩ := hbest
  simp only [List.forall_mem_append] at hdeep
  refine (findOwner_sortByDepth_eq_some_iff hroots).mpr ⟨h, ?_, ?_⟩
  · simp only [List.forall_mem_append, List.forall_mem_cons]
    exact ⟨hdeep.1, fun _ => Nat.le_refl _, hdeep.2⟩
  · have hnone : ps.find? (fun q => q.root = p.root) = none :=
      List.find?_eq_none.mpr fun q hq => by simpa using hother q hq
    rw [find?_insert, if_pos ⟨by simp, hnone⟩]

/-- A project that covers a file and does not take it over leaves it to its
owner. -/
theorem findOwner_insert_of_not_takesOver
    (htakes : ¬TakesOver p.root (ps.map Project.root) (findOwner (sortByDepth (ps ++ qs)) file)) :
    findOwner (sortByDepth (ps ++ p :: qs)) file = findOwner (sortByDepth (ps ++ qs)) file := by
  have hroots' := isCanonical_root_of_mem_append hroots
  cases howner : findOwner (sortByDepth (ps ++ qs)) file with
  | none =>
    rw [howner] at htakes
    exact absurd trivial htakes
  | some o =>
    obtain ⟨hcovers, hdeep, hfirst⟩ := (findOwner_sortByDepth_eq_some_iff hroots').mp howner
    rw [howner] at htakes
    obtain ⟨hle, hearlier⟩ := not_or.mp htakes
    simp only [List.forall_mem_append] at hdeep
    refine (findOwner_sortByDepth_eq_some_iff hroots).mpr ⟨hcovers, ?_, ?_⟩
    · simp only [List.forall_mem_append, List.forall_mem_cons]
      exact ⟨hdeep.1, fun _ => Nat.le_of_not_lt hle, hdeep.2⟩
    · -- where the roots are the same, one that was declared before `p` is found first
      rw [find?_insert, if_neg, hfirst]
      rintro ⟨hsame, hnone⟩
      obtain hsame : p.root = o.root := of_decide_eq_true hsame
      refine hearlier ⟨hsame.symm, fun hmem => ?_⟩
      obtain ⟨q, hq, hroot⟩ := List.mem_map.mp hmem
      have hmiss := List.find?_eq_none.mp hnone q hq
      simp [hroot, hsame] at hmiss

/-- **Inserting a project into a list**: a file that it does not cover keeps
its owner, and one that it covers goes over to it or keeps its owner. -/
theorem findOwner_sortByDepth_insert (file : Text) :
    (¬Covers p.root file →
        findOwner (sortByDepth (ps ++ p :: qs)) file = findOwner (sortByDepth (ps ++ qs)) file)
      ∧ (Covers p.root file →
        findOwner (sortByDepth (ps ++ p :: qs)) file
          = if TakesOver p.root (ps.map Project.root) (findOwner (sortByDepth (ps ++ qs)) file)
            then some p else findOwner (sortByDepth (ps ++ qs)) file) := by
  refine ⟨findOwner_insert_of_not_covers hroots, fun h => ?_⟩
  split
  · next htakes => exact findOwner_insert_of_takesOver hroots h htakes
  · next htakes => exact findOwner_insert_of_not_takesOver hroots htakes

end

/-! ## Inserting a declaration -/

/-- Resolving a list of declarations with one inserted gives the same projects
around the one that the declaration stands for. -/
theorem exists_insert_of_map_eq {find : Finder} {base : Text} {before after : List Declaration}
    {d : Declaration} {ps qs : List Project}
    (hps : (before ++ after).map (resolveProject find base) = ps.map .ok)
    (hqs : (before ++ d :: after).map (resolveProject find base) = qs.map .ok) :
    ∃ left p right, ps = left ++ right ∧ qs = left ++ p :: right
      ∧ resolveProject find base d = .ok p
      ∧ left.map Project.root = before.map (rootOf base) := by
  rw [List.map_append, eq_comm, List.map_eq_append_iff] at hps
  obtain ⟨left, right, rfl, hleft, hright⟩ := hps
  rw [List.map_append, eq_comm, List.map_eq_append_iff] at hqs
  obtain ⟨left', rest, rfl, hleft', hrest⟩ := hqs
  obtain ⟨p, right', rfl, hp, hright'⟩ := List.map_eq_cons_iff.mp hrest
  have hinj : ∀ p q : Project, (.ok p : Except Error Project) = .ok q → p = q :=
    fun _ _ h => Except.ok.inj h
  obtain rfl : left' = left := (List.map_inj_right hinj).mp (hleft'.trans hleft.symm)
  obtain rfl : right' = right := (List.map_inj_right hinj).mp (hright'.trans hright.symm)
  exact ⟨left', p, right', rfl, rfl, hp.symm, roots_of_map_eq hleft.symm⟩

/-- **Adding a project disturbs only the files inside it.** One declaration is
inserted anywhere among those of a configuration, and both configurations
resolve. A file that the new root does not cover has the same owner before and
after. A file that it covers goes over to the new project when it had no owner,
when the owner's root is less deep, or when it is the new root and nothing that
is declared before the new declaration has that root; in all other cases the
owner stays. -/
theorem findOwner_resolve_insert {find : Finder} {base workspace : Text} {config : UserConfig}
    {before after : List Declaration} {d : Declaration} {r r' : Resolution}
    (hbase : IsAbsolutePath base) (hdeclared : before ++ after ≠ [])
    (h : resolve find base workspace { config with projects := some (before ++ after) } = .ok r)
    (h' : resolve find base workspace { config with projects := some (before ++ d :: after) }
      = .ok r')
    (file : Text) :
    (¬Covers (rootOf base d) file →
        findOwner r'.config.projects file = findOwner r.config.projects file)
      ∧ (Covers (rootOf base d) file →
        ∃ p, resolveProject find base d = .ok p
          ∧ findOwner r'.config.projects file
            = if TakesOver (rootOf base d) (before.map (rootOf base))
                (findOwner r.config.projects file)
              then some p else findOwner r.config.projects file) := by
  have hof : ∀ ds : List Declaration, ds ≠ [] →
      declarationsOf workspace { config with projects := some ds } = ds := by
    intro ds hne
    unfold declarationsOf
    split
    · next hnil => exact absurd hnil hne
    · rfl
  obtain ⟨ps, hps, hconfig, -⟩ := resolve_eq_ok_iff.mp h
  obtain ⟨qs, hqs, hconfig', -⟩ := resolve_eq_ok_iff.mp h'
  rw [hof _ hdeclared] at hps
  rw [hof _ (by simp)] at hqs
  have hroots : ∀ q ∈ qs, IsCanonical q.root := by
    intro q hq
    obtain ⟨e, -, he⟩ := exists_declaration_of_mem hqs hq
    rw [(resolveProject_eq_ok_iff.mp he).1]
    exact isCanonical_absolutizePath hbase _
  obtain ⟨left, p, right, rfl, rfl, hp, hleft⟩ := exists_insert_of_map_eq hps hqs
  obtain ⟨houtside, hinside⟩ := findOwner_sortByDepth_insert hroots file
  rw [hconfig, hconfig', ← hleft, ← (resolveProject_eq_ok_iff.mp hp).1]
  exact ⟨houtside, fun hcovers => ⟨p, hp, hinside hcovers⟩⟩

/-- The root `/w/a/b`, declared from `/w` with a manifest of its own. -/
def innerAgain : Declaration := .record ⟨"x/../a/b", some "p", none⟩

/-- Declared between `/w/a` and another `/w/a/b`, it takes the files of the
latter over, and the files beside them stay with `/w/a`. -/
theorem findOwner_resolve_insert_innerAgain :
    ∃ r r', IsAbsolutePath "/w"
      ∧ [Declaration.path "a"] ++ [.path "./a//b"] ≠ []
      ∧ resolve (fun _ _ => .ok none) "/w" "/v"
          ⟨none, some ([.path "a"] ++ [.path "./a//b"])⟩ = .ok r
      ∧ resolve (fun _ _ => .ok none) "/w" "/v"
          ⟨none, some ([.path "a"] ++ innerAgain :: [.path "./a//b"])⟩ = .ok r'
      ∧ findOwner r'.config.projects "/w/a/b/c" = some ⟨"/w/a/b", some "/w/a/b/p", none⟩
      ∧ findOwner r'.config.projects "/w/a/c" = findOwner r.config.projects "/w/a/c" := by
  have hbase : IsAbsolutePath "/w" := by decide
  have hdeclared : [Declaration.path "a"] ++ [.path "./a//b"] ≠ [] := by simp
  have hr : resolve (fun _ _ => .ok none) "/w" "/v"
        ⟨none, some ([.path "a"] ++ [.path "./a//b"])⟩
      = .ok ⟨⟨[], sortByDepth [⟨"/w/a", none, none⟩, ⟨"/w/a/b", none, none⟩]⟩, []⟩ := rfl
  have hr' : resolve (fun _ _ => .ok none) "/w" "/v"
        ⟨none, some ([.path "a"] ++ innerAgain :: [.path "./a//b"])⟩
      = .ok ⟨⟨[], sortByDepth [⟨"/w/a", none, none⟩, ⟨"/w/a/b", some "/w/a/b/p", none⟩,
          ⟨"/w/a/b", none, none⟩]⟩, [("/w/a/b", 2)]⟩ := rfl
  have houter : pathDepth "/w/a" = 2 := by decide
  have hinner : pathDepth "/w/a/b" = 3 := by decide
  have hsorted : sortByDepth [⟨"/w/a", none, none⟩, ⟨"/w/a/b", none, none⟩]
      = [⟨"/w/a/b", none, none⟩, ⟨"/w/a", none, none⟩] := by
    simp [sortByDepth, List.mergeSort, List.MergeSort.Internal.splitInTwo, houter, hinner]
  have howner : findOwner (sortByDepth [⟨"/w/a", none, none⟩, ⟨"/w/a/b", none, none⟩])
      "/w/a/b/c" = some ⟨"/w/a/b", none, none⟩ := by
    rw [hsorted]
    rfl
  have hroot : rootOf "/w" innerAgain = "/w/a/b" := by decide
  have hinside : Covers (rootOf "/w" innerAgain) "/w/a/b/c" := by
    rw [hroot, ← isPathWithin_iff_covers ⟨by decide, by decide⟩]
    decide
  have houtside : ¬Covers (rootOf "/w" innerAgain) "/w/a/c" := by
    rw [hroot, ← isPathWithin_iff_covers ⟨by decide, by decide⟩]
    decide
  have htakes : TakesOver (rootOf "/w" innerAgain) ([.path "a"].map (rootOf "/w"))
      (some ⟨"/w/a/b", none, none⟩) := Or.inr ⟨hroot.symm, by decide⟩
  have hadded := @findOwner_resolve_insert _ _ _ ⟨none, none⟩ _ _ _ _ _ hbase hdeclared hr hr'
  refine ⟨_, _, hbase, hdeclared, hr, hr', ?_, (hadded _).1 houtside⟩
  obtain ⟨p, hp, hfound⟩ := (hadded _).2 hinside
  rw [howner, if_pos htakes] at hfound
  rw [hfound]
  exact congrArg some (Except.ok.inj (hp.symm.trans rfl))

end Workspace
