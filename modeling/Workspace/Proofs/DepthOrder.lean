/-
Workspace.Proofs.DepthOrder — what sorting projects by depth does to a list.

`sortByDepth` permutes the projects (`sortByDepth_perm`), puts none before a
deeper one (`pairwise_sortByDepth`), and keeps the order within every class
of equally deep projects (`filter_sortByDepth`). The last is stability, said
for any property that only projects of one depth have; it makes the first
project with a given root the same before and after
(`find?_root_sortByDepth`). A list that is sorted already stays as it is, so
sorting twice is sorting once.
-/
import Workspace.Project

namespace Workspace

/-- `p` may stand before `q`: its root is at least as deep. -/
def DepthLe (p q : Project) : Prop :=
  pathDepth q.root ≤ pathDepth p.root

instance (p q : Project) : Decidable (DepthLe p q) :=
  inferInstanceAs (Decidable (_ ≤ _))

theorem sortByDepth_perm (ps : List Project) : (sortByDepth ps).Perm ps :=
  List.mergeSort_perm _ _

theorem mem_sortByDepth {p : Project} {ps : List Project} : p ∈ sortByDepth ps ↔ p ∈ ps :=
  (sortByDepth_perm ps).mem_iff

theorem depthLe_trans (a b c : Project) (h : decide (DepthLe a b) = true)
    (h' : decide (DepthLe b c) = true) : decide (DepthLe a c) = true := by
  simp only [decide_eq_true_eq] at h h' ⊢
  unfold DepthLe at *
  omega

theorem depthLe_total (a b : Project) :
    (decide (DepthLe a b) || decide (DepthLe b a)) = true := by
  simp only [Bool.or_eq_true, decide_eq_true_eq]
  unfold DepthLe
  omega

/-- No project stands before a deeper one. -/
theorem pairwise_sortByDepth (ps : List Project) : (sortByDepth ps).Pairwise DepthLe := by
  have hsorted := List.pairwise_mergeSort depthLe_trans depthLe_total ps
  refine hsorted.imp ?_
  intro a b hab
  exact of_decide_eq_true hab

/-- A list in order of depth is left alone. -/
theorem sortByDepth_of_pairwise {ps : List Project} (h : ps.Pairwise DepthLe) :
    sortByDepth ps = ps := by
  refine List.mergeSort_of_pairwise (h.imp ?_)
  intro a b hab
  exact decide_eq_true hab

theorem sortByDepth_singleton (p : Project) : sortByDepth [p] = [p] := by
  simp [sortByDepth]

theorem sortByDepth_sortByDepth (ps : List Project) :
    sortByDepth (sortByDepth ps) = sortByDepth ps :=
  sortByDepth_of_pairwise (pairwise_sortByDepth ps)

/-- **Equally deep projects keep their order**: whatever only projects of one
depth have picks out the same list before and after. -/
theorem filter_sortByDepth {ps : List Project} {keep : Project → Bool} {n : Nat}
    (hdepth : ∀ p ∈ ps, keep p = true → pathDepth p.root = n) :
    (sortByDepth ps).filter keep = ps.filter keep := by
  have hlevel : (ps.filter keep).Pairwise fun a b => decide (DepthLe a b) = true := by
    refine List.pairwise_of_forall_mem_list ?_
    intro a ha b hb
    obtain ⟨ha, hka⟩ := List.mem_filter.mp ha
    obtain ⟨hb, hkb⟩ := List.mem_filter.mp hb
    simp [DepthLe, hdepth a ha hka, hdepth b hb hkb]
  have hsub : (ps.filter keep).Sublist (sortByDepth ps) :=
    List.sublist_mergeSort depthLe_trans depthLe_total hlevel List.filter_sublist
  have hkept : (ps.filter keep).Sublist ((sortByDepth ps).filter keep) := by
    simpa using hsub.filter keep
  have hlen : ((sortByDepth ps).filter keep).length = (ps.filter keep).length :=
    ((sortByDepth_perm ps).filter keep).length_eq
  exact (hkept.eq_of_length hlen.symm).symm

/-- The first project with a root is the same before and after. -/
theorem find?_root_sortByDepth (ps : List Project) (root : Text) :
    (sortByDepth ps).find? (fun p => p.root = root) = ps.find? fun p => p.root = root := by
  have hdepth : ∀ p ∈ ps, decide (p.root = root) = true → pathDepth p.root = pathDepth root := by
    intro p _ hp
    rw [of_decide_eq_true hp]
  rw [← List.head?_filter, ← List.head?_filter, filter_sortByDepth hdepth]

end Workspace
