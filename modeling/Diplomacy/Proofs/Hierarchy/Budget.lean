import Diplomacy.Proofs.Hierarchy.Descent

/-!
The report of a spent budget. It is made with a warning and never taken back, so
that a descent that ends without one has attached every vassal that it met: what
it produces is the whole unfolding.
-/

namespace Diplomacy.Hierarchy

/-- Whether a warning tells that a tree may not grow further. -/
def Warning.isTreeBudget : Warning → Bool
  | .treeBudget _ _ => true
  | _ => false

/-! ## Properties of the progress -/

/-- A property that each step of a descent keeps. -/
structure Progress.Kept (Holds : Progress → Prop) : Prop where
  attach : ∀ progress, Holds progress → Holds progress.attach
  warn : ∀ progress warning, warning.isTreeBudget = false → Holds progress →
    Holds (progress.warn warning)
  enter : ∀ progress faction, Holds progress → Holds (progress.enter faction)
  leave : ∀ progress faction, Holds progress → Holds (progress.leave faction)
  spent : ∀ progress faction maxNodes, Holds progress → Holds (progress.spent faction maxNodes)

section

variable {Holds : Progress → Prop} (kept : Progress.Kept Holds)

include kept

theorem kept_attachEach {visit : FactionId → Progress → VassalTree × Progress}
    (visits : ∀ vassal progress, Holds progress → Holds (visit vassal progress).2)
    (maxNodes : Nat) (faction : FactionId) (vassals : List FactionId) (progress : Progress)
    (holds : Holds progress) : Holds (attachEach visit maxNodes faction vassals progress).2 := by
  induction vassals generalizing progress with
  | nil => exact holds
  | cons vassal vassals induction =>
      rcases Nat.lt_or_ge progress.nodes maxNodes with room | spent
      · rw [attachEach_of_room room]
        apply induction
        unfold attachOne
        split
        · exact kept.attach _ (kept.warn _ _ rfl holds)
        · exact visits vassal progress holds
      · rw [attachEach_of_spent spent]
        exact kept.spent progress faction maxNodes holds

theorem kept_visit (edges : EdgeList) (limits : Limits) (levels : Nat) (faction : FactionId)
    (progress : Progress) (holds : Holds progress) :
    Holds (visit edges limits levels faction progress).2 := by
  induction levels generalizing faction progress with
  | zero =>
      rw [visit]
      split
      · exact kept.attach _ holds
      · exact kept.warn _ _ rfl (kept.attach _ holds)
  | succ levels induction =>
      rw [visit_succ]
      apply kept.leave
      apply kept_attachEach kept induction
      exact kept.enter _ _ (kept.attach _ holds)

end

/-! ## The report and its warning -/

/-- The budget was reported exactly if a warning says so. -/
def Progress.Honest (progress : Progress) : Prop :=
  progress.budgetReported = progress.warnings.any Warning.isTreeBudget

theorem Progress.kept_honest : Progress.Kept Progress.Honest where
  attach _ honest := honest
  warn progress warning other honest := by
    change progress.budgetReported = (progress.warnings ++ [warning]).any _
    rw [List.any_append, List.any_cons, other, honest]
    simp
  enter _ _ honest := honest
  leave _ _ honest := honest
  spent progress faction maxNodes honest := by
    unfold spent
    split
    · exact honest
    · change true = (progress.warnings ++ [Warning.treeBudget faction maxNodes]).any _
      simp [Warning.isTreeBudget]

theorem Progress.budgetReported_spent (progress : Progress) (faction : FactionId)
    (maxNodes : Nat) : (progress.spent faction maxNodes).budgetReported = true := by
  unfold spent
  split
  · assumption
  · rfl

/-! ## Descents without a report -/

/-- If each visited vassal gets its ideal tree as long as no report is made, then
so do all of them together. -/
theorem attachEach_eq_map_of_unreported {visit : FactionId → Progress → VassalTree × Progress}
    {ideal : FactionId → VassalTree} {path : List FactionId}
    (restores : ∀ vassal progress, vassal ∉ progress.path →
      (visit vassal progress).2.path = progress.path)
    (follows : ∀ vassal progress, progress.path = path → vassal ∉ path →
      (visit vassal progress).2.budgetReported = false →
        progress.budgetReported = false ∧ (visit vassal progress).1 = ideal vassal)
    (cyclic : ∀ vassal ∈ path, ideal vassal = .leaf vassal) (maxNodes : Nat) (faction : FactionId)
    (vassals : List FactionId) (progress : Progress) (stands : progress.path = path)
    (unreported : (attachEach visit maxNodes faction vassals progress).2.budgetReported = false) :
    progress.budgetReported = false ∧
      (attachEach visit maxNodes faction vassals progress).1 = vassals.map ideal := by
  induction vassals generalizing progress with
  | nil => exact ⟨unreported, rfl⟩
  | cons vassal vassals induction =>
      rcases Nat.lt_or_ge progress.nodes maxNodes with room | spent
      · rw [attachEach_of_room room] at unreported ⊢
        have back := (path_attachOne restores faction vassal progress).trans stands
        rcases induction _ back unreported with ⟨still, rest⟩
        have first : progress.budgetReported = false ∧
            (attachOne visit faction vassal progress).1 = ideal vassal := by
          unfold attachOne at still ⊢
          split at still
          · next above =>
              rw [if_pos above, cyclic vassal (stands ▸ List.contains_iff_mem.mp above)]
              exact ⟨still, rfl⟩
          · next fresh =>
              rw [if_neg fresh]
              exact follows vassal progress stands
                (stands ▸ mt List.contains_iff_mem.mpr fresh) still
        refine ⟨first.1, ?_⟩
        dsimp only
        rw [first.2, rest, List.map_cons]
      · rw [attachEach_of_spent spent, Progress.budgetReported_spent] at unreported
        cases unreported

/-- A descent that ends without a report produces the whole unfolding. -/
theorem visit_eq_unfold_of_unreported (edges : EdgeList) (limits : Limits) (levels : Nat)
    (faction : FactionId) (progress : Progress) (fresh : faction ∉ progress.path)
    (unreported : (visit edges limits levels faction progress).2.budgetReported = false) :
    progress.budgetReported = false ∧
      (visit edges limits levels faction progress).1 =
        unfold edges levels progress.path faction := by
  induction levels generalizing faction progress with
  | zero =>
      rw [visit] at unreported ⊢
      split at unreported <;> exact ⟨unreported, by split <;> rfl⟩
  | succ levels induction =>
      have below : (progress.attach.enter faction).budgetReported = false ∧
          (attachEach (visit edges limits levels) limits.maxNodes faction (edges.vassalsOf faction)
            (progress.attach.enter faction)).1 =
            (edges.vassalsOf faction).map (unfold edges levels (faction :: progress.path)) := by
        apply attachEach_eq_map_of_unreported (path_visit edges limits levels) _ _ _ _ _ _
          (Progress.path_attach_enter fresh) unreported
        · intro vassal later stands fresh still
          have whole := induction vassal later (stands ▸ fresh) still
          rw [stands] at whole
          exact whole
        · intro vassal above
          exact unfold_of_mem edges levels above
      rw [visit_succ, unfold_of_not_mem edges levels fresh]
      exact ⟨below.1, congrArg _ below.2⟩

/-- Without a warning about the budget, a vassal tree is the whole unfolding. -/
theorem vassalTree_eq_unfold (edges : EdgeList) (limits : Limits) (root : FactionId)
    (unspent : ∀ warning ∈ (vassalTree edges limits root).2, warning.isTreeBudget = false) :
    (vassalTree edges limits root).1 = unfold edges limits.maxDepth [] root := by
  have honest : (visit edges limits limits.maxDepth root .start).2.Honest :=
    kept_visit Progress.kept_honest edges limits limits.maxDepth root .start rfl
  have unreported : (visit edges limits limits.maxDepth root .start).2.budgetReported = false := by
    rw [honest, List.any_eq_false]
    exact fun warning raised => Bool.eq_false_iff.mp (unspent warning raised)
  exact (visit_eq_unfold_of_unreported edges limits limits.maxDepth root .start
    List.not_mem_nil unreported).2

end Diplomacy.Hierarchy
