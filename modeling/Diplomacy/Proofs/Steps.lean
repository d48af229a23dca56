import Mathlib.Data.List.Forall2

/-!
Steps that may fail, with or without saying why. Steps in a row succeed if each of
them does, and otherwise fail as the first one that fails.
-/

namespace Diplomacy

/-! ## Steps that fail without a word -/

/-- A list of steps succeeds exactly if each step does, with the results in order. -/
theorem mapM_eq_some_iff {α β : Type} {step : α → Option β} {items : List α} {results : List β} :
    items.mapM step = some results ↔
      List.Forall₂ (fun item result => step item = some result) items results := by
  induction items generalizing results with
  | nil => simp [eq_comm]
  | cons item items induction =>
      simp only [List.mapM_cons, Option.bind_eq_bind, Option.bind_eq_some_iff, induction]
      constructor
      · rintro ⟨result, done, others, rest, equal⟩
        cases equal
        exact .cons done rest
      · intro all
        cases all with
        | cons done rest => exact ⟨_, done, _, rest, rfl⟩

theorem mem_of_mapM_eq_some {α β : Type} {step : α → Option β} {items : List α} {results : List β}
    {item : α} {result : β} (done : items.mapM step = some results) (member : item ∈ items)
    (gives : step item = some result) : result ∈ results := by
  have steps := mapM_eq_some_iff.mp done
  clear done
  induction steps with
  | nil => cases member
  | cons first _ induction =>
      rcases List.mem_cons.mp member with rfl | member
      · rw [gives] at first
        cases first
        exact List.mem_cons_self
      · exact List.mem_cons_of_mem _ (induction member)

/-- What each step of a fold keeps holds at its end. -/
theorem foldlM_keeps {α σ : Type} {Keeps : σ → Prop} {step : σ → α → Option σ} {items : List α}
    {start final : σ} (begins : Keeps start)
    (keeps : ∀ state, ∀ item ∈ items, ∀ next, Keeps state → step state item = some next →
      Keeps next)
    (folded : items.foldlM step start = some final) : Keeps final := by
  induction items generalizing start with
  | nil =>
      cases folded
      exact begins
  | cons item items induction =>
      rw [List.foldlM_cons, Option.bind_eq_bind, Option.bind_eq_some_iff] at folded
      rcases folded with ⟨next, stepped, rest⟩
      refine induction (keeps start item List.mem_cons_self next begins stepped) ?_ rest
      exact fun state other member => keeps state other (List.mem_cons_of_mem _ member)

/-! ## Steps that fail with an error -/

/-- Two steps succeed in a row exactly if each of them does. -/
theorem bind_eq_ok_iff {ε α β : Type} {first : Except ε α} {next : α → Except ε β} {result : β} :
    (first >>= next) = .ok result ↔ ∃ value, first = .ok value ∧ next value = .ok result := by
  cases first <;> simp [bind, Except.bind]

theorem bind_eq_error_iff {ε α β : Type} {first : Except ε α} {next : α → Except ε β} {error : ε} :
    (first >>= next) = .error error ↔
      first = .error error ∨ ∃ value, first = .ok value ∧ next value = .error error := by
  cases first <;> simp [bind, Except.bind]

theorem mapError_eq_ok_iff {ε δ α : Type} {step : Except ε α} {describe : ε → δ} {value : α} :
    step.mapError describe = .ok value ↔ step = .ok value := by
  cases step <;> simp [Except.mapError]

theorem mapError_eq_error_iff {ε δ α : Type} {step : Except ε α} {describe : ε → δ} {error : δ} :
    step.mapError describe = .error error ↔
      ∃ fault, step = .error fault ∧ describe fault = error := by
  cases step <;> simp [Except.mapError]

/-- A list of steps succeeds exactly if each step does, with the results in order. -/
theorem mapM_eq_ok_iff {ε α β : Type} {step : α → Except ε β} {items : List α} {results : List β} :
    items.mapM step = .ok results ↔
      List.Forall₂ (fun item result => step item = .ok result) items results := by
  induction items generalizing results with
  | nil =>
      constructor
      · intro equal
        cases equal
        exact .nil
      · intro none
        cases none
        rfl
  | cons item items induction =>
      rw [List.mapM_cons, bind_eq_ok_iff]
      constructor
      · intro ⟨result, done, rest⟩
        rcases bind_eq_ok_iff.mp rest with ⟨others, othersDone, equal⟩
        cases equal
        exact .cons done (induction.mp othersDone)
      · intro all
        cases all with
        | cons done rest =>
            exact ⟨_, done, bind_eq_ok_iff.mpr ⟨_, induction.mpr rest, rfl⟩⟩

/-- A list of steps fails as its first step that fails. -/
theorem first_error_of_mapM {ε α β : Type} {step : α → Except ε β} {items : List α} {error : ε}
    (failed : items.mapM step = .error error) :
    ∃ earlier item later, items = earlier ++ item :: later ∧
      (∀ other ∈ earlier, ∃ result, step other = .ok result) ∧ step item = .error error := by
  induction items with
  | nil => cases failed
  | cons head items induction =>
      rw [List.mapM_cons] at failed
      cases attempt : step head with
      | error first =>
          rw [attempt] at failed
          cases failed
          exact ⟨[], head, items, rfl, by simp, attempt⟩
      | ok result =>
          cases rest : items.mapM step with
          | ok results =>
              rw [attempt, rest] at failed
              cases failed
          | error first =>
              rw [attempt, rest] at failed
              cases failed
              rcases induction rest with ⟨earlier, item, later, split, succeed, refused⟩
              refine ⟨head :: earlier, item, later, by rw [split, List.cons_append], ?_, refused⟩
              exact List.forall_mem_cons.mpr ⟨⟨result, attempt⟩, succeed⟩

end Diplomacy
