import SealedLink.Proofs.Failure

/-!
# Answers by stages

Where every refusal has its own condition and the conditions are looked at in an order, the answer
is that of the first that fails. Answers of this form are put together by putting their stages one
behind the other.

## Main definitions

* `Staged.judge` — the error of the first stage that fails, or a result if all pass

## Main results

* `Staged.judge_append`, `Staged.judge_bind` — stages one behind the other
* `Staged.judge_eq_ok_iff`, `Staged.judge_eq_error_iff` — when an answer is a result, and when it is
  an error
-/

namespace SealedLink.Staged

variable {ι ε α β : Type} {passes : ι → Prop} [DecidablePred passes] {error : ι → ε}

/-- The error of the first stage that fails, or the given result if all pass. -/
def judge (passes : ι → Prop) [DecidablePred passes] (error : ι → ε) (stages : List ι)
    (result : Except ε α) : Except ε α :=
  match stages.find? (fun s => ¬ passes s) with
  | some s => .error (error s)
  | none => result

/-! ### Stages one behind the other -/

theorem judge_nil (result : Except ε α) : judge passes error [] result = result := rfl

theorem judge_cons (s : ι) (stages : List ι) (result : Except ε α) :
    judge passes error (s :: stages) result =
      if passes s then judge passes error stages result else .error (error s) := by
  unfold judge
  by_cases h : passes s <;> simp [h]

theorem judge_append (front back : List ι) (result : Except ε α) :
    judge passes error (front ++ back) result =
      judge passes error front (judge passes error back result) := by
  induction front with
  | nil => rfl
  | cons s front ih => rw [List.cons_append, judge_cons, judge_cons, ih]

theorem judge_bind (stages : List ι) (a : α) (next : α → Except ε β) :
    (judge passes error stages (.ok a) >>= next) = judge passes error stages (next a) := by
  induction stages with
  | nil => rfl
  | cons s stages ih =>
    rw [judge_cons, judge_cons, ← ih]
    split <;> rfl

/-- Only what passes all stages gets to see the result. -/
theorem judge_congr {stages : List ι} {result result' : Except ε α}
    (h : (∀ s ∈ stages, passes s) → result = result') :
    judge passes error stages result = judge passes error stages result' := by
  induction stages with
  | nil => exact h fun _ member => absurd member List.not_mem_nil
  | cons s stages ih =>
    rw [judge_cons, judge_cons]
    split
    · rename_i first
      apply ih
      intro others
      exact h (List.forall_mem_cons.mpr ⟨first, others⟩)
    · rfl

/-! ### Results and errors -/

theorem judge_of_passes {stages : List ι} {result : Except ε α} (h : ∀ s ∈ stages, passes s) :
    judge passes error stages result = result := by
  induction stages with
  | nil => rfl
  | cons s stages ih =>
    obtain ⟨first, others⟩ := List.forall_mem_cons.mp h
    rw [judge_cons, if_pos first, ih others]

/-- A stage that fails lets no result through. -/
theorem exists_judge_eq_error {stages : List ι} (h : ∃ s ∈ stages, ¬ passes s)
    (result : Except ε α) : ∃ s ∈ stages, judge passes error stages result = .error (error s) := by
  induction stages with
  | nil =>
    obtain ⟨s, member, -⟩ := h
    exact absurd member List.not_mem_nil
  | cons s stages ih =>
    rw [judge_cons]
    by_cases first : passes s
    · rw [if_pos first]
      obtain ⟨failing, member, fails⟩ := h
      have later : failing ∈ stages := by
        rcases List.mem_cons.mp member with rfl | later
        · exact absurd first fails
        · exact later
      obtain ⟨failed, place, refused⟩ := ih ⟨failing, later, fails⟩
      exact ⟨failed, List.mem_cons_of_mem s place, refused⟩
    · rw [if_neg first]
      exact ⟨s, List.mem_cons_self, rfl⟩

theorem judge_eq_ok_iff {stages : List ι} {a b : α} :
    judge passes error stages (.ok a) = .ok b ↔ (∀ s ∈ stages, passes s) ∧ a = b := by
  induction stages with
  | nil => simp [judge_nil]
  | cons s stages ih =>
    rw [judge_cons, List.forall_mem_cons, and_assoc]
    split
    · rename_i first
      rw [ih]
      exact (and_iff_right first).symm
    · rename_i fails
      simp [fails]

theorem judge_eq_error_iff {stages : List ι} {a : α} {e : ε} :
    judge passes error stages (.ok a) = .error e ↔ ∃ passed s later,
      stages = passed ++ s :: later ∧ (∀ p ∈ passed, passes p) ∧ ¬ passes s ∧ e = error s := by
  have first : judge passes error stages (.ok a) = .error e ↔
      ∃ s, stages.find? (fun s => ¬ passes s) = some s ∧ e = error s := by
    unfold judge
    cases stages.find? (fun s => ¬ passes s) <;> simp [eq_comm]
  rw [first]
  constructor
  · rintro ⟨s, found, rfl⟩
    obtain ⟨fails, passed, later, split, before⟩ := List.find?_eq_some_iff_append.mp found
    exact ⟨passed, s, later, split, by simpa using before, by simpa using fails, rfl⟩
  · rintro ⟨passed, s, later, split, before, fails, rfl⟩
    refine ⟨s, List.find?_eq_some_iff_append.mpr ?_, rfl⟩
    exact ⟨by simpa using fails, passed, later, split, by simpa using before⟩

end SealedLink.Staged
