import Mathlib.Logic.Basic

/-!
# Runs of a step function

A run applies a step to one input after the other. A condition on a state and an
input holds along a run where it holds of each input in the state in which the
input arrives.
-/

namespace RevitPy.Runs
variable {σ ι : Type*} {step : σ → ι → σ} {P Q : σ → ι → Prop} {Inv : σ → Prop}

/-- Every input of a run meets a condition. -/
def Along (step : σ → ι → σ) (P : σ → ι → Prop) : σ → List ι → Prop
  | _, [] => True
  | s, i :: rest => P s i ∧ Along step P (step s i) rest

/-- A condition holds of every state that a run goes through, from the first to the last. -/
def Throughout (step : σ → ι → σ) (Good : σ → Prop) : σ → List ι → Prop
  | s, [] => Good s
  | s, i :: rest => Good s ∧ Throughout step Good (step s i) rest

theorem along_append {s : σ} {before after : List ι} :
    Along step P s (before ++ after) ↔ Along step P s before ∧ Along step P (before.foldl step s) after := by
  induction before generalizing s with
  | nil => simp [Along]
  | cons i rest ih => simp [Along, ih, and_assoc]

/-- Where an input of a longer run is: it is the last one, or it is in the run before. -/
theorem split_concat {inputs before after : List ι} {last i : ι} (split : inputs ++ [last] = before ++ i :: after) :
    (i = last ∧ before = inputs ∧ after = []) ∨ ∃ between, after = between ++ [last] ∧ inputs = before ++ i :: between := by
  rcases List.eq_nil_or_concat after with rfl | ⟨between, other, rfl⟩
  · obtain ⟨first, same⟩ := List.append_inj' split rfl
    exact .inl ⟨(List.singleton_inj.mp same).symm, first.symm, rfl⟩
  · have longer : inputs ++ [last] = (before ++ i :: between) ++ [other] := by simpa using split
    obtain ⟨first, same⟩ := List.append_inj' longer rfl
    rw [List.singleton_inj.mp same]
    exact .inr ⟨between, by simp, first⟩

/-- The input after any beginning of the run meets the condition. -/
theorem along_iff_split {s : σ} {inputs : List ι} :
    Along step P s inputs ↔ ∀ before i after, inputs = before ++ i :: after → P (before.foldl step s) i := by
  constructor
  · rintro along before i after rfl
    exact (along_append.mp along).2.1
  · intro splits
    induction inputs generalizing s with
    | nil => trivial
    | cons i rest ih => exact ⟨splits [] i rest rfl, ih fun before j after same => splits (i :: before) j after (by rw [same]; rfl)⟩

theorem along_and {s : σ} {inputs : List ι} :
    Along step (fun s i => P s i ∧ Q s i) s inputs ↔ Along step P s inputs ∧ Along step Q s inputs := by
  induction inputs generalizing s with
  | nil => simp [Along]
  | cons i rest ih => simp [Along, ih, and_and_and_comm]

theorem along_of_mem {s : σ} {inputs : List ι} (each : ∀ s, ∀ i ∈ inputs, P s i) : Along step P s inputs :=
  along_iff_split.mpr fun _ i _ same => each _ i (same ▸ List.mem_append_right _ List.mem_cons_self)

section
variable (keeps : ∀ s i, Inv s → P s i → Inv (step s i))
include keeps

/-- What steps keep under a condition, a run under it keeps. -/
theorem foldl_keeps {s : σ} {inputs : List ι} (start : Inv s) (along : Along step P s inputs) : Inv (inputs.foldl step s) := by
  induction inputs generalizing s with
  | nil => exact start
  | cons i rest ih => exact ih (keeps s i start along.1) along.2

theorem throughout_keeps {s : σ} {inputs : List ι} (start : Inv s) (along : Along step P s inputs) :
    Throughout step Inv s inputs := by
  induction inputs generalizing s with
  | nil => exact start
  | cons i rest ih => exact ⟨start, ih (keeps s i start along.1) along.2⟩

/-- A condition that the state after each step shows holds along the run. -/
theorem along_of_throughout {Good : σ → Prop} (shows : ∀ s i, Inv s → Good (step s i) → P s i) {s : σ} {inputs : List ι} (start : Inv s)
    (good : Throughout step Good s inputs) : Along step P s inputs := by
  induction inputs generalizing s with
  | nil => trivial
  | cons i rest ih =>
    have now : P s i := by
      refine shows s i start ?_
      cases rest with
      | nil => exact good.2
      | cons j more => exact good.2.1
    exact ⟨now, ih (keeps s i start now) good.2⟩

end

/-- Two conditions that agree in every state of the run hold along the same runs. -/
theorem along_congr (keeps : ∀ s i, Inv s → Inv (step s i)) (agree : ∀ s i, Inv s → (P s i ↔ Q s i)) {s : σ} {inputs : List ι}
    (start : Inv s) : Along step P s inputs ↔ Along step Q s inputs := by
  induction inputs generalizing s with
  | nil => exact Iff.rfl
  | cons i rest ih => exact and_congr (agree s i start) (ih (keeps s i start))

theorem throughout_mono {Good Better : σ → Prop} (better : ∀ s, Good s → Better s) {s : σ} {inputs : List ι}
    (good : Throughout step Good s inputs) : Throughout step Better s inputs := by
  induction inputs generalizing s with
  | nil => exact better s good
  | cons i rest ih => exact ⟨better s good.1, ih good.2⟩

theorem throughout_last {Good : σ → Prop} {s : σ} {inputs : List ι} (good : Throughout step Good s inputs) : Good (inputs.foldl step s) := by
  induction inputs generalizing s with
  | nil => exact good
  | cons i rest ih => exact ih good.2

/-- What a run holds in the end was made by one of its inputs, and every later input
    spared it. -/
theorem origin {τ : Type*} (held : σ → τ → Prop) (made : σ → ι → τ → Prop) (spares : ι → τ → Prop)
    (keeps : ∀ s i, Inv s → Inv (step s i)) (steps : ∀ s i t, Inv s → held (step s i) t → made s i t ∨ held s t ∧ spares i t)
    {s : σ} (start : Inv s) {inputs : List ι} {t : τ} (holds : held (inputs.foldl step s) t) :
    (∃ before i after, inputs = before ++ i :: after ∧ made (before.foldl step s) i t ∧ ∀ j ∈ after, spares j t) ∨
      held s t ∧ ∀ j ∈ inputs, spares j t := by
  induction inputs generalizing s with
  | nil => exact .inr ⟨holds, fun _ member => absurd member List.not_mem_nil⟩
  | cons i rest ih =>
    rcases ih (keeps s i start) holds with ⟨before, j, after, rfl, makes, spared⟩ | ⟨now, spared⟩
    · exact .inl ⟨i :: before, j, after, rfl, makes, spared⟩
    · rcases steps s i t start now with makes | ⟨already, spare⟩
      · exact .inl ⟨[], i, rest, rfl, makes, spared⟩
      · refine .inr ⟨already, fun j member => ?_⟩
        rcases List.mem_cons.mp member with rfl | later
        · exact spare
        · exact spared j later

end RevitPy.Runs
