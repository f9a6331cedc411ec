import AgriGuardian.Basis.Machine

/-! Runs over interleaved streams of inputs.
Several observers each see some of the inputs. Where they do not disturb each other, an
interleaving of their streams completes when every stream does alone.
-/

namespace Basis

variable {σ ι ω ε κ β : Type*}

/-- Streams that complete alone complete in every interleaving, with any inputs in between
that always return. Witness: induction from the right. The observer who sees the last input
sees the state of its own stream, in which that input returns.
-/
theorem run_completes_of_alone {step : Handler σ ι ω ε} {visible : κ → ι → Bool}
    {view : κ → σ → β} {observed : κ → ω → Bool}
    (unwinding : ∀ key, Unwinding step (visible key) (view key) (observed key))
    {state : σ} {inputs : List ι}
    (harmless
      : ∀ current, ∀ input ∈ inputs,
          (∀ key, visible key input = false) → ∃ next, (step current input).2 = .ok next)
    (alone : ∀ key, ∃ final, (run step state (inputs.filter (visible key))).2 = .ok final)
    : ∃ final, (run step state inputs).2 = .ok final := by
  induction inputs using List.reverseRecOn with
  | nil => exact ⟨state, rfl⟩
  | append_singleton before input ih =>
      have shorter
          : ∀ key, ∃ final, (run step state (before.filter (visible key))).2 = .ok final := by
        intro key
        obtain ⟨final, completed⟩ := alone key
        rw [List.filter_append] at completed
        obtain ⟨middle, reached, -⟩ := run_append_inv completed
        exact ⟨middle, reached⟩
      obtain ⟨middle, reached⟩ :=
        ih (fun current other member => harmless current other (List.mem_append_left _ member))
          shorter
      have returns : ∃ next, (step middle input).2 = .ok next := by
        by_cases unseen : ∀ key, visible key input = false
        · exact harmless middle input (by simp) unseen
        · obtain ⟨key, seen⟩ := not_forall.mp unseen
          rw [Bool.not_eq_false] at seen
          obtain ⟨twin, twinOutputs, purged, same, -⟩ :=
            (unwinding key).purge rfl (Prod.ext rfl reached)
          obtain ⟨final, completed⟩ := alone key
          rw [List.filter_append, List.filter_cons_of_pos seen, List.filter_nil,
            run_append_ok purged, run_singleton] at completed
          obtain ⟨next, outputs, returned, -, -⟩ :=
            (unwinding key).consistent seen same.symm (Prod.ext rfl completed)
          exact ⟨next, congrArg Prod.snd returned⟩
      obtain ⟨next, returned⟩ := returns
      refine ⟨next, ?_⟩
      rw [run_append_ok (Prod.ext rfl reached), run_singleton]
      exact returned

/-- What an observer sees of an interleaving of complete streams is what it sees of its own. -/
theorem observed_of_alone {step : Handler σ ι ω ε} {visible : κ → ι → Bool}
    {view : κ → σ → β} {observed : κ → ω → Bool}
    (unwinding : ∀ key, Unwinding step (visible key) (view key) (observed key))
    {state : σ} {inputs : List ι} {final : κ → σ} {outputs : κ → List ω}
    (harmless
      : ∀ current, ∀ input ∈ inputs,
          (∀ key, visible key input = false) → ∃ next, (step current input).2 = .ok next)
    (alone
      : ∀ key, run step state (inputs.filter (visible key)) = (outputs key, .ok (final key)))
    : ∃ emitted last,
        run step state inputs = (emitted, .ok last)
        ∧ ∀ key,
            view key last = view key (final key)
            ∧ emitted.filter (observed key) = (outputs key).filter (observed key) := by
  obtain ⟨last, completed⟩ := run_completes_of_alone unwinding harmless fun key =>
    ⟨final key, congrArg Prod.snd (alone key)⟩
  refine ⟨_, last, Prod.ext rfl completed, fun key => ?_⟩
  obtain ⟨twin, twinOutputs, purged, same, sameOutputs⟩ :=
    (unwinding key).purge rfl (Prod.ext rfl completed)
  obtain ⟨rfl, twinFinal⟩ := Prod.mk.inj (purged.symm.trans (alone key))
  obtain rfl := Except.ok.inj twinFinal
  exact ⟨same, sameOutputs⟩

/-- The local conditions under which an observer cannot tell a run from the run of the
visible inputs alone, where the two states need not look the same: they are related, and
the hidden inputs may leave traces in the first that the second lacks.
-/
structure Purging (step : Handler σ ι ω ε) (visible : ι → Bool) (related : σ → σ → Prop)
    (observed : ω → Bool)
    : Prop where
  hidden
    : ∀ {state twin next input outputs},
        visible input = false
        → related state twin
        → step state input = (outputs, .ok next)
        → related next twin ∧ outputs.filter observed = []
  consistent
    : ∀ {state twin next input outputs},
        visible input = true
        → related state twin
        → step state input = (outputs, .ok next)
        → ∃ twinNext twinOutputs,
            step twin input = (twinOutputs, .ok twinNext)
            ∧ related next twinNext
            ∧ outputs.filter observed = twinOutputs

/-- Purging refines the handler itself, seen through the visible inputs and outputs. -/
theorem Purging.refinement {step : Handler σ ι ω ε} {visible : ι → Bool} {related : σ → σ → Prop}
    {observed : ω → Bool} (purging : Purging step visible related observed)
    : Refinement step step related (Option.guard visible) (Option.guard observed) some where
  hidden := by
    intro state twin next symbol outputs unseen start called
    rw [List.filterMap_eq_filter]
    exact purging.hidden (by simpa using unseen) start called
  mirrored := by
    intro state twin next symbol other outputs seen start called
    obtain ⟨rfl, here⟩ := Option.guard_eq_some_iff.mp seen
    rw [List.filterMap_eq_filter]
    simpa only [List.filterMap_some] using purging.consistent here start called

/-- The visible inputs of a completed run complete alone, with the outputs that are observed. -/
theorem Purging.run {step : Handler σ ι ω ε} {visible : ι → Bool} {related : σ → σ → Prop}
    {observed : ω → Bool} (purging : Purging step visible related observed)
    {state twin final : σ} (start : related state twin) {inputs : List ι} {outputs : List ω}
    (completed : run step state inputs = (outputs, .ok final))
    : ∃ twinFinal,
        run step twin (inputs.filter visible) = (outputs.filter observed, .ok twinFinal)
        ∧ related final twinFinal := by
  have refined := purging.refinement.run_exact start completed
  rwa [List.filterMap_eq_filter, List.filterMap_eq_filter] at refined

end Basis
