import Mathlib.Data.List.Induction

/-! Runs of a deterministic handler that emits outputs and may stop with a fault.
Outputs emitted before a fault are kept, so a run records what an observer saw even
when the last call never returned.
-/

namespace Basis

variable {σ ι ω ε : Type*}

/-- One call: the outputs it emitted, then the next state or the fault that stopped it. -/
abbrev Outcome (σ ω ε : Type*) := List ω × Except ε σ

/-- A deterministic handler of one input at a time. -/
abbrev Handler (σ ι ω ε : Type*) := σ → ι → Outcome σ ω ε

/-- A call that returns although it is guarded passed its guard. -/
theorem guarded_eq_ok {guard : Prop} [Decidable guard] {outcome : Outcome σ ω ε}
    {dropped outputs : List ω} {fault : ε} {next : σ}
    (returned
      : (if guard then outcome else (dropped, .error fault)) = (outputs, .ok next))
    : guard ∧ outcome = (outputs, .ok next) := by
  split at returned
  · rename_i passed
    exact ⟨passed, returned⟩
  · cases returned

/-- A call that returns although something excludes it is not excluded. -/
theorem excluded_eq_ok {exclusion : Prop} [Decidable exclusion] {outcome : Outcome σ ω ε}
    {dropped outputs : List ω} {fault : ε} {next : σ}
    (returned
      : (if exclusion then (dropped, .error fault) else outcome) = (outputs, .ok next))
    : ¬ exclusion ∧ outcome = (outputs, .ok next) := by
  split at returned
  · cases returned
  · rename_i passed
    exact ⟨passed, returned⟩

/-- Feed the inputs in order; a fault stops the run and drops the inputs that remain. -/
def run (step : Handler σ ι ω ε) (state : σ) : List ι → Outcome σ ω ε
  | [] => ([], .ok state)
  | input :: rest =>
      match step state input with
      | (outputs, .error fault) => (outputs, .error fault)
      | (outputs, .ok next) =>
          let later := run step next rest
          (outputs ++ later.1, later.2)

@[simp]
theorem run_nil (step : Handler σ ι ω ε) (state : σ) : run step state [] = ([], .ok state) :=
  rfl

/-- A first call that returns is followed by the run from the state it left. -/
theorem run_cons_ok {step : Handler σ ι ω ε} {state next : σ} {input : ι} {outputs : List ω}
    (called : step state input = (outputs, .ok next)) (rest : List ι)
    : run step state (input :: rest)
      = (outputs ++ (run step next rest).1, (run step next rest).2) := by
  simp [run, called]

/-- A first call that faults is the whole run. -/
theorem run_cons_error {step : Handler σ ι ω ε} {state : σ} {input : ι} {outputs : List ω}
    {fault : ε} (called : step state input = (outputs, .error fault)) (rest : List ι)
    : run step state (input :: rest) = (outputs, .error fault) := by
  simp [run, called]

/-- A run over one input is the call itself. -/
theorem run_singleton (step : Handler σ ι ω ε) (state : σ) (input : ι)
    : run step state [input] = step state input := by
  rcases called : step state input with ⟨outputs, fault | next⟩
  · exact run_cons_error called []
  · simp [run_cons_ok called]

/-- A completed first part is continued from its final state. Witness: induction on the
first part, which must return at every call.
-/
theorem run_append_ok {step : Handler σ ι ω ε} {state middle : σ} {first : List ι}
    {outputs : List ω} (completed : run step state first = (outputs, .ok middle))
    (second : List ι)
    : run step state (first ++ second)
      = (outputs ++ (run step middle second).1, (run step middle second).2) := by
  induction first generalizing state outputs with
  | nil =>
      obtain ⟨rfl, rfl⟩ : [] = outputs ∧ state = middle := by simpa using completed
      simp
  | cons input rest ih =>
      rcases called : step state input with ⟨emitted, fault | next⟩
      · simp [run_cons_error called] at completed
      · rw [run_cons_ok called] at completed
        obtain ⟨emittedEq, restOk⟩ := Prod.mk.inj completed
        have later := ih (Prod.ext rfl restOk)
        rw [List.cons_append, run_cons_ok called, later, ← emittedEq, List.append_assoc]

/-- A faulting first part is the whole run. -/
theorem run_append_error {step : Handler σ ι ω ε} {state : σ} {first : List ι}
    {outputs : List ω} {fault : ε} (stopped : run step state first = (outputs, .error fault))
    (second : List ι)
    : run step state (first ++ second) = (outputs, .error fault) := by
  induction first generalizing state outputs with
  | nil => simp at stopped
  | cons input rest ih =>
      rcases called : step state input with ⟨emitted, early | next⟩
      · rw [run_cons_error called] at stopped
        rw [List.cons_append, run_cons_error called, stopped]
      · rw [run_cons_ok called] at stopped
        obtain ⟨emittedEq, restStopped⟩ := Prod.mk.inj stopped
        have later := ih (Prod.ext rfl restStopped)
        rw [List.cons_append, run_cons_ok called, later, emittedEq]

/-- Translating the inputs before the run or at each call is the same. -/
theorem run_map {κ : Type*} (step : Handler σ ι ω ε) (input : κ → ι) (state : σ)
    (symbols : List κ)
    : run step state (symbols.map input)
      = run (fun state symbol => step state (input symbol)) state symbols := by
  induction symbols generalizing state with
  | nil => rfl
  | cons symbol rest ih =>
      rcases called : step state (input symbol) with ⟨outputs, fault | next⟩
      · simp [run, called]
      · simp [run, called, ih]

/-- A completed run completed its first part. -/
theorem run_append_inv {step : Handler σ ι ω ε} {state final : σ} {first second : List ι}
    (completed : (run step state (first ++ second)).2 = .ok final)
    : ∃ middle,
        (run step state first).2 = .ok middle ∧ (run step middle second).2 = .ok final := by
  rcases part : run step state first with ⟨outputs, fault | middle⟩
  · simp [run_append_error part] at completed
  · refine ⟨middle, rfl, ?_⟩
    simpa [run_append_ok part] using completed

-----------------------------------------------------------------------------------------
-- Invariants and properties of every executed call
-----------------------------------------------------------------------------------------

/-- An invariant kept by every returning call holds in the final state of a run. -/
theorem run_invariant {step : Handler σ ι ω ε} (invariant : σ → Prop)
    (preserved : ∀ state input outputs next,
        invariant state → step state input = (outputs, .ok next) → invariant next)
    {state final : σ} (initial : invariant state) {inputs : List ι}
    (completed : (run step state inputs).2 = .ok final)
    : invariant final := by
  induction inputs generalizing state with
  | nil =>
      obtain rfl : state = final := by simpa using completed
      exact initial
  | cons input rest ih =>
      rcases called : step state input with ⟨outputs, fault | next⟩
      · simp [run_cons_error called] at completed
      · rw [run_cons_ok called] at completed
        exact ih (preserved state input outputs next initial called) completed

/-- An invariant of the inputs so far, the outputs so far and the state holds at the end of a
run. Witness: induction from the right.
-/
theorem run_trace_invariant {step : Handler σ ι ω ε} (invariant : List ι → List ω → σ → Prop)
    (preserved : ∀ before emitted state input outputs next,
        invariant before emitted state
        → step state input = (outputs, .ok next)
        → invariant (before ++ [input]) (emitted ++ outputs) next)
    {state final : σ} (initial : invariant [] [] state) {inputs : List ι} {outputs : List ω}
    (completed : run step state inputs = (outputs, .ok final))
    : invariant inputs outputs final := by
  induction inputs using List.reverseRecOn generalizing outputs final with
  | nil =>
      obtain ⟨rfl, rfl⟩ : [] = outputs ∧ state = final := by simpa using completed
      exact initial
  | append_singleton before input ih =>
      obtain ⟨middle, reached, -⟩ := run_append_inv (congrArg Prod.snd completed)
      have first : run step state before = (_, .ok middle) := Prod.ext rfl reached
      rw [run_append_ok first, run_singleton] at completed
      obtain ⟨rfl, last⟩ := Prod.mk.inj completed
      exact preserved before _ middle input _ final (ih first) (Prod.ext rfl last)

/-- An invariant of the inputs so far and the state holds at the end of a run. -/
theorem run_history_invariant {step : Handler σ ι ω ε} (invariant : List ι → σ → Prop)
    (preserved : ∀ before state input outputs next,
        invariant before state
        → step state input = (outputs, .ok next)
        → invariant (before ++ [input]) next)
    {state final : σ} (initial : invariant [] state) {inputs : List ι}
    (completed : (run step state inputs).2 = .ok final)
    : invariant inputs final :=
  run_trace_invariant (fun before _ current => invariant before current)
    (fun before _ current input outputs next => preserved before current input outputs next)
    initial (Prod.ext rfl completed)

/-- Outputs that every call on an admitted input satisfies are all a run on admitted inputs
emits, whether or not it completes.
-/
theorem run_outputs {step : Handler σ ι ω ε} {admitted : ι → Prop} {property : ω → Prop}
    (emits : ∀ state input, admitted input → ∀ output ∈ (step state input).1, property output)
    {state : σ} {inputs : List ι} (all : ∀ input ∈ inputs, admitted input)
    : ∀ output ∈ (run step state inputs).1, property output := by
  induction inputs generalizing state with
  | nil => simp
  | cons input rest ih =>
      have head := emits state input (all input (by simp))
      rcases called : step state input with ⟨outputs, fault | next⟩
      · rw [called] at head
        simpa [run_cons_error called] using head
      · rw [called] at head
        rw [run_cons_ok called]
        intro output member
        rcases List.mem_append.mp member with now | later
        · exact head output now
        · exact ih (fun other inRest => all other (by simp [inRest])) output later

/-- `property` holds of every call the run executes: of the inputs before it, the state it
starts in and its own input. A call after a fault is not executed.
-/
def Along (step : Handler σ ι ω ε) (state : σ) (inputs : List ι)
    (property : List ι → σ → ι → Prop)
    : Prop :=
  ∀ before input after,
    inputs = before ++ input :: after
    → ∀ current, (run step state before).2 = .ok current → property before current input

/-- Two properties that agree on every reachable call agree along a run. -/
theorem along_congr {step : Handler σ ι ω ε} {state : σ} {left right : List ι → σ → ι → Prop}
    (agree : ∀ before current input,
        (run step state before).2 = .ok current
        → (left before current input ↔ right before current input))
    (inputs : List ι)
    : Along step state inputs left ↔ Along step state inputs right := by
  constructor
  · intro holds before input after split current reached
    exact (agree before current input reached).mp (holds before input after split current reached)
  · intro holds before input after split current reached
    exact (agree before current input reached).mpr (holds before input after split current reached)

/-- A property along a longer run holds along its first part. -/
theorem Along.prefix {step : Handler σ ι ω ε} {state : σ} {property : List ι → σ → ι → Prop}
    {first second : List ι} (holds : Along step state (first ++ second) property)
    : Along step state first property := by
  intro before input after split current reached
  exact holds before input (after ++ second) (by simp [split]) current reached

/-- An invariant that holds after every call with a property holds as long as all calls have
it.
-/
theorem Along.invariant {step : Handler σ ι ω ε} {property : List ι → σ → ι → Prop}
    {invariant : σ → Prop}
    (preserved : ∀ before current input outputs next,
        invariant current
        → property before current input
        → step current input = (outputs, .ok next)
        → invariant next)
    {state final : σ} (initial : invariant state) {inputs : List ι}
    (holds : Along step state inputs property)
    (completed : (run step state inputs).2 = .ok final)
    : invariant final := by
  induction inputs using List.reverseRecOn generalizing final with
  | nil =>
      obtain rfl : state = final := by simpa using completed
      exact initial
  | append_singleton before input ih =>
      obtain ⟨middle, reached, last⟩ := run_append_inv completed
      rw [run_singleton] at last
      have here := holds before input [] (by simp) middle reached
      exact preserved before middle input _ final (ih holds.prefix reached) here
        (Prod.ext rfl last)

/-- Where an invariant holds, a call has the property, so every call of a run has it. -/
theorem along_of_invariant {step : Handler σ ι ω ε} {property : σ → ι → Prop}
    (invariant : σ → Prop)
    (preserved : ∀ current input outputs next,
        invariant current → step current input = (outputs, .ok next) → invariant next)
    (holds : ∀ current input, invariant current → property current input)
    {state : σ} (initial : invariant state) (inputs : List ι)
    : Along step state inputs fun _ current input => property current input := by
  intro before input after _ current reached
  exact holds current input (run_invariant invariant preserved initial reached)

/-- Where an invariant holds, only outputs with the property are emitted. -/
theorem run_outputs_of_invariant {step : Handler σ ι ω ε} {property : ω → Prop}
    (invariant : σ → Prop)
    (preserved : ∀ current input outputs next,
        invariant current → step current input = (outputs, .ok next) → invariant next)
    (emits : ∀ current input, invariant current → ∀ output ∈ (step current input).1,
        property output)
    {state : σ} (initial : invariant state) (inputs : List ι)
    : ∀ output ∈ (run step state inputs).1, property output := by
  induction inputs generalizing state with
  | nil => simp
  | cons input rest ih =>
      have head := emits state input initial
      rcases called : step state input with ⟨outputs, fault | next⟩
      · rw [called] at head
        rwa [run_cons_error called]
      · rw [called] at head
        rw [run_cons_ok called]
        intro output member
        rcases List.mem_append.mp member with now | later
        · exact head output now
        · exact ih (preserved state input outputs next initial called) output later

/-- Two properties agree along a run if they agree where an invariant holds, and calls that
have them keep it.
-/
theorem along_congr_of_invariant {step : Handler σ ι ω ε} {left right : List ι → σ → ι → Prop}
    {invariant : σ → Prop}
    (agree : ∀ before current input,
        invariant current → (left before current input ↔ right before current input))
    (preserved : ∀ before current input outputs next,
        invariant current
        → right before current input
        → step current input = (outputs, .ok next)
        → invariant next)
    {state : σ} (initial : invariant state) (inputs : List ι)
    : Along step state inputs left ↔ Along step state inputs right := by
  have reachedBefore {property : List ι → σ → ι → Prop}
      (implies : ∀ before current input,
        invariant current → property before current input → right before current input)
      (holds : Along step state inputs property)
      : ∀ before input after,
          inputs = before ++ input :: after
          → ∀ current, (run step state before).2 = .ok current → invariant current := by
    intro before input after split current reached
    subst split
    apply Along.invariant _ initial holds.prefix reached
    intro before' current' input' outputs next holds' here
    exact preserved before' current' input' outputs next holds'
      (implies before' current' input' holds' here)
  constructor
  · intro holds before input after split current reached
    have here := reachedBefore (fun _ _ _ held => (agree _ _ _ held).mp) holds before input after
      split current reached
    exact (agree before current input here).mp (holds before input after split current reached)
  · intro holds before input after split current reached
    have here := reachedBefore (fun _ _ _ _ => id) holds before input after split current reached
    exact (agree before current input here).mpr (holds before input after split current reached)

/-- A run completes exactly when every call it executes returns. Witness: induction from
the right, where the last call starts in the state the shorter run left.
-/
theorem run_completes_iff {step : Handler σ ι ω ε} {state : σ} {inputs : List ι}
    : (∃ final, (run step state inputs).2 = .ok final)
      ↔ Along step state inputs (fun _ current input =>
          ∃ next, (step current input).2 = .ok next) := by
  constructor
  · rintro ⟨final, completed⟩ before input after split current reached
    subst split
    obtain ⟨middle, reached', rest⟩ := run_append_inv completed
    obtain rfl : middle = current := by simpa using reached'.symm.trans reached
    rw [← List.singleton_append] at rest
    obtain ⟨next, called, -⟩ := run_append_inv rest
    exact ⟨next, by simpa only [run_singleton] using called⟩
  · intro returns
    induction inputs using List.reverseRecOn with
    | nil => exact ⟨state, rfl⟩
    | append_singleton before input ih =>
        obtain ⟨current, reached⟩ := ih returns.prefix
        obtain ⟨next, called⟩ := returns before input [] rfl current reached
        refine ⟨next, ?_⟩
        rw [run_append_ok (Prod.ext rfl reached), run_singleton]
        exact called

/-- A run faults exactly when a call faults that it executes. Witness: induction on the inputs,
where a first call that returns is put before the ones that follow.
-/
theorem run_faults_iff {step : Handler σ ι ω ε} {state : σ} {inputs : List ι} {fault : ε}
    : (run step state inputs).2 = .error fault
      ↔ ∃ before input after current,
          inputs = before ++ input :: after
          ∧ (run step state before).2 = .ok current
          ∧ (step current input).2 = .error fault := by
  constructor
  · intro stopped
    induction inputs generalizing state with
    | nil => cases stopped
    | cons input rest ih =>
        rcases called : step state input with ⟨outputs, other | next⟩
        · rw [run_cons_error called] at stopped
          exact ⟨[], input, rest, state, rfl, rfl, by rw [called]; exact stopped⟩
        · rw [run_cons_ok called] at stopped
          obtain ⟨before, failing, after, current, rfl, reached, failed⟩ := ih stopped
          refine ⟨input :: before, failing, after, current, rfl, ?_, failed⟩
          rw [run_cons_ok called]
          exact reached
  · rintro ⟨before, input, after, current, rfl, reached, failed⟩
    have last : step current input = (_, .error fault) := Prod.ext rfl failed
    rw [run_append_ok (Prod.ext rfl reached), run_cons_error last]

/-- A property of the inputs so far that fails at the start and holds at the end begins to
hold at some input.
-/
theorem exists_first_input {property : List ι → Prop} {inputs : List ι}
    (start : ¬ property []) (finish : property inputs)
    : ∃ before input after,
        inputs = before ++ input :: after ∧ ¬ property before ∧ property (before ++ [input]) := by
  induction inputs using List.reverseRecOn with
  | nil => exact absurd finish start
  | append_singleton shorter last ih =>
      by_cases earlier : property shorter
      · obtain ⟨before, input, after, split, notYet, first⟩ := ih earlier
        exact ⟨before, input, after ++ [last], by simp [split], notYet, first⟩
      · exact ⟨shorter, last, [], rfl, earlier, finish⟩

-----------------------------------------------------------------------------------------
-- Two handlers side by side
-----------------------------------------------------------------------------------------

/-- A handler refines another one, of which it mirrors some inputs: a call that returns is
hidden and keeps the states related, or it mirrors a call of the other. `output` and `mirror`
are what an observer sees of the outputs of the two.
-/
structure Refinement {τ κ ψ φ χ : Type*} (concrete : Handler σ ι ω ε)
    (abstract : Handler τ κ ψ φ) (related : σ → τ → Prop) (input : ι → Option κ)
    (output : ω → Option χ) (mirror : ψ → Option χ)
    : Prop where
  hidden
    : ∀ {state twin next symbol outputs},
        input symbol = none
        → related state twin
        → concrete state symbol = (outputs, .ok next)
        → related next twin ∧ outputs.filterMap output = []
  mirrored
    : ∀ {state twin next symbol visible outputs},
        input symbol = some visible
        → related state twin
        → concrete state symbol = (outputs, .ok next)
        → ∃ twinNext twinOutputs,
            abstract twin visible = (twinOutputs, .ok twinNext)
            ∧ related next twinNext
            ∧ outputs.filterMap output = twinOutputs.filterMap mirror

/-- A completed run refines one of the other handler on the mirrored inputs. Witness: induction
on the inputs.
-/
theorem Refinement.run {τ κ ψ φ χ : Type*} {concrete : Handler σ ι ω ε}
    {abstract : Handler τ κ ψ φ} {related : σ → τ → Prop} {input : ι → Option κ}
    {output : ω → Option χ} {mirror : ψ → Option χ}
    (refinement : Refinement concrete abstract related input output mirror) {state final : σ}
    {twin : τ} (start : related state twin) {inputs : List ι} {outputs : List ω}
    (completed : run concrete state inputs = (outputs, .ok final))
    : ∃ twinFinal twinOutputs,
        run abstract twin (inputs.filterMap input) = (twinOutputs, .ok twinFinal)
        ∧ related final twinFinal
        ∧ outputs.filterMap output = twinOutputs.filterMap mirror := by
  induction inputs generalizing state twin outputs with
  | nil =>
      obtain ⟨rfl, rfl⟩ : [] = outputs ∧ state = final := by simpa using completed
      exact ⟨twin, [], rfl, start, rfl⟩
  | cons symbol rest ih =>
      rcases called : concrete state symbol with ⟨emitted, fault | next⟩
      · simp [run_cons_error called] at completed
      · rw [run_cons_ok called] at completed
        obtain ⟨rfl, restOk⟩ := Prod.mk.inj completed
        cases seen : input symbol with
        | none =>
            obtain ⟨later, silent⟩ := refinement.hidden seen start called
            obtain ⟨twinFinal, twinOutputs, ran, finals, same⟩ := ih later (Prod.ext rfl restOk)
            refine ⟨twinFinal, twinOutputs, ?_, finals, ?_⟩
            · rw [List.filterMap_cons_none seen, ran]
            · rw [List.filterMap_append, silent, same, List.nil_append]
        | some visible =>
            obtain ⟨twinNext, twinEmitted, mirrored, later, sameEmitted⟩ :=
              refinement.mirrored seen start called
            obtain ⟨twinFinal, twinOutputs, ran, finals, same⟩ := ih later (Prod.ext rfl restOk)
            refine ⟨twinFinal, twinEmitted ++ twinOutputs, ?_, finals, ?_⟩
            · rw [List.filterMap_cons_some seen, run_cons_ok mirrored, ran]
            · rw [List.filterMap_append, List.filterMap_append, sameEmitted, same]

/-- Where all outputs of the other handler are seen, they are what is seen of the run. -/
theorem Refinement.run_exact {τ κ ψ φ : Type*} {concrete : Handler σ ι ω ε}
    {abstract : Handler τ κ ψ φ} {related : σ → τ → Prop} {input : ι → Option κ}
    {output : ω → Option ψ}
    (refinement : Refinement concrete abstract related input output some) {state final : σ}
    {twin : τ} (start : related state twin) {inputs : List ι} {outputs : List ω}
    (completed : Basis.run concrete state inputs = (outputs, .ok final))
    : ∃ twinFinal,
        Basis.run abstract twin (inputs.filterMap input)
          = (outputs.filterMap output, .ok twinFinal)
        ∧ related final twinFinal := by
  obtain ⟨twinFinal, twinOutputs, ran, finals, same⟩ := refinement.run start completed
  rw [List.filterMap_some] at same
  rw [same]
  exact ⟨twinFinal, ran, finals⟩

/-- The local conditions under which an observer cannot tell a run from the run of the
visible inputs alone. `visible` selects inputs, `view` is the part of the state that
matters to the observer and `observed` selects outputs.
-/
structure Unwinding {β : Type*} (step : Handler σ ι ω ε) (visible : ι → Bool) (view : σ → β)
    (observed : ω → Bool)
    : Prop where
  hidden
    : ∀ {state next input outputs},
        visible input = false
        → step state input = (outputs, .ok next)
        → view next = view state ∧ outputs.filter observed = []
  consistent
    : ∀ {state twin next input outputs},
        visible input = true
        → view state = view twin
        → step state input = (outputs, .ok next)
        → ∃ twinNext twinOutputs,
            step twin input = (twinOutputs, .ok twinNext)
            ∧ view next = view twinNext
            ∧ outputs.filter observed = twinOutputs.filter observed

/-- The handler refines itself, seen through the visible inputs and the observed outputs. -/
theorem Unwinding.refinement {β : Type*} {step : Handler σ ι ω ε} {visible : ι → Bool}
    {view : σ → β} {observed : ω → Bool} (unwinding : Unwinding step visible view observed)
    : Refinement step step (fun state twin => view state = view twin) (Option.guard visible)
        (Option.guard observed) (Option.guard observed) where
  hidden := by
    intro state twin next symbol outputs unseen same called
    obtain ⟨unchanged, silent⟩ := unwinding.hidden (by simpa using unseen) called
    rw [List.filterMap_eq_filter]
    exact ⟨unchanged.trans same, silent⟩
  mirrored := by
    intro state twin next symbol other outputs seen same called
    obtain ⟨rfl, here⟩ := Option.guard_eq_some_iff.mp seen
    rw [List.filterMap_eq_filter]
    exact unwinding.consistent here same called

/-- Purging the hidden inputs of a completed run changes nothing the observer sees. -/
theorem Unwinding.purge {β : Type*} {step : Handler σ ι ω ε} {visible : ι → Bool} {view : σ → β}
    {observed : ω → Bool} (unwinding : Unwinding step visible view observed)
    {state twin final : σ} (same : view state = view twin) {inputs : List ι} {outputs : List ω}
    (completed : run step state inputs = (outputs, .ok final))
    : ∃ twinFinal twinOutputs,
        run step twin (inputs.filter visible) = (twinOutputs, .ok twinFinal)
        ∧ view final = view twinFinal
        ∧ outputs.filter observed = twinOutputs.filter observed := by
  have refined := unwinding.refinement.run same completed
  simpa only [List.filterMap_eq_filter] using refined

/-- Every call of `concrete` on the image of an admitted input mirrors the call of `abstract`
on the input itself: both return to related states or both stop with the same fault, and
the outputs agree after `output` translates them.
-/
structure Simulation {τ κ ψ : Type*} (concrete : Handler σ ι ω ε) (abstract : Handler τ κ ψ ε)
    (related : σ → τ → Prop) (admitted : κ → Prop) (input : κ → ι) (output : ω → Option ψ)
    : Prop where
  stops
    : ∀ {state twin symbol outputs fault},
        related state twin
        → admitted symbol
        → abstract twin symbol = (outputs, .error fault)
        → ∃ emitted,
            concrete state (input symbol) = (emitted, .error fault)
            ∧ emitted.filterMap output = outputs
  returns
    : ∀ {state twin symbol outputs twinNext},
        related state twin
        → admitted symbol
        → abstract twin symbol = (outputs, .ok twinNext)
        → ∃ emitted next,
            concrete state (input symbol) = (emitted, .ok next)
            ∧ related next twinNext
            ∧ emitted.filterMap output = outputs

/-- Whole runs mirror each other. Witness: induction on the inputs, by the outcome of the
first abstract call.
-/
theorem Simulation.run {τ κ ψ : Type*} {concrete : Handler σ ι ω ε} {abstract : Handler τ κ ψ ε}
    {related : σ → τ → Prop} {admitted : κ → Prop} {input : κ → ι} {output : ω → Option ψ}
    (simulation : Simulation concrete abstract related admitted input output)
    {state : σ} {twin : τ} (start : related state twin) {symbols : List κ}
    (all : ∀ symbol ∈ symbols, admitted symbol)
    : (run concrete state (symbols.map input)).1.filterMap output = (run abstract twin symbols).1
      ∧ ((∃ fault,
            (run abstract twin symbols).2 = .error fault
            ∧ (run concrete state (symbols.map input)).2 = .error fault)
        ∨ ∃ twinFinal final,
            (run abstract twin symbols).2 = .ok twinFinal
            ∧ (run concrete state (symbols.map input)).2 = .ok final
            ∧ related final twinFinal) := by
  induction symbols generalizing state twin with
  | nil => exact ⟨rfl, Or.inr ⟨twin, state, rfl, rfl, start⟩⟩
  | cons symbol rest ih =>
      have here := all symbol (by simp)
      rcases called : abstract twin symbol with ⟨outputs, fault | twinNext⟩
      · obtain ⟨emitted, mirrored, same⟩ := simulation.stops start here called
        rw [List.map_cons, run_cons_error mirrored, run_cons_error called]
        exact ⟨same, Or.inl ⟨fault, rfl, rfl⟩⟩
      · obtain ⟨emitted, next, mirrored, later, same⟩ := simulation.returns start here called
        obtain ⟨restOutputs, restOutcome⟩ :=
          ih later (fun other inRest => all other (by simp [inRest]))
        rw [List.map_cons, run_cons_ok mirrored, run_cons_ok called, List.filterMap_append, same,
          restOutputs]
        exact ⟨rfl, restOutcome⟩

end Basis
