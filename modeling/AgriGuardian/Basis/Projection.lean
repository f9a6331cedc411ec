import AgriGuardian.Basis.Machine

/-! Projecting the runs of a handler to those of a smaller one.
A call of the larger handler is hidden from the smaller one, or mirrors a call of it on an
input that may depend on the state.
-/

namespace Basis

variable {σ ι ω ε τ κ ψ : Type*}

/-- Every call of `concrete` that returns is hidden, and leaves the image of the state alone,
or it mirrors the call of `abstract` on the image.
-/
structure Projection (concrete : Handler σ ι ω ε) (abstract : Handler τ κ ψ ε) (image : σ → τ)
    (input : σ → ι → Option κ) (output : ω → Option ψ)
    : Prop where
  hidden
    : ∀ {state symbol outputs next},
        input state symbol = none
        → concrete state symbol = (outputs, .ok next)
        → image next = image state ∧ outputs.filterMap output = []
  mirrored
    : ∀ {state symbol visible},
        input state symbol = some visible
        → abstract (image state) visible
          = ((concrete state symbol).1.filterMap output, (concrete state symbol).2.map image)

/-- The inputs of the smaller handler along a run of the larger one. -/
def projected (concrete : Handler σ ι ω ε) (input : σ → ι → Option κ) (state : σ)
    : List ι → List κ
  | [] => []
  | symbol :: rest =>
      match (concrete state symbol).2 with
      | .error _ => (input state symbol).toList
      | .ok next => (input state symbol).toList ++ projected concrete input next rest

theorem projected_cons_ok {concrete : Handler σ ι ω ε} {input : σ → ι → Option κ}
    {state next : σ} {symbol : ι} {outputs : List ω}
    (called : concrete state symbol = (outputs, .ok next)) (rest : List ι)
    : projected concrete input state (symbol :: rest)
      = (input state symbol).toList ++ projected concrete input next rest := by
  simp [projected, called]

/-- A completed run projects to a completed run with the visible outputs, in the image of its
final state. Witness: induction on the inputs, by whether the first is hidden.
-/
theorem Projection.run {concrete : Handler σ ι ω ε} {abstract : Handler τ κ ψ ε} {image : σ → τ}
    {input : σ → ι → Option κ} {output : ω → Option ψ}
    (projection : Projection concrete abstract image input output) {state final : σ}
    {symbols : List ι} {outputs : List ω}
    (completed : run concrete state symbols = (outputs, .ok final))
    : run abstract (image state) (projected concrete input state symbols)
      = (outputs.filterMap output, .ok (image final)) := by
  induction symbols generalizing state outputs with
  | nil =>
      obtain ⟨rfl, rfl⟩ : [] = outputs ∧ state = final := by simpa using completed
      rfl
  | cons symbol rest ih =>
      rcases called : concrete state symbol with ⟨emitted, fault | next⟩
      · simp [run_cons_error called] at completed
      · rw [run_cons_ok called] at completed
        obtain ⟨rfl, restOk⟩ := Prod.mk.inj completed
        have later := ih (Prod.ext rfl restOk)
        rw [projected_cons_ok called, List.filterMap_append]
        cases seen : input state symbol with
        | none =>
            obtain ⟨same, silent⟩ := projection.hidden seen called
            rw [same] at later
            simpa [silent] using later
        | some visible =>
            have mirrored := projection.mirrored seen
            rw [called] at mirrored
            rw [Option.toList_some, List.singleton_append, run_cons_ok mirrored, later]

end Basis
