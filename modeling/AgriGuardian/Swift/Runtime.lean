import Mathlib.Data.Int.Basic
import Mathlib.Data.List.Basic
import Mathlib.Data.List.Forall2
import Mathlib.Tactic.Linarith

/-! Runtime traps, 64-bit integer arithmetic and counted index loops.
A trap ends the program: no later statement runs, so trapping code is an `Except` whose
error is never caught by modelled code.
-/

universe u

namespace Swift

/-- The ways modelled code can stop the program. -/
inductive Trap
  | indexOutOfRange
  | invalidRange
  | arithmeticOverflow
  | divisionByZero
  | unexpectedNil
  | failedCast
  | uncaughtError
  | fatalError (message : String)
  /-- An exception of a library, which modelled code never catches. -/
  | invalidArgument (message : String)
  deriving DecidableEq, Repr

/-- A computation that returns a value or traps. -/
abbrev Checked (α : Type*) := Except Trap α

-- These rules are not proved by `rfl`, so that simp rewrites with them as equations. As
-- definitional steps they would make the kernel evaluate range checks on open terms.

/-- A sequence returns exactly when both parts do. -/
theorem bind_eq_ok {α β : Type u} {first : Checked α} {next : α → Checked β} {result : β}
    : first >>= next = .ok result ↔ ∃ value, first = .ok value ∧ next value = .ok result := by
  cases first with
  | error trap => simp [bind, Except.bind]
  | ok value => simp [bind, Except.bind]

/-- A sequence stops where its first part does, or else where the rest does. -/
theorem bind_eq_error {α β : Type u} {first : Checked α} {next : α → Checked β} {trap : Trap}
    : first >>= next = .error trap
      ↔ first = .error trap ∨ ∃ value, first = .ok value ∧ next value = .error trap := by
  cases first with
  | error early => simp [bind, Except.bind]
  | ok value => simp [bind, Except.bind]

@[simp]
theorem ok_bind {α β : Type u} (value : α) (next : α → Checked β)
    : (Except.ok value : Checked α) >>= next = next value := by
  simp only [bind, Except.bind]

@[simp]
theorem error_bind {α β : Type u} (trap : Trap) (next : α → Checked β)
    : (Except.error trap : Checked α) >>= next = .error trap := by
  simp only [bind, Except.bind]

@[simp]
theorem bind_ok {α : Type u} (computation : Checked α)
    : (computation >>= fun value => Except.ok value) = computation := by
  cases computation with
  | error trap => simp
  | ok value => simp

@[simp]
theorem pure_eq_ok {α : Type u} (value : α) : (pure value : Checked α) = .ok value :=
  rfl

/-- The values of the 64-bit `Int`. -/
def IntRange (value : ℤ) : Prop := -2 ^ 63 ≤ value ∧ value < 2 ^ 63

instance (value : ℤ) : Decidable (IntRange value) :=
  inferInstanceAs (Decidable (_ ∧ _))

/-- A 64-bit `Int`, carrying its range. -/
abbrev MachineInt := { value : ℤ // IntRange value }

/-- The result of an `Int` operation, which traps outside the range. -/
def checkedInt (value : ℤ) : Checked ℤ :=
  if IntRange value then .ok value else .error .arithmeticOverflow

/-- `%` on `Int`, truncating towards zero. -/
def remainder (dividend divisor : ℤ) : Checked ℤ :=
  if divisor = 0 then .error .divisionByZero else .ok (dividend.tmod divisor)

/-- `/` on `Int`, truncating towards zero. -/
def quotient (dividend divisor : ℤ) : Checked ℤ :=
  if divisor = 0 then .error .divisionByZero else checkedInt (dividend.tdiv divisor)

/-- `UInt32(value)`, which traps on values it cannot represent. -/
def toUInt32 (value : ℤ) : Checked UInt32 :=
  if 0 ≤ value ∧ value < 2 ^ 32 then .ok (UInt32.ofNat value.toNat)
  else .error .arithmeticOverflow

/-- `+` on `UInt32`, which traps when the sum does not fit. -/
def addUInt32 (left right : UInt32) : Checked UInt32 :=
  if left.toNat + right.toNat < 2 ^ 32 then .ok (left + right)
  else .error .arithmeticOverflow

theorem checkedInt_of_range {value : ℤ} (inRange : IntRange value)
    : checkedInt value = .ok value :=
  if_pos inRange

/-- A returning operation has the exact result. -/
theorem checkedInt_eq_ok {value result : ℤ} (returned : checkedInt value = .ok result)
    : result = value := by
  unfold checkedInt at returned
  split at returned
  · exact (Except.ok.inj returned).symm
  · cases returned

/-- An operation returns exactly when its result is in the range. -/
theorem checkedInt_returns_iff {value : ℤ}
    : (∃ result, checkedInt value = .ok result) ↔ IntRange value := by
  rw [checkedInt]
  split
  · rename_i inRange
    exact iff_of_true ⟨value, rfl⟩ inRange
  · rename_i outside
    refine iff_of_false ?_ outside
    rintro ⟨result, returned⟩
    cases returned

theorem checkedInt_range {value result : ℤ} (returned : checkedInt value = .ok result)
    : IntRange result := by
  rw [checkedInt_eq_ok returned]
  exact checkedInt_returns_iff.mp ⟨result, returned⟩

theorem remainder_eq_ok {dividend divisor result : ℤ}
    (returned : remainder dividend divisor = .ok result)
    : divisor ≠ 0 ∧ result = dividend.tmod divisor := by
  unfold remainder at returned
  split at returned
  · cases returned
  · exact ⟨‹_›, (Except.ok.inj returned).symm⟩

theorem quotient_eq_ok {dividend divisor result : ℤ}
    (returned : quotient dividend divisor = .ok result)
    : result = dividend.tdiv divisor := by
  unfold quotient at returned
  split at returned
  · cases returned
  · exact checkedInt_eq_ok returned

/-- Dividing by a positive number stays in the range. -/
theorem quotient_of_pos {dividend divisor : ℤ} (inRange : IntRange dividend)
    (positive : 0 < divisor)
    : quotient dividend divisor = .ok (dividend.tdiv divisor) := by
  have smaller := Int.natAbs_tdiv_le_natAbs dividend divisor
  obtain ⟨low, high⟩ := inRange
  rw [quotient, if_neg positive.ne']
  apply checkedInt_of_range
  cases le_total 0 dividend with
  | inl nonneg =>
      have sign : 0 ≤ dividend.tdiv divisor := Int.tdiv_nonneg nonneg positive.le
      exact ⟨by omega, by omega⟩
  | inr nonpos =>
      have opposite : 0 ≤ (-dividend).tdiv divisor :=
        Int.tdiv_nonneg (neg_nonneg.mpr nonpos) positive.le
      rw [Int.neg_tdiv] at opposite
      exact ⟨by omega, by omega⟩

theorem toUInt32_natCast {value : ℕ} (small : value < 2 ^ 32)
    : toUInt32 value = .ok (UInt32.ofNat value) := by
  have bound : (0 : ℤ) ≤ value ∧ (value : ℤ) < 2 ^ 32 := ⟨by omega, by omega⟩
  rw [toUInt32, if_pos bound, Int.toNat_natCast]

/-- A returning conversion had a representable value. -/
theorem toUInt32_eq_ok {value : ℤ} {word : UInt32} (returned : toUInt32 value = .ok word)
    : 0 ≤ value ∧ value < 2 ^ 32 ∧ word = UInt32.ofNat value.toNat := by
  unfold toUInt32 at returned
  split at returned
  · rename_i bound
    exact ⟨bound.1, bound.2, (Except.ok.inj returned).symm⟩
  · cases returned

/-- Adding without carry is exact. -/
theorem addUInt32_of_lt {left right : UInt32} (small : left.toNat + right.toNat < 2 ^ 32)
    : addUInt32 left right = .ok (left + right)
      ∧ (left + right).toNat = left.toNat + right.toNat := by
  refine ⟨if_pos small, ?_⟩
  rw [UInt32.toNat_add, Nat.mod_eq_of_lt small]

/-- `elements[index]`. -/
def element {α : Type*} (elements : List α) (index : ℤ) : Checked α :=
  if index < 0 then .error .indexOutOfRange
  else
    match elements[index.toNat]? with
    | some found => .ok found
    | none => .error .indexOutOfRange

theorem element_eq_ok {α : Type*} {elements : List α} {index : ℕ} {found : α}
    : element elements index = .ok found ↔ elements[index]? = some found := by
  rw [element, if_neg (by omega), Int.toNat_natCast]
  cases elements[index]? with
  | none => simp
  | some other => simp

/-- The element at index 0 is the first. -/
theorem element_zero_eq_ok {α : Type*} {elements : List α} {found : α}
    : element elements 0 = .ok found ↔ elements.head? = some found := by
  rw [List.head?_eq_getElem?]
  exact @element_eq_ok α elements 0 found

/-- An element is found exactly when the index is below the length. -/
theorem element_returns_iff {α : Type*} {elements : List α} {index : ℕ}
    : (∃ found, element elements index = .ok found) ↔ index < elements.length := by
  simp [element_eq_ok, List.getElem?_eq_some_iff]

/-- Appending moves no element. -/
theorem element_append_of_ok {α : Type*} {elements : List α} {index : ℤ} {found : α}
    (read : element elements index = .ok found) (rest : List α)
    : element (elements ++ rest) index = .ok found := by
  rw [element] at read ⊢
  split at read
  · cases read
  · rename_i nonneg
    rw [if_neg nonneg]
    split at read
    · rename_i here
      rw [List.getElem?_append_left (List.getElem?_eq_some_iff.mp here).1, here]
      exact read
    · cases read

/-- Lists that are related one by one have related elements at every index. -/
theorem element_of_forall₂ {α β : Type*} {related : α → β → Prop} {elements : List α}
    {others : List β} (each : List.Forall₂ related elements others) {index : ℤ} {found : α}
    (read : element elements index = .ok found)
    : ∃ other, element others index = .ok other ∧ related found other := by
  rw [element] at read
  split at read
  · cases read
  · rename_i nonneg
    split at read
    · rename_i here
      obtain rfl := Except.ok.inj read
      obtain ⟨inRange, rfl⟩ := List.getElem?_eq_some_iff.mp here
      have same := each.length_eq
      refine ⟨others[index.toNat], ?_, each.get inRange (same ▸ inRange)⟩
      rw [element, if_neg nonneg, List.getElem?_eq_getElem]
    · cases read

theorem mem_of_element {α : Type*} {elements : List α} {index : ℤ} {found : α}
    (read : element elements index = .ok found)
    : found ∈ elements := by
  rw [element] at read
  split at read
  · cases read
  · split at read
    · rename_i here
      exact Except.ok.inj read ▸ List.mem_of_getElem? here
    · cases read

theorem element_error {α : Type*} {elements : List α} {index : ℤ} {trap : Trap}
    (failed : element elements index = .error trap)
    : trap = .indexOutOfRange := by
  rw [element] at failed
  split at failed
  · exact (Except.error.inj failed).symm
  · split at failed
    · cases failed
    · exact (Except.error.inj failed).symm

/-- The element after the visited ones. -/
@[simp]
theorem element_append {α : Type*} (visited : List α) (found : α) (rest : List α)
    : element (visited ++ found :: rest) visited.length = .ok found :=
  element_eq_ok.mpr (by simp)

theorem element_map {α β : Type*} (f : α → β) (elements : List α) (index : ℤ)
    : element (elements.map f) index = (element elements index).map f := by
  by_cases negative : index < 0
  · rw [element, if_pos negative, element, if_pos negative]
    rfl
  · rw [element, if_neg negative, element, if_neg negative, List.getElem?_map]
    cases elements[index.toNat]? with
    | none => rfl
    | some found => rfl

/-- Reading the element that was just replaced. -/
theorem element_set {α : Type*} {elements : List α} {index : ℤ} {found : α}
    (read : element elements index = .ok found) (replacement : α)
    : element (elements.set index.toNat replacement) index = .ok replacement := by
  rw [element] at read
  split at read
  · cases read
  · rename_i nonneg
    have below : index.toNat < elements.length := by
      by_contra above
      rw [List.getElem?_eq_none (not_lt.mp above)] at read
      cases read
    rw [element, if_neg nonneg, List.getElem?_set_self below]

/-- `elements.remove(at: index)`, the elements that are left. -/
def removeAt {α : Type*} (elements : List α) (index : ℕ) : Checked (List α) :=
  if index < elements.length then .ok (elements.eraseIdx index) else .error .indexOutOfRange

/-- Removing the element after the visited ones. -/
@[simp]
theorem removeAt_append {α : Type*} (visited : List α) (found : α) (rest : List α)
    : removeAt (visited ++ found :: rest) visited.length = .ok (visited ++ rest) := by
  have inRange : visited.length < (visited ++ found :: rest).length := by simp
  rw [removeAt, if_pos inRange, List.eraseIdx_append_of_length_le le_rfl, Nat.sub_self,
    List.eraseIdx_cons_zero]

/-- A loop over the indices of a list that replaces the element at each index maps the
list. `embed` places the list in the state the body works on. Witness: induction on the
part of the list not yet visited.
-/
theorem foldlM_range_map {α : Type*} {σ : Type u} (embed : List α → σ) (f : α → α)
    (body : σ → ℕ → Checked σ)
    (replaces : ∀ visited element rest,
        body (embed (visited ++ element :: rest)) visited.length
          = .ok (embed (visited ++ f element :: rest)))
    (elements : List α)
    : (List.range elements.length).foldlM body (embed elements)
      = .ok (embed (elements.map f)) := by
  have loop (rest : List α) : ∀ visited : List α,
      (List.range' visited.length rest.length).foldlM body (embed (visited ++ rest))
        = .ok (embed (visited ++ rest.map f)) := by
    induction rest with
    | nil => intro visited; simp
    | cons element rest ih =>
        intro visited
        rw [List.length_cons, List.range'_succ, List.foldlM_cons, replaces, ok_bind]
        have next := ih (visited ++ [f element])
        simpa using next
  simpa [List.range_eq_range'] using loop elements []

/-- A loop follows another one through a map of states that their bodies commute with. -/
theorem foldlM_map_state {ι : Type*} {σ τ : Type u} {body : σ → ι → Checked σ}
    {mapped : τ → ι → Checked τ} {f : σ → τ}
    (commutes : ∀ state input, mapped (f state) input = (body state input).map f)
    (inputs : List ι) (state : σ)
    : inputs.foldlM mapped (f state) = (inputs.foldlM body state).map f := by
  induction inputs generalizing state with
  | nil => rfl
  | cons input rest ih =>
      rw [List.foldlM_cons, List.foldlM_cons, commutes]
      cases body state input with
      | error trap => simp [Except.map]
      | ok next => simpa [Except.map] using ih next

/-- A loop over inputs that alone decide whether its body returns. -/
theorem foldlM_returns_iff {ι : Type*} {σ : Type u} {body : σ → ι → Checked σ}
    {admitted : ι → Prop}
    (returns : ∀ state input, (∃ next, body state input = .ok next) ↔ admitted input)
    {inputs : List ι} {state : σ}
    : (∃ final, inputs.foldlM body state = .ok final) ↔ ∀ input ∈ inputs, admitted input := by
  induction inputs generalizing state with
  | nil => exact iff_of_true ⟨state, rfl⟩ (by simp)
  | cons input rest ih =>
      rw [List.forall_mem_cons, ← returns state input, List.foldlM_cons]
      constructor
      · rintro ⟨final, completed⟩
        obtain ⟨next, called, later⟩ := bind_eq_ok.mp completed
        exact ⟨⟨next, called⟩, ih.mp ⟨final, later⟩⟩
      · rintro ⟨⟨next, called⟩, rest⟩
        obtain ⟨final, later⟩ := (@ih next).mpr rest
        exact ⟨final, by rw [called, ok_bind, later]⟩

/-- A loop stops as its body does. -/
theorem foldlM_error {ι : Type*} {σ : Type u} {body : σ → ι → Checked σ} {trap : Trap}
    (stops : ∀ state input other, body state input = .error other → other = trap)
    {inputs : List ι} {state : σ} {other : Trap}
    (failed : inputs.foldlM body state = .error other)
    : other = trap := by
  induction inputs generalizing state with
  | nil => cases failed
  | cons input rest ih =>
      rw [List.foldlM_cons] at failed
      cases called : body state input with
      | error early =>
          rw [called, error_bind] at failed
          exact Except.error.inj failed ▸ stops state input early called
      | ok next =>
          rw [called, ok_bind] at failed
          exact ih failed

/-- A loop whose body returns at every element collects the values. -/
theorem mapM_of_ok {α β : Type u} {f : α → Checked β} {g : α → β} {elements : List α}
    (returns : ∀ element ∈ elements, f element = .ok (g element))
    : elements.mapM f = .ok (elements.map g) := by
  induction elements with
  | nil => simp
  | cons element rest ih =>
      rw [List.mapM_cons, returns element (by simp), ok_bind,
        ih (fun later member => returns later (by simp [member]))]
      simp

/-- A completed collecting loop returned at every element. -/
theorem mapM_eq_ok {α β : Type u} {f : α → Checked β} {elements : List α} {values : List β}
    (completed : elements.mapM f = .ok values)
    : ∀ element ∈ elements, ∃ value, f element = .ok value := by
  induction elements generalizing values with
  | nil => simp
  | cons element rest ih =>
      rw [List.mapM_cons, bind_eq_ok] at completed
      obtain ⟨value, head, later⟩ := completed
      obtain ⟨rest', tail, -⟩ := bind_eq_ok.mp later
      intro found member
      rcases List.mem_cons.mp member with rfl | inRest
      · exact ⟨value, head⟩
      · exact ih tail found inRest

/-- A collecting loop completes exactly when its body returns the values one by one. -/
theorem mapM_eq_ok_iff {α β : Type u} {f : α → Checked β} {elements : List α}
    {values : List β}
    : elements.mapM f = .ok values
      ↔ List.Forall₂ (fun element value => f element = .ok value) elements values := by
  induction elements generalizing values with
  | nil => simp [eq_comm]
  | cons element rest ih =>
      rw [List.mapM_cons, bind_eq_ok, List.forall₂_cons_left_iff]
      refine exists_congr fun value => ?_
      constructor
      · intro ⟨head, later⟩
        obtain ⟨others, tail, built⟩ := bind_eq_ok.mp later
        exact ⟨others, head, ih.mp tail, (Except.ok.inj built).symm⟩
      · intro ⟨others, head, tail, built⟩
        refine ⟨head, bind_eq_ok.mpr ⟨others, ih.mpr tail, ?_⟩⟩
        rw [built]
        rfl

/-- A loop whose body returns a value with a property at every element collects such values. -/
theorem exists_mapM_eq_ok {α β : Type u} {f : α → Checked β} {property : α → β → Prop}
    {elements : List α}
    (returns : ∀ element ∈ elements, ∃ value, f element = .ok value ∧ property element value)
    : ∃ values, elements.mapM f = .ok values ∧ List.Forall₂ property elements values := by
  induction elements with
  | nil => exact ⟨[], rfl, .nil⟩
  | cons element rest ih =>
      obtain ⟨value, head, holds⟩ := returns element (by simp)
      obtain ⟨values, tail, later⟩ := ih fun other member => returns other (by simp [member])
      refine ⟨value :: values, ?_, .cons holds later⟩
      rw [List.mapM_cons, head, ok_bind, tail]
      rfl

/-- The values of a completed collecting loop are those its body returns. -/
theorem mem_mapM_iff {α β : Type u} {f : α → Checked β} {elements : List α} {values : List β}
    (completed : elements.mapM f = .ok values) {value : β}
    : value ∈ values ↔ ∃ element ∈ elements, f element = .ok value := by
  induction mapM_eq_ok_iff.mp completed with
  | nil => simp
  | @cons element returned rest others head tail ih =>
      simp only [List.mem_cons, ih (mapM_eq_ok_iff.mpr tail), exists_eq_or_imp, head,
        Except.ok.injEq, @eq_comm β value returned]

end Swift
