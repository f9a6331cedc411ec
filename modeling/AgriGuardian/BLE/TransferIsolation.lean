import AgriGuardian.BLE.Transfer

/-! When transfers are isolated from each other.
The array of datagrams is never cleared, so every end of transfer replays all transfers so
far. That makes no difference as long as each of them starts on an empty filling and
delivers a message of its own.
-/

namespace AgriGuardian.BLE.PeripheralViewController

open Swift
open Basis

/-- The messages printed among the effects. -/
def printed (effects : List PeripheralEffect) : List Data :=
  effects.filterMap fun
    | .printMessage data => some data
    | _ => none

/-- What an end of transfer prints is what a new controller prints that reads only the
parts since the previous end of transfer and then the same end.
-/
def Isolated (before : List (List UInt8)) (controller : PeripheralViewController)
    (bytes : List UInt8)
    : Prop :=
  isEnd bytes = true
  → printed (controller.receiveValue bytes).1
    = printed (run receiveValue init ((since isEnd before).filter isPart ++ [bytes])).1

/-- The parts are received without an overrun and deliver nothing. -/
def Silent (parts : List Datagram) : Prop :=
  ∃ slot, run Filling.feed none parts = ([], .ok slot)

/-- The parts of the earlier transfers leave no message half received. -/
def LeavesNothingOpen (before : List (List UInt8)) : Prop :=
  (run Filling.feed none (parts (upTo isEnd before))).2 = .ok none

/-- A transfer after the first is not silent. -/
def Speaks (before : List (List UInt8)) : Prop :=
  upTo isEnd before = [] ∨ ¬ Silent (parts (since isEnd before))

-----------------------------------------------------------------------------------------
-- What an end of transfer prints
-----------------------------------------------------------------------------------------

/-- The message a feeding of parts ends with, if it is not stopped. -/
def shown : Outcome (Option Filling) Message Trap → List Data
  | (_, .error _) => []
  | (messages, .ok _) => (messages.getLast?.map Message.data).toList

theorem shown_eq_nil {messages : List Message} {slot : Option Filling}
    : shown (messages, .ok slot) = [] ↔ messages = [] := by
  simp [shown]

theorem printed_append (first second : List PeripheralEffect)
    : printed (first ++ second) = printed first ++ printed second :=
  List.filterMap_append ..

/-- An end of transfer prints the last message that the parts kept deliver. -/
theorem printed_receiveValue {controller : PeripheralViewController} {reads : List (List UInt8)}
    (kept : controller.datagrams = parts reads) {bytes : List UInt8} (ending : isEnd bytes = true)
    : printed (controller.receiveValue bytes).1 = shown (run Filling.feed none (parts reads)) := by
  rw [receiveValue_end kept ending]
  rcases run Filling.feed none (parts reads) with ⟨messages, trap | slot⟩
  · rfl
  · cases last : messages.getLast? with
    | none => simp [shown, last, printed]
    | some message => simp [shown, last, printed]

/-- Parts are collected without printing. -/
theorem run_allParts {reads : List (List UInt8)} (all : ∀ bytes ∈ reads, isPart bytes = true)
    (controller : PeripheralViewController)
    : ∃ effects,
        run receiveValue controller reads
          = (effects, .ok ⟨controller.datagrams ++ parts reads⟩)
        ∧ printed effects = [] := by
  induction reads generalizing controller with
  | nil => exact ⟨[], by simp [parts], rfl⟩
  | cons bytes rest ih =>
      have part := all bytes (by simp)
      rcases receiveValue_cases controller bytes with
        ⟨other, -⟩ | ⟨-, -, datagram, found, called⟩ | ⟨other, -⟩
      · simp [other] at part
      · obtain ⟨effects, ran, silent⟩ :=
          ih (fun other inRest => all other (by simp [inRest]))
            ⟨controller.datagrams ++ [datagram]⟩
        have first : parts (bytes :: rest) = datagram :: parts rest := by
          simp [parts, part, found]
        refine ⟨.readValue :: effects, ?_, by simpa [printed] using silent⟩
        rw [run_cons_ok called, ran, first]
        simp
      · simp [other] at part

/-- A new controller prints what the parts of the transfer alone deliver. -/
theorem printed_alone (reads : List (List UInt8)) {bytes : List UInt8}
    (ending : isEnd bytes = true)
    : printed (run receiveValue init (reads.filter isPart ++ [bytes])).1
      = shown (run Filling.feed none (parts reads)) := by
  obtain ⟨effects, ran, silent⟩ :=
    run_allParts (fun _ member => (List.mem_filter.mp member).2) init
  have kept : init.datagrams ++ parts (reads.filter isPart) = parts reads := by
    simp [init, parts]
  rw [run_append_ok ran, run_singleton, printed_append, silent, List.nil_append,
    printed_receiveValue kept ending]

/-- An end of transfer returns only if the parts kept deliver a message. -/
theorem delivered_of_returns {controller next : PeripheralViewController}
    {reads : List (List UInt8)} (kept : controller.datagrams = parts reads) {bytes : List UInt8}
    (ending : isEnd bytes = true) (returned : (controller.receiveValue bytes).2 = .ok next)
    : (run Filling.feed none (parts reads)).1 ≠ [] := by
  intro silent
  rw [receiveValue_end kept ending] at returned
  rcases fed : run Filling.feed none (parts reads) with ⟨messages, trap | slot⟩
  · simp [fed] at returned
  · rw [fed] at silent
    obtain rfl : messages = [] := silent
    simp [fed] at returned

/-- A later transfer comes after parts that delivered a message. -/
theorem earlier_delivered {reads : List (List UInt8)} {controller : PeripheralViewController}
    (reached : (run receiveValue init reads).2 = .ok controller)
    (repeated : upTo isEnd reads ≠ [])
    : (run Filling.feed none (parts (upTo isEnd reads))).1 ≠ [] := by
  rcases upTo_eq isEnd reads with first | ⟨earlier, last, split, ending⟩
  · exact absurd first repeated
  have notPart : parts [last] = [] := by
    rw [parts_singleton, if_neg]
    cases found : datagramIn last with
    | none => simp [isEnd, keyed, found] at ending
    | some datagram => simpa [isEnd, isPart, keyed, found] using ending
  rw [← upTo_append_since isEnd reads, split] at reached
  obtain ⟨middle, reachedMiddle, -⟩ := run_append_inv reached
  obtain ⟨current, reachedCurrent, called⟩ := run_append_inv reachedMiddle
  rw [run_singleton] at called
  rw [split, parts_append, notPart, List.append_nil]
  exact delivered_of_returns (datagrams_eq_parts reachedCurrent) ending called

/-- Where nothing is left open, an end of transfer is isolated exactly when its transfer is
the first or is not silent. A silent one prints the last message of the earlier transfers
again.
-/
theorem isolated_iff {before : List (List UInt8)} {controller : PeripheralViewController}
    (reached : (run receiveValue init before).2 = .ok controller) {bytes : List UInt8}
    (ending : isEnd bytes = true) (closed : LeavesNothingOpen before)
    : Isolated before controller bytes ↔ Speaks before := by
  rcases earlier : run Filling.feed none (parts (upTo isEnd before)) with ⟨messages, outcome⟩
  obtain rfl : outcome = .ok none := by simpa [LeavesNothingOpen, earlier] using closed
  have replayed
      : printed (controller.receiveValue bytes).1
        = shown (messages ++ (run Filling.feed none (parts (since isEnd before))).1,
          (run Filling.feed none (parts (since isEnd before))).2) := by
    rw [printed_receiveValue (datagrams_eq_parts reached) ending, ← run_append_ok earlier,
      ← parts_append, upTo_append_since]
  rw [Isolated, printed_alone _ ending, replayed, Speaks, Silent]
  simp only [ending, forall_const]
  rcases run Filling.feed none (parts (since isEnd before)) with ⟨own, trap | slot⟩
  · simp [shown]
  · by_cases silent : own = []
    · subst silent
      have repeats : shown (messages, .ok slot) = [] ↔ upTo isEnd before = [] := by
        rw [shown_eq_nil]
        constructor
        · intro empty
          by_contra repeated
          exact earlier_delivered reached repeated (by rw [earlier, empty])
        · intro first
          rw [first] at earlier
          exact (Prod.mk.inj earlier).1.symm
      simpa [shown] using repeats
    · have last := List.getLast?_eq_some_getLast silent
      simp [shown, silent, List.getLast?_append, last]

/-- In every run whose transfers leave nothing open, and none of which but the first is
silent, all transfers are isolated. Where nothing is left open, being silent is also the
only way to fail.
-/
theorem transfers_isolated (reads : List (List UInt8))
    : (Along receiveValue init reads (fun before _ bytes =>
          isEnd bytes = true → LeavesNothingOpen before ∧ Speaks before)
        → Along receiveValue init reads Isolated)
      ∧ Along receiveValue init reads (fun before controller bytes =>
          isEnd bytes = true
          → LeavesNothingOpen before
          → (Isolated before controller bytes ↔ Speaks before)) := by
  constructor
  · intro separated before bytes after split controller reached ending
    obtain ⟨closed, speaks⟩ := separated before bytes after split controller reached ending
    exact (isolated_iff reached ending closed).mpr speaks ending
  · intro before bytes after split controller reached ending closed
    exact isolated_iff reached ending closed

/-- Two complete transfers print their own messages. -/
example
    : printed
        (run receiveValue init
          [[0, 0, 0, 0, 0, 1, 0, 0, 0, 65], [6, 0, 0, 0, 0, 1, 0, 0, 0, 0],
            [0, 0, 0, 0, 0, 1, 0, 0, 0, 66], [6, 0, 0, 0, 0, 1, 0, 0, 0, 0]]).1
      = [Data.ofBytes [65], Data.ofBytes [66]] := by
  decide

/-- A transfer without parts, after one that delivered the letter A, prints A again. -/
theorem transfer_without_parts_repeats
    : ¬ ∀ reads, Along receiveValue init reads Isolated := by
  intro isolated
  have same := isolated
    [[0, 0, 0, 0, 0, 1, 0, 0, 0, 65], [6, 0, 0, 0, 0, 1, 0, 0, 0, 0],
      [6, 0, 0, 0, 0, 1, 0, 0, 0, 0]]
    [[0, 0, 0, 0, 0, 1, 0, 0, 0, 65], [6, 0, 0, 0, 0, 1, 0, 0, 0, 0]]
    [6, 0, 0, 0, 0, 1, 0, 0, 0, 0] [] rfl _ rfl (by decide)
  revert same
  decide

end AgriGuardian.BLE.PeripheralViewController
