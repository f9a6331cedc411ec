import AgriGuardian.Basis.SinceLast
import AgriGuardian.BLE.Filling

/-! Reassembly completes exactly on coverage.
The datagrams here need not come from a fragmenter: their ranges may overlap, repeat and leave
gaps. The entry of their key holds the datagrams since the last delivery.
-/

namespace AgriGuardian.BLE.MessageManager

open Swift
open Basis

/-- The datagram has a payload within a message of the key and the length. -/
structure PartOf (key : UInt8) (messageLength : UInt32) (datagram : Datagram) : Prop where
  sameKey : datagram.header.key = key
  sameLength : datagram.header.messageLength = messageLength
  nonempty : datagram.payload.bytes ≠ []
  within : datagram.write.stop ≤ messageLength.toNat

/-- The indices of the message that the datagrams have a byte for. -/
def coveredBy (datagrams : List Datagram) : Finset ℕ := covered (datagrams.map Datagram.write)

/-- The byte that the latest of the datagrams with one for the index has for it. -/
def latestByte (datagrams : List Datagram) (index : ℕ) : Option UInt8 :=
  latest (datagrams.map Datagram.write) index

/-- Processing the datagram after the ones before it passes a message on. -/
def Delivers (before : List Datagram) (datagram : Datagram) : Prop :=
  ∃ manager message,
    (run process init (before.map Datagram.encoded)).2 = .ok manager
    ∧ ManagerEvent.onMessage message ∈ (manager.process datagram.encoded).1

/-- The bytes of each index of the message are those of the latest datagram with one. -/
structure HoldsLatest (messageLength : ℕ) (datagrams : List Datagram) (data : Data) : Prop where
  count : data.count = messageLength
  based : data.startIndex = 0
  bytes
    : ∀ index < messageLength,
        ∃ byte, data.bytes[index]? = some byte ∧ latestByte datagrams index = some byte

/-- The table entry of the key holds the datagrams, which leave a gap. -/
structure Collects (key : UInt8) (messageLength : ℕ) (manager : MessageManager)
    (since : List Datagram)
    : Prop where
  entry
    : ∃ slot : Option Filling,
        manager.builders key = Filling.entry slot
        ∧ (slot = none → since = [])
        ∧ ∀ filling ∈ slot,
            filling.messageLength = messageLength
            ∧ filling.writes = since.map Datagram.write
  gap : coveredBy since ≠ Finset.range messageLength

variable {key : UInt8} {messageLength : UInt32}

theorem collects_nil {manager : MessageManager} (positive : 1 ≤ messageLength.toNat)
    (empty : manager.builders key = none)
    : Collects key messageLength.toNat manager [] where
  entry := ⟨none, empty, fun _ => rfl, by simp⟩
  gap := by
    intro all
    have first : 0 ∈ Finset.range messageLength.toNat := Finset.mem_range.mpr positive
    rw [← all] at first
    simp [coveredBy, covered] at first

/-- What processing a part does to an entry that holds the parts `since` the last delivery:
it delivers when they cover the message together, and is added to them otherwise.
-/
theorem process_part {manager : MessageManager} {since : List Datagram} {datagram : Datagram}
    (positive : 1 ≤ messageLength.toNat)
    (collects : Collects key messageLength.toNat manager since)
    (part : PartOf key messageLength datagram)
    : ∃ next,
        (coveredBy (since ++ [datagram]) = Finset.range messageLength.toNat
          ∧ (∃ data,
              manager.process datagram.encoded = ([.onMessage ⟨key, data⟩], .ok next)
              ∧ HoldsLatest messageLength.toNat (since ++ [datagram]) data)
          ∧ Collects key messageLength.toNat next [])
        ∨ (coveredBy (since ++ [datagram]) ≠ Finset.range messageLength.toNat
          ∧ manager.process datagram.encoded = ([], .ok next)
          ∧ Collects key messageLength.toNat next (since ++ [datagram])) := by
  obtain ⟨⟨slot, stored, empty, filled⟩, -⟩ := collects
  obtain ⟨sameKey, sameLength, nonempty, within⟩ := part
  have target
      : (Filling.target slot datagram).messageLength = messageLength.toNat
        ∧ (Filling.target slot datagram).writes = since.map Datagram.write := by
    cases slot with
    | none =>
        rw [empty rfl]
        exact ⟨congrArg UInt32.toNat sameLength, rfl⟩
    | some filling => exact filled filling rfl
  obtain ⟨lengthEq, writesEq⟩ := target
  have fits : datagram.write.stop ≤ (Filling.target slot datagram).messageLength :=
    lengthEq.symm ▸ within
  have processed := process_encoded manager nonempty (sameKey ▸ stored)
  rw [Filling.receive, dif_pos fits, sameKey] at processed
  generalize added : (Filling.target slot datagram).add datagram.write fits = filling at processed
  have count : filling.messageLength = messageLength.toNat := added ▸ lengthEq
  have writes : filling.writes = (since ++ [datagram]).map Datagram.write := by
    rw [← added, List.map_append, List.map_singleton, ← writesEq]
    rfl
  have closed
      : filling.missing = ∅
        ↔ coveredBy (since ++ [datagram]) = Finset.range messageLength.toNat := by
    rw [coveredBy, ← writes, ← count]
    exact remaining_eq_empty_iff filling.within
  by_cases complete : filling.missing = ∅
  · refine ⟨manager.setBuilder key none, Or.inl ⟨closed.mp complete, ?_,
      collects_nil positive (builders_setBuilder_self ..)⟩⟩
    refine ⟨Data.ofBytes filling.contents, ?_, ?_, rfl, ?_⟩
    · simpa [complete, Filling.entry] using processed
    · rw [Data.count_ofBytes, filling.length_contents, count]
    · intro index inside
      have found : index ∈ covered filling.writes := by
        have inMessage := Finset.mem_range.mpr inside
        rwa [← closed.mp complete, coveredBy, ← writes] at inMessage
      obtain ⟨byte, byteFound⟩ := exists_latest found
      refine ⟨byte, ?_, by rw [latestByte, ← writes, byteFound]⟩
      have read := getElem?_filled 0 filling.within (count.symm ▸ inside)
      rw [byteFound] at read
      exact read
  · refine ⟨manager.setBuilder key (some filling.builder), Or.inr ⟨fun all => complete
      (closed.mpr all), ?_, ⟨some filling, by simp [Filling.entry], by simp, ?_⟩,
      fun all => complete (closed.mpr all)⟩⟩
    · simpa [complete, Filling.entry] using processed
    · intro other same
      obtain rfl := Option.mem_some_iff.mp same
      exact ⟨count, writes⟩

-----------------------------------------------------------------------------------------
-- Runs over the parts of messages of one key and length
-----------------------------------------------------------------------------------------

/-- After any parts the entry of the key holds those since the last delivery. Witness:
induction from the right; the last part is the delivery or is added.
-/
theorem run_parts (positive : 1 ≤ messageLength.toNat) {before : List Datagram}
    (parts : ∀ part ∈ before, PartOf key messageLength part)
    : ∃ manager since,
        (run process init (before.map Datagram.encoded)).2 = .ok manager
        ∧ SinceLast Delivers before since
        ∧ Collects key messageLength.toNat manager since := by
  induction before using List.reverseRecOn with
  | nil => exact ⟨init, [], rfl, .nil, collects_nil positive rfl⟩
  | append_singleton earlier part ih =>
      obtain ⟨manager, since, reached, sinceLast, collects⟩ :=
        ih fun other member => parts other (by simp [member])
      have reachedNext
          : (run process init ((earlier ++ [part]).map Datagram.encoded)).2
            = (manager.process part.encoded).2 := by
        rw [List.map_append, List.map_singleton, run_append_ok (Prod.ext rfl reached),
          run_singleton]
      obtain ⟨next, outcome⟩ := process_part positive collects (parts part (by simp))
      rcases outcome with ⟨-, ⟨data, called, -⟩, emptied⟩ | ⟨-, called, collected⟩
      · have delivers : Delivers earlier part :=
          ⟨manager, ⟨key, data⟩, reached, by rw [called]; exact List.mem_singleton_self _⟩
        exact ⟨next, [], by rw [reachedNext, called], .append_marked delivers, emptied⟩
      · have silent : ¬ Delivers earlier part := by
          rintro ⟨other, message, otherReached, emitted⟩
          obtain rfl := Except.ok.inj (reached.symm.trans otherReached)
          rw [called] at emitted
          exact absurd emitted List.not_mem_nil
        exact ⟨next, since ++ [part], by rw [reachedNext, called],
          sinceLast.append_unmarked silent, collected⟩

/-- Every datagram is processed, and it delivers a message exactly when the datagrams since
the last delivery, which leave a gap, cover the message together with it. The message
delivered is the one of their latest bytes.
-/
def DeliversOnCoverage (key : UInt8) (messageLength : ℕ) (datagrams : List Datagram) : Prop :=
  ∀ before datagram after,
    datagrams = before ++ datagram :: after
    → (∃ since, SinceLast Delivers before since)
      ∧ ∀ since,
          SinceLast Delivers before since
          → coveredBy since ≠ Finset.range messageLength
            ∧ ∃ manager next,
                (run process init (before.map Datagram.encoded)).2 = .ok manager
                ∧ ((coveredBy (since ++ [datagram]) = Finset.range messageLength
                    ∧ ∃ data,
                        manager.process datagram.encoded = ([.onMessage ⟨key, data⟩], .ok next)
                        ∧ HoldsLatest messageLength (since ++ [datagram]) data)
                  ∨ (coveredBy (since ++ [datagram]) ≠ Finset.range messageLength
                    ∧ manager.process datagram.encoded = ([], .ok next)))

/-- Parts of messages of one key and length are delivered on coverage. -/
theorem delivers_on_coverage (positive : 1 ≤ messageLength.toNat) {datagrams : List Datagram}
    (parts : ∀ part ∈ datagrams, PartOf key messageLength part)
    : DeliversOnCoverage key messageLength.toNat datagrams := by
  rintro before datagram after rfl
  have earlier : ∀ part ∈ before, PartOf key messageLength part :=
    fun part member => parts part (by simp [member])
  obtain ⟨manager, since, reached, sinceLast, collects⟩ := run_parts positive earlier
  obtain ⟨next, outcome⟩ := process_part positive collects (parts datagram (by simp))
  refine ⟨⟨since, sinceLast⟩, ?_⟩
  intro other otherSince
  obtain rfl := otherSince.unique sinceLast
  refine ⟨collects.gap, manager, next, reached, ?_⟩
  rcases outcome with ⟨all, delivered, -⟩ | ⟨gap, silent, -⟩
  · exact Or.inl ⟨all, delivered⟩
  · exact Or.inr ⟨gap, silent⟩

/-- Three bytes of a message of two, the second one twice. -/
theorem delivers_on_coverage_overlap
    : DeliversOnCoverage 0 2
        [⟨⟨0, 1, 2⟩, Data.ofBytes [7]⟩, ⟨⟨0, 0, 2⟩, Data.ofBytes [5, 6]⟩] := by
  apply @delivers_on_coverage 0 2 (by decide)
  intro part member
  rcases List.mem_cons.mp member with rfl | second
  · exact ⟨rfl, rfl, by decide, by decide⟩
  · obtain rfl := List.mem_singleton.mp second
    exact ⟨rfl, rfl, by decide, by decide⟩

end AgriGuardian.BLE.MessageManager
