import Stockroom.Proofs.Concurrency.Linearization
import Stockroom.Proofs.Concurrency.Units

/-!
# Linearizability of the store in memory

However the segments of concurrent calls are interleaved, the calls have the
answers and the effects that they have one after another, in an order that
keeps every call that had returned before another began ahead of it.
-/

namespace Stockroom

open RowCall (after answerIn)

variable {count : Nat} (calls : Fin count → RowCall) (store : MemoryStore)

namespace Processes

/-- A process has returned before another has taken its first step. -/
def FinishedBefore (schedule : List (Fin count)) (first second : Fin count) : Prop :=
  ∃ early late, schedule = early ++ late ∧
    (((start calls store).run early).phase first).answer?.isSome ∧
    ((start calls store).run early).phase second = .idle

theorem run_append (system : Processes calls) (schedule : List (Fin count)) (last : Fin count) :
    system.run (schedule ++ [last]) = (system.run schedule).step last :=
  List.foldl_append

end Processes

namespace Linearized

open Processes (FinishedBefore)

variable {calls store} {system : Processes calls} {order : List (Fin count)}

theorem start (calls : Fin count → RowCall) (store : MemoryStore) :
    Linearized calls store (Processes.start calls store) [] where
  nodup := List.nodup_nil
  shows := SharedRows.shows_ofStore store
  sound := SharedRows.sound_ofStore store
  apart _ _ _ := .empty _
  settled _ hmem := (List.not_mem_nil hmem).elim
  pending _ _ := .idle

theorem mem_of_returned (hlinearized : Linearized calls store system order) {process : Fin count}
    (hreturned : (system.phase process).answer?.isSome) : process ∈ order := by
  by_contra hmem
  have hpending := hlinearized.pending process hmem
  generalize system.phase process = phase at hreturned hpending
  cases hpending <;> cases hreturned

theorem not_mem_of_idle (hlinearized : Linearized calls store system order) {process : Fin count}
    (hidle : system.phase process = .idle) : process ∉ order := by
  intro hmem
  have hsettled := hlinearized.settled process hmem
  rw [hidle] at hsettled
  cases hsettled

/-- Every run has an order, and it keeps to what was finished before what else began. -/
theorem exists_order (hkeyed : store.Keyed) (hfresh : RowCall.FreshIds calls store)
    (schedule : List (Fin count)) :
    ∃ order, Linearized calls store ((Processes.start calls store).run schedule) order ∧
      ∀ first second, FinishedBefore calls store schedule first second →
        first ∈ order ∧ (second ∈ order → order.idxOf first < order.idxOf second) := by
  induction schedule using List.reverseRecOn with
  | nil =>
    refine ⟨[], start calls store, fun first second hfinished => ?_⟩
    obtain ⟨early, late, hsplit, hreturned, _⟩ := hfinished
    obtain ⟨rfl, rfl⟩ := List.append_eq_nil_iff.1 hsplit.symm
    cases hreturned
  | append_singleton schedule last ih =>
    obtain ⟨order, hlinearized, hearlier⟩ := ih
    obtain ⟨more, hnext⟩ := hlinearized.step hkeyed hfresh last
    rw [← Processes.run_append] at hnext
    refine ⟨order ++ more, hnext, fun first second hfinished => ?_⟩
    obtain ⟨early, late, hsplit, hreturned, hidle⟩ := hfinished
    rcases List.eq_nil_or_concat late with rfl | ⟨rest, final, rfl⟩
    · -- The step that was just taken is the one that finished the first process.
      rw [List.append_nil] at hsplit
      subst hsplit
      exact ⟨hnext.mem_of_returned hreturned, fun hmem => absurd hmem (hnext.not_mem_of_idle hidle)⟩
    · rw [List.concat_eq_append, ← List.append_assoc] at hsplit
      obtain ⟨hschedule, _⟩ := List.append_inj' hsplit rfl
      obtain ⟨hfirst, hbefore⟩ := hearlier first second ⟨early, rest, hschedule, hreturned, hidle⟩
      refine ⟨List.mem_append_left _ hfirst, fun _ => ?_⟩
      rw [List.idxOf_append_of_mem hfirst]
      by_cases hsecond : second ∈ order
      · rw [List.idxOf_append_of_mem hsecond]
        exact hbefore hsecond
      · rw [List.idxOf_append_of_notMem hsecond]
        exact (List.idxOf_lt_length_of_mem hfirst).trans_le (Nat.le_add_right _ _)

end Linearized

namespace Processes

end Processes

end Stockroom
