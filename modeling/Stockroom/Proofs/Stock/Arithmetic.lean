import Mathlib
import Stockroom.StockRecord

/-!
# Exact arithmetic on records

When a checked operation on quantities or records succeeds, and with which
numbers.  Every lemma is an equivalence, so what an operation does can be read
off without opening it.
-/

namespace Stockroom

theorem ok_bind {ε α β : Type} (value : α) (next : α → Except ε β) :
    (Except.ok value >>= next) = next value := rfl

theorem error_bind {ε α β : Type} (error : ε) (next : α → Except ε β) :
    (Except.error error >>= next) = .error error := rfl

theorem mapError_ok {ε ε' α : Type} (convert : ε → ε') (value : α) :
    (Except.ok value).mapError convert = .ok value := rfl

theorem mapError_error {ε ε' α : Type} (convert : ε → ε') (error : ε) :
    (Except.error error : Except ε α).mapError convert = .error (convert error) := rfl

theorem bind_eq_ok_iff {ε α β : Type} {first : Except ε α} {next : α → Except ε β} {result : β} :
    (first >>= next) = .ok result ↔ ∃ value, first = .ok value ∧ next value = .ok result := by
  cases first with
  | error error => simp [error_bind]
  | ok value => simp [ok_bind]

theorem bind_eq_error_iff {ε α β : Type} {first : Except ε α} {next : α → Except ε β} {error : ε} :
    (first >>= next) = .error error ↔
      first = .error error ∨ ∃ value, first = .ok value ∧ next value = .error error := by
  cases first with
  | error cause => simp [error_bind]
  | ok value => simp [ok_bind]

theorem mapError_eq_ok_iff {ε ε' α : Type} {convert : ε → ε'} {result : Except ε α} {value : α} :
    result.mapError convert = .ok value ↔ result = .ok value := by
  cases result <;> simp [mapError_ok, mapError_error]

theorem mapError_eq_error_iff {ε ε' α : Type} {convert : ε → ε'} {result : Except ε α}
    {error : ε'} : result.mapError convert = .error error ↔
      ∃ cause, result = .error cause ∧ convert cause = error := by
  cases result <;> simp [mapError_ok, mapError_error]

theorem toOption_eq_some_iff {ε α : Type} {result : Except ε α} {value : α} :
    result.toOption = some value ↔ result = .ok value := by
  cases result <;> simp [Except.toOption]

theorem mapM_eq_ok_iff {ε α β : Type} {read : α → Except ε β} {list : List α} {results : List β} :
    list.mapM read = .ok results ↔
      List.Forall₂ (fun value result => read value = .ok result) list results := by
  induction list generalizing results with
  | nil => simp [pure, Except.pure, eq_comm]
  | cons first rest ih =>
    simp only [List.mapM_cons, bind_eq_ok_iff, ih, List.forall₂_cons_left_iff]
    constructor
    · rintro ⟨result, hfirst, others, hrest, hresults⟩
      cases hresults
      exact ⟨result, others, hfirst, hrest, rfl⟩
    · rintro ⟨result, others, hfirst, hrest, rfl⟩
      exact ⟨result, hfirst, others, hrest, rfl⟩

theorem exists_mapM {ε α β : Type} {read : α → Except ε β} {list : List α}
    (hread : ∀ value ∈ list, ∃ result, read value = .ok result) :
    ∃ results, list.mapM read = .ok results := by
  induction list with
  | nil => exact ⟨[], rfl⟩
  | cons first rest ih =>
    obtain ⟨⟨result, hfirst⟩, hrest⟩ := List.forall_mem_cons.1 hread
    obtain ⟨results, hresults⟩ := ih hrest
    rw [List.mapM_cons, hfirst, ok_bind, hresults]
    exact ⟨result :: results, rfl⟩

/-- A list that cannot be read has a value that cannot be. -/
theorem exists_of_mapM_error {ε α β : Type} {read : α → Except ε β} {list : List α} {error : ε}
    (herror : list.mapM read = .error error) : ∃ value ∈ list, read value = .error error := by
  induction list with
  | nil => cases herror
  | cons first rest ih =>
    rw [List.mapM_cons] at herror
    rcases bind_eq_error_iff.1 herror with hfirst | ⟨_, _, herror⟩
    · exact ⟨first, List.mem_cons_self, hfirst⟩
    rcases bind_eq_error_iff.1 herror with hrest | ⟨_, _, hdone⟩
    · obtain ⟨value, hmem, hvalue⟩ := ih hrest
      exact ⟨value, List.mem_cons_of_mem first hmem, hvalue⟩
    · cases hdone

/-- A list is not read beyond the first value that cannot be. -/
theorem mapM_of_first_error {ε α β : Type} {read : α → Except ε β} {before after : List α}
    {value : α} {error : ε} (hbefore : ∀ earlier ∈ before, ∃ result, read earlier = .ok result)
    (herror : read value = .error error) : (before ++ value :: after).mapM read = .error error := by
  induction before with
  | nil => rw [List.nil_append, List.mapM_cons, herror, error_bind]
  | cons first rest ih =>
    obtain ⟨⟨result, hfirst⟩, hrest⟩ := List.forall_mem_cons.1 hbefore
    rw [List.cons_append, List.mapM_cons, hfirst, ok_bind, ih hrest, error_bind]

namespace Quantity

theorem ofInt_eq_ok_iff {value : Int} {quantity : Quantity} :
    ofInt value = .ok quantity ↔ value = quantity.value := by
  constructor
  · intro hok
    simp only [ofInt] at hok
    split at hok
    · cases hok
    · split at hok
      · cases hok
        simp only
        omega
      · cases hok
  · rintro rfl
    exact ofInt_value quantity

theorem ensurePositive_eq_ok_iff {quantity : Quantity} {done : Unit} :
    quantity.ensurePositive = .ok done ↔ 0 < quantity.value := by
  simp only [ensurePositive, isZero, beq_iff_eq]
  split
  · simp [*]
  · simp only [true_iff]
    omega

theorem ensurePositive_of_pos {quantity : Quantity} (hpositive : 0 < quantity.value) :
    quantity.ensurePositive = .ok () :=
  ensurePositive_eq_ok_iff.2 hpositive

theorem ensurePositive_of_zero {quantity : Quantity} (hzero : quantity.value = 0) :
    quantity.ensurePositive = .error .nonPositiveQuantity :=
  if_pos (beq_iff_eq.2 hzero)

theorem ensurePositive_eq_error_iff {quantity : Quantity} {violation : Violation} :
    quantity.ensurePositive = .error violation ↔
      quantity.value = 0 ∧ violation = .nonPositiveQuantity := by
  rcases Nat.eq_zero_or_pos quantity.value with hzero | hpositive
  · simp [ensurePositive_of_zero hzero, hzero, eq_comm]
  · simp [ensurePositive_of_pos hpositive, hpositive.ne']

theorem positive_eq_ok_iff {value : Int} {quantity : Quantity} :
    positive value = .ok quantity ↔ value = quantity.value ∧ 0 < quantity.value := by
  constructor
  · intro hok
    obtain ⟨read, hread, hrest⟩ := bind_eq_ok_iff.1 hok
    obtain ⟨_, hpositive, hsame⟩ := bind_eq_ok_iff.1 hrest
    cases hsame
    exact ⟨ofInt_eq_ok_iff.1 hread, ensurePositive_eq_ok_iff.1 hpositive⟩
  · rintro ⟨rfl, hpositive⟩
    rw [positive, ofInt_value, ok_bind, ensurePositive_of_pos hpositive, ok_bind]
    rfl

theorem add_eq_ok_iff {left right sum : Quantity} :
    left.add right = .ok sum ↔ sum.value = left.value + right.value := by
  rw [add, ofInt_eq_ok_iff]
  omega

theorem sub_eq_ok_iff {left right difference : Quantity} :
    left.sub right = .ok difference ↔ difference.value + right.value = left.value := by
  rw [sub, ofInt_eq_ok_iff]
  omega

theorem zero_lt_iff {quantity : Quantity} : zero < quantity ↔ 0 < quantity.value := Iff.rfl

/-- Units that are there can be taken away. -/
theorem sub_of_le {left right : Quantity} (hle : right.value ≤ left.value) :
    ∃ difference, left.sub right = .ok difference := by
  have hbound := left.value_le
  exact ⟨⟨left.value - right.value, by omega⟩, sub_eq_ok_iff.2 (Nat.sub_add_cancel hle)⟩

/-- A sum of quantities only fails to be one if it is too large. -/
theorem add_error {left right : Quantity} {violation : Violation}
    (herror : left.add right = .error violation) :
    maximum < left.value + right.value ∧
      violation = .quantityOutOfRange (left.value + right.value) := by
  have hnonneg : ¬ (left.value : Int) + right.value < 0 := by omega
  rw [add, ofInt, if_neg hnonneg] at herror
  split at herror
  · cases herror
  · rename_i hlarge
    cases herror
    rw [maximum]
    exact ⟨by omega, rfl⟩

end Quantity

namespace StockRecord

theorem canFulfil_iff {record : StockRecord} {requested : Quantity} :
    record.canFulfil requested = true ↔ requested.value ≤ record.available.value := by
  simp [canFulfil, Quantity.le_def]

theorem ensureAvailable_eq_ok_iff {record : StockRecord} {requested : Quantity} {done : Unit} :
    record.ensureAvailable requested = .ok done ↔
      requested.value ≤ record.available.value := by
  rw [ensureAvailable, ← canFulfil_iff]
  cases record.canFulfil requested <;> simp

theorem ensureAvailable_eq_error_iff {record : StockRecord} {requested : Quantity}
    {violation : Violation} :
    record.ensureAvailable requested = .error violation ↔
      record.available.value < requested.value ∧
        violation = .insufficientStock record.available requested := by
  rw [ensureAvailable, ← Nat.not_le, ← canFulfil_iff]
  cases record.canFulfil requested <;> simp [eq_comm]

theorem ensureReserved_eq_ok_iff {record : StockRecord} {action : Resolution}
    {requested : Quantity} {done : Unit} :
    record.ensureReserved action requested = .ok done ↔
      requested.value ≤ record.reserved.value := by
  simp only [ensureReserved, Quantity.lt_def]
  split
  · simpa using ‹_›
  · simp only [true_iff]
    omega

theorem ensureReserved_eq_error_iff {record : StockRecord} {action : Resolution}
    {requested : Quantity} {violation : Violation} :
    record.ensureReserved action requested = .error violation ↔
      record.reserved.value < requested.value ∧
        violation = .exceedsReserved action record.reserved requested := by
  simp only [ensureReserved, Quantity.lt_def]
  split <;> simp [*, eq_comm]

theorem increase_eq_ok_iff {record updated : StockRecord} {quantity : Quantity} {now : Instant} :
    record.increase quantity now = .ok updated ↔
      0 < quantity.value ∧ ∃ available : Quantity,
        available.value = record.available.value + quantity.value ∧
        { record with available := available, lastRestock := some now, updatedAt := now } =
          updated := by
  simp [increase, bind_eq_ok_iff, Quantity.ensurePositive_eq_ok_iff, Quantity.add_eq_ok_iff,
    pure, Except.pure]

theorem decrease_eq_ok_iff {record updated : StockRecord} {quantity : Quantity} {now : Instant} :
    record.decrease quantity now = .ok updated ↔
      0 < quantity.value ∧ quantity.value ≤ record.available.value ∧ ∃ available : Quantity,
        available.value + quantity.value = record.available.value ∧
        { record with available := available, updatedAt := now } = updated := by
  simp [decrease, bind_eq_ok_iff, Quantity.ensurePositive_eq_ok_iff, Quantity.sub_eq_ok_iff,
    ensureAvailable_eq_ok_iff, pure, Except.pure]

theorem reserve_eq_ok_iff {record updated : StockRecord} {quantity : Quantity} {now : Instant} :
    record.reserve quantity now = .ok updated ↔
      0 < quantity.value ∧ quantity.value ≤ record.available.value ∧
        ∃ reserved : Quantity, reserved.value = record.reserved.value + quantity.value ∧
        ∃ available : Quantity, available.value + quantity.value = record.available.value ∧
        { record with available := available, reserved := reserved, updatedAt := now } =
          updated := by
  simp [reserve, bind_eq_ok_iff, Quantity.ensurePositive_eq_ok_iff, Quantity.sub_eq_ok_iff,
    Quantity.add_eq_ok_iff, ensureAvailable_eq_ok_iff, pure, Except.pure]

theorem release_eq_ok_iff {record updated : StockRecord} {quantity : Quantity} {now : Instant} :
    record.release quantity now = .ok updated ↔
      0 < quantity.value ∧ quantity.value ≤ record.reserved.value ∧
        ∃ available : Quantity, available.value = record.available.value + quantity.value ∧
        ∃ reserved : Quantity, reserved.value + quantity.value = record.reserved.value ∧
        { record with available := available, reserved := reserved, updatedAt := now } =
          updated := by
  simp [release, bind_eq_ok_iff, Quantity.ensurePositive_eq_ok_iff, Quantity.sub_eq_ok_iff,
    Quantity.add_eq_ok_iff, ensureReserved_eq_ok_iff, pure, Except.pure]

theorem confirm_eq_ok_iff {record updated : StockRecord} {quantity : Quantity} {now : Instant} :
    record.confirm quantity now = .ok updated ↔
      0 < quantity.value ∧ quantity.value ≤ record.reserved.value ∧
        ∃ reserved : Quantity, reserved.value + quantity.value = record.reserved.value ∧
        { record with reserved := reserved, updatedAt := now } = updated := by
  simp [confirm, bind_eq_ok_iff, Quantity.ensurePositive_eq_ok_iff, Quantity.sub_eq_ok_iff,
    ensureReserved_eq_ok_iff, pure, Except.pure]

theorem keeps_of_adjust {record updated : StockRecord} {adjustment : Adjustment} {now : Instant}
    (hadjust : record.adjust adjustment now = .ok updated) :
    updated.product = record.product ∧ updated.reserved = record.reserved := by
  rw [adjust] at hadjust
  split at hadjust
  · obtain ⟨_, _, _, rfl⟩ := increase_eq_ok_iff.1 hadjust
    exact ⟨rfl, rfl⟩
  · obtain ⟨_, _, _, _, rfl⟩ := decrease_eq_ok_iff.1 hadjust
    exact ⟨rfl, rfl⟩
  · cases hadjust
    exact ⟨rfl, rfl⟩

end StockRecord

end Stockroom
