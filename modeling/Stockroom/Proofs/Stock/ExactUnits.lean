import Stockroom.Proofs.Stock.InPlace

/-!
# Operations over exact integers

What the operations on a record do to its available and reserved units, as
integers without bounds.  In any sequence of operations, one succeeds exactly
if it asks for something, where it has to, and leaves numbers that can be
stored; the record then has these very numbers.  Any other operation is
refused, first for asking for nothing, then for units that are not there, then
for units beyond the largest quantity, and leaves the record alone.
-/

namespace Stockroom

/-- The units of a product as integers. -/
@[ext]
structure Units where
  available : Int
  reserved : Int
deriving DecidableEq, Repr

/-- Both numbers can be stored. -/
structure Units.Storable (units : Units) : Prop where
  available_nonneg : 0 ≤ units.available
  available_le : units.available ≤ Quantity.maximum
  reserved_nonneg : 0 ≤ units.reserved
  reserved_le : units.reserved ≤ Quantity.maximum

def StockRecord.units (record : StockRecord) : Units :=
  ⟨record.available.value, record.reserved.value⟩

theorem StockRecord.storable_units (record : StockRecord) : record.units.Storable :=
  ⟨Int.natCast_nonneg _, Int.ofNat_le.2 record.available.value_le, Int.natCast_nonneg _,
    Int.ofNat_le.2 record.reserved.value_le⟩

namespace RecordOperation

/-! ## What an operation asks for -/

def quantity : RecordOperation → Quantity
  | increase quantity | decrease quantity | setAvailable quantity | setThreshold quantity
  | reserve quantity | release quantity | confirm quantity | adjust ⟨_, quantity⟩ => quantity

/-- Whether an operation has to ask for something. -/
def needsUnits : RecordOperation → Bool
  | setAvailable _ | setThreshold _ | adjust ⟨.set, _⟩ => false
  | increase _ | decrease _ | reserve _ | release _ | confirm _ | adjust ⟨.add, _⟩
  | adjust ⟨.subtract, _⟩ => true

/-- Whether an operation brings stock in. -/
def restocks : RecordOperation → Bool
  | increase _ | adjust ⟨.add, _⟩ => true
  | decrease _ | setAvailable _ | setThreshold _ | reserve _ | release _ | confirm _
  | adjust ⟨.subtract, _⟩ | adjust ⟨.set, _⟩ => false

/-- The resolution that an operation on reserved units is part of. -/
def action : RecordOperation → Resolution
  | confirm _ => .confirm
  | _ => .release

/-- The units after an operation, if nothing bounds them. -/
def exact (units : Units) : RecordOperation → Units
  | increase quantity | adjust ⟨.add, quantity⟩ =>
    { units with available := units.available + quantity.value }
  | decrease quantity | adjust ⟨.subtract, quantity⟩ =>
    { units with available := units.available - quantity.value }
  | setAvailable quantity | adjust ⟨.set, quantity⟩ => { units with available := quantity.value }
  | setThreshold _ => units
  | reserve quantity => ⟨units.available - quantity.value, units.reserved + quantity.value⟩
  | release quantity => ⟨units.available + quantity.value, units.reserved - quantity.value⟩
  | confirm quantity => { units with reserved := units.reserved - quantity.value }

/-- What an operation needs to succeed. -/
structure Admits (operation : RecordOperation) (units : Units) : Prop where
  asks : operation.needsUnits = true → 0 < operation.quantity.value
  storable : (operation.exact units).Storable

/-- Why an operation on a record is refused, if it is. -/
def violation? (operation : RecordOperation) (record : StockRecord) : Option Violation :=
  let after := operation.exact record.units
  if operation.needsUnits ∧ operation.quantity.value = 0 then some .nonPositiveQuantity
  else if after.available < 0 then
    some (.insufficientStock record.available operation.quantity)
  else if after.reserved < 0 then
    some (.exceedsReserved operation.action record.reserved operation.quantity)
  else if Quantity.maximum < after.available then some (.quantityOutOfRange after.available)
  else if Quantity.maximum < after.reserved then some (.quantityOutOfRange after.reserved)
  else none

/-- The threshold after an operation. -/
def threshold (record : StockRecord) : RecordOperation → Quantity
  | setThreshold threshold => threshold
  | _ => record.lowStockThreshold

/-- Every field of a record after an operation that succeeded. -/
structure Effect (operation : RecordOperation) (now : Instant) (before after : StockRecord) :
    Prop where
  units : after.units = operation.exact before.units
  lowStockThreshold : after.lowStockThreshold = operation.threshold before
  lastRestock : after.lastRestock = if operation.restocks then some now else before.lastRestock
  updatedAt : after.updatedAt = now
  id : after.id = before.id
  product : after.product = before.product
  createdAt : after.createdAt = before.createdAt

variable {operation : RecordOperation} {now : Instant} {record updated : StockRecord}
  {quantity : Quantity} {violation : Violation}

theorem violation?_eq_none_iff :
    operation.violation? record = none ↔ operation.Admits record.units := by
  simp only [violation?]
  constructor
  · intro hnone
    split_ifs at hnone with hasks havailable hreserved hmany hheld
    exact ⟨fun hneeds => Nat.pos_of_ne_zero fun hzero => hasks ⟨hneeds, hzero⟩,
      by omega, by omega, by omega, by omega⟩
  · rintro ⟨hasks, havailable, hmany, hreserved, hheld⟩
    have hpositive : ¬ (operation.needsUnits = true ∧ operation.quantity.value = 0) :=
      fun ⟨hneeds, hzero⟩ => (hasks hneeds).ne' hzero
    rw [if_neg hpositive, if_neg (by omega), if_neg (by omega), if_neg (by omega),
      if_neg (by omega)]

/-! ## What succeeds -/

theorem effect_of_increase (hok : record.increase quantity now = .ok updated) :
    0 < quantity.value ∧ (increase quantity).Effect now record updated := by
  obtain ⟨hpositive, available, havailable, rfl⟩ := StockRecord.increase_eq_ok_iff.1 hok
  exact ⟨hpositive, Units.ext (by simp only [StockRecord.units, exact]; omega) rfl, rfl, rfl, rfl,
    rfl, rfl, rfl⟩

theorem effect_of_decrease (hok : record.decrease quantity now = .ok updated) :
    0 < quantity.value ∧ (decrease quantity).Effect now record updated := by
  obtain ⟨hpositive, _, available, havailable, rfl⟩ := StockRecord.decrease_eq_ok_iff.1 hok
  exact ⟨hpositive, Units.ext (by simp only [StockRecord.units, exact]; omega) rfl, rfl, rfl, rfl,
    rfl, rfl, rfl⟩

theorem effect_of_apply (hok : operation.apply now record = .ok updated) :
    (operation.needsUnits = true → 0 < operation.quantity.value) ∧
      operation.Effect now record updated := by
  cases operation with
  | increase quantity => exact (effect_of_increase hok).imp_left fun hpositive _ => hpositive
  | decrease quantity => exact (effect_of_decrease hok).imp_left fun hpositive _ => hpositive
  | setAvailable quantity | setThreshold threshold =>
    cases hok
    exact ⟨nofun, rfl, rfl, rfl, rfl, rfl, rfl, rfl⟩
  | reserve quantity =>
    obtain ⟨hpositive, _, reserved, hreserved, available, havailable, rfl⟩ :=
      StockRecord.reserve_eq_ok_iff.1 hok
    refine ⟨fun _ => hpositive, Units.ext ?_ ?_, rfl, rfl, rfl, rfl, rfl, rfl⟩
    · simp only [StockRecord.units, exact]
      omega
    · simp only [StockRecord.units, exact]
      omega
  | release quantity =>
    obtain ⟨hpositive, _, available, havailable, reserved, hreserved, rfl⟩ :=
      StockRecord.release_eq_ok_iff.1 hok
    refine ⟨fun _ => hpositive, Units.ext ?_ ?_, rfl, rfl, rfl, rfl, rfl, rfl⟩
    · simp only [StockRecord.units, exact]
      omega
    · simp only [StockRecord.units, exact]
      omega
  | confirm quantity =>
    obtain ⟨hpositive, _, reserved, hreserved, rfl⟩ := StockRecord.confirm_eq_ok_iff.1 hok
    refine ⟨fun _ => hpositive, Units.ext rfl ?_, rfl, rfl, rfl, rfl, rfl, rfl⟩
    simp only [StockRecord.units, exact]
    omega
  | adjust adjustment =>
    obtain ⟨kind, quantity⟩ := adjustment
    cases kind with
    | add =>
      obtain ⟨hpositive, heffect⟩ := effect_of_increase hok
      exact ⟨fun _ => hpositive, { heffect with units := heffect.units }⟩
    | subtract =>
      obtain ⟨hpositive, heffect⟩ := effect_of_decrease hok
      exact ⟨fun _ => hpositive, { heffect with units := heffect.units }⟩
    | set =>
      cases hok
      exact ⟨nofun, rfl, rfl, rfl, rfl, rfl, rfl, rfl⟩

/-! ## What is refused -/

theorem violation?_of_nothing (hneeds : operation.needsUnits = true)
    (hzero : operation.quantity.value = 0) :
    operation.violation? record = some .nonPositiveQuantity :=
  if_pos ⟨hneeds, hzero⟩

theorem violation?_of_short (hasks : 0 < operation.quantity.value)
    (hshort : (operation.exact record.units).available < 0) :
    operation.violation? record =
      some (.insufficientStock record.available operation.quantity) := by
  rw [violation?, if_neg fun hnothing => hasks.ne' hnothing.2, if_pos hshort]

theorem violation?_of_exceeding (hasks : 0 < operation.quantity.value)
    (havailable : 0 ≤ (operation.exact record.units).available)
    (hshort : (operation.exact record.units).reserved < 0) :
    operation.violation? record =
      some (.exceedsReserved operation.action record.reserved operation.quantity) := by
  rw [violation?, if_neg fun hnothing => hasks.ne' hnothing.2, if_neg (Int.not_lt.2 havailable),
    if_pos hshort]

theorem violation?_of_manyAvailable (hasks : 0 < operation.quantity.value)
    (hreserved : 0 ≤ (operation.exact record.units).reserved)
    (hmany : Quantity.maximum < (operation.exact record.units).available) :
    operation.violation? record =
      some (.quantityOutOfRange (operation.exact record.units).available) := by
  rw [violation?, if_neg fun hnothing => hasks.ne' hnothing.2, if_neg (by omega),
    if_neg (Int.not_lt.2 hreserved), if_pos hmany]

theorem violation?_of_manyReserved (hasks : 0 < operation.quantity.value)
    (havailable : 0 ≤ (operation.exact record.units).available)
    (hfew : (operation.exact record.units).available ≤ Quantity.maximum)
    (hmany : Quantity.maximum < (operation.exact record.units).reserved) :
    operation.violation? record =
      some (.quantityOutOfRange (operation.exact record.units).reserved) := by
  rw [violation?, if_neg fun hnothing => hasks.ne' hnothing.2, if_neg (Int.not_lt.2 havailable),
    if_neg (by omega), if_neg (Int.not_lt.2 hfew), if_pos hmany]

/-- A check for being positive comes first. -/
theorem positive_or_nothing {rest : Unit → Except Violation StockRecord}
    (herror : (operation.quantity.ensurePositive >>= rest) = .error violation)
    (hneeds : operation.needsUnits = true) :
    operation.violation? record = some violation ∨
      0 < operation.quantity.value ∧ rest () = .error violation := by
  rcases bind_eq_error_iff.1 herror with hnothing | ⟨_, hpositive, hrest⟩
  · obtain ⟨hzero, rfl⟩ := Quantity.ensurePositive_eq_error_iff.1 hnothing
    exact .inl (violation?_of_nothing hneeds hzero)
  · exact .inr ⟨Quantity.ensurePositive_eq_ok_iff.1 hpositive, hrest⟩

theorem violation?_of_increase (herror : record.increase quantity now = .error violation) :
    (increase quantity).violation? record = some violation := by
  refine (positive_or_nothing herror rfl).elim id fun ⟨hasks, herror⟩ => ?_
  rcases bind_eq_error_iff.1 herror with hadd | ⟨_, _, hdone⟩
  · obtain ⟨hlarge, rfl⟩ := Quantity.add_error hadd
    exact violation?_of_manyAvailable hasks (Int.natCast_nonneg _) (Int.ofNat_lt.2 hlarge)
  · cases hdone

theorem violation?_of_decrease (herror : record.decrease quantity now = .error violation) :
    (decrease quantity).violation? record = some violation := by
  refine (positive_or_nothing herror rfl).elim id fun ⟨hasks, herror⟩ => ?_
  rcases bind_eq_error_iff.1 herror with havailable | ⟨_, henough, herror⟩
  · obtain ⟨hshort, rfl⟩ := StockRecord.ensureAvailable_eq_error_iff.1 havailable
    exact violation?_of_short hasks (Int.sub_neg_of_lt (Int.ofNat_lt.2 hshort))
  · obtain ⟨available, hsub⟩ :=
      Quantity.sub_of_le (StockRecord.ensureAvailable_eq_ok_iff.1 henough)
    rw [hsub] at herror
    cases herror

theorem violation?_of_reserve (herror : record.reserve quantity now = .error violation) :
    (reserve quantity).violation? record = some violation := by
  refine (positive_or_nothing herror rfl).elim id fun ⟨hasks, herror⟩ => ?_
  rcases bind_eq_error_iff.1 herror with havailable | ⟨_, henough, herror⟩
  · obtain ⟨hshort, rfl⟩ := StockRecord.ensureAvailable_eq_error_iff.1 havailable
    exact violation?_of_short hasks (Int.sub_neg_of_lt (Int.ofNat_lt.2 hshort))
  have henough := Int.ofNat_le.2 (StockRecord.ensureAvailable_eq_ok_iff.1 henough)
  rcases bind_eq_error_iff.1 herror with hadd | ⟨reserved, _, herror⟩
  · obtain ⟨hlarge, rfl⟩ := Quantity.add_error hadd
    have hfew : (record.available.value : Int) - quantity.value ≤ Quantity.maximum :=
      (Int.sub_le_self _ (Int.natCast_nonneg _)).trans record.storable_units.available_le
    exact violation?_of_manyReserved hasks (Int.sub_nonneg_of_le henough) hfew
      (Int.ofNat_lt.2 hlarge)
  · obtain ⟨available, hsub⟩ := Quantity.sub_of_le (Int.ofNat_le.1 henough)
    rw [hsub] at herror
    cases herror

theorem violation?_of_release (herror : record.release quantity now = .error violation) :
    (release quantity).violation? record = some violation := by
  refine (positive_or_nothing herror rfl).elim id fun ⟨hasks, herror⟩ => ?_
  rcases bind_eq_error_iff.1 herror with hreserved | ⟨_, henough, herror⟩
  · obtain ⟨hshort, rfl⟩ := StockRecord.ensureReserved_eq_error_iff.1 hreserved
    exact violation?_of_exceeding hasks (Int.natCast_nonneg _)
      (Int.sub_neg_of_lt (Int.ofNat_lt.2 hshort))
  have henough := Int.ofNat_le.2 (StockRecord.ensureReserved_eq_ok_iff.1 henough)
  rcases bind_eq_error_iff.1 herror with hadd | ⟨available, _, herror⟩
  · obtain ⟨hlarge, rfl⟩ := Quantity.add_error hadd
    exact violation?_of_manyAvailable hasks (Int.sub_nonneg_of_le henough) (Int.ofNat_lt.2 hlarge)
  · obtain ⟨reserved, hsub⟩ := Quantity.sub_of_le (Int.ofNat_le.1 henough)
    rw [hsub] at herror
    cases herror

theorem violation?_of_confirm (herror : record.confirm quantity now = .error violation) :
    (confirm quantity).violation? record = some violation := by
  refine (positive_or_nothing herror rfl).elim id fun ⟨hasks, herror⟩ => ?_
  rcases bind_eq_error_iff.1 herror with hreserved | ⟨_, henough, herror⟩
  · obtain ⟨hshort, rfl⟩ := StockRecord.ensureReserved_eq_error_iff.1 hreserved
    exact violation?_of_exceeding hasks (Int.natCast_nonneg _)
      (Int.sub_neg_of_lt (Int.ofNat_lt.2 hshort))
  · obtain ⟨reserved, hsub⟩ := Quantity.sub_of_le (StockRecord.ensureReserved_eq_ok_iff.1 henough)
    rw [hsub] at herror
    cases herror

theorem violation?_of_apply (herror : operation.apply now record = .error violation) :
    operation.violation? record = some violation := by
  cases operation with
  | increase quantity => exact violation?_of_increase herror
  | decrease quantity => exact violation?_of_decrease herror
  | setAvailable quantity | setThreshold threshold => cases herror
  | reserve quantity => exact violation?_of_reserve herror
  | release quantity => exact violation?_of_release herror
  | confirm quantity => exact violation?_of_confirm herror
  | adjust adjustment =>
    obtain ⟨kind, quantity⟩ := adjustment
    cases kind with
    | add => exact violation?_of_increase herror
    | subtract => exact violation?_of_decrease herror
    | set => cases herror

/-! ## One operation after another -/

instance (operation : RecordOperation) (units : Units) : Decidable (operation.Admits units) :=
  let after := operation.exact units
  decidable_of_iff
    ((operation.needsUnits = true → 0 < operation.quantity.value) ∧
      0 ≤ after.available ∧ after.available ≤ Quantity.maximum ∧
        0 ≤ after.reserved ∧ after.reserved ≤ Quantity.maximum)
    ⟨fun ⟨hasks, havailable, hmany, hreserved, hheld⟩ =>
        ⟨hasks, havailable, hmany, hreserved, hheld⟩,
      fun ⟨hasks, havailable, hmany, hreserved, hheld⟩ =>
        ⟨hasks, havailable, hmany, hreserved, hheld⟩⟩

/-- The exact units after an operation that may be refused. -/
def settle (units : Units) (operation : RecordOperation) : Units :=
  if operation.Admits units then operation.exact units else units

/-- How an operation ends and what it leaves of a record, told by exact integers. -/
structure Comes (operation : RecordOperation) (now : Instant) (before : StockRecord)
    (result : Except Violation Unit) (after : StockRecord) : Prop where
  whole : (result, after) = InPlace.allOrNothing before (operation.apply now before)
  succeeds : result = .ok () ↔ operation.Admits before.units
  effect : result = .ok () → operation.Effect now before after
  refused : ∀ violation, result = .error violation →
    operation.violation? before = some violation ∧ after = before

theorem comes_inPlace (operation : RecordOperation) (now : Instant) (record : StockRecord) :
    operation.Comes now record ((operation.inPlace now).on record).1
      ((operation.inPlace now).on record).2 := by
  rw [operation.on_inPlace]
  cases happly : operation.apply now record with
  | ok updated =>
    obtain ⟨hasks, heffect⟩ := effect_of_apply happly
    have hadmits : operation.Admits record.units :=
      ⟨hasks, heffect.units ▸ updated.storable_units⟩
    exact ⟨by rw [happly], iff_of_true rfl hadmits, fun _ => heffect, nofun⟩
  | error violation =>
    have hviolation := violation?_of_apply happly
    have hrefuses : ¬ operation.Admits record.units := fun hadmits => by
      rw [violation?_eq_none_iff.2 hadmits] at hviolation
      cases hviolation
    refine ⟨by rw [happly], iff_of_false nofun hrefuses, nofun, ?_⟩
    rintro _ ⟨⟩
    exact ⟨hviolation, rfl⟩

theorem Comes.units {before after : StockRecord} {result : Except Violation Unit}
    (hcomes : operation.Comes now before result after) :
    after.units = settle before.units operation := by
  rw [settle]
  cases result with
  | ok _ => rw [if_pos (hcomes.succeeds.1 rfl), (hcomes.effect rfl).units]
  | error violation =>
    have hrefuses : ¬ operation.Admits before.units := fun hadmits =>
      nomatch hcomes.succeeds.2 hadmits
    rw [if_neg hrefuses, (hcomes.refused violation rfl).2]

/-- Operations at their times, how they end one after another, and what they leave. -/
inductive Play : List (RecordOperation × Instant) → StockRecord → List (Except Violation Unit) →
    StockRecord → Prop
  | nil (record : StockRecord) : Play [] record [] record
  | cons {operation : RecordOperation} {now : Instant} {rest : List (RecordOperation × Instant)}
    {before middle after : StockRecord} {result : Except Violation Unit}
    {results : List (Except Violation Unit)} (hfirst : operation.Comes now before result middle)
    (hrest : Play rest middle results after) :
    Play ((operation, now) :: rest) before (result :: results) after

theorem Play.units {operations : List (RecordOperation × Instant)} {before after : StockRecord}
    {results : List (Except Violation Unit)} (hplay : Play operations before results after) :
    after.units = (operations.map Prod.fst).foldl settle before.units := by
  induction hplay with
  | nil record => rfl
  | cons hfirst _ ih => rw [ih, hfirst.units, List.map_cons, List.foldl_cons]

end RecordOperation

/-- Does operations one after another, and says how each of them ended. -/
def InPlace.onAll : List (RecordOperation × Instant) → StockRecord →
    List (Except Violation Unit) × StockRecord
  | [], record => ([], record)
  | (operation, now) :: rest, record =>
    let (result, next) := (operation.inPlace now).on record
    let (results, last) := onAll rest next
    (result :: results, last)

open RecordOperation in
/-- A record under any operations does as exact integers do, all or nothing at every step. -/
theorem StockRecord.onAll_refines_units (record : StockRecord)
    (operations : List (RecordOperation × Instant)) :
    let played := InPlace.onAll operations record
    Play operations record played.1 played.2 ∧
      played.2.units = (operations.map Prod.fst).foldl settle record.units := by
  have hplay : Play operations record (InPlace.onAll operations record).1
      (InPlace.onAll operations record).2 := by
    induction operations generalizing record with
    | nil => exact .nil record
    | cons first rest ih => exact .cons (comes_inPlace first.1 first.2 record) (ih _)
  exact ⟨hplay, hplay.units⟩

end Stockroom
