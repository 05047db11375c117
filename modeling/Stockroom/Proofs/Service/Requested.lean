import Stockroom.Proofs.Service.Effects
import Stockroom.Proofs.Stock.Lines

/-!
# Requested lines

A line of an order or of a stock check names a product in words and a number
of units as an integer.  It breaks no rule exactly if it is how some line of a
reservation is written, and lines are read one after another.
-/

namespace Stockroom

/-- The rule that a line breaks first, if it breaks one. -/
def RequestedLine.violation? (line : RequestedLine) : Option Violation :=
  if Text.isBlank line.product then some .emptyProductId
  else if line.quantity < 0 then some (.negativeQuantity line.quantity)
  else if line.quantity = 0 then some .nonPositiveQuantity
  else if ↑Quantity.maximum < line.quantity then some (.quantityOutOfRange line.quantity)
  else none

/-- The line as an order writes it. -/
def ReservationLine.written (line : ReservationLine) : RequestedLine :=
  ⟨line.product.text, line.quantity.value⟩

namespace Service

/-- Written lines that break no rule, and what they ask for. -/
structure Requests (requested : List RequestedLine) (lines : List ReservationLine) : Prop where
  written : lines.map ReservationLine.written = requested
  positive : ∀ line ∈ lines, 0 < line.quantity.value

theorem blamesRequest_of_violation {line : RequestedLine} {violation : Violation}
    (hline : line.violation? = some violation) : violation.blamesRequest = true := by
  rw [RequestedLine.violation?] at hline
  split_ifs at hline <;> cases hline <;> rfl

theorem reservationLine_eq_ok_iff {line : RequestedLine} {read : ReservationLine} :
    reservationLine line = .ok read ↔ read.written = line ∧ 0 < read.quantity.value := by
  simp only [reservationLine, bind_eq_ok_iff, ProductId.ofText_eq_ok_iff,
    Quantity.positive_eq_ok_iff]
  constructor
  · rintro ⟨product, hproduct, quantity, ⟨hquantity, hpositive⟩, hread⟩
    cases hread
    refine ⟨?_, hpositive⟩
    rw [ReservationLine.written, hproduct, ← hquantity]
  · rintro ⟨rfl, hpositive⟩
    exact ⟨read.product, rfl, read.quantity, ⟨rfl, hpositive⟩, rfl⟩

theorem reservationLine_of_violation {line : RequestedLine} {violation : Violation}
    (hline : line.violation? = some violation) : reservationLine line = .error violation := by
  have hproduct (hnamed : ¬ Text.isBlank line.product = true) :
      ProductId.ofText line.product = .ok ⟨line.product, Bool.eq_false_iff.2 hnamed⟩ :=
    ProductId.ofText_eq_ok_iff.2 rfl
  rw [RequestedLine.violation?] at hline
  split_ifs at hline with hblank hnegative hzero hlarge <;> cases hline
  · rw [reservationLine, ProductId.ofText, dif_neg (by simp [hblank]), error_bind]
  · rw [reservationLine, hproduct hblank, ok_bind, Quantity.positive, Quantity.ofInt,
      if_pos hnegative, error_bind, error_bind]
  · rw [reservationLine, hproduct hblank, ok_bind, hzero]
    rfl
  · have hexceeds : ¬ line.quantity.toNat ≤ 2147483647 := by
      rw [Quantity.maximum] at hlarge
      omega
    rw [reservationLine, hproduct hblank, ok_bind, Quantity.positive, Quantity.ofInt,
      if_neg hnegative, dif_neg hexceeds, error_bind, error_bind]

theorem exists_reservationLine {line : RequestedLine} (hline : line.violation? = none) :
    ∃ read, reservationLine line = .ok read := by
  simp only [reservationLine_eq_ok_iff, ReservationLine.written]
  rw [RequestedLine.violation?] at hline
  split_ifs at hline with hblank hnegative hzero hlarge
  rw [Quantity.maximum] at hlarge
  refine ⟨⟨⟨line.product, Bool.eq_false_iff.2 hblank⟩, ⟨line.quantity.toNat, by omega⟩⟩, ?_,
    by simp only; omega⟩
  simp only [Int.toNat_of_nonneg (Int.not_lt.1 hnegative)]

theorem mapM_reservationLine_iff {requested : List RequestedLine} {lines : List ReservationLine} :
    requested.mapM reservationLine = .ok lines ↔ Requests requested lines := by
  rw [mapM_eq_ok_iff]
  simp only [reservationLine_eq_ok_iff]
  constructor
  · intro hread
    induction hread with
    | nil => exact ⟨rfl, by simp⟩
    | cons hfirst _ ih =>
      exact ⟨congrArg₂ List.cons hfirst.1 ih.written,
        List.forall_mem_cons.2 ⟨hfirst.2, ih.positive⟩⟩
  · rintro ⟨rfl, hpositive⟩
    rw [List.forall₂_map_left_iff, List.forall₂_same]
    exact fun line hline => ⟨rfl, hpositive line hline⟩

theorem exists_requests {requested : List RequestedLine}
    (hvalid : ∀ line ∈ requested, line.violation? = none) : ∃ lines, Requests requested lines := by
  simp only [← mapM_reservationLine_iff]
  apply exists_mapM
  exact fun line hline => exists_reservationLine (hvalid line hline)

/-! ## Lines of stock checks -/

end Service

/-- What a line asks for, one unit unless it says otherwise. -/
def CheckLine.asked (line : CheckLine) : RequestedLine :=
  ⟨line.product, line.quantity.getD 1⟩

namespace Service

theorem checkLine_eq (line : CheckLine) :
    checkLine line =
      (reservationLine line.asked).map fun read => (read.product, read.quantity) := by
  have hrequested : requestedQuantity line.quantity = Quantity.positive (line.quantity.getD 1) := by
    cases line.quantity with
    | none => rfl
    | some value => rfl
  rw [checkLine, hrequested, reservationLine, CheckLine.asked]
  cases ProductId.ofText line.product with
  | error violation => rfl
  | ok product => cases Quantity.positive (line.quantity.getD 1) <;> rfl

theorem exists_checkLine {line : CheckLine} (hline : line.asked.violation? = none) :
    ∃ asked, checkLine line = .ok asked := by
  obtain ⟨read, hread⟩ := exists_reservationLine hline
  rw [checkLine_eq, hread]
  exact ⟨_, rfl⟩

theorem checkLine_of_violation {line : CheckLine} {violation : Violation}
    (hline : line.asked.violation? = some violation) : checkLine line = .error violation := by
  rw [checkLine_eq, reservationLine_of_violation hline]
  rfl

theorem eq_of_checkLine {line : CheckLine} {asked : ProductId × Quantity}
    (hok : checkLine line = .ok asked) :
    asked.1.text = line.product ∧ (asked.2.value : Int) = line.quantity.getD 1 := by
  rw [checkLine_eq] at hok
  cases hread : reservationLine line.asked with
  | error violation =>
    rw [hread] at hok
    cases hok
  | ok read =>
    rw [hread] at hok
    cases hok
    have hwritten := (reservationLine_eq_ok_iff.1 hread).1
    exact ⟨congrArg RequestedLine.product hwritten, congrArg RequestedLine.quantity hwritten⟩

end Service

end Stockroom
