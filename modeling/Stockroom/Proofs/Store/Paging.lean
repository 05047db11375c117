import Stockroom.Proofs.Listing
import Stockroom.Proofs.Store.Effects

/-!
# The low stock listing and its pages

The listing has every record that is low on stock once, by ascending units and
then by ascending product.  Its pages are consecutive pieces of it, so reading
them one after another up to the first empty one gives the whole listing.
-/

namespace Stockroom

/-- A record that a threshold finds low on stock, or its own threshold if none is given. -/
def StockRecord.IsLow (record : StockRecord) : Option Quantity → Prop
  | some threshold =>
    0 < record.available.value ∧ record.available.value ≤ threshold.value
  | none => record.hasLowStock = true

/-- The strict order by units and then by product. -/
def StockRecord.ListedBefore (earlier later : StockRecord) : Prop :=
  earlier.available.value < later.available.value ∨
    (earlier.available.value = later.available.value ∧ earlier.product < later.product)

namespace MemoryStore

theorem isListed_iff {threshold : Option Quantity} {record : StockRecord} :
    isListed threshold record = true ↔ record.IsLow threshold := by
  cases threshold with
  | none => exact Iff.rfl
  | some threshold =>
    rw [isListed, Bool.and_eq_true, decide_eq_true_iff]
    apply and_congr_left
    intro _
    simp [StockRecord.isInStock, Quantity.isZero, Nat.pos_iff_ne_zero]

theorem listedBefore_eq : listedBefore =
    Listing.before (fun record => record.available.value) StockRecord.product := by
  funext one other
  have hsame : (one.available == other.available) =
      (one.available.value == other.available.value) := by
    rw [Bool.eq_iff_iff, beq_iff_eq, beq_iff_eq]
    exact ⟨congrArg Quantity.value, Quantity.ext⟩
  rw [listedBefore, hsame]
  rfl

variable {store : MemoryStore} {threshold : Option Quantity}

theorem mem_lowStockListing {record : StockRecord} :
    record ∈ store.lowStockListing threshold ↔
      (∃ product, store.inventory.find? product = some record) ∧ record.IsLow threshold := by
  rw [lowStockListing, Sorting.mem_sort, List.mem_filter, SortedMap.mem_values_iff, isListed_iff]

theorem nodup_products_lowStockListing (hkeyed : store.Keyed) :
    ((store.lowStockListing threshold).map StockRecord.product).Nodup := by
  have hrecords : WorkingCopy.Keyed store.inventory := hkeyed.records
  have hperm := Sorting.perm_sort listedBefore (store.inventory.values.filter (isListed threshold))
  rw [lowStockListing, (hperm.map StockRecord.product).nodup_iff]
  exact hrecords.distinct.sublist (List.filter_sublist.map _)

theorem pairwise_lowStockListing (hkeyed : store.Keyed) :
    (store.lowStockListing threshold).Pairwise StockRecord.ListedBefore := by
  have hsorted : (store.lowStockListing threshold).Pairwise fun earlier later =>
      listedBefore earlier later = true := by
    rw [lowStockListing, listedBefore_eq]
    exact Sorting.pairwise_sort Listing.before_trans Listing.before_total _
  have hproducts := List.pairwise_map.1 (@nodup_products_lowStockListing store threshold hkeyed)
  refine (hsorted.and hproducts).imp fun {earlier later} hboth => ?_
  obtain ⟨hbefore, hne⟩ := hboth
  rw [listedBefore_eq, Listing.before_iff] at hbefore
  apply hbefore.imp_right
  rintro ⟨hsame, hle⟩
  exact ⟨hsame, Std.lt_of_le_of_ne hle hne⟩

end MemoryStore

namespace Page

variable {α : Type}

/-- A piece of a list, pieces being counted from zero. -/
def piece (list : List α) (limit index : Nat) : List α :=
  (list.drop (index * limit)).take limit

/-- How many pieces a list has. -/
def pieces (list : List α) (limit : Nat) : Nat :=
  (list.length + (limit - 1)) / limit

theorem piece_eq_nil_iff {list : List α} {limit : Nat} (hpositive : 1 ≤ limit) {index : Nat} :
    piece list limit index = [] ↔ pieces list limit ≤ index := by
  rw [← Nat.not_lt, pieces, Nat.lt_div_iff_mul_lt hpositive, Nat.add_sub_cancel, Nat.not_lt, piece,
    List.take_eq_nil_iff, List.drop_eq_nil_iff]
  exact or_iff_right (Nat.one_le_iff_ne_zero.1 hpositive)

/-- The first pieces of a list make up what it begins with. -/
theorem flatMap_piece (list : List α) (limit count : Nat) :
    (List.range count).flatMap (piece list limit) = list.take (count * limit) := by
  induction count with
  | zero => simp
  | succ count ih =>
    rw [List.range_succ, List.flatMap_append, ih, Nat.succ_mul, List.take_add]
    simp [piece]

theorem flatMap_pieces {list : List α} {limit : Nat} (hpositive : 1 ≤ limit) :
    (List.range (pieces list limit)).flatMap (piece list limit) = list := by
  have hlast : piece list limit (pieces list limit) = [] := (piece_eq_nil_iff hpositive).2 le_rfl
  rw [piece, List.take_eq_nil_iff, List.drop_eq_nil_iff] at hlast
  rw [flatMap_piece, List.take_of_length_le]
  exact hlast.resolve_left (Nat.one_le_iff_ne_zero.1 hpositive)

end Page

end Stockroom
