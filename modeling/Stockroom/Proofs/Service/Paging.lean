import Stockroom.Proofs.Database.Calls
import Stockroom.Proofs.Service.Effects

/-!
# Reading the low stock listing

The pages that the service returns are the pieces of one listing, each with
the length of the whole.  A request that is admitted skips few enough records
for the number to be sent to a database.
-/

namespace Stockroom

namespace Service

theorem lowStock_of_admitted (threshold : Option Quantity) {request : PageRequest}
    (hpage : 1 ≤ request.page) (hlimit : 1 ≤ request.limit) (hbound : request.limit ≤ 100) :
    lowStock (threshold.map fun bound => (bound.value : Int)) request =
      ServiceCall.store (.lowStock threshold request) := by
  have hthreshold : (threshold.map fun bound => (bound.value : Int)).mapM Quantity.ofInt =
      .ok threshold := by
    cases threshold with
    | none => rfl
    | some bound =>
      change (Quantity.ofInt bound.value).map some = _
      rw [Quantity.ofInt_value]
      rfl
  have hadmitted : ¬ (request.limit < 1 ∨ StockError.maximumPageLimit < request.limit) := by
    rw [StockError.maximumPageLimit]
    omega
  rw [lowStock, if_neg (Nat.not_lt.2 hpage), if_neg hadmitted, hthreshold]
  rfl

/-- A request that is not refused asks for a page and a limit within the bounds. -/
theorem admitted_of_lowStock {settings : ServiceSettings} {service : MemoryService}
    {threshold : Option Int} {request : PageRequest} {readings : Nat → ClockReading} {page : Page}
    (hok : (Step.perform settings ⟨.lowStock threshold request, readings⟩ service).1 = .ok page) :
    1 ≤ request.page ∧ 1 ≤ request.limit ∧ request.limit ≤ 100 := by
  have hcall : (MemoryService.timed readings (lowStock threshold request) (service, 0)).1 =
      .ok page := hok
  rw [lowStock] at hcall
  split at hcall
  · cases hcall
  · split at hcall
    · cases hcall
    · rename_i hpage hlimit
      rw [StockError.maximumPageLimit] at hlimit
      omega

end Service

namespace MemoryService

/-- The pages of the low stock listing lose no record and repeat none. -/
theorem low_stock_pages (settings : ServiceSettings) (service : MemoryService)
    (hkeyed : service.store.Keyed) (threshold : Option Quantity) (limit : Nat)
    (hlimit : 1 ≤ limit) (hbound : limit ≤ 100) :
    let page (number : Nat) (readings : Nat → ClockReading) := (Step.perform settings
      ⟨.lowStock (threshold.map fun bound => (bound.value : Int)) ⟨number, limit⟩, readings⟩
        service).1
    (∃ (listing : List StockRecord) (items : Nat → List StockRecord) (count : Nat),
      (∀ record, record ∈ listing ↔
        (∃ product, service.store.inventory.find? product = some record) ∧
          record.IsLow threshold) ∧
      listing.Nodup ∧ listing.Pairwise StockRecord.ListedBefore ∧
      (∀ number, 1 ≤ number → (items number).length ≤ limit ∧
        ∀ readings, page number readings = .ok ⟨items number, listing.length, number, limit⟩) ∧
      (∀ number, 1 ≤ number → (items number = [] ↔ count < number)) ∧
      (List.range count).flatMap (fun before => items (before + 1)) = listing) ∧
    ∀ (bound : Option Int) (request : PageRequest) (readings : Nat → ClockReading) (page : Page),
      request.page ≤ 4294967295 →
      (Step.perform settings ⟨.lowStock bound request, readings⟩ service).1 = .ok page →
        request.offset < 18446744073709551616 ∧
        0 ≤ Database.offsetColumn request.offset ∧
        Database.offsetColumn request.offset = request.offset := by
  intro page
  constructor
  · let listing := service.store.lowStockListing threshold
    refine ⟨listing, fun number => Page.piece listing limit (number - 1),
      Page.pieces listing limit, fun _ => MemoryStore.mem_lowStockListing,
      .of_map _ (MemoryStore.nodup_products_lowStockListing hkeyed),
      MemoryStore.pairwise_lowStockListing hkeyed, ?_, ?_, Page.flatMap_pieces hlimit⟩
    · intro number hnumber
      refine ⟨List.length_take_le _ _, fun readings => ?_⟩
      change (timed readings (Service.lowStock _ _) (service, 0)).1 = _
      rw [Service.lowStock_of_admitted threshold hnumber hlimit hbound]
      rfl
    · intro number hnumber
      rw [Page.piece_eq_nil_iff hlimit]
      omega
  · intro bound request readings page hpage hok
    obtain ⟨_, _, hlimit⟩ := Service.admitted_of_lowStock hok
    have hoffset : request.offset < 9223372036854775808 :=
      calc request.offset ≤ 4294967294 * 100 :=
            Nat.mul_le_mul (Nat.sub_le_sub_right hpage 1) hlimit
        _ < 9223372036854775808 := by decide
    rw [Database.offsetColumn_of_lt hoffset]
    omega

/-- Three products, two of them with as many units, on pages of two. -/
theorem low_stock_pages_of_three_products :
    let moment : ClockReading := ⟨0, .epoch, .epoch⟩
    let settings : ServiceSettings := ⟨⟨900000000000⟩⟩
    let steps : List Step := [⟨.create "tea" (some 4) none, fun _ => moment⟩,
      ⟨.create "cup" (some 4) none, fun _ => moment⟩,
      ⟨.create "pot" (some 1) none, fun _ => moment⟩]
    let service := (start none .epoch Uuid.ofNat).after settings steps
    let products (number : Nat) : Option (List String) :=
      match (Step.perform settings ⟨.lowStock (some 5) ⟨number, 2⟩, fun _ => moment⟩ service).1 with
      | .ok page => some (page.items.map fun record => record.product.text)
      | .error _ => none
    service.store.Keyed ∧ 1 ≤ 2 ∧ 2 ≤ 100 ∧
      (∃ (listing : List StockRecord) (items : Nat → List StockRecord),
        listing.Nodup ∧ listing.Pairwise StockRecord.ListedBefore ∧
        ∀ number, 1 ≤ number → (items number).length ≤ 2 ∧
          (Step.perform settings ⟨.lowStock (some 5) ⟨number, 2⟩, fun _ => moment⟩ service).1 =
            .ok ⟨items number, listing.length, number, 2⟩) ∧
      (List.range 4).map products = [none, some ["pot", "cup"], some ["tea"], some []] := by
  intro moment settings steps service products
  have hkeyed : service.store.Keyed := keyed_after settings MemoryStore.Keyed.empty steps
  obtain ⟨listing, items, count, _, hnodup, hpairwise, hpages, _⟩ :=
    (low_stock_pages settings service hkeyed (some ⟨5, by decide⟩) 2 (by decide) (by decide)).1
  refine ⟨hkeyed, by decide, by decide, ⟨listing, items, hnodup, hpairwise, ?_⟩, by decide +kernel⟩
  intro number hnumber
  exact (hpages number hnumber).imp_right fun hpage => hpage fun _ => moment

end MemoryService

end Stockroom
