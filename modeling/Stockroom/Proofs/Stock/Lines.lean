import Stockroom.Proofs.Stock.Arithmetic
import Stockroom.Reservation

/-!
# Lines of a reservation

A reservation that was made holds positive quantities of distinct products, at
least one of them, and its records are locked in strictly ascending order of
these products.
-/

namespace Stockroom

namespace ProductId

theorem ofText_eq_ok_iff {text : String} {id : ProductId} :
    ofText text = .ok id ↔ id.text = text := by
  constructor
  · intro hok
    rw [ofText] at hok
    split at hok <;> cases hok
    rfl
  · rintro rfl
    exact ofText_text id

theorem mem_insertSorted {id sought : ProductId} {ids : List ProductId} :
    sought ∈ insertSorted id ids ↔ sought = id ∨ sought ∈ ids := by
  induction ids with
  | nil => simp [insertSorted]
  | cons first rest ih =>
    simp only [insertSorted]
    split
    · simp
    · split
      · simp only [List.mem_cons, ih]
        exact or_left_comm
      · rename_i hnotBefore hnotAfter
        have hsame : id = first :=
          Std.le_antisymm (Std.not_lt.1 hnotAfter) (Std.not_lt.1 hnotBefore)
        simp [hsame]

theorem pairwise_insertSorted {id : ProductId} {ids : List ProductId}
    (hascending : ids.Pairwise (· < ·)) : (insertSorted id ids).Pairwise (· < ·) := by
  induction ids with
  | nil => simp [insertSorted]
  | cons first rest ih =>
    obtain ⟨hfirst, hrest⟩ := List.pairwise_cons.1 hascending
    simp only [insertSorted]
    split
    · rename_i hbefore
      refine List.pairwise_cons.2 ⟨fun later hlater => ?_, hascending⟩
      rcases List.mem_cons.1 hlater with rfl | hmem
      · exact hbefore
      · exact Std.lt_trans hbefore (hfirst later hmem)
    · split
      · rename_i hafter
        refine List.pairwise_cons.2 ⟨fun later hlater => ?_, ih hrest⟩
        rcases mem_insertSorted.1 hlater with rfl | hmem
        · exact hafter
        · exact hfirst later hmem
      · exact hascending

theorem mem_sortedDistinct {sought : ProductId} {ids : List ProductId} :
    sought ∈ sortedDistinct ids ↔ sought ∈ ids := by
  induction ids with
  | nil => simp [sortedDistinct]
  | cons id rest ih =>
    rw [sortedDistinct, List.foldr_cons, mem_insertSorted, List.mem_cons]
    exact or_congr_right ih

theorem pairwise_sortedDistinct (ids : List ProductId) :
    (sortedDistinct ids).Pairwise (· < ·) := by
  induction ids with
  | nil => exact List.Pairwise.nil
  | cons id rest ih => exact pairwise_insertSorted ih

end ProductId

namespace ReservationLine

def products (lines : List ReservationLine) : List ProductId :=
  lines.map product

@[simp]
theorem products_nil : products [] = [] := rfl

@[simp]
theorem products_cons (line : ReservationLine) (rest : List ReservationLine) :
    products (line :: rest) = line.product :: products rest := rfl

/-- Lines as a reservation has them: distinct products, each in a positive quantity. -/
structure Consolidated (lines : List ReservationLine) : Prop where
  nonempty : lines ≠ []
  distinct : (products lines).Nodup
  positive : ∀ line ∈ lines, 0 < line.quantity.value

theorem products_merge {line : ReservationLine} {merged result : List ReservationLine}
    (hmerge : merge line merged = .ok result) :
    products result =
      if line.product ∈ products merged then products merged
      else products merged ++ [line.product] := by
  induction merged generalizing result with
  | nil => cases hmerge; simp
  | cons first rest ih =>
    simp only [merge] at hmerge
    split at hmerge
    · rename_i hsame
      obtain ⟨quantity, _, hresult⟩ := bind_eq_ok_iff.1 hmerge
      cases hresult
      simp [hsame]
    · rename_i hdifferent
      obtain ⟨tail, htail, hresult⟩ := bind_eq_ok_iff.1 hmerge
      cases hresult
      have hproducts := ih htail
      have hne : line.product ≠ first.product := fun heq => hdifferent heq.symm
      simp only [products_cons, List.mem_cons, hne, false_or, hproducts]
      split <;> simp

theorem positive_of_merge {line : ReservationLine} {merged result : List ReservationLine}
    (hline : 0 < line.quantity.value) (hmerged : ∀ one ∈ merged, 0 < one.quantity.value)
    (hmerge : merge line merged = .ok result) : ∀ one ∈ result, 0 < one.quantity.value := by
  induction merged generalizing result with
  | nil => cases hmerge; simpa using hline
  | cons first rest ih =>
    simp only [List.forall_mem_cons] at hmerged
    simp only [merge] at hmerge
    split at hmerge
    · obtain ⟨quantity, hadd, hresult⟩ := bind_eq_ok_iff.1 hmerge
      cases hresult
      rw [Quantity.add_eq_ok_iff] at hadd
      refine List.forall_mem_cons.2 ⟨?_, hmerged.2⟩
      simp only [hadd]
      omega
    · obtain ⟨tail, htail, hresult⟩ := bind_eq_ok_iff.1 hmerge
      cases hresult
      exact List.forall_mem_cons.2 ⟨hmerged.1, ih hmerged.2 htail⟩

theorem nodup_products_merge {line : ReservationLine} {merged result : List ReservationLine}
    (hdistinct : (products merged).Nodup) (hmerge : merge line merged = .ok result) :
    (products result).Nodup := by
  rw [products_merge hmerge]
  split
  · exact hdistinct
  · rename_i habsent
    exact List.nodup_append.2 ⟨hdistinct, List.nodup_singleton _, fun one hone other hother =>
      fun heq => habsent (by simp_all)⟩

theorem consolidated_merge {line : ReservationLine} {merged result : List ReservationLine}
    (hline : 0 < line.quantity.value) (hdistinct : (products merged).Nodup)
    (hpositive : ∀ one ∈ merged, 0 < one.quantity.value)
    (hmerge : merge line merged = .ok result) : Consolidated result := by
  refine ⟨?_, nodup_products_merge hdistinct hmerge, positive_of_merge hline hpositive hmerge⟩
  rintro rfl
  have hproducts := products_merge hmerge
  split at hproducts
  · rename_i hmem
    rw [← hproducts] at hmem
    simp at hmem
  · simp at hproducts

theorem consolidated_mergeAll {merged lines result : List ReservationLine}
    (hmerged : Consolidated merged) (hmergeAll : mergeAll merged lines = .ok result) :
    Consolidated result := by
  induction lines generalizing merged with
  | nil => cases hmergeAll; exact hmerged
  | cons line rest ih =>
    obtain ⟨_, hpositive, hrest⟩ := bind_eq_ok_iff.1 hmergeAll
    obtain ⟨next, hmerge, hrest⟩ := bind_eq_ok_iff.1 hrest
    exact ih (consolidated_merge (Quantity.ensurePositive_eq_ok_iff.1 hpositive)
      hmerged.distinct hmerged.positive hmerge) hrest

theorem length_merge_le {line : ReservationLine} {merged result : List ReservationLine}
    (hmerge : merge line merged = .ok result) : result.length ≤ merged.length + 1 := by
  have hproducts := congrArg List.length (products_merge hmerge)
  have hlength (lines : List ReservationLine) : (products lines).length = lines.length :=
    List.length_map product
  rw [hlength] at hproducts
  rw [hproducts]
  split
  · rw [hlength]
    exact Nat.le_succ _
  · rw [List.length_append, hlength]
    exact Nat.le_refl _

theorem length_mergeAll_le {merged lines result : List ReservationLine}
    (hmergeAll : mergeAll merged lines = .ok result) :
    result.length ≤ merged.length + lines.length := by
  induction lines generalizing merged with
  | nil =>
    cases hmergeAll
    exact Nat.le_refl _
  | cons line rest ih =>
    obtain ⟨_, _, hrest⟩ := bind_eq_ok_iff.1 hmergeAll
    obtain ⟨next, hmerge, hrest⟩ := bind_eq_ok_iff.1 hrest
    have hnext := length_merge_le hmerge
    have hresult := ih hrest
    rw [List.length_cons]
    omega

theorem length_consolidate_le {lines result : List ReservationLine}
    (hconsolidate : consolidate lines = .ok result) : result.length ≤ lines.length := by
  rw [consolidate] at hconsolidate
  split at hconsolidate
  · cases hconsolidate
  · exact (length_mergeAll_le hconsolidate).trans_eq (Nat.zero_add _)

theorem consolidated_of_consolidate {lines result : List ReservationLine}
    (hconsolidate : consolidate lines = .ok result) : Consolidated result := by
  cases lines with
  | nil => cases hconsolidate
  | cons line rest =>
    obtain ⟨_, hpositive, hrest⟩ := bind_eq_ok_iff.1 hconsolidate
    obtain ⟨next, hmerge, hrest⟩ := bind_eq_ok_iff.1 hrest
    have hone : Consolidated next :=
      consolidated_merge (Quantity.ensurePositive_eq_ok_iff.1 hpositive) (by simp) (by simp) hmerge
    exact consolidated_mergeAll hone hrest

end ReservationLine

namespace Reservation

/-- The quantity of a product's line, zero without one. -/
def quantityOf (reservation : Reservation) (product : ProductId) : Nat :=
  ((reservation.lines.find? (·.product == product)).map (·.quantity.value)).getD 0

/-- The units of a product that a reservation keeps from others. -/
def held (reservation : Reservation) (product : ProductId) : Nat :=
  if reservation.isPending then reservation.quantityOf product else 0

def products (reservation : Reservation) : List ProductId :=
  ReservationLine.products reservation.lines

/-- A reservation as it is made, before anything is done to it. -/
def IsNew (reservation : Reservation) : Prop :=
  ∃ lines holdFor, Reservation.make reservation.id reservation.orderId lines holdFor
    reservation.createdAt = .ok reservation

theorem mem_lockOrder {reservation : Reservation} {product : ProductId} :
    product ∈ reservation.lockOrder ↔ product ∈ reservation.products :=
  ProductId.mem_sortedDistinct

theorem make_eq_ok {id : Uuid} {orderId : String} {lines : List ReservationLine}
    {holdFor : Duration} {now : Instant} {reservation : Reservation}
    (hmake : make id orderId lines holdFor now = .ok reservation) :
    ∃ consolidated expiresAt, ReservationLine.consolidate lines = .ok consolidated ∧
      now.add? holdFor = some expiresAt ∧
      reservation = ⟨id, orderId, consolidated, .pending, expiresAt, now, now⟩ := by
  obtain ⟨consolidated, hlines, hrest⟩ := bind_eq_ok_iff.1 hmake
  obtain ⟨_, _, hconsolidate⟩ := bind_eq_ok_iff.1 (mapError_eq_ok_iff.1 hlines)
  cases hadd : now.add? holdFor with
  | none => simp [hadd] at hrest
  | some expiresAt =>
    simp only [hadd] at hrest
    cases hrest
    exact ⟨consolidated, expiresAt, hconsolidate, rfl, rfl⟩

theorem isNew_of_make {id : Uuid} {orderId : String} {lines : List ReservationLine}
    {holdFor : Duration} {now : Instant} {reservation : Reservation}
    (hmake : make id orderId lines holdFor now = .ok reservation) :
    reservation.IsNew ∧ reservation.id = id := by
  obtain ⟨consolidated, expiresAt, _, _, rfl⟩ := make_eq_ok hmake
  exact ⟨⟨lines, holdFor, hmake⟩, rfl⟩

theorem IsNew.isPending {reservation : Reservation} (hnew : reservation.IsNew) :
    reservation.isPending = true := by
  obtain ⟨lines, holdFor, hmake⟩ := hnew
  obtain ⟨consolidated, expiresAt, _, _, heq⟩ := make_eq_ok hmake
  rw [heq]
  rfl

theorem IsNew.consolidated {reservation : Reservation} (hnew : reservation.IsNew) :
    ReservationLine.Consolidated reservation.lines := by
  obtain ⟨lines, holdFor, hmake⟩ := hnew
  obtain ⟨consolidated, expiresAt, hconsolidate, _, heq⟩ := make_eq_ok hmake
  rw [heq]
  exact ReservationLine.consolidated_of_consolidate hconsolidate

theorem find?_line {reservation : Reservation} {line : ReservationLine}
    (hdistinct : reservation.products.Nodup) (hmem : line ∈ reservation.lines) :
    reservation.lines.find? (·.product == line.product) = some line := by
  rw [List.find?_eq_some_iff_append]
  obtain ⟨before, after, hsplit⟩ := List.append_of_mem hmem
  refine ⟨by simp, before, after, hsplit, fun other hother => ?_⟩
  simp only [products, ReservationLine.products, hsplit, List.map_append, List.map_cons]
    at hdistinct
  have hne := (List.nodup_append.1 hdistinct).2.2 other.product
    (List.mem_map_of_mem hother) line.product (by simp)
  simpa using hne

theorem quantityOf_line {reservation : Reservation} {line : ReservationLine}
    (hdistinct : reservation.products.Nodup) (hmem : line ∈ reservation.lines) :
    reservation.quantityOf line.product = line.quantity.value := by
  rw [quantityOf, find?_line hdistinct hmem]
  rfl

theorem quantityOf_of_not_mem {reservation : Reservation} {product : ProductId}
    (habsent : product ∉ reservation.products) : reservation.quantityOf product = 0 := by
  have hnone : reservation.lines.find? (·.product == product) = none := by
    simp only [List.find?_eq_none, beq_iff_eq]
    exact fun line hline heq => habsent (heq ▸ List.mem_map_of_mem hline)
  simp [quantityOf, hnone]

end Reservation

end Stockroom
