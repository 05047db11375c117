import Stockroom.Proofs.Stock.Lines

/-!
# Consolidating lines

Lines that repeat products are merged into one line per product, in the order
in which the products first appear, each with the exact sum of its quantities.
The merged lines stand for the lines that were read so far, and only a sum
that is no quantity keeps them from standing for one line more.
-/

namespace Stockroom.ReservationLine

/-- The units of a product that lines ask for, over all lines of the product. -/
def asked (lines : List ReservationLine) (product : ProductId) : Nat :=
  ((lines.filter (·.product = product)).map (·.quantity.value)).sum

@[simp]
theorem asked_nil (product : ProductId) : asked [] product = 0 := rfl

theorem asked_cons (line : ReservationLine) (rest : List ReservationLine) (product : ProductId) :
    asked (line :: rest) product =
      (if line.product = product then line.quantity.value else 0) + asked rest product := by
  by_cases hproduct : line.product = product
  · simp [asked, hproduct]
  · simp [asked, hproduct]

theorem asked_append (first second : List ReservationLine) (product : ProductId) :
    asked (first ++ second) product = asked first product + asked second product := by
  simp [asked]

theorem asked_concat (lines : List ReservationLine) (line : ReservationLine) :
    asked (lines ++ [line]) line.product = asked lines line.product + line.quantity.value := by
  rw [asked_append, asked_cons, if_pos rfl, asked_nil, Nat.add_zero]

theorem asked_eq_zero_of_not_mem {lines : List ReservationLine} {product : ProductId}
    (habsent : product ∉ products lines) : asked lines product = 0 := by
  have hnone : lines.filter (·.product = product) = [] := by
    simp only [List.filter_eq_nil_iff, decide_eq_true_eq]
    exact fun line hline heq => habsent (heq ▸ List.mem_map_of_mem hline)
  rw [asked, hnone, List.map_nil, List.sum_nil]

/-- Where products are distinct, a line asks for all there is asked of its product. -/
theorem asked_of_mem {lines : List ReservationLine} (hdistinct : (products lines).Nodup)
    {line : ReservationLine} (hmem : line ∈ lines) :
    asked lines line.product = line.quantity.value := by
  induction lines with
  | nil => cases hmem
  | cons first rest ih =>
    obtain ⟨hfirst, hrest⟩ := List.nodup_cons.1 hdistinct
    rw [asked_cons]
    cases hmem with
    | head => rw [if_pos rfl, asked_eq_zero_of_not_mem hfirst, Nat.add_zero]
    | tail _ hlater =>
      have hne : first.product ≠ line.product := fun heq =>
        hfirst (heq ▸ List.mem_map_of_mem hlater)
      rw [if_neg hne, ih hrest hlater, Nat.zero_add]

theorem asked_le_maximum {lines : List ReservationLine} (hdistinct : (products lines).Nodup)
    (product : ProductId) : asked lines product ≤ Quantity.maximum := by
  by_cases hmem : product ∈ products lines
  · obtain ⟨line, hline, rfl⟩ := List.mem_map.1 hmem
    rw [asked_of_mem hdistinct hline]
    exact line.quantity.value_le
  · rw [asked_eq_zero_of_not_mem hmem]
    exact Nat.zero_le _

/-! ## One line more -/

theorem asked_merge {line : ReservationLine} {merged result : List ReservationLine}
    (hmerge : merge line merged = .ok result) (product : ProductId) :
    asked result product = asked merged product + asked [line] product := by
  induction merged generalizing result with
  | nil =>
    cases hmerge
    exact (Nat.zero_add _).symm
  | cons first rest ih =>
    simp only [merge] at hmerge
    split at hmerge
    · rename_i hsame
      obtain ⟨quantity, hadd, hresult⟩ := bind_eq_ok_iff.1 hmerge
      cases hresult
      rw [Quantity.add_eq_ok_iff] at hadd
      simp only [asked_cons, asked_nil, hadd, hsame]
      split <;> omega
    · obtain ⟨tail, htail, hresult⟩ := bind_eq_ok_iff.1 hmerge
      cases hresult
      rw [asked_cons, asked_cons, ih htail, Nat.add_assoc]

/-- Only a sum that is too large keeps a line from being merged. -/
theorem merge_error {line : ReservationLine} {merged : List ReservationLine}
    {violation : Violation} (hdistinct : (products merged).Nodup)
    (herror : merge line merged = .error violation) :
    Quantity.maximum < asked merged line.product + line.quantity.value ∧
      violation = .quantityOutOfRange ↑(asked merged line.product + line.quantity.value) := by
  induction merged with
  | nil => cases herror
  | cons first rest ih =>
    obtain ⟨hfirst, hrest⟩ := List.nodup_cons.1 hdistinct
    rw [asked_cons]
    simp only [merge] at herror
    split at herror
    · rename_i hsame
      rw [if_pos hsame, ← hsame, asked_eq_zero_of_not_mem hfirst, Nat.add_zero]
      cases hadd : first.quantity.add line.quantity with
      | ok quantity =>
        rw [hadd] at herror
        cases herror
      | error cause =>
        rw [hadd] at herror
        cases herror
        exact Quantity.add_error hadd
    · rename_i hdifferent
      rw [if_neg hdifferent, Nat.zero_add]
      cases hmerge : merge line rest with
      | ok tail =>
        rw [hmerge] at herror
        cases herror
      | error cause =>
        rw [hmerge] at herror
        cases herror
        exact ih hrest hmerge

/-! ## All lines -/

/-- Merged lines stand for the lines that were read. -/
structure Merges (read merged : List ReservationLine) : Prop where
  products : products merged = (products read).eraseDups
  asked : ∀ product, asked merged product = asked read product
  distinct : (ReservationLine.products merged).Nodup

namespace Merges

variable {read merged result lines : List ReservationLine} {line : ReservationLine}

theorem nil : Merges [] [] :=
  ⟨rfl, fun _ => rfl, .nil⟩

theorem within (hmerges : Merges read merged) (product : ProductId) :
    ReservationLine.asked read product ≤ Quantity.maximum := by
  rw [← hmerges.asked]
  exact asked_le_maximum hmerges.distinct product

theorem concat (hmerges : Merges read merged) (hmerge : merge line merged = .ok result) :
    Merges (read ++ [line]) result where
  products := by
    have happend : ReservationLine.products (read ++ [line]) =
        ReservationLine.products read ++ [line.product] := List.map_append
    rw [products_merge hmerge, hmerges.products, happend, List.eraseDups_append,
      List.cons_removeAll]
    by_cases hmem : line.product ∈ ReservationLine.products read
    · simp [hmem]
    · simp [hmem, List.eraseDups_cons]
  asked product := by
    rw [asked_merge hmerge, hmerges.asked, asked_append]
  distinct := nodup_products_merge hmerges.distinct hmerge

theorem error_of_excess (hmerges : Merges read merged)
    (hexcess : Quantity.maximum < ReservationLine.asked (read ++ [line]) line.product) :
    merge line merged =
      .error (.quantityOutOfRange ↑(ReservationLine.asked (read ++ [line]) line.product)) := by
  cases hmerge : merge line merged with
  | ok result => exact absurd ((hmerges.concat hmerge).within line.product) (Nat.not_le.2 hexcess)
  | error violation =>
    obtain ⟨_, rfl⟩ := merge_error hmerges.distinct hmerge
    rw [asked_concat, hmerges.asked]

theorem mergeAll (hmerges : Merges read merged)
    (hmergeAll : ReservationLine.mergeAll merged lines = .ok result) :
    Merges (read ++ lines) result := by
  induction lines generalizing read merged with
  | nil =>
    cases hmergeAll
    rwa [List.append_nil]
  | cons line rest ih =>
    obtain ⟨_, _, hrest⟩ := bind_eq_ok_iff.1 hmergeAll
    obtain ⟨next, hmerge, hrest⟩ := bind_eq_ok_iff.1 hrest
    rw [List.append_cons]
    exact ih (hmerges.concat hmerge) hrest

/-- Lines can be read as long as the sums stay quantities. -/
theorem exists_mergeAll (hmerges : Merges read merged)
    (hpositive : ∀ line ∈ lines, 0 < line.quantity.value)
    (hwithin : ∀ product, ReservationLine.asked (read ++ lines) product ≤ Quantity.maximum) :
    ∃ result, ReservationLine.mergeAll merged lines = .ok result := by
  induction lines generalizing read merged with
  | nil => exact ⟨merged, rfl⟩
  | cons line rest ih =>
    obtain ⟨hline, hrest⟩ := List.forall_mem_cons.1 hpositive
    rw [ReservationLine.mergeAll, Quantity.ensurePositive_of_pos hline, ok_bind]
    rw [List.append_cons] at hwithin
    cases hmerge : merge line merged with
    | ok next => exact ih (hmerges.concat hmerge) hrest hwithin
    | error violation =>
      have hlarge := (merge_error hmerges.distinct hmerge).1
      have hsum := hwithin line.product
      rw [asked_append, asked_concat, ← hmerges.asked] at hsum
      omega

/-- The merged lines, with their products and quantities. -/
theorem eq_sums (hmerges : Merges read merged) :
    merged.map (fun line => (line.product, line.quantity.value)) =
      (ReservationLine.products read).eraseDups.map
        fun product => (product, ReservationLine.asked read product) := by
  rw [← hmerges.products, ReservationLine.products, List.map_map]
  apply List.map_congr_left
  intro line hline
  rw [Function.comp_apply, ← hmerges.asked, asked_of_mem hmerges.distinct hline]

end Merges

theorem merges_of_consolidate {lines merged : List ReservationLine}
    (hconsolidate : consolidate lines = .ok merged) : Merges lines merged := by
  rw [consolidate] at hconsolidate
  split at hconsolidate
  · cases hconsolidate
  · exact Merges.nil.mergeAll hconsolidate

theorem exists_consolidate {lines : List ReservationLine} (hnonempty : lines ≠ [])
    (hpositive : ∀ line ∈ lines, 0 < line.quantity.value)
    (hwithin : ∀ product, asked lines product ≤ Quantity.maximum) :
    ∃ merged, consolidate lines = .ok merged := by
  rw [consolidate, if_neg (by simpa using hnonempty)]
  exact Merges.nil.exists_mergeAll hpositive hwithin

theorem mergeAll_append (merged first second : List ReservationLine) :
    mergeAll merged (first ++ second) =
      (mergeAll merged first >>= fun result => mergeAll result second) := by
  induction first generalizing merged with
  | nil => rfl
  | cons line rest ih =>
    rw [List.cons_append, mergeAll, mergeAll]
    cases line.quantity.ensurePositive with
    | error violation => rfl
    | ok _ =>
      rw [ok_bind, ok_bind]
      cases merge line merged with
      | error violation => rfl
      | ok next => exact ih next

/-- Lines cannot be consolidated beyond the first of them that makes a sum too large. -/
theorem consolidate_of_excess {before after : List ReservationLine} {line : ReservationLine}
    (hpositive : ∀ one ∈ before ++ line :: after, 0 < one.quantity.value)
    (hwithin : ∀ product, asked before product ≤ Quantity.maximum)
    (hexcess : Quantity.maximum < asked (before ++ [line]) line.product) :
    consolidate (before ++ line :: after) =
      .error (.quantityOutOfRange ↑(asked (before ++ [line]) line.product)) := by
  obtain ⟨hbefore, hafter⟩ := List.forall_mem_append.1 hpositive
  have hline := (List.forall_mem_cons.1 hafter).1
  obtain ⟨merged, hmerged⟩ := Merges.nil.exists_mergeAll hbefore hwithin
  have hmerges : Merges before merged := Merges.nil.mergeAll hmerged
  rw [consolidate, if_neg (by simp), mergeAll_append, hmerged, ok_bind, mergeAll,
    Quantity.ensurePositive_of_pos hline, ok_bind, hmerges.error_of_excess hexcess, error_bind]

/-- If a sum is too large, a first line makes one too large. -/
theorem exists_first_excess {lines : List ReservationLine} {product : ProductId}
    (hexcess : Quantity.maximum < asked lines product) :
    ∃ before line after, lines = before ++ line :: after ∧
      (∀ other, asked before other ≤ Quantity.maximum) ∧
      Quantity.maximum < asked (before ++ [line]) line.product := by
  induction lines using List.reverseRecOn generalizing product with
  | nil => cases hexcess
  | append_singleton lines line ih =>
    -- The last line is the first one too many, unless there was one before it.
    by_cases hwithin : ∀ other, asked lines other ≤ Quantity.maximum
    · refine ⟨lines, line, [], rfl, hwithin, ?_⟩
      by_cases hproduct : line.product = product
      · rwa [hproduct]
      · rw [asked_append, asked_cons, if_neg hproduct] at hexcess
        exact absurd (hwithin product) (Nat.not_le.2 hexcess)
    · obtain ⟨other, hother⟩ := not_forall.1 hwithin
      obtain ⟨before, first, after, rfl, hrest⟩ := ih (Nat.not_le.1 hother)
      exact ⟨before, first, after ++ [line], by simp, hrest⟩

end Stockroom.ReservationLine

theorem Stockroom.Reservation.merges_of_make {id : Uuid} {orderId : String}
    {lines : List ReservationLine} {holdFor : Duration} {now : Instant} {reservation : Reservation}
    (hmake : make id orderId lines holdFor now = .ok reservation) :
    ReservationLine.Merges lines reservation.lines := by
  obtain ⟨merged, _, hmerged, _, rfl⟩ := make_eq_ok hmake
  exact ReservationLine.merges_of_consolidate hmerged
