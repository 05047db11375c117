import Stockroom.Proofs.Stock.Consolidating

/-!
# Consolidation and its sums

Lines can be consolidated exactly if there are any, each asks for something,
and no product is asked for beyond what a quantity holds.  The result is
settled by the sums alone, so it is the same when it is consolidated again and
reordered when the lines are.  Lines that cannot be consolidated have a
shortest beginning that cannot, and the last line of it is to blame.
-/

namespace Stockroom.ReservationLine

variable {read lines merged other : List ReservationLine} {line : ReservationLine}
  {violation : Violation}

theorem eq_of_units {left right : ReservationLine} (hproduct : left.product = right.product)
    (hunits : left.quantity.value = right.quantity.value) : left = right := by
  cases left
  cases right
  cases hproduct
  cases Quantity.ext hunits
  rfl

theorem products_perm (hperm : lines.Perm other) : (products lines).Perm (products other) :=
  hperm.map product

theorem asked_perm (hperm : lines.Perm other) (product : ProductId) :
    asked lines product = asked other product :=
  ((hperm.filter _).map _).sum_eq

theorem eraseDups_of_nodup {ids : List ProductId} (hdistinct : ids.Nodup) :
    ids.eraseDups = ids := by
  induction ids with
  | nil => rfl
  | cons id rest ih =>
    obtain ⟨hid, hrest⟩ := List.nodup_cons.1 hdistinct
    have hkept : rest.filter (fun later => !later == id) = rest := by
      refine List.filter_eq_self.2 fun later hlater => ?_
      simpa using fun heq : later = id => hid (heq ▸ hlater)
    rw [List.eraseDups_cons, hkept, ih hrest]

/-! ## What the sums settle -/

namespace Merges

theorem self (hdistinct : (ReservationLine.products lines).Nodup) : Merges lines lines :=
  ⟨(eraseDups_of_nodup hdistinct).symm, fun _ => rfl, hdistinct⟩

theorem quantity_eq (hmerges : Merges lines merged) (hmem : line ∈ merged) :
    line.quantity.value = ReservationLine.asked lines line.product := by
  rw [← hmerges.asked, asked_of_mem hmerges.distinct hmem]

theorem mem_iff (hmerges : Merges lines merged) : line ∈ merged ↔
    line.product ∈ ReservationLine.products lines ∧
      line.quantity.value = ReservationLine.asked lines line.product := by
  rw [← List.mem_eraseDups (l := ReservationLine.products lines), ← hmerges.products]
  constructor
  · exact fun hmem => ⟨List.mem_map_of_mem hmem, hmerges.quantity_eq hmem⟩
  · rintro ⟨hnamed, hunits⟩
    obtain ⟨found, hfound, hproduct⟩ := List.mem_map.1 hnamed
    have hsame : found = line := by
      refine eq_of_units hproduct ?_
      rw [hmerges.quantity_eq hfound, hunits, hproduct]
    exact hsame ▸ hfound

/-- Only one list of lines stands for given lines. -/
theorem unique (hmerges : Merges lines merged) (hother : Merges lines other) :
    merged = other := by
  have hinjective : Function.Injective fun line : ReservationLine =>
      (line.product, line.quantity.value) := fun left right heq =>
    eq_of_units (Prod.mk.inj heq).1 (Prod.mk.inj heq).2
  exact List.map_injective_iff.2 hinjective (hmerges.eq_sums.trans hother.eq_sums.symm)

/-- The order of the lines decides nothing but the order of the merged ones. -/
theorem perm_of_perm {reordered : List ReservationLine} (hmerges : Merges lines merged)
    (hother : Merges reordered other) (hperm : reordered.Perm lines) : other.Perm merged := by
  refine (List.perm_ext_iff_of_nodup (List.Nodup.of_map _ hother.distinct)
    (List.Nodup.of_map _ hmerges.distinct)).2 fun line => ?_
  rw [hother.mem_iff, hmerges.mem_iff, (products_perm hperm).mem_iff, asked_perm hperm]

end Merges

/-! ## Success -/

theorem positive_of_mergeAll (hmergeAll : mergeAll read lines = .ok merged) :
    ∀ line ∈ lines, 0 < line.quantity.value := by
  induction lines generalizing read with
  | nil => exact fun _ hnone => nomatch hnone
  | cons line rest ih =>
    obtain ⟨_, hpositive, hrest⟩ := bind_eq_ok_iff.1 hmergeAll
    obtain ⟨next, _, hrest⟩ := bind_eq_ok_iff.1 hrest
    exact List.forall_mem_cons.2 ⟨Quantity.ensurePositive_eq_ok_iff.1 hpositive, ih hrest⟩

theorem consolidate_of_ne_nil (hnonempty : lines ≠ []) : consolidate lines = mergeAll [] lines :=
  if_neg (by simpa using hnonempty)

theorem ne_nil_of_consolidate (hconsolidate : consolidate lines = .ok merged) : lines ≠ [] := by
  rintro rfl
  cases hconsolidate

theorem exists_consolidate_iff : (∃ merged, consolidate lines = .ok merged) ↔
    lines ≠ [] ∧ (∀ line ∈ lines, 0 < line.quantity.value) ∧
      ∀ product, asked lines product ≤ Quantity.maximum := by
  constructor
  · rintro ⟨merged, hmerged⟩
    have hnonempty := ne_nil_of_consolidate hmerged
    refine ⟨hnonempty, ?_, (merges_of_consolidate hmerged).within⟩
    rw [consolidate_of_ne_nil hnonempty] at hmerged
    exact positive_of_mergeAll hmerged
  · rintro ⟨hnonempty, hpositive, hwithin⟩
    exact exists_consolidate hnonempty hpositive hwithin

/-- Merged lines are merged as they are. -/
theorem consolidate_consolidated (hconsolidate : consolidate lines = .ok merged) :
    consolidate merged = .ok merged := by
  have hconsolidated := consolidated_of_consolidate hconsolidate
  obtain ⟨again, hagain⟩ := exists_consolidate hconsolidated.nonempty hconsolidated.positive
    (asked_le_maximum hconsolidated.distinct)
  rw [hagain, (merges_of_consolidate hagain).unique (.self hconsolidated.distinct)]

theorem consolidate_perm {reordered : List ReservationLine}
    (hconsolidate : consolidate lines = .ok merged) (hperm : reordered.Perm lines) :
    ∃ other, consolidate reordered = .ok other ∧ other.Perm merged := by
  obtain ⟨hnonempty, hpositive, hwithin⟩ := exists_consolidate_iff.1 ⟨merged, hconsolidate⟩
  obtain ⟨other, hother⟩ : ∃ other, consolidate reordered = .ok other := by
    refine exists_consolidate_iff.2 ⟨fun hnil => hnonempty ?_, fun line hline => ?_,
      fun product => ?_⟩
    · exact (hnil ▸ hperm).nil_eq.symm
    · exact hpositive line (hperm.mem_iff.1 hline)
    · exact (asked_perm hperm product).trans_le (hwithin product)
  exact ⟨other, hother,
    (merges_of_consolidate hconsolidate).perm_of_perm (merges_of_consolidate hother) hperm⟩

/-! ## Failure -/

/-- Why lines can be read, but not with one line more. -/
inductive Blames (before : List ReservationLine) (line : ReservationLine) : Violation → Prop
  | nothing (hzero : line.quantity.value = 0) : Blames before line .nonPositiveQuantity
  | excess (hpositive : 0 < line.quantity.value)
    (hexcess : Quantity.maximum < asked (before ++ [line]) line.product) :
    Blames before line (.quantityOutOfRange ↑(asked (before ++ [line]) line.product))

/-- The shortest of the non-empty beginnings of lines that cannot be consolidated. -/
structure ShortestFailing (lines beginning : List ReservationLine) : Prop where
  begins : beginning <+: lines
  nonempty : beginning ≠ []
  fails : ∃ violation, consolidate beginning = .error violation
  shortest : ∀ shorter, shorter <+: lines → shorter ≠ [] → shorter.length < beginning.length →
    ∃ merged, consolidate shorter = .ok merged

/-- Where reading stops, the lines before can be read and the line is to blame. -/
theorem Merges.stops (hmerges : Merges read merged)
    (hfails : ReservationLine.mergeAll merged lines = .error violation) :
    ∃ before line after, lines = before ++ line :: after ∧
      (∃ result, ReservationLine.mergeAll merged before = .ok result) ∧
      ReservationLine.mergeAll merged (before ++ [line]) = .error violation ∧
      Blames (read ++ before) line violation := by
  induction lines generalizing read merged with
  | nil => cases hfails
  | cons line rest ih =>
    have hread : ReservationLine.mergeAll merged [] = .ok merged := rfl
    rcases Nat.eq_zero_or_pos line.quantity.value with hzero | hpositive
    · have hstops (after : List ReservationLine) :
          ReservationLine.mergeAll merged (line :: after) = .error .nonPositiveQuantity := by
        rw [ReservationLine.mergeAll, Quantity.ensurePositive_of_zero hzero, error_bind]
      rw [hstops] at hfails
      cases hfails
      exact ⟨[], line, rest, rfl, ⟨merged, hread⟩, hstops [], .nothing hzero⟩
    · have hstep (after : List ReservationLine) :
          ReservationLine.mergeAll merged (line :: after) =
            (merge line merged >>= fun next => ReservationLine.mergeAll next after) := by
        rw [ReservationLine.mergeAll, Quantity.ensurePositive_of_pos hpositive, ok_bind]
      rw [hstep] at hfails
      cases hmerge : merge line merged with
      | error cause =>
        rw [hmerge, error_bind] at hfails
        cases hfails
        obtain ⟨hexcess, rfl⟩ := merge_error hmerges.distinct hmerge
        rw [hmerges.asked, ← asked_concat] at hexcess ⊢
        refine ⟨[], line, rest, rfl, ⟨merged, hread⟩, ?_, ?_⟩
        · rw [List.nil_append, hstep, hmerge, error_bind, hmerges.asked, ← asked_concat]
        · rw [List.append_nil]
          exact .excess hpositive hexcess
      | ok next =>
        rw [hmerge, ok_bind] at hfails
        obtain ⟨before, last, after, rfl, ⟨result, hresult⟩, hlast, hblames⟩ :=
          ih (hmerges.concat hmerge) hfails
        rw [← List.append_cons] at hblames
        refine ⟨line :: before, last, after, rfl, ⟨result, ?_⟩, ?_, hblames⟩
        · rw [hstep, hmerge, ok_bind, hresult]
        · rw [List.cons_append, hstep, hmerge, ok_bind, hlast]

/-- A beginning of lines that can be read can be read. -/
theorem exists_mergeAll_of_prefix {shorter : List ReservationLine} (hbegins : shorter <+: lines)
    (hread : ∃ result, mergeAll merged lines = .ok result) :
    ∃ result, mergeAll merged shorter = .ok result := by
  obtain ⟨after, rfl⟩ := hbegins
  obtain ⟨result, hresult⟩ := hread
  rw [mergeAll_append] at hresult
  obtain ⟨middle, hmiddle, _⟩ := bind_eq_ok_iff.1 hresult
  exact ⟨middle, hmiddle⟩

theorem shortestFailing_of_error (hnonempty : lines ≠ [])
    (herror : consolidate lines = .error violation) :
    ∃ before line, ShortestFailing lines (before ++ [line]) ∧
      consolidate (before ++ [line]) = .error violation ∧ Blames before line violation := by
  rw [consolidate_of_ne_nil hnonempty] at herror
  obtain ⟨before, line, after, rfl, hbefore, hline, hblames⟩ := Merges.nil.stops herror
  have hbegins : before ++ [line] <+: before ++ line :: after :=
    ⟨after, (List.append_cons before line after).symm⟩
  have hfails : consolidate (before ++ [line]) = .error violation :=
    (consolidate_of_ne_nil (List.concat_ne_nil line before)).trans hline
  refine ⟨before, line, ⟨hbegins, List.concat_ne_nil line before, ⟨violation, hfails⟩, ?_⟩,
    hfails, hblames⟩
  intro shorter hshorter hsome hlength
  rw [List.length_append, List.length_singleton, Nat.lt_succ_iff] at hlength
  rw [consolidate_of_ne_nil hsome]
  exact exists_mergeAll_of_prefix (List.prefix_of_prefix_length_le hshorter
    (List.prefix_append before _) hlength) hbefore

/-! ## All that consolidation does -/

/-- Consolidating lines succeeds exactly if their sums are quantities, and then comes to these
sums; it fails as the shortest beginning does that cannot be consolidated. -/
theorem consolidate_meets_sums (lines : List ReservationLine) :
    ((∃ merged, consolidate lines = .ok merged) ↔
      lines ≠ [] ∧ (∀ line ∈ lines, 0 < line.quantity.value) ∧
        ∀ product, asked lines product ≤ Quantity.maximum) ∧
    (∀ merged, consolidate lines = .ok merged →
      (products merged).Nodup ∧
      products merged = (products lines).eraseDups ∧
      (∀ line ∈ merged, line.quantity.value = asked lines line.product) ∧
      consolidate merged = .ok merged ∧
      ∀ reordered, reordered.Perm lines →
        ∃ other, consolidate reordered = .ok other ∧ other.Perm merged) ∧
    ∀ violation, consolidate lines = .error violation →
      (lines = [] → violation = .emptyReservation) ∧
      (lines ≠ [] → ∃ before line, ShortestFailing lines (before ++ [line]) ∧
        consolidate (before ++ [line]) = .error violation ∧ Blames before line violation) := by
  refine ⟨exists_consolidate_iff, fun merged hmerged => ?_, fun violation herror => ?_⟩
  · have hmerges := merges_of_consolidate hmerged
    exact ⟨hmerges.distinct, hmerges.products, fun line => hmerges.quantity_eq,
      consolidate_consolidated hmerged, fun reordered => consolidate_perm hmerged⟩
  · refine ⟨?_, fun hnonempty => shortestFailing_of_error hnonempty herror⟩
    rintro rfl
    cases herror
    rfl

end Stockroom.ReservationLine
