import Stockroom.Proofs.SortedMap
import Stockroom.Proofs.Stock.Lines
import Stockroom.Store.Hold

/-!
# Changing the records of lines

Holding a reservation and resolving it both go through its lines and change
the record of each.  When the lines name distinct products, the result can be
described without an order: every line finds its own record as it was, and no
other record changes.
-/

namespace Stockroom.WorkingCopy

variable {edit : ReservationLine → StockRecord → Except StockError StockRecord}

/-- Changes the records of lines one after another. -/
def editLines (edit : ReservationLine → StockRecord → Except StockError StockRecord)
    (copy : WorkingCopy) : List ReservationLine → Except StockError WorkingCopy
  | [] => .ok copy
  | line :: rest => do
    let record ← copy.lookup line.product
    let updated ← edit line record
    editLines edit (copy.insert line.product updated) rest

/-- What holding does to the record of a line. -/
def holdEdit (now : Instant) (line : ReservationLine) (record : StockRecord) :
    Except StockError StockRecord := do
  unless record.canFulfil line.quantity do throw (.shortOf line.product)
  (record.reserve line.quantity now).mapError .violation

/-- What a resolution does to the record of a line. -/
def resolveEdit (resolution : Resolution) (now : Instant) (line : ReservationLine)
    (record : StockRecord) : Except StockError StockRecord :=
  (record.resolve resolution line.quantity now).mapError .violation

theorem holdEdit_eq_ok_iff {now : Instant} {line : ReservationLine}
    {record updated : StockRecord} :
    holdEdit now line record = .ok updated ↔ record.reserve line.quantity now = .ok updated := by
  simp only [holdEdit]
  cases hfulfil : record.canFulfil line.quantity with
  | true => exact mapError_eq_ok_iff
  | false =>
    have hshort : ¬ line.quantity.value ≤ record.available.value := by
      rw [← StockRecord.canFulfil_iff, hfulfil]
      exact Bool.false_ne_true
    rw [StockRecord.reserve_eq_ok_iff]
    constructor
    · intro hthrow
      cases hthrow
    · rintro ⟨_, havailable, _⟩
      exact absurd havailable hshort

theorem product_of_holdEdit {now : Instant} {line : ReservationLine} {record updated : StockRecord}
    (hedit : holdEdit now line record = .ok updated) :
    updated.product = record.product := by
  obtain ⟨_, _, _, _, _, _, rfl⟩ :=
    StockRecord.reserve_eq_ok_iff.1 (holdEdit_eq_ok_iff.1 hedit)
  rfl

theorem product_of_resolveEdit {resolution : Resolution} {now : Instant} {line : ReservationLine}
    {record updated : StockRecord}
    (hedit : resolveEdit resolution now line record = .ok updated) :
    updated.product = record.product := by
  have hresolve := mapError_eq_ok_iff.1 hedit
  cases resolution with
  | confirm =>
    obtain ⟨_, _, _, _, rfl⟩ := StockRecord.confirm_eq_ok_iff.1 hresolve
    rfl
  | release | expire =>
    obtain ⟨_, _, _, _, _, _, rfl⟩ := StockRecord.release_eq_ok_iff.1 hresolve
    rfl

theorem lookup_eq_ok_iff {copy : WorkingCopy} {product : ProductId} {record : StockRecord} :
    copy.lookup product = .ok record ↔ copy.find? product = some record := by
  cases hfound : copy.find? product <;> simp [lookup, hfound]

theorem holdLines_eq (copy : WorkingCopy) (now : Instant) (lines : List ReservationLine) :
    copy.holdLines now lines = copy.editLines (holdEdit now) lines := by
  induction lines generalizing copy with
  | nil => rfl
  | cons line rest ih =>
    simp only [holdLines, holdLine, editLines, holdEdit]
    cases copy.lookup line.product with
    | error error => rfl
    | ok record =>
      simp only [ok_bind]
      cases record.canFulfil line.quantity with
      | false => rfl
      | true =>
        cases record.reserve line.quantity now with
        | error violation => rfl
        | ok updated => exact ih _

theorem resolveLines_eq (copy : WorkingCopy) (resolution : Resolution) (now : Instant)
    (lines : List ReservationLine) :
    copy.resolveLines resolution now lines = copy.editLines (resolveEdit resolution now) lines := by
  induction lines generalizing copy with
  | nil => rfl
  | cons line rest ih =>
    simp only [resolveLines, resolveLine, editLines, resolveEdit]
    cases copy.lookup line.product with
    | error error => rfl
    | ok record =>
      simp only [ok_bind]
      cases record.resolve resolution line.quantity now with
      | error violation => rfl
      | ok updated => exact ih _

/-- Each line was edited on some record, where all of them were. -/
theorem edit_of_editLines {copy edited : WorkingCopy} {lines : List ReservationLine}
    (hedited : copy.editLines edit lines = .ok edited) {line : ReservationLine}
    (hmem : line ∈ lines) : ∃ record updated, edit line record = .ok updated := by
  induction lines generalizing copy with
  | nil => cases hmem
  | cons first rest ih =>
    simp only [editLines, bind_eq_ok_iff] at hedited
    obtain ⟨record, _, updated, hupdated, hrest⟩ := hedited
    rcases List.mem_cons.1 hmem with rfl | hlater
    · exact ⟨record, updated, hupdated⟩
    · exact ih hrest hlater

/-- Every line has changed its own record, and nothing else has changed. -/
structure Edited (edit : ReservationLine → StockRecord → Except StockError StockRecord)
    (lines : List ReservationLine) (before after : ProductId → Option StockRecord) : Prop where
  changed : ∀ line ∈ lines, ∃ record updated, before line.product = some record ∧
    edit line record = .ok updated ∧ after line.product = some updated
  kept : ∀ product, product ∉ ReservationLine.products lines → after product = before product

theorem edited_cons_iff {line : ReservationLine} {rest : List ReservationLine}
    {copy edited : WorkingCopy} {record updated : StockRecord}
    (hdistinct : line.product ∉ ReservationLine.products rest)
    (hfound : copy.find? line.product = some record) (hedit : edit line record = .ok updated) :
    Edited edit rest (copy.insert line.product updated).find? edited.find? ↔
      Edited edit (line :: rest) copy.find? edited.find? := by
  have hother {other : ReservationLine} (hmem : other ∈ rest) : line.product ≠ other.product :=
    fun heq => hdistinct (heq ▸ List.mem_map_of_mem hmem)
  constructor
  · rintro ⟨hchanged, hkept⟩
    refine ⟨List.forall_mem_cons.2 ⟨⟨record, updated, hfound, hedit, ?_⟩, ?_⟩, ?_⟩
    · simpa using hkept line.product hdistinct
    · intro other hmem
      simpa [hother hmem] using hchanged other hmem
    · intro product habsent
      simp only [ReservationLine.products_cons, List.mem_cons, not_or] at habsent
      simpa [Ne.symm habsent.1] using hkept product habsent.2
  · rintro ⟨hchanged, hkept⟩
    obtain ⟨hfirst, hrest⟩ := List.forall_mem_cons.1 hchanged
    refine ⟨fun other hmem => ?_, fun product habsent => ?_⟩
    · simpa [hother hmem] using hrest other hmem
    · by_cases hproduct : line.product = product
      · obtain ⟨first, second, hfirstFound, hfirstEdit, hfirstAfter⟩ := hfirst
        obtain rfl : record = first := Option.some.inj (hfound.symm.trans hfirstFound)
        obtain rfl : updated = second := Except.ok.inj (hedit.symm.trans hfirstEdit)
        simpa [hproduct] using hproduct ▸ hfirstAfter
      · have hout : product ∉ ReservationLine.products (line :: rest) := by
          simp only [ReservationLine.products_cons, List.mem_cons, not_or]
          exact ⟨Ne.symm hproduct, habsent⟩
        simpa [hproduct] using hkept product hout

/-- Lines of distinct products are edited as if each were alone. -/
theorem editLines_eq_ok_iff {copy edited : WorkingCopy} {lines : List ReservationLine}
    (hdistinct : (ReservationLine.products lines).Nodup) :
    copy.editLines edit lines = .ok edited ↔ Edited edit lines copy.find? edited.find? := by
  induction lines generalizing copy with
  | nil =>
    constructor
    · intro hok
      cases hok
      exact ⟨by simp, fun _ _ => rfl⟩
    · intro hedited
      have hsame : edited = copy :=
        SortedMap.ext_find? fun product => hedited.kept product (by simp)
      rw [hsame]
      rfl
  | cons line rest ih =>
    obtain ⟨hline, hrest⟩ := List.nodup_cons.1 hdistinct
    simp only [editLines, bind_eq_ok_iff, lookup_eq_ok_iff]
    constructor
    · rintro ⟨record, hfound, updated, hedit, hok⟩
      exact (edited_cons_iff hline hfound hedit).1 ((ih hrest).1 hok)
    · intro hedited
      obtain ⟨record, updated, hfound, hedit, _⟩ := hedited.changed line (by simp)
      exact ⟨record, hfound, updated, hedit,
        (ih hrest).2 ((edited_cons_iff hline hfound hedit).2 hedited)⟩

/-- Every record stands under its own product. -/
def Keyed (copy : WorkingCopy) : Prop :=
  ∀ product record, copy.find? product = some record → record.product = product

theorem Keyed.products_values {copy : WorkingCopy} (hkeyed : copy.Keyed) :
    copy.values.map StockRecord.product = copy.entries.map Prod.fst :=
  SortedMap.map_values_eq hkeyed

theorem Keyed.distinct {copy : WorkingCopy} (hkeyed : copy.Keyed) :
    (copy.values.map StockRecord.product).Nodup := by
  rw [hkeyed.products_values]
  exact List.pairwise_map.2 copy.keys_distinct

theorem Keyed.find?_values {copy : WorkingCopy} (hkeyed : copy.Keyed) (product : ProductId) :
    copy.values.find? (·.product == product) = copy.find? product := by
  cases hfound : copy.values.find? (·.product == product) with
  | none =>
    cases hlookup : copy.find? product with
    | none => rfl
    | some record =>
      have hmem : record ∈ copy.values := SortedMap.mem_values_iff.2 ⟨product, hlookup⟩
      have hne := List.find?_eq_none.1 hfound record hmem
      simp [hkeyed product record hlookup] at hne
  | some record =>
    obtain ⟨key, hlookup⟩ := SortedMap.mem_values_iff.1 (List.mem_of_find?_eq_some hfound)
    have hproduct : record.product = product := by simpa using List.find?_some hfound
    rw [← hproduct, hkeyed key record hlookup, hlookup]

end Stockroom.WorkingCopy
