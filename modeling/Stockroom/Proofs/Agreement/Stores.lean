import Stockroom.Proofs.Agreement.Sweeps
import Stockroom.Proofs.Database.Decoding
import Stockroom.Proofs.Time.Holds

/-!
# The two stores agree

The same sequence of operations and sweeps, carried out from empty stores over
the one in memory and over a database, has the same results, and after each
operation the tables stand for what the store in memory holds.  It is of no
account in which order either store keeps what it holds.

A sweep expires what it fetches in the order of the deadlines, and where two
deadlines are equal the stores need not list them in the same order.  Giving
back is refused where a record has no room for the units, so that of two such
reservations one or the other can be left pending.
-/

namespace Stockroom

/-! ## Sequences that agree -/

/-- The same reservations up to the order of equal deadlines, or the same failure. -/
def SameListings : (listing other : Except CallFailure (List Reservation)) → Prop
  | .ok found, .ok others => SameUpToTies Reservation.expiresAt found others
  | listing, other => listing = other

namespace Operation

/-- Whether an operation fetches overdue reservations. -/
def FetchesOverdue : Operation → Prop
  | .overdue _ _ | .sweep _ _ => True
  | _ => False

/-- The result of an operation in memory and its result over a database are alike. -/
def Agree : (operation : Operation) → (result other : Except CallFailure operation.Value) → Prop
  | .overdue _ _ => SameListings
  | _ => (· = ·)

end Operation

namespace FreeStep

/-- An operation with ordinary arguments, at times of whole microseconds. -/
structure IsOrdinary (step : FreeStep) : Prop where
  operation : step.operation.IsOrdinary
  readings : ∀ index, (step.given.readings index).clock.IsWhole

/-- No batch limit cuts a tie of deadlines, and a sweep leaves no reservation pending that it
fetched together with another of the same deadline. -/
def KeepsTies (settings : ServiceSettings) (service : MemoryService) (step : FreeStep) : Prop :=
  match step.operation with
  | .overdue asOf limit => service.store.CutsNoTie asOf limit
  | .sweep now batch => service.store.CutsNoTie now batch ∧
      Sweep.SettlesTies (step.given.listing.found service.store now batch)
        (step.perform settings service).2.store
  | _ => True

end FreeStep

/-- Every operation of a sequence keeps ties together. -/
def MemoryService.KeepsTies (settings : ServiceSettings) (service : MemoryService) :
    List FreeStep → Prop
  | [] => True
  | step :: rest =>
    step.KeepsTies settings service ∧ KeepsTies settings (step.perform settings service).2 rest

/-! ## Holds -/

/-- A configured hold is a whole number of microseconds. -/
theorem Settings.holdFor_whole {settings : Settings} {given : Settings.ForService}
    (hgiven : settings.forService = .ok given) :
    given.service.holdFor.nanoseconds % 1000 = 0 := by
  rw [(hold_of_forService hgiven).2]
  change settings.reservationTtlSecs * 1000000000 % 1000 = 0
  omega

/-! ## One operation -/

section Related

variable {settings : ServiceSettings} {drawn : Option Uuid} {service : MemoryService}
  {twin : DatabaseService}

/-- Each operation counts its requests anew. -/
theorem Related.restart {state : MemoryService × Nat} {twin : DatabaseService × Nat}
    (hrelated : Related drawn state twin) : Related drawn (state.1, 0) (twin.1, 0) :=
  ⟨rfl, hrelated.around, hrelated.store, hrelated.drawn, hrelated.reachable⟩

theorem Related.start (lockTimeout : Nat) (lifetime : Option Nat) (clock : Instant)
    (supply : Nat → Uuid) :
    Related none (.start lifetime clock supply, 0)
      (.start lockTimeout lifetime clock supply, 0) where
  count := rfl
  around := Surroundings.Matches.rfl
  store := ⟨.empty, ∅, ⟨rfl, rfl, rfl, rfl⟩, Database.Contents.Mirrors.empty ∅, nofun⟩
  drawn := nofun
  reachable := .empty

theorem Related.decodes {state : MemoryService × Nat} {twin : DatabaseService × Nat}
    (hrelated : Related drawn state twin) :
    twin.1.database.tables.DecodesTo state.1.store := by
  obtain ⟨contents, ids, hidle, hmirrors, _⟩ := hrelated.store
  exact hidle.tables ▸ hmirrors.decodes

/-- What asks for nothing that the stores may list in different orders does the same over both. -/
theorem Operation.alike (hholdFor : settings.holdFor.nanoseconds % 1000 = 0)
    {given : Circumstances} (hreadings : ∀ index, (given.readings index).clock.IsWhole)
    {operation : Operation} (hordinary : operation.IsOrdinary)
    (hother : ¬ operation.FetchesOverdue) :
    Alike given (· = ·) (operation.call settings).run (operation.call settings).run := by
  have hreads : Service.PermitsReads ServiceCall.fitting := ServiceCall.fitting_permitsReads
  have hfits (call : ServiceCall operation.Value) (hcall : call.Fits) :
      Alike given (· = ·) call.run call.run := hcall.alike hreadings
  cases operation with
  | bulkCheck lines => exact alike_bulkCheck hreadings lines
  | overdue asOf limit | sweep now batch => exact absurd trivial hother
  | create product initial threshold => exact hfits _ (.create product initial threshold)
  | get product => exact hfits _ fun _ => Service.get_conforms hreads product
  | check product quantity => exact hfits _ fun _ => Service.check_conforms hreads product quantity
  | adjust product kind quantity => exact hfits _ (.adjust product kind quantity)
  | setThreshold product threshold => exact hfits _ (.setThreshold product threshold)
  | delete product => exact hfits _ (.delete product)
  | lowStock threshold request => exact hfits _ (.lowStock threshold hordinary)
  | reserve orderId lines => exact hfits _ (.reserve hholdFor orderId hordinary)
  | confirm id => exact hfits _ (.resolveNow id .confirm)
  | release id => exact hfits _ (.resolveNow id .release)
  | expire id now => exact hfits _ (.resolve id .expire hordinary)
  | getReservation id => exact hfits _ fun _ => Service.getReservation_conforms hreads id

/-- An operation that keeps ties together has the same result over both stores, and leaves related
services behind. -/
theorem FreeStep.related (hholdFor : settings.holdFor.nanoseconds % 1000 = 0) {step : FreeStep}
    (hrelated : Related drawn (service, 0) (twin, 0)) (hordinary : step.IsOrdinary)
    (hties : step.KeepsTies settings service)
    (horderly : (step.performStored settings twin).2.Orderly) :
    step.operation.Agree (step.perform settings service).1 (step.performStored settings twin).1 ∧
      ∃ last, Related last ((step.perform settings service).2, 0)
        ((step.performStored settings twin).2, 0) := by
  rcases step with ⟨operation, given⟩
  obtain ⟨hoperation, hreadings⟩ := hordinary
  cases operation with
  | overdue asOf limit =>
    obtain ⟨found, last, hstored, hswapped, hlast⟩ :=
      related_overdue hrelated hoperation hties horderly
    let stored := FreeStep.performStored settings ⟨.overdue asOf limit, given⟩ twin
    have hresult : stored.1 = .ok found := congrArg Prod.fst hstored
    have hservice : stored.2 = last.1 := congrArg (·.2.1) hstored
    rw [hresult, hservice]
    exact ⟨hswapped.same, none, hlast.restart⟩
  | sweep now batch =>
    obtain ⟨hcuts, hsettles⟩ := hties
    obtain ⟨hsame, last, hlast⟩ :=
      related_sweep hreadings hrelated hoperation hcuts hsettles horderly
    exact ⟨hsame, last, hlast.restart⟩
  | _ =>
    obtain ⟨hsame, last, hlast⟩ :=
      Operation.alike hholdFor hreadings hoperation id drawn (service, 0) (twin, 0) hrelated
        horderly
    exact ⟨hsame, last, hlast.restart⟩

/-! ## Sequences of operations -/

/-- Every step of a sequence from related services on. -/
theorem agree_of_related (hholdFor : settings.holdFor.nanoseconds % 1000 = 0) {steps : List FreeStep}
    (hrelated : Related drawn (service, 0) (twin, 0)) (hordinary : ∀ step ∈ steps, step.IsOrdinary)
    (hties : service.KeepsTies settings steps) (horderly : (twin.after settings steps).Orderly)
    {earlier later : List FreeStep} {step : FreeStep} (hsteps : steps = earlier ++ step :: later) :
    step.operation.Agree (step.perform settings (service.afterFree settings earlier)).1
        (step.performStored settings (twin.after settings earlier)).1 ∧
      (step.performStored settings (twin.after settings earlier)).2.database.tables.DecodesTo
        (step.perform settings (service.afterFree settings earlier)).2.store := by
  induction earlier generalizing drawn service twin steps with
  | nil =>
    subst hsteps
    obtain ⟨hagree, last, hlast⟩ := FreeStep.related hholdFor hrelated
      (hordinary step List.mem_cons_self) hties.1 (DatabaseService.orderly_of_after horderly)
    exact ⟨hagree, hlast.decodes⟩
  | cons first earlier ih =>
    subst hsteps
    obtain ⟨hfirst, hrest⟩ := List.forall_mem_cons.1 hordinary
    obtain ⟨_, last, hlast⟩ :=
      FreeStep.related hholdFor hrelated hfirst hties.1 (DatabaseService.orderly_of_after horderly)
    exact ih hlast hrest hties.2 horderly rfl

end Related

/-- Carried out over both stores from empty ones, every operation of a sequence has the same result
and leaves tables behind that stand for what the store in memory holds, in whatever order the one
meets reservations and the other keeps its rows. -/
theorem stores_agree (settings : ServiceSettings)
    (hholdFor : settings.holdFor.nanoseconds % 1000 = 0) (lockTimeout : Nat)
    (lifetime : Option Nat) (clock : Instant) (supply : Nat → Uuid) (steps : List FreeStep)
    (hordinary : ∀ step ∈ steps, step.IsOrdinary)
    (hties : (MemoryService.start lifetime clock supply).KeepsTies settings steps)
    (horderly : ((DatabaseService.start lockTimeout lifetime clock supply).after settings
      steps).Orderly) :
    ∀ earlier step later, steps = earlier ++ step :: later →
      let service := (MemoryService.start lifetime clock supply).afterFree settings earlier
      let twin := (DatabaseService.start lockTimeout lifetime clock supply).after settings earlier
      step.operation.Agree (step.perform settings service).1
          (step.performStored settings twin).1 ∧
        (step.performStored settings twin).2.database.tables.DecodesTo
          (step.perform settings service).2.store :=
  fun _ _ _ hsteps => agree_of_related hholdFor (.start lockTimeout lifetime clock supply)
    hordinary hties horderly hsteps

/-- Two reservations with one deadline, which the stores list the other way round, are both given
back. -/
theorem stores_agree_of_tie :
    let settings : ServiceSettings := ⟨⟨900000000000⟩⟩
    let moment : ClockReading := ⟨0, .epoch, .epoch⟩
    let later : Instant := ⟨3600, 0, by decide⟩
    let supply : Nat → Uuid := fun index => .ofNat (9 - index)
    let plain (operation : Operation) : FreeStep := ⟨operation, .plain fun _ => moment⟩
    let earlier : List FreeStep := [plain (.create "cup" (some 9) none),
      plain (.create "cup" (some 1) none), plain (.reserve "one" [⟨"cup", 3⟩]),
      plain (.reserve "two" [⟨"cup", 1⟩, ⟨"cup", 1⟩])]
    let sweep : FreeStep := plain (.sweep later 10)
    let service := (MemoryService.start none .epoch supply).afterFree settings earlier
    let twin := (DatabaseService.start 5000 none .epoch supply).after settings earlier
    (∀ step ∈ earlier ++ [sweep], step.IsOrdinary) ∧
      (MemoryService.start none .epoch supply).KeepsTies settings (earlier ++ [sweep]) ∧
      ((DatabaseService.start 5000 none .epoch supply).after settings
        (earlier ++ [sweep])).Orderly ∧
      sweep.operation.Agree (sweep.perform settings service).1
        (sweep.performStored settings twin).1 ∧
      (sweep.performStored settings twin).2.database.tables.DecodesTo
        (sweep.perform settings service).2.store := by
  intro settings moment later supply plain earlier sweep service twin
  have hplain : moment.clock.IsWhole := ⟨(by decide : 0 < 1000000000), rfl⟩
  have hlater : later.IsWhole := ⟨(by decide : 0 < 1000000000), rfl⟩
  have hordinary : ∀ step ∈ earlier ++ [sweep], step.IsOrdinary := by
    simp only [earlier, List.cons_append, List.nil_append, List.forall_mem_cons]
    exact ⟨⟨trivial, fun _ => hplain⟩, ⟨trivial, fun _ => hplain⟩,
      ⟨(by decide : 1 < 2147483648), fun _ => hplain⟩,
      ⟨(by decide : 2 < 2147483648), fun _ => hplain⟩, ⟨hlater, fun _ => hplain⟩,
      List.forall_mem_nil _⟩
  have hcuts : service.store.CutsNoTie later 10 := by decide +kernel
  have hsettles : Sweep.SettlesTies (sweep.given.listing.found service.store later 10)
      (sweep.perform settings service).2.store := by decide +kernel
  have hsweep : sweep.KeepsTies settings service := ⟨hcuts, hsettles⟩
  have hties : (MemoryService.start none .epoch supply).KeepsTies settings (earlier ++ [sweep]) :=
    ⟨trivial, trivial, trivial, trivial, hsweep, trivial⟩
  have horderly : ((DatabaseService.start 5000 none .epoch supply).after settings
      (earlier ++ [sweep])).Orderly :=
    ⟨by decide +kernel, by decide +kernel⟩
  have hdefault : (Settings.ofTexts Setting.defaultText).forService = .ok ⟨settings, some 30⟩ := rfl
  have hholdFor : settings.holdFor.nanoseconds % 1000 = 0 := Settings.holdFor_whole hdefault
  obtain ⟨hresult, hdecodes⟩ := stores_agree settings hholdFor 5000 none .epoch supply
    (earlier ++ [sweep]) hordinary hties horderly earlier sweep [] rfl
  rw [show (MemoryService.start none .epoch supply).afterFree settings earlier = service from rfl,
    show (DatabaseService.start 5000 none .epoch supply).after settings earlier = twin from rfl]
    at hdecodes
  exact ⟨hordinary, hties, horderly, hresult, hdecodes⟩

/-- The conditions are needed.  Of three reservations with one deadline, not all of which can be
given back, the stores give back different ones; and a column keeps neither a leap second nor a
fraction of a microsecond that a hold brings in. -/
theorem stores_part :
    let settings : ServiceSettings := ⟨⟨900000000000⟩⟩
    let moment : ClockReading := ⟨0, .epoch, .epoch⟩
    let later : Instant := ⟨3600, 0, by decide⟩
    let leap : ClockReading := ⟨0, ⟨59, 1000000000, by decide⟩, .epoch⟩
    let supply : Nat → Uuid := fun index => .ofNat (9 - index)
    let memory := MemoryService.start none .epoch supply
    let stored := DatabaseService.start 5000 none .epoch supply
    let plain (operation : Operation) : FreeStep := ⟨operation, .plain fun _ => moment⟩
    let order (id : String) (quantity : Int) : FreeStep := plain (.reserve id [⟨"cup", quantity⟩])
    let filled : List FreeStep := [plain (.create "cup" (some 9) none), order "one" 3,
      order "two" 2, order "three" 2, plain (.adjust "cup" "SET" 2147483643)]
    let sweep : FreeStep := plain (.sweep later 10)
    let opened : List FreeStep := [⟨.create "cup" (some 9) none, .plain fun _ => leap⟩]
    let held : List FreeStep := [plain (.create "cup" (some 9) none), order "one" 3]
    ((∀ step ∈ filled ++ [sweep], step.IsOrdinary) ∧
      (stored.after settings (filled ++ [sweep])).Orderly ∧
      (memory.afterFree settings filled).store.CutsNoTie later 10 ∧
      (sweep.perform settings (memory.afterFree settings filled)).1.toOption = some ⟨3, 2, 0, 1⟩ ∧
      (sweep.performStored settings (stored.after settings filled)).1.toOption =
        some ⟨3, 1, 0, 2⟩ ∧
      ¬ (stored.after settings (filled ++ [sweep])).database.tables.DecodesTo
        (memory.afterFree settings (filled ++ [sweep])).store) ∧
    (leap.clock.nanos % 1000 = 0 ∧ (stored.after settings opened).Orderly ∧
      ¬ (stored.after settings opened).database.tables.DecodesTo
        (memory.afterFree settings opened).store) ∧
    ((∀ step ∈ held, step.IsOrdinary) ∧ (stored.after ⟨⟨500⟩⟩ held).Orderly ∧
      ¬ (stored.after ⟨⟨500⟩⟩ held).database.tables.DecodesTo
        (memory.afterFree ⟨⟨500⟩⟩ held).store) := by
  intro settings moment later leap supply memory stored plain order filled sweep opened held
  have hplain : moment.clock.IsWhole := ⟨(by decide : 0 < 1000000000), rfl⟩
  have hlater : later.IsWhole := ⟨(by decide : 0 < 1000000000), rfl⟩
  have horder (id : String) (quantity : Int) : (order id quantity).IsOrdinary :=
    ⟨(by decide : 1 < 2147483648), fun _ => hplain⟩
  have hcreate : (plain (.create "cup" (some 9) none)).IsOrdinary := ⟨trivial, fun _ => hplain⟩
  have hfilled : ∀ step ∈ filled ++ [sweep], step.IsOrdinary := by
    simp only [filled, List.cons_append, List.nil_append, List.forall_mem_cons]
    exact ⟨hcreate, horder _ _, horder _ _, horder _ _, ⟨trivial, fun _ => hplain⟩,
      ⟨hlater, fun _ => hplain⟩, List.forall_mem_nil _⟩
  have hheld : ∀ step ∈ held, step.IsOrdinary := by
    simp only [held, List.forall_mem_cons]
    exact ⟨hcreate, horder _ _, List.forall_mem_nil _⟩
  refine ⟨⟨hfilled, ⟨?_, ?_⟩, ?_, ?_, ?_, ?_⟩, ⟨?_, ⟨?_, ?_⟩, ?_⟩, hheld, ⟨?_, ?_⟩, ?_⟩ <;>
    decide +kernel

end Stockroom
