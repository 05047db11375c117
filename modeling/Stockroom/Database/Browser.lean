import Stockroom.Database.Connection
import Stockroom.Database.RowJson
import Stockroom.Json.Edit

/-!
# Browsing tables

Rows of any table read, appended, changed and removed by hand, past the store
and past all constraints.  Rows are shown and chosen by their columns.
-/

namespace Stockroom.Database

namespace InventoryCells

def bound (cells : InventoryCells) : InventoryCells :=
  { cells with
    lastRestock := cells.lastRestock.map Instant.inColumn
    createdAt := cells.createdAt.map Instant.inColumn
    updatedAt := cells.updatedAt.map Instant.inColumn }

end InventoryCells

namespace ReservationCells

def bound (cells : ReservationCells) : ReservationCells :=
  { cells with
    expiresAt := cells.expiresAt.map Instant.inColumn
    createdAt := cells.createdAt.map Instant.inColumn
    updatedAt := cells.updatedAt.map Instant.inColumn }

end ReservationCells

namespace ProcessedCells

def bound (cells : ProcessedCells) : ProcessedCells :=
  { cells with processedAt := cells.processedAt.map Instant.inColumn }

end ProcessedCells

/-- How the rows of one table are shown, read and reached. -/
structure TableView where
  Row : Type
  encode : Row → Json
  decode : Decoder Row
  rows : Tables → List Row
  setRows : Tables → List Row → Tables

namespace TableView

def inventory : TableView where
  Row := InventoryCells
  encode := InventoryCells.toJson
  decode place source := (InventoryCells.decoder place source).map InventoryCells.bound
  rows := Tables.inventory
  setRows tables rows := { tables with inventory := rows }

def reservations : TableView where
  Row := ReservationCells
  encode := ReservationCells.toJson
  decode place source := (ReservationCells.decoder place source).map ReservationCells.bound
  rows := Tables.reservations
  setRows tables rows := { tables with reservations := rows }

def items : TableView where
  Row := ItemCells
  encode := ItemCells.toJson
  decode := ItemCells.decoder
  rows := Tables.items
  setRows tables rows := { tables with items := rows }

def processed : TableView where
  Row := ProcessedCells
  encode := ProcessedCells.toJson
  decode place source := (ProcessedCells.decoder place source).map ProcessedCells.bound
  rows := Tables.processed
  setRows tables rows := { tables with processed := rows }

/-- The tables by their names. -/
def named? : String → Option TableView
  | "inventory" => some inventory
  | "reservations" => some reservations
  | "reservation_items" => some items
  | "processed_commands" => some processed
  | _ => none

/-- All rows in the order of their insertion. -/
def list (view : TableView) (tables : Tables) : List Json :=
  (view.rows tables).map view.encode

def readRow (view : TableView) (row : Json) : Except DecodeError view.Row :=
  view.decode .ofValue (JsonSource.ofJson row)

/-- Appends a row.  Cells that are not given are empty. -/
def append (view : TableView) (tables : Tables) (row : Json) : Except DecodeError Tables := do
  return view.setRows tables (view.rows tables ++ [← view.readRow row.readBack])

/-- Whether a row has all of the given columns. -/
def isChosen (view : TableView) (columns : List (String × Json)) (row : view.Row) : Bool :=
  columns.all (fun column =>
    ((view.encode row).memberOrNull column.1).isWrittenAs column.2)

def countChosen (view : TableView) (tables : Tables) (columns : List (String × Json)) : Nat :=
  ((view.rows tables).filter (view.isChosen columns)).length

/-- Sets columns of the chosen rows. -/
def update (view : TableView) (tables : Tables) (columns changed : List (String × Json)) :
    Except DecodeError Tables := do
  let given := changed.map (fun column => (column.1, column.2.readBack))
  let rows ← (view.rows tables).mapM (fun row =>
    if view.isChosen columns row then view.readRow ((view.encode row).withMembers given)
    else .ok row)
  return view.setRows tables rows

/-- Removes the chosen rows. -/
def remove (view : TableView) (tables : Tables) (columns : List (String × Json)) : Tables :=
  view.setRows tables ((view.rows tables).filter (fun row => !view.isChosen columns row))

end TableView

end Stockroom.Database
