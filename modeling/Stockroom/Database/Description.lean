import Stockroom.Database.RowJson
import Stockroom.Database.Store

/-!
# Descriptions of statements

A statement as a JSON object: what it does, to which table, with which columns
and conditions, and how it ended.
-/

namespace Stockroom.Database

/-- A condition on a column. -/
def condition (column operator : String) (value : Json) : Json :=
  .array [.string column, .string operator, value]

def equals (column : String) (value : Json) : Json :=
  condition column "=" value

/-- The columns that a statement sets: those without a value keep theirs. -/
def given (columns : List (String × Json)) (absent : List String) : Json :=
  .ofMembers (columns.filter (fun column => !absent.contains column.1))

def InventoryRow.absentColumns (row : InventoryRow) : List String :=
  if row.lastRestock.isNone then ["last_restock_date"] else []

def ProcessedRow.absentColumns (row : ProcessedRow) : List String :=
  (if row.result.isNone then ["result"] else []) ++
    (if row.processedAt.isNone then ["processed_at"] else [])

def lowStockConditions (bound : Option Int32) : Json :=
  .array [condition "available_quantity" ">" (.int 0),
    condition "available_quantity" "<=" (match bound with
      | some value => int32ToJson value
      | none => .ofMembers [("column", .string "low_stock_threshold")])]

def onTable (action table : String) (members : List (String × Json)) : List (String × Json) :=
  [("do", .string action), ("table", .string table)] ++ members

def inserting (table : String) (rows : List Json) : List (String × Json) :=
  onTable "insert" table [("rows", .array rows)]

def columnNames (names : List String) : Json :=
  .array (names.map Json.string)

namespace Statement

/-- What a statement does, with the values that it binds. -/
def members : Statement → List (String × Json)
  | begin => [("do", .string "begin")]
  | setLockTimeout milliseconds =>
    [("do", .string "set local"), ("lock_timeout", .nat milliseconds)]
  | commit => [("do", .string "commit")]
  | rollback => [("do", .string "rollback")]
  | insertInventory row => inserting "inventory" [given row.columns row.absentColumns]
  | findInventory product => onTable "select" "inventory"
      [("where", .array [equals "product_id" (.string product)]), ("limit", .int 1)]
  | lockInventory product => onTable "select" "inventory"
      [("where", .array [equals "product_id" (.string product)]), ("lock", .bool true)]
  | inventoryAmong products => onTable "select" "inventory"
      [("where", .array [condition "product_id" "in" (.array (products.map Json.string))])]
  | updateInventory row => onTable "update" "inventory"
      [("set", given row.columns ("id" :: row.absentColumns)),
       ("where", .array [equals "id" row.id.toJson])]
  | deleteInventory product => onTable "delete" "inventory"
      [("where", .array [equals "product_id" (.string product)])]
  | countLowStock bound => onTable "count" "inventory" [("where", lowStockConditions bound)]
  | lowStock bound limit offset => onTable "select" "inventory"
      [("where", lowStockConditions bound),
       ("order", columnNames ["available_quantity", "product_id"]),
       ("limit", .int limit), ("offset", .int offset)]
  | insertReservation row => inserting "reservations" [row.toJson]
  | findReservation id => onTable "select" "reservations"
      [("where", .array [equals "id" id.toJson]), ("limit", .int 1)]
  | lockReservation id => onTable "select" "reservations"
      [("where", .array [equals "id" id.toJson]), ("lock", .bool true)]
  | settleReservation id status updatedAt => onTable "update" "reservations"
      [("set", .ofMembers [("status", .string status), ("updated_at", updatedAt.toJson)]),
       ("where", .array [equals "id" id.toJson])]
  | overdueReservations asOf limit => onTable "select" "reservations"
      [("where", .array [equals "status" Status.pending.toJson,
          condition "expires_at" "<" asOf.toJson]),
       ("order", columnNames ["expires_at"]), ("limit", .nat limit)]
  | insertItems rows => inserting "reservation_items" (rows.map ItemRow.toJson)
  | itemsOf reservations => onTable "select" "reservation_items"
      [("where", .array [condition "reservation_id" "in" (.array (reservations.map Uuid.toJson))]),
       ("order", columnNames ["reservation_id", "position"])]
  | findProcessed key => onTable "select" "processed_commands"
      [("where", .array [equals "idempotency_key" (.string key)]), ("limit", .int 1)]
  | insertProcessed row => inserting "processed_commands" [given row.columns row.absentColumns]

end Statement

/-- An object with all of its values hidden. -/
def withoutValues : Json → Json
  | .object members => .object (members.map (fun member => (member.1, .null)))
  | other => other

/-- A condition with its value hidden. -/
def withoutRightSide : Json → Json
  | .array [column, operator, _] => .array [column, operator, .null]
  | other => other

/-- A part of a description with the values that were bound hidden.  A bound of a selection is
nothing but such a value. -/
def hideValues? (member : String × Json) : Option (String × Json) :=
  match member with
  | ("rows", .array rows) => some ("rows", .array (rows.map withoutValues))
  | ("set", columns) => some ("set", withoutValues columns)
  | ("where", .array conditions) => some ("where", .array (conditions.map withoutRightSide))
  | ("limit", _) | ("offset", _) => none
  | other => some other

/-- What a statement is seen to do: values that cannot be bound hide all of its values. -/
def Statement.seen (statement : Statement) : List (String × Json) :=
  if (bindingRefusal? statement).isSome then statement.members.filterMap hideValues?
  else statement.members

namespace Sent

/-- What was sent and how it ended. -/
def toJson (sent : Sent) : Json :=
  .ofMembers (sent.statement.seen ++ (match sent.ending with
    | .done => []
    | .lost => [("error", .string "dropped")]
    | .refused refusal => [("error", .string refusal.code)]))

end Sent

end Stockroom.Database
