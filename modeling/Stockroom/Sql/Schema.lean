import Stockroom.Sql.Link

/-!
# Sql/Schema — the tables of the database

The tables as data, and `Schema.migrate`, which defines those that are not there yet, one after the
other.
-/

namespace Stockroom.Sql

/-- What a column can hold. -/
inductive ColumnType where
  | int
  | bigInt
  | varChar (length : Nat)
  /-- A time with milliseconds. -/
  | dateTime
deriving DecidableEq, Repr

def ColumnType.sql : ColumnType → String
  | int => "INT"
  | bigInt => "BIGINT"
  | varChar length => s!"VARCHAR({length})"
  | dateTime => "DATETIME(3)"

/-- What a cell holds if nothing is said about it. -/
inductive Fallback where
  | number (value : Nat)
  | currentTime
  /-- The time of the last change of the row. -/
  | changeTime
  /-- The next number. -/
  | counter
deriving DecidableEq, Repr

def Fallback.sql : Fallback → String
  | number value => s!"DEFAULT {value}"
  | currentTime => "DEFAULT CURRENT_TIMESTAMP(3)"
  | changeTime => "DEFAULT CURRENT_TIMESTAMP(3) ON UPDATE CURRENT_TIMESTAMP(3)"
  | counter => "AUTO_INCREMENT PRIMARY KEY"

/-- A column of a table. -/
structure Column where
  name : String
  type : ColumnType
  isNullable : Bool
  fallback : Option Fallback
deriving DecidableEq, Repr

namespace Column

def sql (c : Column) : String :=
  s!"{c.name} {c.type.sql} " ++ (if c.isNullable then "NULL" else "NOT NULL") ++
    ((c.fallback.map fun f => " " ++ f.sql).getD "")

/-- A column that always holds something. -/
def filled (name : String) (type : ColumnType) : Column := ⟨name, type, false, none⟩

/-- A column that may be empty. -/
def nullable (name : String) (type : ColumnType) : Column := ⟨name, type, true, none⟩

/-- A column with a fallback. -/
def defaulted (name : String) (type : ColumnType) (fallback : Fallback) : Column :=
  ⟨name, type, false, some fallback⟩

/-- The column that numbers the rows. -/
def serial : Column := defaulted "id" .bigInt .counter

end Column

/-- What holds for all rows of a table together. -/
inductive TableRule where
  | unique (name : String) (columns : List String)
  | index (name : String) (columns : List String)
  | notNegative (name column : String)
  /-- Rows go away with the row of another table that they refer to. -/
  | reference (name column table : String)
deriving DecidableEq, Repr

def TableRule.sql : TableRule → String
  | unique name columns => s!"UNIQUE KEY {name} (" ++ ", ".intercalate columns ++ ")"
  | index name columns => s!"INDEX {name} (" ++ ", ".intercalate columns ++ ")"
  | notNegative name column => s!"CONSTRAINT {name} CHECK ({column} >= 0)"
  | reference name column table =>
    s!"CONSTRAINT {name} FOREIGN KEY ({column}) REFERENCES {table}(id) ON DELETE CASCADE"

/-- A table, and the name of the step that defines it. -/
structure TableDefinition where
  step : String
  name : String
  columns : List Column
  rules : List TableRule
deriving DecidableEq, Repr

/-- The statement that defines a table unless it is there. -/
def TableDefinition.statement (t : TableDefinition) : Statement :=
  .define <| s!"CREATE TABLE IF NOT EXISTS {t.name} ( " ++
    ", ".intercalate (t.columns.map Column.sql ++ t.rules.map TableRule.sql) ++
    " ) ENGINE=InnoDB DEFAULT CHARSET=utf8mb4;"

namespace Schema

open Column

def products : TableDefinition where
  step := "001_create_products_table"
  name := "products"
  columns := [
    serial,
    filled "name" (.varChar 255),
    filled "price" .bigInt,
    nullable "main_image" (.varChar 512),
    defaulted "created_at" .dateTime .currentTime,
    defaulted "updated_at" .dateTime .changeTime]
  rules := []

def inventories : TableDefinition where
  step := "002_create_inventories_table"
  name := "inventories"
  columns := [
    serial,
    filled "product_id" .bigInt,
    defaulted "available_stock" .int (.number 0),
    defaulted "reserved_stock" .int (.number 0),
    defaulted "low_stock_threshold" .int (.number 10),
    defaulted "version" .bigInt (.number 0),
    filled "created_at" .dateTime,
    filled "updated_at" .dateTime,
    nullable "deleted_at" .dateTime]
  rules := [
    .unique "uk_inventories_product_id" ["product_id"],
    .index "idx_inventories_available" ["available_stock"],
    .notNegative "chk_inventories_available" "available_stock",
    .notNegative "chk_inventories_reserved" "reserved_stock"]

def reservations : TableDefinition where
  step := "003_create_inventory_reservations_table"
  name := "inventory_reservations"
  columns := [
    serial,
    filled "product_id" .bigInt,
    filled "order_id" .bigInt,
    filled "quantity" .int,
    filled "status" (.varChar 16),
    filled "expires_at" .dateTime,
    filled "created_at" .dateTime,
    filled "updated_at" .dateTime]
  rules := [
    .unique "uk_reservations_product_order" ["product_id", "order_id"],
    .index "idx_reservations_status_expires" ["status", "expires_at"],
    .index "idx_reservations_order" ["order_id"]]

def entries : TableDefinition where
  step := "004_create_inventory_logs_table"
  name := "inventory_logs"
  columns := [
    serial,
    filled "product_id" .bigInt,
    nullable "order_id" .bigInt,
    filled "change_type" (.varChar 16),
    filled "quantity_change" .int,
    filled "before_available" .int,
    filled "after_available" .int,
    filled "before_reserved" .int,
    filled "after_reserved" .int,
    nullable "reason" (.varChar 255),
    nullable "operator_id" .bigInt,
    filled "created_at" .dateTime]
  rules := [.index "idx_inventory_logs_product" ["product_id", "created_at"]]

def orders : TableDefinition where
  step := "005_create_orders_table"
  name := "orders"
  columns := [
    serial,
    filled "order_no" (.varChar 32),
    filled "user_id" .bigInt,
    filled "total_amount" .bigInt,
    defaulted "discount_amount" .bigInt (.number 0),
    defaulted "shipping_fee" .bigInt (.number 0),
    filled "pay_amount" .bigInt,
    filled "status" (.varChar 16),
    filled "receiver_name" (.varChar 64),
    filled "receiver_phone" (.varChar 32),
    filled "receiver_address" (.varChar 255),
    nullable "receiver_zip_code" (.varChar 16),
    nullable "remark" (.varChar 255),
    nullable "paid_at" .dateTime,
    nullable "shipped_at" .dateTime,
    nullable "completed_at" .dateTime,
    nullable "cancelled_at" .dateTime,
    filled "created_at" .dateTime,
    filled "updated_at" .dateTime]
  rules := [
    .unique "uk_orders_order_no" ["order_no"],
    .index "idx_orders_user" ["user_id", "created_at"]]

def items : TableDefinition where
  step := "006_create_order_items_table"
  name := "order_items"
  columns := [
    serial,
    filled "order_id" .bigInt,
    filled "product_id" .bigInt,
    filled "product_name" (.varChar 255),
    nullable "product_image" (.varChar 512),
    filled "quantity" .int,
    filled "unit_price" .bigInt,
    filled "total_price" .bigInt,
    filled "created_at" .dateTime]
  rules := [
    .index "idx_order_items_order" ["order_id"],
    .reference "fk_order_items_order" "order_id" "orders"]

/-- All tables; one that is referred to comes first. -/
def tables : List TableDefinition := [products, inventories, reservations, entries, orders, items]

/-- Asks the client of the database; a failure is reported with the step it stopped. -/
def ask {α : Type} (step : String) (reply : Program Link (Except Failure α)) :
    ExceptT DatabaseError (Program Link) α :=
  ExceptT.mk <| Except.mapError (fun (failure : Failure) =>
    ⟨.migration, s!"Migration {step} failed: {failure.message}"⟩) <$> reply

/-- **Defines all tables.**  The first failure ends the work. -/
def migrate : ExceptT DatabaseError (Program Link) Unit :=
  tables.forM fun table => do
    ask table.step (Program.request (I := Link) .connect)
    let _ ← ask table.step (Program.request (I := Link) (.execute table.statement))

end Schema

end Stockroom.Sql
