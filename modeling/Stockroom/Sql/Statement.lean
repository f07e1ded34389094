import Stockroom.Sql.Value

/-!
# Sql/Statement — statements as data

A `Statement` says what is to be read or written; its values stand in it where they belong.
`Statement.sql` is its text, with a placeholder for each value, and `Statement.arguments` lists the
values in the order of the placeholders.
-/

namespace Stockroom.Sql

/-- What a row has to meet. -/
inductive Condition where
  | equals (column : String) (value : Value)
  | before (column : String) (value : Value)
  | among (column : String) (values : List Value)
  | isNull (column : String)
  | atMost (column other : String)
deriving DecidableEq, Repr

/-- How a cell changes. -/
inductive Assignment where
  | replace (column : String) (value : Value)
  | increase (column : String) (value : Value)
  | succeed (column : String)
deriving DecidableEq, Repr

/-- The order of rows by one column. -/
inductive Sorting where
  | ascending (column : String)
  | descending (column : String)
deriving DecidableEq, Repr

/-- How many rows are wanted, and how many come before them. -/
inductive Window where
  | all
  | first (limit : Nat)
  | slice (limit offset : Nat)
deriving DecidableEq, Repr

/-- What a database is asked to do. -/
inductive Statement where
  | select (columns : List String) (table : String) (conditions : List Condition)
      (sortings : List Sorting) (window : Window)
  | count (table : String) (conditions : List Condition)
  | insert (table : String) (row : Row)
  | update (table : String) (assignments : List Assignment) (conditions : List Condition)
  /-- Defines a table, in words of its own. -/
  | define (text : String)
deriving DecidableEq, Repr

def Condition.sql : Condition → String
  | equals column _ => s!"{column} = ?"
  | before column _ => s!"{column} < ?"
  | among column values => s!"{column} IN (" ++ ", ".intercalate (values.map fun _ => "?") ++ ")"
  | isNull column => s!"{column} IS NULL"
  | atMost column other => s!"{column} <= {other}"

def Condition.arguments : Condition → List Value
  | equals _ value | before _ value => [value]
  | among _ values => values
  | isNull _ | atMost .. => []

def Assignment.sql : Assignment → String
  | replace column _ => s!"{column} = ?"
  | increase column _ => s!"{column} = {column} + ?"
  | succeed column => s!"{column} = {column} + 1"

def Assignment.arguments : Assignment → List Value
  | replace _ value | increase _ value => [value]
  | succeed _ => []

def Sorting.sql : Sorting → String
  | ascending column => s!"{column} ASC"
  | descending column => s!"{column} DESC"

def Window.sql : Window → String
  | all => ""
  | first _ => " LIMIT ?"
  | slice .. => " LIMIT ? OFFSET ?"

def Window.arguments : Window → List Value
  | all => []
  | first limit => [.int limit]
  | slice limit offset => [.int limit, .int offset]

namespace Statement

def whereClause (conditions : List Condition) : String :=
  " WHERE " ++ " AND ".intercalate (conditions.map Condition.sql)

def orderClause (sortings : List Sorting) : String :=
  if sortings.isEmpty then "" else " ORDER BY " ++ ", ".intercalate (sortings.map Sorting.sql)

/-- **The text of a statement.** -/
def sql : Statement → String
  | select columns table conditions sortings window =>
    "SELECT " ++ ", ".intercalate columns ++ " FROM " ++ table ++ whereClause conditions ++
      orderClause sortings ++ window.sql
  | count table conditions => "SELECT COUNT(*) FROM " ++ table ++ whereClause conditions
  | insert table row =>
    "INSERT INTO " ++ table ++ " (" ++ ", ".intercalate (row.map Prod.fst) ++ ") VALUES (" ++
      ", ".intercalate (row.map fun _ => "?") ++ ")"
  | update table assignments conditions =>
    "UPDATE " ++ table ++ " SET " ++ ", ".intercalate (assignments.map Assignment.sql) ++
      whereClause conditions
  | define text => text

/-- **The values for the placeholders**, in the order of the text. -/
def arguments : Statement → List Value
  | select _ _ conditions _ window => conditions.flatMap Condition.arguments ++ window.arguments
  | count _ conditions => conditions.flatMap Condition.arguments
  | insert _ row => row.map Prod.snd
  | update _ assignments conditions =>
    assignments.flatMap Assignment.arguments ++ conditions.flatMap Condition.arguments
  | define _ => []

/-- Whether all values of a statement can be written. -/
def isAdmitted {κ : Type} (s : Statement) (format : TimeFormat κ) : Bool := s.arguments.all format.admits

end Statement

end Stockroom.Sql
