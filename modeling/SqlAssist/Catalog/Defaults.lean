import SqlAssist.Catalog.Schema
import SqlAssist.Text.OrderedMap

/-!
# Default tables

The keywords, operators and functions that are offered when a catalog brings none of its own, and
the editor language of each database.
-/

namespace SqlAssist.Defaults

/-- The SQL keywords. -/
def keywords : List Text :=
  ["SELECT", "FROM", "WHERE", "GROUP BY", "ORDER BY", "HAVING", "JOIN", "LEFT JOIN", "RIGHT JOIN",
    "FULL JOIN", "INNER JOIN", "OUTER JOIN", "ON", "INSERT", "INTO", "VALUES", "UPDATE", "SET",
    "DELETE", "DISTINCT", "AS", "AND", "OR", "NOT", "IN", "EXISTS", "LIKE", "BETWEEN", "IS",
    "NULL", "UNION", "UNION ALL", "INTERSECT", "MINUS", "CASE", "WHEN", "THEN", "ELSE", "END",
    "WITH", "LIMIT", "OFFSET", "FETCH", "FIRST", "ROWS", "ONLY", "OVER", "PARTITION BY"].map
    String.toList

/-- The SQL operators and separators. -/
def operators : List Text :=
  ["=", "!=", "<>", ">", ">=", "<", "<=", "+", "-", "*", "/", "%", "||", "(", ")", ",", ".",
    ";"].map String.toList

/-- A function with its description and an example. -/
def builtin (name description sample : String) : Builtin :=
  ⟨name.toList, description.toList, sample.toList⟩

/-- The functions of Oracle. -/
def oracle : List Builtin :=
  [builtin "NVL" "Replace NULL with a default value" "NVL(commission, 0)",
    builtin "NVL2" "Choose a value based on NULL-ness" "NVL2(commission, 'Y', 'N')",
    builtin "DECODE" "Inline IF-THEN-ELSE comparison" "DECODE(status, 'A', 'Active', 'Other')",
    builtin "TO_CHAR" "Convert a date or number to text" "TO_CHAR(hire_date, 'YYYY-MM-DD')",
    builtin "TO_DATE" "Convert text to a date" "TO_DATE('2024-01-31', 'YYYY-MM-DD')",
    builtin "SYSDATE" "Current database date and time" "SYSDATE",
    builtin "SUBSTR" "Extract part of a string" "SUBSTR(name, 1, 3)",
    builtin "LISTAGG" "Concatenate values within a group"
      "LISTAGG(name, ', ') WITHIN GROUP (ORDER BY name)"]

/-- The functions of PostgreSQL. -/
def postgresql : List Builtin :=
  [builtin "COALESCE" "First non-NULL argument" "COALESCE(nickname, name)",
    builtin "NOW" "Current transaction timestamp" "NOW()",
    builtin "DATE_TRUNC" "Truncate a timestamp to a precision" "DATE_TRUNC('month', created_at)",
    builtin "STRING_AGG" "Concatenate values with a separator" "STRING_AGG(name, ', ')",
    builtin "ARRAY_AGG" "Collect values into an array" "ARRAY_AGG(id)",
    builtin "TO_CHAR" "Format a value as text" "TO_CHAR(created_at, 'YYYY-MM-DD')"]

/-- The functions of MySQL. -/
def mysql : List Builtin :=
  [builtin "IFNULL" "Replace NULL with a default value" "IFNULL(discount, 0)",
    builtin "NOW" "Current date and time" "NOW()",
    builtin "DATE_FORMAT" "Format a date as text" "DATE_FORMAT(created_at, '%Y-%m-%d')",
    builtin "GROUP_CONCAT" "Concatenate values within a group" "GROUP_CONCAT(name SEPARATOR ', ')",
    builtin "CONCAT" "Concatenate strings" "CONCAT(first_name, ' ', last_name)"]

/-- The functions of SQL Server. -/
def mssql : List Builtin :=
  [builtin "ISNULL" "Replace NULL with a default value" "ISNULL(discount, 0)",
    builtin "GETDATE" "Current date and time" "GETDATE()",
    builtin "DATEADD" "Add an interval to a date" "DATEADD(day, 7, order_date)",
    builtin "DATEDIFF" "Difference between two dates" "DATEDIFF(day, start_date, end_date)",
    builtin "STRING_AGG" "Concatenate values with a separator" "STRING_AGG(name, ', ')"]

/-- The functions of SQLite. -/
def sqlite : List Builtin :=
  [builtin "IFNULL" "Replace NULL with a default value" "IFNULL(discount, 0)",
    builtin "DATETIME" "Format a date and time" "DATETIME('now')",
    builtin "GROUP_CONCAT" "Concatenate values within a group" "GROUP_CONCAT(name, ', ')",
    builtin "SUBSTR" "Extract part of a string" "SUBSTR(name, 1, 3)"]

/-- The functions of each database. -/
def builtins : OrderedMap Text (List Builtin) :=
  [("oracle".toList, oracle), ("postgresql".toList, postgresql), ("mysql".toList, mysql),
    ("mssql".toList, mssql), ("sqlite".toList, sqlite)]

/-- The editor language of each database that has one of its own. -/
def languages : List (Text × Text) :=
  [("oracle", "plsql"), ("mssql", "sql"), ("mysql", "mysql"), ("mariadb", "mysql"),
    ("postgresql", "pgsql"), ("redshift", "redshift")].map fun p =>
    (p.1.toList, p.2.toList)

/-- The editor language of all other databases. -/
def language : Text :=
  "sql".toList

end SqlAssist.Defaults
