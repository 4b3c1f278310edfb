import BoundSql.Text.Blank
import BoundSql.Text.Case

/-!
# Families of engines

The five families of database engines that have a dialect of their own, and the names by which
an engine of a family may be asked for.
-/

namespace BoundSql

/-- A family of database engines. -/
inductive Family
  | mysql
  | postgres
  | sqlite
  | sqlServer
  | oracle
  deriving DecidableEq, Repr

namespace Family

/-- All families, the one used by default first. -/
def all : List Family := [mysql, postgres, sqlite, sqlServer, oracle]

/-- The name of a family as its engines spell it. -/
def display : Family → String
  | mysql => "MySQL"
  | postgres => "PostgreSQL"
  | sqlite => "SQLite"
  | sqlServer => "SQLServer"
  | oracle => "Oracle"

/-- The name that stands for all names of a family. -/
def canonical : Family → String
  | mysql => "mysql"
  | postgres => "postgres"
  | sqlite => "sqlite"
  | sqlServer => "sqlserver"
  | oracle => "oracle"

/-- The names of a family, the canonical one first. -/
def aliases : Family → List String
  | mysql => ["mysql", "mariadb", "tidb", "oceanbase", "doris"]
  | postgres => ["postgres", "postgresql"]
  | sqlite => ["sqlite", "sqlite3"]
  | sqlServer => ["sqlserver", "mssql"]
  | oracle => ["oracle"]

/-- The names of all families. -/
def allNames : List String := all.flatMap aliases

/-- The family with the given name; blanks around the name and the case of its letters do not
matter. -/
def ofName? (s : String) : Option Family :=
  all.find? fun f => f.aliases.any fun a => Text.sameLetters a (Text.trim s)

theorem mem_all (f : Family) : f ∈ all := by cases f <;> decide

end Family

end BoundSql
