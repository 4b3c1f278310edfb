import BoundSql.Dialect

/-!
# The dialects of the families

One dialect for every family of engines, and the older forms of two of them: SQL Server before
it could skip rows, and Oracle before it could fetch a window.
-/

namespace BoundSql

namespace Dialect

/-- MySQL and the engines that speak its protocol. -/
def mysql : Dialect where
  name := "mysql"
  family := some .mysql
  placeholders := .question
  paging := .limitComma
  quotes := ⟨'\x60', '\x60'⟩
  upsert := some .duplicateKey
  now := "NOW()"
  today := "CURDATE()"
  concat := .function

/-- PostgreSQL. -/
def postgres : Dialect where
  name := "postgres"
  family := some .postgres
  placeholders := .dollar
  paging := .limitOffset
  returning := .trailing
  upsert := some .onConflict
  dateClosing := "'::timestamp"

/-- SQLite. -/
def sqlite : Dialect where
  name := "sqlite"
  family := some .sqlite
  placeholders := .question
  paging := .limitOffset
  returning := .trailing
  upsert := some .onConflict
  trueText := "1"
  falseText := "0"

/-- SQL Server. -/
def sqlServer : Dialect where
  name := "sqlserver"
  family := some .sqlServer
  placeholders := .atSign
  paging := .offsetFetch
  returning := .output
  quotes := ⟨'[', ']'⟩
  pageNeedsOrder := true
  upsert := some .mergeValues
  trueText := "1"
  falseText := "0"
  now := "GETDATE()"
  today := "CAST(GETDATE() AS DATE)"
  concat := .function
  likeEscape := .brackets
  dateOpening := "CAST('"
  dateClosing := "' AS DATETIME2)"

/-- SQL Server before 2012, which can only keep the first rows. -/
def sqlServerLegacy : Dialect := { sqlServer with paging := .top }

/-- Oracle from the given major version; windows are fetched since version 12. -/
def oracleVersion (version : Nat) : Dialect where
  name := "oracle"
  family := some .oracle
  placeholders := .colon
  paging := if 12 ≤ version then .offsetFetch else .rowNumber
  batch := .intoEach
  upsert := some .mergeQuery
  trueText := "1"
  falseText := "0"
  now := "SYSTIMESTAMP"
  today := "TRUNC(SYSDATE)"
  dateOpening := "TO_TIMESTAMP('"
  dateClosing := "', 'YYYY-MM-DD HH24:MI:SS')"

/-- Oracle. -/
def oracle : Dialect := oracleVersion 12

end Dialect

/-- The dialect of a family in its default form. -/
def Family.dialect : Family → Dialect
  | mysql => .mysql
  | postgres => .postgres
  | sqlite => .sqlite
  | sqlServer => .sqlServer
  | oracle => .oracle

/-- The dialects of the families, in all their forms. -/
inductive Dialect.IsBuiltin : Dialect → Prop
  | family (f : Family) : IsBuiltin f.dialect
  | sqlServerLegacy : IsBuiltin .sqlServerLegacy
  | oracleVersion (v : Nat) : IsBuiltin (.oracleVersion v)

end BoundSql
