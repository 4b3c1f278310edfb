import BoundSql.Bindings
import BoundSql.Engine
import BoundSql.Request

/-!
# Writing step by step

The statement of a request as a program that binds one value after the other: it checks, adds a
value, takes the placeholder that the engine has for the next number, goes on, and may fail at any
point with what it has added so far. Every check and every addition is in its place. A page in front
of a statement is bound before everything else, and one behind it is numbered from the next value
on.
-/

namespace BoundSql

/-- A step that may add values and may fail. What it has added before it fails stays bound. -/
abbrev Writer := ReaderT Engine (ExceptT Error (StateM (List Value)))

namespace Writer

variable {α : Type}

/-- What a step gives in an engine, and the values that are bound after it. -/
def perform (m : Writer α) (E : Engine) (vs : List Value) : Except Error α × List Value :=
  ((m E).run).run vs

/-- What a step gives, and the bindings after it. -/
def outcome (m : Writer α) (b : Bindings) : Except Error α × Bindings :=
  ((m.perform b.dialect.engine b.values).1,
    { b with values := (m.perform b.dialect.engine b.values).2 })

/-! ### Steps -/

/-- A check, which adds nothing. -/
def check (x : Except Error α) : Writer α := fun _ => ExceptT.mk (pure x)

/-- Adds a value and gives its placeholder. -/
def add (v : Value) : Writer String := do
  let E ← read
  modifyGet fun vs => (E.placeholder (vs.length + 1), vs ++ [v])

/-- Adds values and gives their placeholders. -/
def addAll (vs : List Value) : Writer (List String) := vs.mapM add

/-- Binds values whose placeholders have been written already. -/
def extend (vs : List Value) : Writer Unit := modify (· ++ vs)

/-- A name as the engine writes it. -/
def column (n : Name) : Writer String := do
  let E ← read
  return E.quote n.text

/-! ### Conditions -/

/-- `column symbol placeholder` -/
def compare (column symbol : String) (v : Value) : Writer String := do
  let s ← add v
  return column ++ " " ++ symbol ++ " " ++ s

/-- `column IN (placeholder, …)`, or empty parentheses for an empty list and for a single value. -/
def member (column keyword : String) : Operand → Writer String
  | .list (v :: vs) => do
    let ss ← addAll (v :: vs)
    return column ++ " " ++ keyword ++ " (" ++ ", ".intercalate ss ++ ")"
  | .list [] | .single _ => return column ++ " " ++ keyword ++ " ()"

/-- `column LIKE placeholder` -/
def like (column pattern : String) : Writer String := do
  let s ← add (.text pattern)
  return column ++ " LIKE " ++ s

/-- `column BETWEEN placeholder AND placeholder` -/
def range (column keyword : String) (low high : Value) : Writer String := do
  let s ← add low
  let t ← add high
  return column ++ " " ++ keyword ++ " " ++ s ++ " AND " ++ t

/-- The test of a predicate. Every check of the operand comes before the additions. -/
def test (column : String) (p : Predicate) : Writer String :=
  match p.operator with
  | .equal => do compare column "=" (← check p.value)
  | .notEqual => do compare column "<>" (← check p.value)
  | .greater => do compare column ">" (← check p.value)
  | .less => do compare column "<" (← check p.value)
  | .greaterEqual => do compare column ">=" (← check p.value)
  | .lessEqual => do compare column "<=" (← check p.value)
  | .isIn => member column "IN" p.operand
  | .notIn => member column "NOT IN" p.operand
  | .contains => do
    let s ← check p.patternText
    like column ("%" ++ s ++ "%")
  | .startsWith => do
    let s ← check p.patternText
    like column (s ++ "%")
  | .endsWith => do
    let s ← check p.patternText
    like column ("%" ++ s)
  | .isNull => do
    let t ← check p.nullTest
    return column ++ " IS " ++ t.text
  | .between => do
    let (low, high) ← check p.ends
    range column "BETWEEN" low high
  | .notBetween => do
    let (low, high) ← check p.ends
    range column "NOT BETWEEN" low high

/-- A predicate as it follows those before it. -/
def predicate (p : Predicate) : Writer String := do
  let n ← check (Name.check p.field)
  let c ← column n
  let s ← test c p
  return " " ++ p.connective.text ++ " " ++ s

/-- The texts of the items that are not left out, one after the other. -/
def items (skip : α → Bool) (item : α → Writer String) : List α → Writer (List String)
  | [] => return []
  | a :: as =>
    if skip a then items skip item as
    else do
      let s ← item a
      let ss ← items skip item as
      return s :: ss

/-- A condition. -/
def condition (w : Where) : Writer String := do
  let ss ← items Predicate.isSkipped predicate w
  return "1=1" ++ String.join ss

/-! ### Assignments -/

/-- The new value of a column. -/
def newValue (column : String) (mode : ChangeMode) (s : String) : String :=
  match mode.sign? with
  | none => s
  | some sign => column ++ " " ++ sign ++ " " ++ s

/-- The branches of a case distinction: for each, the key is added before the result. -/
def branches (column : String) : List Branch → Writer String
  | [] => return ""
  | b :: bs => do
    let s ← add b.key
    let t ← add b.result
    let rest ← branches column bs
    return " WHEN " ++ s ++ " THEN " ++ newValue column b.mode t ++ rest

/-- An assignment. Both names of a case distinction are checked before the first branch. -/
def assignment : Assignment → Writer String
  | .plain f mode v => do
    let n ← check (Assignment.checkName f f)
    let c ← column n
    let s ← add v
    return c ++ " = " ++ newValue c mode s
  | .cases f g bs => do
    let n ← check (Assignment.checkName f f)
    let m ← check (Assignment.checkName f g)
    let c ← column n
    let o ← column m
    let s ← branches o bs
    return c ++ " = (CASE " ++ o ++ s ++ " END)"

/-- A list of assignments. -/
def assignments (as : List Assignment) : Writer String := do
  let ss ← items Assignment.isSkipped assignment as
  return ", ".intercalate ss

/-! ### Queries -/

/-- The selected items, or else everything. The engine quotes an expression as it does a name. -/
def projection (q : Query) : Writer String := do
  let E ← read
  if q.select.isEmpty then
    let p ← check q.projection
    return E.spell p
  else
    let ss ← check (q.select.mapM fun s => (selectItem s).map fun _ => E.quote s)
    return ", ".intercalate ss

/-- A statement with the page for its window, whose placeholders follow those of the statement. A
page at the end follows an order where the engine asks for one. -/
def trailingPage (sql : String) (ordered : Bool) : Option Window → Writer String
  | none => return sql
  | some w => do
    let E ← read
    let vs ← get
    let x ← check (E.pageTexts w (vs.length + 1))
    extend x.values
    return x.apply
      (if !ordered && E.pageNeedsOrder && x.isSuffix then sql ++ " ORDER BY (SELECT NULL)" else sql)

/-- The statement that reads the given items. -/
def reading (q : Query) (items : String) : Writer String := do
  let E ← read
  let source ← check q.source
  let front ← check (E.frontPage q.limit)
  extend (front.elim [] PageTexts.values)
  let clause ← condition q.conditions
  let gs ← check q.groups
  let os ← check (q.orderBy.mapM Query.orderItem)
  let sql := "SELECT " ++ items ++ " FROM " ++ E.spell source ++ " WHERE " ++ clause ++
    E.spell (Query.clause " GROUP BY " gs) ++ E.spell (Query.clause " ORDER BY " os)
  match front with
  | some x => return x.apply sql
  | none => trailingPage sql (!os.isEmpty) q.limit

/-- The statement that reads the rows. -/
def rows (q : Query) : Writer String := do
  let items ← projection q
  reading q items

/-- The statement that reads aggregates. -/
def aggregates (q : Query) : Writer String := do
  let E ← read
  let items ← check q.aggregateProjection
  reading q (E.spell items)

/-- The statement that counts the rows, or the groups if there are any. -/
def count (q : Query) : Writer String := do
  let E ← read
  let source ← check q.source
  let clause ← condition q.conditions
  let gs ← check q.groups
  let group := E.spell (Phrase.commas gs)
  if gs.isEmpty then
    return "SELECT COUNT(*) FROM " ++ E.spell source ++ " WHERE " ++ clause
  else
    return "SELECT COUNT(*) FROM (SELECT " ++ group ++ " FROM " ++ E.spell source ++ " WHERE " ++
      clause ++ " GROUP BY " ++ group ++ ") count_"

/-! ### Insertions -/

/-- The names of an insertion as the engine writes them, with the placeholders of its rows. -/
def insertTexts (E : Engine) (n : Insertion.Names) (rows : List (List String)) : InsertTexts where
  table := E.quote n.table.text
  columns := n.columns.map fun c => E.quote c.text
  rows := rows
  returning := n.returning.map fun c => E.quote c.text

/-- The placeholders of rows, each of which must have a value for every column. The rows are counted
from `i`. -/
def placeholders (columns : Nat) : Nat → List (List Value) → Writer (List (List String))
  | _, [] => return []
  | i, r :: rs => do
    check (Insertion.checkWidths columns i [r])
    let ss ← addAll r
    let rest ← placeholders columns (i + 1) rs
    return ss :: rest

/-- The statement that inserts exactly one row. -/
def insert (x : Insertion) : Writer String := do
  let E ← read
  let n ← check (x.names E.toDialect)
  check (if x.rows.length = 1 then .ok () else .error (.badQuery (.notOneRow x.rows.length)))
  let rows ← placeholders x.columns.length 0 x.rows
  return E.insertText (insertTexts E n rows)

/-- The statement that inserts any number of rows but none. -/
def batchInsert (x : Insertion) : Writer String := do
  let E ← read
  let n ← check (x.names E.toDialect)
  check (if x.rows.isEmpty then .error (.badQuery .noRow) else .ok ())
  let rows ← placeholders x.columns.length 0 x.rows
  return E.batchText (insertTexts E n rows)

/-! ### Changes -/

/-- An update with the texts of its table and its assignments, of which the latter must not be
empty. -/
def updateWith (table set : String) (w : Where) : Writer String := do
  let E ← read
  if set = "" then check (.error (.badQuery .noAssignment))
  else
    let clause ← condition w
    return E.updateText table set clause

/-- An update. The assignments are bound before the condition. -/
def update (m : Modification) : Writer String := do
  let n ← check (Name.check m.table)
  let table ← column n
  let set ← assignments m.assignments
  updateWith table set m.conditions

/-- A deletion. -/
def delete (m : Modification) : Writer String := do
  let E ← read
  let n ← check (Name.check m.table)
  let clause ← condition m.conditions
  return E.deleteText (E.quote n.text) clause

/-- The statement that inserts or updates a row. -/
def upsert (x : Upsertion) : Writer String := do
  let E ← read
  check x.check
  let table ← check (Name.check x.table)
  let columns ← check (Name.checkAll x.columns)
  let keys ← check (Name.checkAll x.conflictKeys)
  let updates ← check (Name.checkAll x.updateColumns)
  let ss ← addAll x.values
  let quoted := fun ns : List Name => ns.map fun n => E.quote n.text
  match E.upsertText? ⟨E.quote table.text, quoted columns, ss, quoted keys, quoted updates⟩ with
  | some s => return s
  | none => check (.error (.unsupported E.name .upsert))

/-! ### Statements -/

/-- The text of the statement of a request. -/
def request : Request → Writer String
  | .rows q => rows q
  | .count q => count q
  | .aggregate q => aggregates q
  | .insert x => insert x
  | .batchInsert x => batchInsert x
  | .update m => update m
  | .delete m => delete m
  | .upsert x => upsert x

/-- The statement whose text is written from no bindings on. -/
def statement (w : Writer String) (E : Engine) (verify : Bool) : Except Error Statement :=
  (w.perform E []).1.bind fun sql => Statement.close E.toDialect verify sql (w.perform E []).2

end Writer

namespace Engine

variable (E : Engine)

/-- The statement of a request. -/
def statement (verify : Bool) (r : Request) : Except Error Statement :=
  (Writer.request r).statement E verify

/-- The statement of a request that passes the guard. -/
def guarded (verify : Bool) (r : Request) : Except Error Statement := do
  r.guard
  E.statement verify r

end Engine

end BoundSql
