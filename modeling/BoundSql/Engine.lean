import BoundSql.Form
import BoundSql.Page

/-!
# Engines

A `Dialect` is a choice among a few styles. An engine is a dialect with members of its own: any
function may stand in the place of what the styles would write, and nothing is known of the text it
gives. An engine sees names, placeholders and finished parts of a statement as texts; of the values
it sees only the two numbers of a window. What it does not replace it takes from its styles, so
every dialect is an engine (`Dialect.engine`).
-/

namespace BoundSql

/-- The text of a phrase for given ways to write names and placeholders. Its first value has the
placeholder with number `i`. -/
def Phrase.write (quote : String → String) (placeholder : Nat → String) : Nat → Phrase → String
  | _, [] => ""
  | i, .text s :: p => s ++ write quote placeholder i p
  | i, .name n :: p => quote n.text ++ write quote placeholder i p
  | i, .fragment f :: p => f.text ++ write quote placeholder i p
  | i, .value _ :: p => placeholder i ++ write quote placeholder (i + 1) p

/-! ### Pages -/

/-- What is added to a statement to ask for a window of its rows, as texts with the values for
their placeholders. -/
inductive PageTexts
  | suffix (text : String) (values : List Value)
  | leading (text : String) (values : List Value)
  | wrap (opening closing : String) (values : List Value)
  deriving DecidableEq

namespace PageTexts

/-- The values of a page, in the order of their placeholders. -/
def values : PageTexts → List Value
  | suffix _ vs | leading _ vs | wrap _ _ vs => vs

/-- Whether the placeholders of the page come before those of the statement. -/
def isLeading : PageTexts → Bool
  | leading _ _ => true
  | _ => false

/-- Whether the page stands at the end of the statement. -/
def isSuffix : PageTexts → Bool
  | suffix _ _ => true
  | _ => false

/-- What follows the word with which a query begins, if the text begins with it. -/
def afterSelect? (s : String) : Option String :=
  if "SELECT ".toList.isPrefixOf s.toList then some (String.ofList (s.toList.drop 7)) else none

/-- A statement with the page added to it. -/
def apply (x : PageTexts) (body : String) : String :=
  match x with
  | suffix s _ => body ++ " " ++ s
  | leading s _ =>
    match afterSelect? body with
    | some rest => "SELECT " ++ s ++ " " ++ rest
    | none => s ++ " " ++ body
  | wrap s t _ => s ++ body ++ t

end PageTexts

/-- A page whose first value has the placeholder with number `i`. -/
def Page.texts (quote : String → String) (placeholder : Nat → String) (i : Nat) : Page → PageTexts
  | suffix p => .suffix (p.write quote placeholder i) p.values
  | leading p => .leading (p.write quote placeholder i) p.values
  | wrap p q =>
    .wrap (p.write quote placeholder i) (q.write quote placeholder (i + p.values.length))
      (p.values ++ q.values)

/-! ### Parts of statements -/

/-- The parts of an insert. The names are quoted, and the rows consist of placeholders. -/
structure InsertTexts where
  table : String
  columns : List String
  rows : List (List String)
  returning : List String

/-- The parts of an upsert. The names are quoted, and placeholders stand for the values. -/
structure UpsertTexts where
  table : String
  columns : List String
  placeholders : List String
  keys : List String
  updates : List String

namespace Dialect

variable (d : Dialect)

/-- An insert in the form of the dialect. -/
def insertText (x : InsertTexts) : String :=
  (Form.insert d.returning (lit x.table) (x.columns.map lit) (x.rows.map fun r => r.map lit)
    (x.returning.map lit)).render d 1

/-- An insert of several rows in the form of the dialect. -/
def batchText (x : InsertTexts) : String :=
  (Form.batchInsert d.batch d.returning (lit x.table) (x.columns.map lit)
    (x.rows.map fun r => r.map lit) (x.returning.map lit)).render d 1

/-- An update in the form of all dialects. -/
def updateText (table assignments condition : String) : String :=
  (Form.update (lit table) (lit assignments) (lit condition)).render d 1

/-- A deletion in the form of all dialects. -/
def deleteText (table condition : String) : String :=
  (Form.delete (lit table) (lit condition)).render d 1

/-- An upsert in the form of the dialect, if it has one. -/
def upsertText? (x : UpsertTexts) : Option String :=
  let parts : Form.UpsertParts :=
    { table := lit x.table
      columns := x.columns.map lit
      values := x.placeholders.map lit
      keys := x.keys.map lit
      updates := x.updates.map lit }
  (d.upsert.bind fun form => Form.upsert? form parts).map fun p => p.render d 1

end Dialect

/-! ### Engines -/

/-- A dialect with members of its own. -/
structure Engine extends Dialect where
  /-- The placeholder with the given number. -/
  placeholder : Nat → String := placeholders.render
  /-- A name or an expression as it stands in a statement. -/
  quote : String → String := quotes.quote
  /-- The page for a window, whose first placeholder has the given number. -/
  pageTexts : Window → Nat → Except Error PageTexts := fun w i =>
    (toDialect.page w).map (Page.texts quote placeholder i)
  insertText : InsertTexts → String := toDialect.insertText
  batchText : InsertTexts → String := toDialect.batchText
  /-- An update for a table, assignments and a condition. -/
  updateText : String → String → String → String := toDialect.updateText
  /-- A deletion for a table and a condition. -/
  deleteText : String → String → String := toDialect.deleteText
  /-- An upsert, if there is any in the dialect. -/
  upsertText? : UpsertTexts → Option String := toDialect.upsertText?

/-- The engine that writes what the styles of the dialect say. -/
def Dialect.engine (d : Dialect) : Engine := { toDialect := d }

instance : Coe Dialect Engine := ⟨Dialect.engine⟩

namespace Engine

variable (E : Engine)

/-- The text of a phrase whose first value has the placeholder with number `i`. -/
def render (i : Nat) (p : Phrase) : String := p.write E.quote E.placeholder i

/-- The text of a phrase that binds nothing. -/
def spell (p : Phrase) : String := E.render 1 p

/-- The page for a window, if the engine puts it in front of the statement, where its placeholders
are the first. -/
def frontPage : Option Window → Except Error (Option PageTexts)
  | none => .ok none
  | some w => (E.pageTexts w 1).map fun x => if x.isLeading then some x else none

end Engine

end BoundSql
