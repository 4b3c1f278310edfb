import BoundSql.Phrase
import BoundSql.Window

/-!
# Pages

How a dialect asks for a window of rows: by a phrase at the end of the statement, by one in
front of the selected items, or by two around the statement.
-/

namespace BoundSql

/-- What is added to a statement to ask for a window of its rows. -/
inductive Page
  | suffix (p : Phrase)
  | leading (p : Phrase)
  | wrap (opening closing : Phrase)
  deriving DecidableEq

namespace Page

/-- The values of a page, in the order of their placeholders. -/
def values : Page → List Value
  | suffix p | leading p => p.values
  | wrap p q => p.values ++ q.values

/-- Whether the placeholders of the page come before those of the statement. -/
def isLeading : Page → Bool
  | leading _ => true
  | _ => false

/-- What follows the word with which a query begins, if the phrase begins with it. -/
def afterSelect? : Phrase → Option Phrase
  | .text s :: p =>
    if "SELECT ".toList.isPrefixOf s.toList then
      some (.text (String.ofList (s.toList.drop 7)) :: p)
    else none
  | _ => none

/-- A statement with the page added to it. -/
def apply (x : Page) (body : Phrase) : Phrase :=
  match x with
  | suffix p => body ++ lit " " ++ p
  | leading p =>
    match afterSelect? body with
    | some rest => lit "SELECT " ++ p ++ lit " " ++ rest
    | none => p ++ lit " " ++ body
  | wrap p q => p ++ body ++ q

end Page

/-- The page of a dialect for a window of rows. -/
def Dialect.page (d : Dialect) (w : Window) : Except Error Page :=
  let offset := Phrase.ofValue (.nat w.offset)
  let count := Phrase.ofValue (.nat w.count)
  match d.paging with
  | .limitOffset => .ok (.suffix (lit "LIMIT " ++ count ++ lit " OFFSET " ++ offset))
  | .limitComma => .ok (.suffix (lit "LIMIT " ++ offset ++ lit ", " ++ count))
  | .offsetFetch =>
    .ok (.suffix (lit "OFFSET " ++ offset ++ lit " ROWS FETCH NEXT " ++ count ++
      lit " ROWS ONLY"))
  | .rowNumber =>
    .ok (.wrap (lit "SELECT * FROM (SELECT row_.*, ROWNUM rownum_ FROM (")
      (lit ") row_ WHERE ROWNUM <= " ++
        Phrase.ofValue (.nat (saturatingAdd w.offset w.count)) ++
        lit ") WHERE rownum_ > " ++ offset))
  | .top =>
    if w.offset = 0 then .ok (.leading (lit "TOP (" ++ count ++ lit ")"))
    else .error (.unsupported d.name .topOffset)

end BoundSql
