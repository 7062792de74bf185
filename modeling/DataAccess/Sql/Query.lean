import DataAccess.Sql.Condition
import DataAccess.Sql.Dialect

/-! Selections over one table. A query is a description; its clauses are conditions that must all
hold. The select and the count of a query share everything from `FROM` to the end of `WHERE`, and
the count of a grouped query counts groups. -/
namespace DataAccess

inductive SortDirection where
  | asc
  | desc
deriving DecidableEq, Inhabited

def SortDirection.sql : SortDirection → String
  | asc => "ASC"
  | desc => "DESC"

def SortDirection.ofWireName? : String → Option SortDirection
  | "asc" => some asc
  | "desc" => some desc
  | _ => none

def SortDirection.wireName : SortDirection → String
  | asc => "asc"
  | desc => "desc"

/-- One member of the conjunction behind `WHERE`. -/
structure Clause where
  fragment : Fragment
  /-- whether it needs parentheses beside other members -/
  composite : Bool

namespace Clause

/-- The clause of a condition, unless it compiles to nothing. -/
def ofCondition? (condition : Condition) : Option Clause :=
  let compiled := condition.compile
  if compiled.isBlank then none else some ⟨compiled, condition.isComposite⟩

def isNull (column : String) : Clause := ⟨⟨column ++ " IS NULL", []⟩, false⟩

def sql (clause : Clause) (wrap : Bool) : String :=
  if wrap && clause.composite then clause.fragment.inParentheses.sql else clause.fragment.sql

/-- The conjunction of clauses. Composite ones are wrapped when there is more than one. -/
def conjunction (clauses : List Clause) : Fragment :=
  let wrap := decide (1 < clauses.length)
  ⟨" AND ".intercalate (clauses.map (·.sql wrap)), clauses.flatMap (·.fragment.args)⟩

end Clause

structure Query where
  table : String
  dialect : Dialect
  joins : List String
  clauses : List Clause
  groupBy : List String
  order : List (String × SortDirection)
  limit : Option UInt64
  offset : Option UInt64

namespace Query

def ofTable (table : String) (dialect : Dialect) : Query :=
  ⟨table, dialect, [], [], [], [], none, none⟩

def withDialect (query : Query) (dialect : Dialect) : Query := { query with dialect }

def join (query : Query) (clause : String) : Query :=
  { query with joins := query.joins ++ [clause] }

/-- Keep the rows that satisfy a condition; one that compiles to nothing changes nothing. -/
def filter (query : Query) (condition : Condition) : Query :=
  { query with clauses := query.clauses ++ (Clause.ofCondition? condition).toList }

def filterNull (query : Query) (column : String) : Query :=
  { query with clauses := query.clauses ++ [Clause.isNull column] }

def group (query : Query) (column : String) : Query :=
  { query with groupBy := query.groupBy ++ [column] }

def sort (query : Query) (column : String) (direction : SortDirection) : Query :=
  { query with order := query.order ++ [(column, direction)] }

def take (query : Query) (limit : UInt64) : Query := { query with limit := some limit }

def skip (query : Query) (offset : UInt64) : Query := { query with offset := some offset }

def hasClauses (query : Query) : Bool := !query.clauses.isEmpty

/-- The conjunction of the clauses, if there are any. -/
def predicate? (query : Query) : Option Fragment :=
  if query.hasClauses then some (Clause.conjunction query.clauses) else none

/-- The part that selects and counts share: table, joins and predicate. -/
def source (query : Query) : Fragment :=
  let tables := " FROM " ++ query.table ++ String.join (query.joins.map (" " ++ ·))
  match query.predicate? with
  | none => ⟨tables, []⟩
  | some predicate => ⟨tables ++ " WHERE " ++ predicate.sql, predicate.args⟩

def groupText (query : Query) : String :=
  if query.groupBy.isEmpty then "" else " GROUP BY " ++ ", ".intercalate query.groupBy

def orderText (query : Query) : String :=
  if query.order.isEmpty then ""
  else " ORDER BY " ++
    ", ".intercalate (query.order.map fun (column, direction) => column ++ " " ++ direction.sql)

def windowText (query : Query) : String :=
  (match query.limit with | some n => " LIMIT " ++ toString n.toNat | none => "") ++
  (match query.offset with | some n => " OFFSET " ++ toString n.toNat | none => "")

def selectTemplate (query : Query) (columns : String) : Fragment :=
  ⟨"SELECT " ++ columns ++ query.source.sql ++ query.groupText ++ query.orderText ++
    query.windowText, query.source.args⟩

def countTemplate (query : Query) : Fragment :=
  if query.groupBy.isEmpty then ⟨"SELECT COUNT(*)" ++ query.source.sql, query.source.args⟩
  else
    ⟨"SELECT COUNT(*) FROM (SELECT 1" ++ query.source.sql ++ query.groupText ++ ") AS grouped",
      query.source.args⟩

end Query

def Fragment.render (fragment : Fragment) (dialect : Dialect) : Statement :=
  dialect.render fragment.sql fragment.args

namespace Query

def select (query : Query) (columns : String) : Statement :=
  (query.selectTemplate columns).render query.dialect

/-- The statement that counts rows, or groups of a grouped query. -/
def count (query : Query) : Statement := query.countTemplate.render query.dialect

end Query

end DataAccess
