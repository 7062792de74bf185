import DataAccess.Proofs.Plan.PlainText
import DataAccess.Proofs.Plan.Scope
import DataAccess.Proofs.Sql.Rendering

/-! What a listing, its page and its count have in common. From `FROM` to the end of `GROUP BY` they
are one text with the same arguments, which no page and no order changes. The order stands behind
it: if that has a question mark of its own, it can take an argument that the condition has left
over. -/
namespace DataAccess

open Sql

namespace Fragment

/-- Whether text behind a fragment takes none of its arguments: none is left over, or the text has
no place for one. -/
def LeavesNone (fragment : Fragment) (text : String) : Prop :=
  fragment.args.length ≤ QuoteState.marks none fragment.sql.toList ∨
    (QuoteState.after none fragment.sql.toList).marks text.toList = 0

theorem LeavesNone.of_not_mem {text : String} (absent : '?' ∉ text.toList)
    (fragment : Fragment) : fragment.LeavesNone text :=
  .inr (QuoteState.marks_of_not_mem absent _)

/-- What text behind a fragment is rendered to. -/
def behind (fragment : Fragment) (dialect : Dialect) (text : String) : Statement :=
  let (written, values) := dialect.renderFrom (QuoteState.after none fragment.sql.toList)
    (fragment.render dialect).args.length
    (fragment.args.drop (QuoteState.marks none fragment.sql.toList)) text.toList
  ⟨String.ofList written, values⟩

theorem behind_eq {fragment : Fragment} {text : String} (leaves : fragment.LeavesNone text)
    (dialect : Dialect) : fragment.behind dialect text = ⟨text, []⟩ := by
  unfold behind
  rcases leaves with used | plain
  · rw [List.drop_eq_nil_of_le used, dialect.renderFrom_nil]
    simp only [String.ofList_toList]
  · have whole := Layout.renderFrom_text dialect plain (fragment.render dialect).args.length
      (fragment.args.drop (QuoteState.marks none fragment.sql.toList)) []
    rw [List.append_nil] at whole
    rw [whole]
    simp only [Dialect.renderFrom, List.append_nil, String.ofList_toList]

theorem render_append (fragment : Fragment) (dialect : Dialect) (text : String) :
    Fragment.render ⟨fragment.sql ++ text, fragment.args⟩ dialect =
      ⟨(fragment.render dialect).sql ++ (fragment.behind dialect text).sql,
        (fragment.render dialect).args ++ (fragment.behind dialect text).args⟩ := by
  simp only [Fragment.render, Dialect.render, behind, String.toList_append,
    Dialect.renderFrom_append, String.ofList_append, Nat.zero_add]

theorem render_append_of_leavesNone {fragment : Fragment} {text : String}
    (leaves : fragment.LeavesNone text) (dialect : Dialect) :
    Fragment.render ⟨fragment.sql ++ text, fragment.args⟩ dialect =
      ⟨(fragment.render dialect).sql ++ text, (fragment.render dialect).args⟩ := by
  rw [render_append, behind_eq leaves, List.append_nil]

theorem render_plain_append {head : String} (plain : IsPlainText head) (fragment : Fragment)
    (dialect : Dialect) :
    Fragment.render ⟨head ++ fragment.sql, fragment.args⟩ dialect =
      ⟨head ++ (fragment.render dialect).sql, (fragment.render dialect).args⟩ := by
  obtain ⟨marks, outside⟩ := IsPlainText.iff_marks.1 plain
  simp only [Fragment.render, Dialect.render, String.toList_append,
    Layout.renderFrom_text dialect marks, outside, String.ofList_append, String.ofList_toList]

end Fragment

namespace Query

/-- The rows or groups of a query: from `FROM` to the end of `GROUP BY`. -/
def extent (query : Query) : Fragment :=
  ⟨query.source.sql ++ query.groupText, query.source.args⟩

/-- What stands around the extent of a query in its count. -/
def countAround (query : Query) : String × String :=
  if query.groupBy.isEmpty then ("SELECT COUNT(*)", "")
  else ("SELECT COUNT(*) FROM (SELECT 1", ") AS grouped")

theorem count_eq (query : Query) :
    query.count = ⟨query.countAround.1 ++ (query.extent.render query.dialect).sql ++
      query.countAround.2, (query.extent.render query.dialect).args⟩ := by
  have plain : IsPlainText query.countAround.1 := by
    unfold countAround
    split <;> decide
  have absent : '?' ∉ query.countAround.2.toList := by
    unfold countAround
    split <;> decide
  have template : query.countTemplate =
      ⟨query.countAround.1 ++ (query.extent.sql ++ query.countAround.2), query.extent.args⟩ := by
    unfold countTemplate countAround extent
    by_cases grouped : query.groupBy.isEmpty
    · simp [grouped, groupText]
    · simp [grouped, String.append_assoc]
  have behind := Fragment.render_append_of_leavesNone (.of_not_mem absent query.extent)
    query.dialect
  have whole := Fragment.render_plain_append plain
    ⟨query.extent.sql ++ query.countAround.2, query.extent.args⟩ query.dialect
  rw [count, template, whole, behind, String.append_assoc]

theorem not_mem_windowText (query : Query) : '?' ∉ query.windowText.toList := by
  have number (n : UInt64) : '?' ∉ (toString n.toNat).toList := by
    intro member
    have digit : '?'.isDigit := isDigit_of_mem_toString member
    contradiction
  have limit : '?' ∉ " LIMIT ".toList := by decide
  have offset : '?' ∉ " OFFSET ".toList := by decide
  unfold windowText
  rw [String.toList_append, List.mem_append, not_or]
  constructor
  · split
    · rw [String.toList_append, List.mem_append, not_or]
      exact ⟨limit, number _⟩
    · exact List.not_mem_nil
  · split
    · rw [String.toList_append, List.mem_append, not_or]
      exact ⟨offset, number _⟩
    · exact List.not_mem_nil

/-- A window is written behind the statement that selects every row. -/
theorem select_window (query : Query) (columns : String) (limit offset : UInt64)
    (unlimited : query.windowText = "") :
    ((query.take limit).skip offset).select columns =
      ⟨(query.select columns).sql ++ " LIMIT " ++ toString limit.toNat ++ " OFFSET " ++
        toString offset.toNat, (query.select columns).args⟩ := by
  have template : ((query.take limit).skip offset).selectTemplate columns =
      ⟨(query.selectTemplate columns).sql ++ ((query.take limit).skip offset).windowText,
        (query.selectTemplate columns).args⟩ := by
    simp only [selectTemplate, unlimited, String.append_empty]
    rfl
  have takesNone := Fragment.LeavesNone.of_not_mem
    ((query.take limit).skip offset).not_mem_windowText (query.selectTemplate columns)
  have dialect : ((query.take limit).skip offset).dialect = query.dialect := rfl
  rw [select, template, dialect, Fragment.render_append_of_leavesNone takesNone, select]
  simp [windowText, take, skip, String.append_assoc]

/-- An order is written behind the extent, where it takes the arguments that are left over. -/
theorem select_eq (query : Query) {columns : String} (plain : IsPlainText columns)
    (unlimited : query.windowText = "") :
    query.select columns = ⟨"SELECT " ++ columns ++ (query.extent.render query.dialect).sql ++
        (query.extent.behind query.dialect query.orderText).sql,
      (query.extent.render query.dialect).args ++
        (query.extent.behind query.dialect query.orderText).args⟩ := by
  have head : IsPlainText ("SELECT " ++ columns) := IsPlainText.append (by decide) plain
  have template : query.selectTemplate columns =
      ⟨"SELECT " ++ columns ++ (query.extent.sql ++ query.orderText), query.extent.args⟩ := by
    simp [selectTemplate, extent, unlimited, String.append_assoc]
  have whole := Fragment.render_plain_append head
    ⟨query.extent.sql ++ query.orderText, query.extent.args⟩ query.dialect
  rw [select, template, whole, Fragment.render_append]
  simp only [String.append_assoc]

end Query

def Page.windowText (page : Page) : String :=
  " LIMIT " ++ toString page.limit.toNat ++ " OFFSET " ++ toString page.offset.toNat

/-- A requested column is an identifier. -/
theorem SortTerm.not_mem_resolve {key direction specDefault : Option String} {settings : Settings}
    (requested : (requestedColumn? key).isSome) :
    '?' ∉ (resolve key direction specDefault settings).column.toList := by
  obtain ⟨column, chosen⟩ := Option.isSome_iff_exists.1 requested
  have named : isIdentifier column false := by
    unfold requestedColumn? at chosen
    exact (Option.filter_eq_some_iff.1 chosen).2
  have column_eq : (resolve key direction specDefault settings).column = column := by
    simp [resolve, chosen]
  rw [column_eq]
  intro member
  exact absurd ((isNameChar_of_isIdentifier named).2 '?' member) (by decide)

namespace Planner

variable {schema : Schema} (planner : Planner schema)

def orderText (request : ListingRequest) : String :=
  " ORDER BY " ++ (planner.listingOrder request).sql

def orderedRows (condition : Option Condition) (request : ListingRequest) : Query :=
  (planner.listingRows condition).sort (planner.listingOrder request).column
    (planner.listingOrder request).direction

/-- The rows that a listing selects from and its count counts, as they are rendered. A request has no
part in them. -/
def listedRows (condition : Option Condition) : Statement :=
  (planner.listingRows condition).extent.render planner.dialect

/-- What the order of a listing is rendered to behind the rows that are listed. -/
def listingOrderStatement (condition : Option Condition) (request : ListingRequest) : Statement :=
  (planner.listingRows condition).extent.behind planner.dialect (planner.orderText request)

/-- A listing, its page and its count describe the same rows: they share a text and its arguments,
and beside these the order takes the arguments that are left over. -/
structure DescribesRows (condition : Option Condition) (request : ListingRequest)
    (locale : String) : Prop where
  count : (planner.listing condition request locale true).count =
    some ⟨(planner.listingRows condition).countAround.1 ++ (planner.listedRows condition).sql ++
      (planner.listingRows condition).countAround.2, (planner.listedRows condition).args⟩
  select : (planner.listing condition request locale false).select =
    ⟨"SELECT " ++ planner.selectList true locale ++ (planner.listedRows condition).sql ++
        (planner.listingOrderStatement condition request).sql,
      (planner.listedRows condition).args ++ (planner.listingOrderStatement condition request).args⟩
  order : (planner.listingRows condition).extent.LeavesNone (planner.orderText request) →
    planner.listingOrderStatement condition request = ⟨planner.orderText request, []⟩
  unpaged : (planner.listing condition request locale false).page = none
  page : (planner.listing condition request locale true).page =
    if request.isPaginated then
      some (Page.normalize request.page request.perPage planner.settings)
    else none
  window : (planner.listing condition request locale true).select =
    ⟨(planner.listing condition request locale false).select.sql ++
        ((planner.listing condition request locale true).page.map Page.windowText).getD "",
      (planner.listing condition request locale false).select.args⟩

variable {planner}

theorem orderText_orderedRows (condition : Option Condition) (request : ListingRequest) :
    (planner.orderedRows condition request).orderText = planner.orderText request ∧
      (planner.orderedRows condition request).windowText = "" := by
  unfold orderedRows listingRows visible Query.restrict
  cases condition <;> cases planner.scope? <;>
    exact ⟨by simp [Query.orderText, Query.sort, Query.filter, Query.filterNull, wholeTable,
      Query.ofTable, orderText, SortTerm.sql], rfl⟩

/-- The window of a listing is written behind the statement that selects every row. -/
theorem select_listing (condition : Option Condition) (request : ListingRequest)
    (locale : String) : (planner.listing condition request locale true).select =
      ⟨(planner.listing condition request locale false).select.sql ++
          ((planner.window? request true).map Page.windowText).getD "",
        (planner.listing condition request locale false).select.args⟩ := by
  obtain ⟨_, unlimited⟩ := planner.orderText_orderedRows condition request
  have unpaged : (planner.listing condition request locale false).select =
    (planner.orderedRows condition request).select (planner.selectList true locale) := rfl
  have paged : (planner.listing condition request locale true).select =
    (planner.listingQuery condition request true).select (planner.selectList true locale) := rfl
  rw [unpaged, paged, listingQuery]
  cases planner.window? request true with
  | none => exact congrArg (Statement.mk · _) (String.append_empty).symm
  | some page =>
    have windowed := (planner.orderedRows condition request).select_window
      (planner.selectList true locale) page.limit page.offset unlimited
    refine windowed.trans ?_
    simp [Page.windowText, String.append_assoc]

theorem describesRows (condition : Option Condition) (request : ListingRequest) {locale : String}
    (plain : IsPlainText (planner.selectList true locale)) :
    planner.DescribesRows condition request locale := by
  obtain ⟨ordered, unlimited⟩ := planner.orderText_orderedRows condition request
  have dialect : (planner.listingRows condition).dialect = planner.dialect :=
    planner.dialect_visible condition
  have orderedDialect : (planner.orderedRows condition request).dialect = planner.dialect := dialect
  constructor
  case count =>
    have count := (planner.listingRows condition).count_eq
    rw [dialect] at count
    exact congrArg some count
  case select =>
    have select := (planner.orderedRows condition request).select_eq plain unlimited
    rw [ordered, orderedDialect] at select
    exact select
  case order => exact fun leaves => Fragment.behind_eq leaves planner.dialect
  case unpaged => rfl
  case page => rfl
  case window => exact select_listing condition request locale

/-- An order without a question mark takes no argument. -/
theorem leavesNone_orderText {request : ListingRequest}
    (absent : '?' ∉ (planner.listingOrder request).column.toList) (fragment : Fragment) :
    fragment.LeavesNone (planner.orderText request) := by
  refine .of_not_mem ?_ fragment
  have keyword : '?' ∉ " ORDER BY ".toList := by decide
  have direction : '?' ∉ (" " ++ (planner.listingOrder request).direction.sql).toList := by
    cases (planner.listingOrder request).direction <;> decide
  rw [orderText, SortTerm.sql, String.append_assoc]
  simp only [String.toList_append, List.mem_append, not_or] at direction ⊢
  exact ⟨keyword, absent, direction⟩

theorem plain_listingColumns (tableNamed : isIdentifier schema.table false) {locale : String}
    (projected : ∀ columns ∈ Projection.render? (planner.spec.projectionFor true) locale,
      IsPlainText columns) : IsPlainText (planner.selectList true locale) := by
  unfold selectList
  cases rendered : Projection.render? (planner.spec.projectionFor true) locale with
  | some columns => exact projected columns rendered
  | none =>
    rw [Option.getD_none]
    split
    · decide
    · exact (IsPlainText.of_identifier tableNamed).append (by decide)

/-- A listing and its count describe the same rows, whatever the request says about the page and the
order; and they bind the same arguments, if the order takes none. Only an order that is configured
can take one. -/
theorem listing_describes_counted_rows {spec : Spec} {settings : Settings} {unscoped : Bool}
    (made : Planner.make schema spec settings unscoped = .ok planner)
    (condition : Option Condition) (request : ListingRequest) {locale : String}
    (projected : ∀ columns ∈ Projection.render? (spec.projectionFor true) locale,
      IsPlainText columns) :
    planner.DescribesRows condition request locale ∧
    ((planner.listingRows condition).extent.LeavesNone (planner.orderText request) →
      ∃ count, (planner.listing condition request locale true).count = some count ∧
        count.args = (planner.listedRows condition).args ∧
        (planner.listing condition request locale true).select.args = count.args ∧
        (planner.listing condition request locale false).select =
          ⟨"SELECT " ++ planner.selectList true locale ++ (planner.listedRows condition).sql ++
            planner.orderText request, count.args⟩) ∧
    ((SortTerm.requestedColumn? request.sortKey).isSome ∨
        '?' ∉ (planner.listingOrder request).column.toList →
      (planner.listingRows condition).extent.LeavesNone (planner.orderText request)) := by
  obtain ⟨rfl, tableNamed, _⟩ := Planner.make_eq made
  have plain : IsPlainText
      (selectList (⟨spec, settings, unscoped || spec.unscoped⟩ : Planner schema) true locale) :=
    plain_listingColumns tableNamed projected
  have describes := describesRows condition request plain
  refine ⟨describes, fun leaves => ?_, fun absent => ?_⟩
  · have select := describes.select
    rw [describes.order leaves, List.append_nil] at select
    have window := congrArg Statement.args describes.window
    rw [select] at window
    exact ⟨_, describes.count, rfl, window, select⟩
  · rcases absent with requested | absent
    · exact leavesNone_orderText (SortTerm.not_mem_resolve requested) _
    · exact leavesNone_orderText absent _

/-- Users in groups of their status, by a default order of their own. -/
def groupedUsers : Planner PlannedCall.markedUsers :=
  ⟨{ Spec.empty with groupBy := ["status"], defaultSort := some "total" },
    ⟨20, none, "created_at", "en", .postgres⟩, false⟩

/-- The rows of an age or an identity. -/
def agedOrListed : Condition := (Condition.eq "age" (.int 1)).or (.inList "id" (.list [.int 2]))

theorem listing_describes_counted_rows_of_groups :
    Planner.make PlannedCall.markedUsers groupedUsers.spec groupedUsers.settings false =
      .ok groupedUsers ∧
    groupedUsers.DescribesRows (some agedOrListed) (ListingRequest.default.withPage 3 5) "en" ∧
    groupedUsers.listedRows (some agedOrListed) =
      ⟨" FROM users WHERE (age = $1 OR id IN ($2)) AND users.deleted_at IS NULL GROUP BY status",
        [.int 1, .int 2]⟩ ∧
    ∃ count, (groupedUsers.listing (some agedOrListed) (ListingRequest.default.withPage 3 5) "en"
        true).count = some count ∧
      (groupedUsers.listing (some agedOrListed) (ListingRequest.default.withPage 3 5) "en"
        true).select.args = count.args := by
  have made : Planner.make PlannedCall.markedUsers groupedUsers.spec groupedUsers.settings false =
    .ok groupedUsers := rfl
  have projected : ∀ columns ∈ Projection.render? (groupedUsers.spec.projectionFor true) "en",
    IsPlainText columns := by rintro _ ⟨⟩
  have absent : '?' ∉ (groupedUsers.listingOrder
    (ListingRequest.default.withPage 3 5)).column.toList := by decide
  obtain ⟨describes, same, leaves⟩ := listing_describes_counted_rows made (some agedOrListed)
    (ListingRequest.default.withPage 3 5) projected
  obtain ⟨count, counted, _, arguments, _⟩ := same (leaves (.inr absent))
  exact ⟨made, describes, rfl, count, counted, arguments⟩

/-- A default order with a question mark takes an argument that a raw condition leaves over, and the
count does not bind it. -/
theorem listing_order_takes_argument :
    let planner : Planner PlannedCall.markedUsers :=
      ⟨{ Spec.empty with defaultSort := some "f(?)" }, .default, true⟩
    let condition := some (Condition.raw "a = 1" [.int 5])
    Planner.make PlannedCall.markedUsers planner.spec .default true = .ok planner ∧
    (planner.listing condition .default "en" true).select.args = [.int 5] ∧
    ∃ count, (planner.listing condition .default "en" true).count = some count ∧
      count.args = [] := by
  exact ⟨rfl, rfl, _, rfl, rfl⟩

end Planner

end DataAccess
