import DataAccess.Json.Printer
import DataAccess.Settings.Basic

/-! Page windows. A requested page and size are brought into range, and the window is the rows to
skip and the rows to take. Sizes and offsets are 64-bit words; the offset stops at the largest
signed word instead of wrapping. -/
namespace DataAccess

/-- A window of a listing: the page counted from one, and the rows on a page. -/
structure Page where
  number : UInt64
  size : UInt64
deriving DecidableEq

namespace Page

def default : Page := ⟨1, Settings.builtinPerPage⟩

/-- The largest offset a backend accepts. -/
def maxOffset : UInt64 := 0x7fffffffffffffff

/-- The signed number as an unsigned word, or `fallback` unless it is positive. -/
def positiveOr (fallback : UInt64) (n : Int64) : UInt64 :=
  if n ≤ 0 then fallback else n.toUInt64

/-- Bring a requested page and size into range. A page that is not positive is the first one, a size
that is not positive is the configured default, and a size is at most the configured maximum and at
least one. -/
def normalize (page perPage : Int64) (settings : Settings) : Page :=
  let requested := positiveOr settings.defaultPerPage perPage
  let capped := match settings.maxPerPage with
    | some maximum => min requested maximum
    | none => requested
  ⟨positiveOr 1 page, max capped 1⟩

/-- The product of two words, or the largest word where it would not fit. -/
def saturatingMul (a b : UInt64) : UInt64 :=
  if a.toNat * b.toNat < powerOfTwo 64 then a * b else 0xffffffffffffffff

def offset (page : Page) : UInt64 :=
  let before := if page.number = 0 then 0 else page.number - 1
  min (saturatingMul before page.size) maxOffset

def limit (page : Page) : UInt64 := page.size

def toJson (page : Page) : Json :=
  .object [("page", .ofUInt64 page.number), ("per_page", .ofUInt64 page.size)]

end Page

/-- The rows of a listing, with the total of all pages if the listing is paginated. -/
structure ListingResult (α : Type) where
  total : Option UInt64
  rows : List α

namespace ListingResult

def paged {α : Type} (total : UInt64) (rows : List α) : ListingResult α := ⟨some total, rows⟩

def unpaged {α : Type} (rows : List α) : ListingResult α := ⟨none, rows⟩

def map {α β : Type} (f : α → β) (result : ListingResult α) : ListingResult β :=
  ⟨result.total, result.rows.map f⟩

/-- The text of a result: the total, or null if there is none, and the rows. -/
def text {α : Type} (rowToJson : α → Json) (result : ListingResult α) : String :=
  let total := (result.total.map Json.ofUInt64).getD .null
  Json.text (.object [("total", total), ("data", .array (result.rows.map rowToJson))])

end ListingResult

end DataAccess
