/-
  The metrics table (analytics-service/src/db/migrate.js,
  analytics-service/src/repositories/analytics.repository.js).

  The table has no key on the order: every accepted `INSERT` is one more row.  How Postgres reads
  the parameters of an `INSERT` into the columns (null bytes in a text, a text where a number
  should be, an amount that does not fit) is its own business: `Columns` is any such reading.

  `insert` is the one statement that writes; `getSummary` and `getTopProducts` read.  The
  dashboard's sums are sums of the rows as they are, so nothing in the table can tell an event that
  was handled twice from two events.
-/
import Microservices.Js
import Microservices.Lib.Ranking

namespace Microservices.Analytics

/-! ## The table -/

/-- The values of the column `order_metrics.status`. -/
inductive MetricStatus : Type where
  | created
  | failed
  deriving DecidableEq, Repr

/-- A row of `order_metrics`, without the columns only the server fills. -/
structure MetricRow where
  orderId : Option String
  userId : Option String
  productName : Option String
  totalPrice : Numeric
  status : MetricStatus
  deriving DecidableEq, Repr

/-- The rows of `order_metrics`, in the order of their inserts. -/
abbrev Metrics : Type := List MetricRow

/-- How a parameter is read into a column; `none` if the statement fails. -/
structure Columns where
  text : JsValue → Option (Option String)
  amount : JsValue → Option Numeric

/-- The two `INSERT`s with their parameters. -/
inductive NewMetric : Type where
  | created (orderId userId productName totalPrice : JsValue)
  | failed (orderId : JsValue)

/-- The row an `INSERT` makes; `none` if a parameter is not accepted. -/
def NewMetric.row (columns : Columns) : NewMetric → Option MetricRow
  | .created orderId userId productName totalPrice => do
    let orderId ← columns.text orderId
    let userId ← columns.text userId
    let productName ← columns.text productName
    let totalPrice ← columns.amount totalPrice
    return ⟨orderId, userId, productName, totalPrice, .created⟩
  | .failed orderId => do
    let orderId ← columns.text orderId
    return ⟨orderId, none, none, .hundredths 0, .failed⟩

/-- What the server says of parameters it does not accept. -/
def invalidParameter : JsError :=
  { message := "invalid input syntax", code := some "22P02" }

/-! ## The queries -/

/-- Addition of `NUMERIC` values. -/
def addNumeric : Numeric → Numeric → Numeric
  | .hundredths a, .hundredths b => .hundredths (a + b)
  | _, _ => .nan

/-- The row `getSummary` returns. -/
structure Summary where
  totalOrders : Nat
  successfulOrders : Nat
  failedOrders : Nat
  totalRevenue : Numeric
  deriving DecidableEq, Repr

/-- `getSummary`: the four aggregates over the whole table. -/
def Metrics.getSummary (d : Metrics) : Summary where
  totalOrders := d.length
  successfulOrders := d.countP fun row => decide (row.status = .created)
  failedOrders := d.countP fun row => decide (row.status = .failed)
  totalRevenue :=
    ((d.filter fun row => decide (row.status = .created)).map MetricRow.totalPrice).foldr addNumeric
      (.hundredths 0)

/-- The product names that count for `getTopProducts`. -/
def Metrics.productNames (d : Metrics) : List String :=
  d.filterMap fun row => if row.status = .created then row.productName else none

/-- `getTopProducts`: the names ordered most often, with their counts.  `ORDER BY orders DESC` does not
    say which of equal counts comes first: the server does. -/
def Metrics.getTopProducts (ties : Ranking.Arrangement String) (limit : Nat) (d : Metrics) :
    List (String × Nat) :=
  (Ranking.ranking ties d.productNames).take limit

end Microservices.Analytics
