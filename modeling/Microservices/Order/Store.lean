/-
  The order database and its repository (order-service/src/db/migrate.js,
  order-service/src/repositories/order.repository.js, order-service/src/domain/order-status.js).

  Every repository function is one autocommitted statement, so each is a function of the whole
  table.  There is no intent row and no lock here, unlike on the payment side.

  1. **The table**: rows in the order in which they were inserted, the id being the primary key.
  2. **The repository**: `create` inserts or fails, `updateStatus` writes one column and returns the
     row if there is one, `findById` reads.
  3. **What follows**: `create_spec` and `mem_updateStatus` say all that the two statements can do
     to a row; the modules above use nothing else of them.
-/
import Mathlib.Data.List.Basic
import Microservices.Common

namespace Microservices.Order

/-! ## The table -/

/-- `ORDER_STATUS`. -/
inductive OrderStatus : Type where
  | confirmed
  | cancelled
  deriving DecidableEq, Repr

/-- A row of `orders`. -/
structure OrderRow where
  id : String
  userId : String
  productId : String
  quantity : Int32
  totalPrice : Numeric
  userName : String
  userEmail : String
  productName : String
  paymentId : String
  status : OrderStatus
  createdAt : Nat
  deriving DecidableEq, Repr

/-- The rows of `orders`, in the order of their inserts. -/
abbrev Orders : Type := List OrderRow

/-- What a caller of `create` passes. -/
structure NewOrder where
  id : String
  userId : String
  productId : String
  quantity : Int32
  totalPrice : Float
  userName : String
  userEmail : String
  productName : String
  paymentId : String
  status : OrderStatus
  deriving DecidableEq

/-- Postgres rejects a second row with one primary key. -/
def duplicateKey : JsError :=
  { message := "duplicate key value violates unique constraint \"orders_pkey\""
    code := some "23505" }

/-! ## The repository -/

/-- The row an accepted `INSERT` makes. -/
def NewOrder.row (order : NewOrder) (totalPrice : Numeric) (now : Nat) : OrderRow where
  id := order.id
  userId := order.userId
  productId := order.productId
  quantity := order.quantity
  totalPrice := totalPrice
  userName := order.userName
  userEmail := order.userEmail
  productName := order.productName
  paymentId := order.paymentId
  status := order.status
  createdAt := now

/-- `create`: the stored row and the table after the `INSERT`. -/
def Orders.create (numeric : Float → Option Numeric) (now : Nat) (order : NewOrder) (d : Orders) :
    Except JsError (OrderRow × Orders) :=
  match numeric order.totalPrice with
  | none => .error numericOverflow
  | some totalPrice =>
    if d.any fun row => decide (row.id = order.id) then .error duplicateKey
    else .ok (order.row totalPrice now, d ++ [order.row totalPrice now])

/-- `updateStatus`: the updated row, `none` if there is none, and the table after the `UPDATE`. -/
def Orders.updateStatus (id : String) (status : OrderStatus) (d : Orders) :
    Option OrderRow × Orders :=
  let d' := d.map fun row => if row.id = id then { row with status := status } else row
  (d'.find? fun row => decide (row.id = id), d')

/-- `findById`: the row, `none` if there is none. -/
def Orders.findById (id : String) (d : Orders) : Option OrderRow :=
  d.find? fun row => decide (row.id = id)

/-! ## What the two statements do to a row -/

section Statements

variable {numeric : Float → Option Numeric} {now : Nat} {order : NewOrder} {d d' : Orders}

/-- What a stored order leaves behind: one more row. -/
theorem create_spec {row : OrderRow} (h : d.create numeric now order = .ok (row, d')) :
    d' = d ++ [row] ∧ row = order.row row.totalPrice now ∧
      numeric order.totalPrice = some row.totalPrice := by
  unfold Orders.create at h
  split at h
  · cases h
  · rename_i totalPrice hprice
    split at h
    · cases h
    · cases h
      exact ⟨rfl, rfl, hprice⟩

/-- An `UPDATE` changes the status of the rows of its order only. -/
theorem mem_updateStatus {id : String} {status : OrderStatus} {row : OrderRow}
    (h : row ∈ (d.updateStatus id status).2) :
    (∃ old ∈ d, old.id = id ∧ row = { old with status := status }) ∨ row.id ≠ id ∧ row ∈ d := by
  obtain ⟨old, hold, heq⟩ := List.mem_map.mp h
  by_cases hid : old.id = id
  · rw [if_pos hid] at heq
    exact Or.inl ⟨old, hold, hid, heq.symm⟩
  · rw [if_neg hid] at heq
    subst heq
    exact Or.inr ⟨hid, hold⟩

end Statements

end Microservices.Order
