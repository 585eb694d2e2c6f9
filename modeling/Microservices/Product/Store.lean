/-
  The product service (product-service/src/product/product.service.ts,
  product-service/src/product/product.controller.ts,
  product-service/src/product/dto/create-product.dto.ts,
  product-service/src/product/entities/product.entity.ts,
  product-service/src/common/transformers/numeric.transformer.ts).

  A product is created with the price its caller gives, once it has passed validation, and the
  column stores what it makes of that.  `priced` is what every stored price is then.
-/
import Microservices.Column
import Microservices.Order.Saga

namespace Microservices.Product

open Microservices.Order (ProductResponse)

/-! ## The table -/

/-- A row of `products`; nothing reads the other columns. -/
structure ProductRow where
  id : String
  name : String
  price : Numeric
  deriving DecidableEq, Repr

/-- The rows of `products`, in the order of their inserts. -/
abbrev Products : Type := List ProductRow

/-- `CreateProductDto`. -/
structure CreateProductDto where
  name : String
  price : Float
  deriving DecidableEq

/-- The request passes the `ValidationPipe`: `MinLength(1)`, `IsNumber()` and `IsPositive()`. -/
def CreateProductDto.Valid (dto : CreateProductDto) : Prop :=
  1 ≤ dto.name.length ∧ dto.price.isFinite = true ∧ 0 < dto.price

/-- Whether a request is valid can be computed. -/
instance (dto : CreateProductDto) : Decidable dto.Valid := inferInstanceAs (Decidable (_ ∧ _ ∧ _))

/-! ## The service and its controller -/

/-- `create`: the stored row and the table after the `INSERT`. -/
def Products.create (numeric : Float → Option Numeric) (uuid name : String) (price : Float)
    (d : Products) : Except JsError (ProductRow × Products) :=
  match numeric price with
  | none => .error numericOverflow
  | some price => .ok (⟨uuid, name, price⟩, d ++ [⟨uuid, name, price⟩])

/-- `findOne`; an id that is no UUID is not found either. -/
def Products.findOne (id : String) (d : Products) : Except JsError ProductRow :=
  match d.find? fun row => decide (row.id = id) with
  | some row => .ok row
  | none => .error { message := "Product not found: " ++ id, code := some "NOT_FOUND" }

/-- A row as a response; the transformer of the column `price` has parsed its text. -/
def ProductRow.response (row : ProductRow) : ProductResponse := ⟨row.id, row.name, row.price.toNumber⟩

/-- `getProduct`. -/
def Products.getProduct (id : String) (d : Products) : Except JsError ProductResponse :=
  ProductRow.response <$> d.findOne id

/-! ## The prices it holds -/

/-- The tables that the requests of `createProduct` can make. -/
inductive Products.Reached (numeric : Float → Option Numeric) : Products → Prop where
  | empty : Reached numeric []
  | create {d d' : Products} {row : ProductRow} (dto : CreateProductDto) (uuid : String)
      (hd : Reached numeric d) (hvalid : dto.Valid)
      (hcreate : d.create numeric uuid dto.name dto.price = .ok (row, d')) : Reached numeric d'

/-- The price is an amount of the column that is not negative. -/
def ProductRow.Priced (row : ProductRow) : Prop :=
  ∃ c : ℤ, row.price = .hundredths c ∧ 0 ≤ c ∧ c < 10 ^ 12

section Prices

variable {numeric : Float → Option Numeric} {d d' : Products} {row : ProductRow}

/-- `create` adds one row, its price as the column takes it. -/
theorem create_spec {uuid name : String} {price : Float}
    (h : d.create numeric uuid name price = .ok (row, d')) :
    d' = d ++ [row] ∧ numeric price = some row.price := by
  unfold Products.create at h
  split at h
  · cases h
  · rename_i hprice
    cases h
    exact ⟨rfl, hprice⟩

/-- **Every price the service holds** is a non-negative amount of its column. -/
theorem priced (hnumeric : StoresText numeric) (hd : Products.Reached numeric d) :
    ∀ row ∈ d, row.Priced := by
  induction hd with
  | empty => exact fun row hrow => nomatch hrow
  | create dto uuid hd hvalid hcreate ih =>
    obtain ⟨rfl, hprice⟩ := create_spec hcreate
    intro row' hrow
    rcases List.mem_append.mp hrow with hold | hnew
    · exact ih row' hold
    · -- the new row's price has passed the DTO's check and the column
      rw [List.mem_singleton] at hnew
      subst hnew
      rw [hnumeric] at hprice
      exact numericColumn_positive hvalid.2.1 hvalid.2.2 hprice

/-- So is every price `getProduct` answers. -/
theorem getProduct_priced (hnumeric : StoresText numeric) (hd : Products.Reached numeric d)
    {id : String} {product : ProductResponse} (h : d.getProduct id = .ok product) :
    ∃ row : ProductRow, row.Priced ∧ product = row.response := by
  unfold Products.getProduct Products.findOne at h
  split at h
  · rename_i row hrow
    cases h
    exact ⟨row, priced hnumeric hd row (List.mem_of_find?_eq_some hrow), rfl⟩
  · cases h

end Prices

end Microservices.Product
