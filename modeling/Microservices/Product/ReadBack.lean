/-
  A product read back (`createProduct` and `getProduct` in
  product-service/src/product/product.controller.ts, `create` in
  product-service/src/product/product.service.ts).

  The response of `CreateProduct` is made of the entity, which `save` leaves with the price it was
  given; a `GetProduct` reads the rounded column.  The two are one price exactly where the price that
  was given is the double of a positive amount of the column.
-/
import Microservices.Product.Store

namespace Microservices.Product

open Microservices.Order (ProductResponse)

/-- `createProduct`: the response and the table after the `INSERT`. -/
def Products.createProduct (numeric : Float → Option Numeric) (uuid : String) (dto : CreateProductDto)
    (d : Products) : Except JsError (ProductResponse × Products) :=
  match d.create numeric uuid dto.name dto.price with
  | .ok (row, d') => .ok (⟨row.id, row.name, dto.price⟩, d')
  | .error err => .error err

/-- No row has the id: `gen_random_uuid` draws such a one, and the primary key rejects any other. -/
def Products.Fresh (uuid : String) (d : Products) : Prop := ∀ row ∈ d, row.id ≠ uuid

/-- The tables that further requests of `createProduct` can make of a table. -/
inductive Products.Later (numeric : Float → Option Numeric) (d : Products) : Products → Prop where
  | refl : Later numeric d d
  | create {d' d'' : Products} {response : ProductResponse} (dto : CreateProductDto) (uuid : String)
      (hd : Later numeric d d') (hvalid : dto.Valid) (hfresh : d'.Fresh uuid)
      (hcreate : d'.createProduct numeric uuid dto = .ok (response, d'')) : Later numeric d d''

/-- **The product reads back as it was reported**, and costs something: whatever the table it is
    created in, the price in the response is the one of every later `getProduct`. -/
def ReadsBack (numeric : Float → Option Numeric) (dto : CreateProductDto) : Prop :=
  ∀ (d d' d'' : Products) (uuid : String) (response found : ProductResponse), d.Fresh uuid →
    d.createProduct numeric uuid dto = .ok (response, d') → d'.Later numeric d'' →
      d''.getProduct response.id = .ok found → found.price = response.price ∧ 0 < found.price

section ReadBack

variable {numeric : Float → Option Numeric} {dto : CreateProductDto} {d d' d'' : Products}
variable {uuid : String} {response : ProductResponse}

/-- A product that is created is stored, and answered as it was asked for. -/
theorem createProduct_spec (h : d.createProduct numeric uuid dto = .ok (response, d')) :
    ∃ price, numeric dto.price = some price ∧ d' = d ++ [⟨uuid, dto.name, price⟩] ∧
      response = ⟨uuid, dto.name, dto.price⟩ := by
  unfold Products.createProduct Products.create at h
  cases hprice : numeric dto.price with
  | none =>
    rw [hprice] at h
    cases h
  | some price =>
    rw [hprice] at h
    cases h
    exact ⟨price, rfl, rfl, rfl⟩

/-- Later tables have more rows. -/
theorem later_append (h : d.Later numeric d') : ∃ more, d' = d ++ more := by
  induction h with
  | refl => exact ⟨[], (List.append_nil d).symm⟩
  | create dto uuid hd hvalid hfresh hcreate ih =>
    obtain ⟨more, rfl⟩ := ih
    obtain ⟨price, -, rfl, -⟩ := createProduct_spec hcreate
    exact ⟨more ++ [⟨uuid, dto.name, price⟩], List.append_assoc d more _⟩

/-- The row that was inserted is the one that is found. -/
theorem getProduct_inserted (hfresh : d.Fresh uuid) {row : ProductRow} (hid : row.id = uuid)
    (more : Products) : (d ++ [row] ++ more).getProduct uuid = .ok row.response := by
  -- no older row has the new id, so the first found is the new one
  have hold : d.find? (fun old => decide (old.id = uuid)) = none := by
    rw [List.find?_eq_none]
    intro old hmem
    rw [decide_eq_true_iff]
    exact hfresh old hmem
  have hfind : (d ++ [row] ++ more).find? (fun row => decide (row.id = uuid)) = some row := by
    rw [List.append_assoc, List.find?_append, hold, Option.none_or]
    exact List.find?_cons_of_pos (decide_eq_true hid)
  unfold Products.getProduct Products.findOne
  rw [hfind]
  rfl

/-- What a later `getProduct` answers: the stored amount. -/
theorem getProduct_later (hfresh : d.Fresh uuid)
    (hcreate : d.createProduct numeric uuid dto = .ok (response, d')) (hlater : d'.Later numeric d'') :
    ∃ price, numeric dto.price = some price ∧
      d''.getProduct response.id = .ok ⟨uuid, dto.name, price.toNumber⟩ := by
  obtain ⟨price, hprice, rfl, rfl⟩ := createProduct_spec hcreate
  obtain ⟨more, rfl⟩ := later_append hlater
  exact ⟨price, hprice, getProduct_inserted hfresh rfl more⟩

/-- **Exactly which prices read back**: the doubles of the positive amounts of the column. -/
theorem readsBack_iff (hnumeric : StoresText numeric) (hvalid : dto.Valid)
    (haccepted : numeric dto.price ≠ none) :
    ReadsBack numeric dto ↔
      ∃ c : ℕ, 0 < c ∧ c < 10 ^ 12 ∧ dto.price = (Numeric.hundredths c).toNumber := by
  constructor
  · intro h
    obtain ⟨price, hprice⟩ := Option.ne_none_iff_exists'.mp haccepted
    have hcreate : Products.createProduct numeric "" dto [] =
        .ok (⟨"", dto.name, dto.price⟩, [⟨"", dto.name, price⟩]) := by
      unfold Products.createProduct Products.create
      rw [hprice]
      rfl
    have hfresh : Products.Fresh "" [] := fun row hrow => absurd hrow List.not_mem_nil
    -- taken at an empty table, where the row stored is the only one
    obtain ⟨hsame, hpos⟩ := h [] _ _ "" _ _ hfresh hcreate .refl
      (@getProduct_inserted [] "" hfresh ⟨"", dto.name, price⟩ rfl [])
    rw [hnumeric] at hprice
    obtain ⟨c, rfl, hc, hlt⟩ := numericColumn_positive hvalid.2.1 hvalid.2.2 hprice
    obtain ⟨n, rfl⟩ := Int.eq_ofNat_of_zero_le hc
    refine ⟨n, Nat.pos_of_ne_zero ?_, by exact_mod_cast hlt, hsame.symm⟩
    -- a price that rounds to nothing is read back as zero
    rintro rfl
    have hzero : ¬ (0 : Float) < (Numeric.hundredths 0).toNumber := by decide
    exact hzero hpos
  · rintro ⟨c, hpos, hlt, hprice⟩ d d' d'' uuid response found hfresh hcreate hlater hget
    have hnear := near_toNumber hpos hlt
    have hstored : numeric dto.price = some (.hundredths c) := by
      rw [hnumeric, hprice]
      exact numericColumn_near hnear (by decide) hpos hlt
    obtain ⟨price, hprice', hfound⟩ := getProduct_later hfresh hcreate hlater
    obtain ⟨-, -, -, rfl⟩ := createProduct_spec hcreate
    cases hstored.symm.trans hprice'
    cases hfound.symm.trans hget
    exact ⟨hprice.symm, pos_of_near hnear⟩

end ReadBack

/-- A pen at 1.50. -/
theorem readsBack_pen : ReadsBack (fun x => numericColumn (numberText x)) ⟨"Pen", 1.5⟩ :=
  (@readsBack_iff (fun x => numericColumn (numberText x)) ⟨"Pen", 1.5⟩ (fun _ => rfl) (by decide)
    (by decide +kernel)).mpr ⟨150, by decide, by decide, by decide +kernel⟩

/-- A screw at a tenth of a cent is reported at that price, and costs nothing from then on. -/
theorem not_readsBack_screw :
    CreateProductDto.Valid ⟨"Screw", 0.001⟩ ∧
      ¬ ReadsBack (fun x => numericColumn (numberText x)) ⟨"Screw", 0.001⟩ := by
  refine ⟨by decide, fun h => ?_⟩
  have hfresh : Products.Fresh "p1" [] := fun row hrow => absurd hrow List.not_mem_nil
  have hrounded : numericColumn (numberText 0.001) = some (.hundredths 0) := by decide +kernel
  have hcreate : Products.createProduct (fun x => numericColumn (numberText x)) "p1"
      ⟨"Screw", 0.001⟩ [] =
        .ok (⟨"p1", "Screw", 0.001⟩, [⟨"p1", "Screw", .hundredths 0⟩]) := by
    unfold Products.createProduct Products.create
    simp only [hrounded]
    rfl
  have hpos := (h [] _ _ "p1" _ _ hfresh hcreate .refl
    (@getProduct_inserted [] "p1" hfresh ⟨"p1", "Screw", .hundredths 0⟩ rfl [])).2
  exact absurd hpos (by decide)

end Microservices.Product
