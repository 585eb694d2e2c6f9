/-
  The amount of an order across three services (`totalPrice` in
  order-service/src/sagas/create-order.saga.js, the columns `products.price`, `payments.amount` and
  `orders.total_price`).

  A price in hundredths is a whole number below 10^12 and a quantity one below 2^31; their product
  can be a thousand million times what the other two columns hold, and nobody looks at it before the
  gateway is charged.  The arithmetic in doubles is not what decides: `fits_iff` says that a total
  fits exactly if the whole number of its hundredths is below 10^12.

  `recorded_iff` is that for every run of a saga and of the payment call it makes: nothing is
  charged that the tables would not record.
-/
import Microservices.Order.Handler
import Microservices.Payment.Handlers
import Microservices.Payment.Ledger
import Microservices.Product.Store

namespace Microservices.Order

open Binary64 (Near Within)
open Microservices.Payment (AllowsAttempts Pay PaymentRequest PaymentResponse PayOp
  handleProcessPayment processPayment toPaymentResponse)
open Microservices.Product (ProductRow)

/-! ## The amount in doubles -/

section Amount

variable {n q : ℕ} {input : CreateOrder} {row : ProductRow}

/-- A positive quantity is a natural number below `2 ^ 31`. -/
theorem quantity_eq (h : input.Accepted) :
    ∃ q : ℕ, input.quantity.toInt = q ∧ 0 < q ∧ q < 2 ^ 31 := by
  obtain ⟨-, -, -, hpos⟩ := h
  rw [Int32.le_iff_toInt_le] at hpos
  have hzero : (0 : Int32).toInt = 0 := rfl
  have hlt := input.quantity.toInt_lt
  refine ⟨input.quantity.toInt.toNat, ?_, ?_, ?_⟩ <;> omega

/-- What is charged for `q` pieces of `n` hundredths each. -/
theorem near_amount (hn : 0 < n) (hlt : n < 10 ^ 12) (hq : 0 < q) (hq31 : q < 2 ^ 31)
    (hprice : row.price = .hundredths n) (hquantity : input.quantity.toInt = q) :
    Near 6 (input.amount row.response).toModel (((n * q : ℕ) : ℚ) / 100) := by
  have hamount : input.amount row.response =
      (Numeric.hundredths n).toNumber * Float.ofNat q := by
    show row.price.toNumber * Float.ofInt input.quantity.toInt = _
    rw [hprice, hquantity]
    rfl
  -- the exact amount, of which the product of doubles is near
  have hvalue : (n : ℚ) / 100 * q = ((n * q : ℕ) : ℚ) / 100 := by
    push_cast
    ring
  have htotal : n * q < 2 ^ 80 := by
    calc n * q ≤ 10 ^ 12 * 2 ^ 31 := Nat.mul_le_mul hlt.le hq31.le
      _ < 2 ^ 80 := by decide
  have hwithin := within_hundredths (Nat.mul_pos hn hq) htotal
  have h := Binary64.near_mul (near_toNumber hn hlt)
    (Binary64.near_natToFloat hq (by omega)) (by decide)
  rw [hvalue] at h
  rw [hamount]
  exact h (hwithin.mono (by decide))

/-- A product that costs nothing. -/
theorem amount_zero (hq : 0 < q) (hq31 : q < 2 ^ 31) (hprice : row.price = .hundredths 0)
    (hquantity : input.quantity.toInt = q) :
    numberText (input.amount row.response) = .decimal false 0 0 := by
  obtain ⟨m, e, hm, -⟩ := Binary64.near_natToFloat hq (show q < 2 ^ 53 by omega)
  obtain ⟨hpos, hunpack⟩ := hm.unpack
  have hamount : input.amount row.response =
      (Numeric.hundredths 0).toNumber * Float.ofNat q := by
    show row.price.toNumber * Float.ofInt input.quantity.toInt = _
    rw [hprice, hquantity]
    rfl
  have hzero : (Numeric.hundredths 0).toNumber.toModel.unpack = .zero .positive := rfl
  -- zero times a positive number is a positive zero
  have hproduct : ((Numeric.hundredths 0).toNumber * Float.ofNat q).toModel =
      .pack (.zero .positive) := by
    show Float.Model.pack (Float.Model.UnpackedFloat.mul Float.Model.Format.binary64
      (Numeric.hundredths 0).toNumber.toModel.unpack (Float.ofNat q).toModel.unpack) = _
    rw [hzero, hunpack]
    rfl
  unfold numberText
  rw [hamount, hproduct]
  rfl

/-- **A total fits the column** exactly if the whole number of its hundredths does. -/
theorem fits_iff {c : ℤ} (haccepted : input.Accepted) (hprice : row.price = .hundredths c)
    (hc : 0 ≤ c) (hlt : c < 10 ^ 12) :
    numericColumn (numberText (input.amount row.response)) ≠ none ↔
      c * input.quantity.toInt < 10 ^ 12 := by
  obtain ⟨q, hquantity, hq, hq31⟩ := quantity_eq haccepted
  obtain ⟨n, rfl⟩ := Int.eq_ofNat_of_zero_le hc
  have hlt' : n < 10 ^ 12 := by exact_mod_cast hlt
  rw [hquantity]
  rcases Nat.eq_zero_or_pos n with rfl | hn
  · rw [amount_zero hq hq31 hprice hquantity]
    have hfits : (0 : ℤ) * q < 10 ^ 12 := by omega
    exact ⟨fun _ => hfits, fun _ => by decide⟩
  · have htotal : n * q < 2 ^ 80 := by
      calc n * q ≤ 10 ^ 12 * 2 ^ 31 := Nat.mul_le_mul hlt'.le hq31.le
        _ < 2 ^ 80 := by decide
    -- the amount is a number of hundredths, which six roundings do not move across the bound
    rw [column_near (near_amount hn hlt' hq hq31 hprice hquantity) (by decide)
      ((within_hundredths (Nat.mul_pos hn hq) htotal).mono (by decide))]
    exact_mod_cast Iff.rfl

end Amount

/-! ## What is charged and what is recorded -/

/-- What the payment service asks about the amount: the gateway is passed one that fits its column,
    and no `INSERT` of a charge is rejected because its amount does not. -/
def Fits (numeric : Float → Option Numeric) : PayOp → Prop
  | .charge _ amount => numeric amount ≠ none
  | .createChargedPayment p =>
    ∀ g now (d : Payment.Db), d.createChargedPayment numeric g now p ≠ .error numericOverflow
  | _ => True

/-- Where a saga may stand that has been told the product: its payment call charges and inserts what
    fits, and no `INSERT` of its order is rejected because its total does not. -/
def Recordable (numeric : Float → Option Numeric) (maxRetries : Nat) (input : CreateOrder)
    (product : ProductResponse) (L : SagaLog) : SagaProg → Prop
  | .await (.processPayment req) _ =>
    (⟨.getProduct input.productId, .ok product⟩ : Σ op, SagaRes op) ∈ L →
      (handleProcessPayment maxRetries req).run.Asks (Fits numeric)
  | .await (.create order) _ =>
    (⟨.getProduct input.productId, .ok product⟩ : Σ op, SagaRes op) ∈ L →
      ∀ now d, Orders.create numeric now order d ≠ .error numericOverflow
  | _ => True

section Runs

variable {numeric : Float → Option Numeric} {maxRetries : Nat} {req : PaymentRequest}
variable {o : String} {input : CreateOrder} {product : ProductResponse} {L : SagaLog}
variable {err : JsError} {row : ProductRow}

/-- A payment whose amount fits asks for nothing that does not. -/
theorem fits_allows (h : numeric req.amount ≠ none) :
    AllowsAttempts req (fun _ p => p.Next (Fits numeric)) where
  charge _ _ := h
  record _ transactionId _ := by
    intro g now d heq
    obtain ⟨row, b, d', hok⟩ := @Payment.createChargedPayment_stored numeric g now d
      ⟨req.orderId, req.userId, req.amount, req.method, transactionId⟩ h
    cases hok.symm.trans heq
  sleep _ _ _ := trivial
  fail _ _ _ := trivial
  recorded _ _ _ _ _ := trivial
  failed _ _ _ _ := trivial
  throws _ _ := trivial

/-- Neither does its handler. -/
theorem handleProcessPayment_fits (h : numeric req.amount ≠ none) :
    (handleProcessPayment maxRetries req).run.Asks (Fits numeric) := by
  have hresp : (do
      let payment ← processPayment maxRetries req
      pure (toPaymentResponse payment) : Pay PaymentResponse).run.Asks (Fits numeric) := by
    refine ((fits_allows h).along maxRetries 1 none []).asks.bind fun res => ?_
    cases res with
    | ok row => trivial
    | error e => trivial
  refine hresp.bind fun res => ?_
  cases res with
  | ok resp => trivial
  | error e => trivial

/-- A saga that throws stores no total. -/
theorem throwing_recordable {compensations : List Compensation} :
    Prog.Along (Recordable numeric maxRetries input product) L (throwing o err compensations) := by
  rw [throwing_eq]
  exact ⟨trivial, fun r => trivial⟩

/-- Neither does one that refunds first. -/
theorem failing_refund_recordable :
    Prog.Along (Recordable numeric maxRetries input product) L
      (failing o err [.refundPayment o]) := by
  rw [failing_refund_eq]
  exact ⟨trivial, fun r => throwing_recordable⟩

/-- Nor one that also cancels. -/
theorem failing_both_recordable :
    Prog.Along (Recordable numeric maxRetries input product) L
      (failing o err [.refundPayment o, .cancelOrder o]) := by
  rw [failing_both_eq]
  exact ⟨trivial, fun r₁ => ⟨trivial, fun r₂ => throwing_recordable⟩⟩

/-- A total that fits the column is stored. -/
theorem create_fits {order : NewOrder} (h : numeric order.totalPrice ≠ none) (now : Nat)
    (d : Orders) : Orders.create numeric now order d ≠ .error numericOverflow := by
  unfold Orders.create
  split
  · rename_i hnone
    exact absurd hnone h
  · have hkey : duplicateKey ≠ numericOverflow := by decide
    split
    · exact fun heq => hkey (Except.error.inj heq)
    · exact fun heq => nomatch heq

/-- One that does not makes the INSERT fail. -/
theorem create_overflow {order : NewOrder} {now : Nat} {d : Orders}
    (h : numeric order.totalPrice = none) :
    Orders.create numeric now order d = .error numericOverflow := by
  unfold Orders.create
  rw [h]

/-- A saga told a product whose total fits. -/
theorem saga_recordable (h : numeric (input.amount product) ≠ none) :
    Prog.Along (Recordable numeric maxRetries input product) [] (saga o input) := by
  refine AllowsSaga.along ⟨?getUser, ?getProduct, ?charge, ?insert, ?fails, ?publishes⟩
  case getUser => exact fun k => trivial
  case getProduct => exact fun user k => trivial
  case charge =>
    intro user told k htold
    -- the amount is that of the product the saga was told
    obtain rfl : product = told := by simpa [looked] using htold
    exact handleProcessPayment_fits h
  case insert =>
    intro user told payment k _ htold
    obtain rfl : product = told := by simpa [charged, looked] using htold
    exact create_fits h
  case fails =>
    intro compensations L err hfailed
    cases hfailed with
    | user e =>
      show Prog.Along _ _ (throwing o err [])
      exact throwing_recordable
    | product user e =>
      show Prog.Along _ _ (throwing o err [])
      exact throwing_recordable
    | charge user told r => exact failing_refund_recordable
    | insert user told payment e => exact failing_both_recordable
  case publishes => exact fun user told payment row _ => ⟨trivial, fun r => trivial⟩

/-- The run in which every call before the `INSERT` succeeds. -/
theorem fits_of_recordable
    (h : Prog.Along (Recordable numeric maxRetries input product) [] (saga o input)) :
    numeric (input.amount product) ≠ none := by
  intro hnone
  have hcreate := (((h.2 (.ok ⟨"", "", ""⟩)).2 (.ok product)).2 (.ok ⟨"", .success, "", ""⟩)).1
  exact hcreate (List.mem_cons_of_mem _ List.mem_cons_self) 0 [] (create_overflow hnone)

/-- **Nothing is charged that the tables would not record**, in any run of a saga and of its payment
    call, exactly if the price in hundredths times the quantity is below the columns' limit. -/
theorem recorded_iff (hnumeric : StoresText numeric) (maxRetries : Nat) (o : String)
    (haccepted : input.Accepted) {c : ℤ} (hprice : row.price = .hundredths c) (hc : 0 ≤ c)
    (hlt : c < 10 ^ 12) :
    Prog.Along (Recordable numeric maxRetries input row.response) [] (saga o input) ↔
      c * input.quantity.toInt < 10 ^ 12 := by
  rw [← fits_iff haccepted hprice hc hlt, ← hnumeric]
  exact ⟨fits_of_recordable, saga_recordable⟩

end Runs

/-! ## A total that does not fit -/

section Unrecorded

open Microservices.Payment

variable {numeric : Float → Option Numeric} {env : Env} {maxRetries : Nat} {req : PaymentRequest}

/-- Every accepted charge is lost, and the FAILED row as well. -/
theorem attempts_unrecorded (h : numeric req.amount = none)
    (hgateway : ∀ n, ∃ now suffix, env.gateway n = .accepted now suffix) (remaining : Nat) :
    ∀ (attempt : Nat) (le : Option JsError) (w : World), (remaining = 0 → le.isSome) →
      ∃ w', alone numeric env (attempts maxRetries req remaining attempt le) w =
          (.error numericOverflow, w') ∧
        w'.db = w.db ∧ w'.accepted.length = w.accepted.length + remaining := by
  induction remaining with
  | zero =>
    intro attempt le w hle
    obtain ⟨e, rfl⟩ := Option.isSome_iff_exists.mp (hle rfl)
    -- the failed row has the same amount, and is rejected as well
    have hcreate : settle (w.db.create numeric env.createGen (failedPayment req e)) env.createOut
        w.db = (.error numericOverflow, w.db) := by
      rw [@create_rejected numeric env.createGen w.db (failedPayment req e) h]
      rfl
    rw [alone_create, hcreate]
    exact ⟨w, rfl, rfl, rfl⟩
  | succ n ih =>
    intro attempt le w _
    obtain ⟨now, suffix, hcharge⟩ := hgateway w.charges
    have hinsert : settle (w.db.createChargedPayment numeric (env.gen w.txns) (env.now w.txns)
        (chargedPayment req (transactionIdOf now suffix))) (env.txn w.txns) w.db =
        (.error numericOverflow, w.db) := by
      rw [@createChargedPayment_rejected numeric (env.gen w.txns) (env.now w.txns) w.db
        (chargedPayment req (transactionIdOf now suffix)) h]
      rfl
    obtain ⟨w', hrun, hdb, haccepted⟩ := ih (attempt + 1) (some numericOverflow)
      (((w.charged (.accepted now suffix)).stored w.db).slept maxRetries attempt) (fun _ => rfl)
    refine ⟨w', ?_, ?_, ?_⟩
    · rw [alone_lost hcharge hinsert, hrun]
    · rw [hdb, slept_db]
      rfl
    · rw [haccepted, slept_accepted]
      show (w.accepted ++ [transactionIdOf now suffix]).length + n = _
      rw [List.length_append, List.length_singleton]
      omega

/-- **Charged and not recorded**: where the gateway accepts, an amount that does not fit is charged
    once in every attempt, and the tables are as before. -/
theorem charged_unrecorded (h : numeric req.amount = none)
    (hgateway : ∀ n, ∃ now suffix, env.gateway n = .accepted now suffix) (hmax : 0 < maxRetries)
    (d : Db) :
    ∃ w, alone numeric env (processPayment maxRetries req) (World.start d) =
        (.error numericOverflow, w) ∧
      w.db = d ∧ w.accepted.length = maxRetries := by
  obtain ⟨w, hrun, hdb, haccepted⟩ :=
    attempts_unrecorded h hgateway maxRetries 1 none (World.start d) (fun hzero => by omega)
  refine ⟨w, hrun, hdb, ?_⟩
  rw [haccepted]
  exact Nat.zero_add _

end Unrecorded

/-- The parameter as the databases of the repository read it. -/
def storedText (x : Float) : Option Numeric := numericColumn (numberText x)

/-- Three lamps at 19.99. -/
theorem recorded_lamps :
    Prog.Along (Recordable storedText 3 ⟨"u1", "p1", 3⟩
      (ProductRow.response ⟨"p1", "Lamp", .hundredths 1999⟩)) [] (saga "o1" ⟨"u1", "p1", 3⟩) :=
  (@recorded_iff storedText ⟨"u1", "p1", 3⟩ ⟨"p1", "Lamp", .hundredths 1999⟩ (fun _ => rfl) 3 "o1"
    (by decide) 1999 rfl (by decide) (by decide)).mpr (by decide)

/-- Two pieces of the dearest product of the column. -/
theorem not_recordable_dearest :
    CreateOrder.Accepted ⟨"u1", "p1", 2⟩ ∧
      ProductRow.Priced ⟨"p1", "Island", .hundredths 999999999999⟩ ∧
      ¬ Prog.Along (Recordable storedText 3 ⟨"u1", "p1", 2⟩
        (ProductRow.response ⟨"p1", "Island", .hundredths 999999999999⟩)) []
        (saga "o1" ⟨"u1", "p1", 2⟩) := by
  have haccepted : CreateOrder.Accepted ⟨"u1", "p1", 2⟩ := by decide
  refine ⟨haccepted, ⟨999999999999, rfl, by decide, by decide⟩, fun h => ?_⟩
  have hfits := fits_of_recordable h
  -- twice 9999999999.99 has eleven digits before the point
  have hlt := (@fits_iff ⟨"u1", "p1", 2⟩ ⟨"p1", "Island", .hundredths 999999999999⟩ 999999999999
    haccepted rfl (by decide) (by decide)).mp hfits
  exact absurd hlt (by decide)

end Microservices.Order
