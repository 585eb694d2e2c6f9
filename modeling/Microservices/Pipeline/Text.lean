/-
  What travels between the services (order-service/src/messaging/kafka.producer.js,
  order-service/src/messaging/rabbitmq.publisher.js, order-service/src/sagas/create-order.saga.js).

  The sagas hand an object to `JSON.stringify` and its text to a broker; the consumers take the text
  out of a buffer and hand it to `JSON.parse`.  Numbers lose what JSON cannot say: a `NaN` arrives as
  `null`.  How a clock is written (`toISOString`) is any function; nobody reads it back.

  1. **Messages**: the events and the notification as trees, and `buffer`, what a broker keeps of
     one.
  2. **Reading**: `JsonReader` is any `JSON.parse` that reads what `JSON.stringify` has written, so
     that `parse_buffer` gives the value back; `arriving` is what has become of a double in it.
  3. **Crux**: `storedAmount_arriving`: an amount of the column's range arrives as a double so near
     to it that the consumer's column stores the same amount.
-/
import Microservices.Column
import Microservices.Js
import Microservices.Lib.JsonNumber
import Microservices.Lib.Utf8
import Microservices.Order.Saga

namespace Microservices

open Json (Tree jsonNumber)
open Binary64 (Near)

/-! ## JSON in JavaScript -/

namespace Json

mutual

/-- The JavaScript value of a JSON value: of two fields of one name the later counts. -/
def Tree.value : Tree → JsValue
  | .null => .null
  | .bool b => .bool b
  | .num n => .num n.number
  | .str s => .str s
  | .arr xs => .arr (elementValues xs)
  | .obj fields => .obj (fieldValues fields).reverse

/-- The elements of an array as JavaScript has them. -/
def elementValues : List Tree → List JsValue
  | [] => []
  | x :: xs => x.value :: elementValues xs

/-- The fields of an object; a later one of the same name comes first. -/
def fieldValues : List (String × Tree) → List (String × JsValue)
  | [] => []
  | (name, x) :: fields => (name, x.value) :: fieldValues fields

end

/-- `JSON.stringify`. -/
def Tree.stringify (x : Tree) : String := String.ofList x.text

end Json

/-- A `JSON.parse`: it reads what `JSON.stringify` has written.  What else it reads, and what it throws
    at, is its own business. -/
structure JsonReader where
  parse : String → Except JsError JsValue
  reads : ∀ x : Tree, parse x.stringify = .ok x.value

/-- The reader of this development, with the message it throws. -/
def JsonReader.plain (message : String) : JsonReader where
  parse text :=
    match Tree.parse text with
    | some x => .ok x.value
    | none => .error { message := message }
  reads x := by
    unfold Tree.stringify
    rw [Json.Tree.parse_text]

namespace Order

/-! ## Events -/

section Written

variable (toISOString : Nat → String)

/-- The `data` of an event. -/
def OrderEvent.data : OrderEvent → Tree
  | .orderCreated id userId productId quantity totalPrice userName productName createdAt =>
    .obj [("id", .str id), ("userId", .str userId), ("productId", .str productId),
      ("quantity", jsonNumber (Float.ofInt quantity.toInt)), ("totalPrice", jsonNumber totalPrice),
      ("userName", .str userName), ("productName", .str productName),
      ("createdAt", .str (toISOString createdAt))]
  | .orderFailed id error => .obj [("id", .str id), ("error", .str error)]

/-- The `value` of `publishOrderEvent`. -/
def OrderEvent.tree (now : Nat) (event : OrderEvent) : Tree :=
  .obj [("eventType", .str event.eventType), ("timestamp", .str (toISOString now)),
    ("data", event.data toISOString)]

/-- The message of `publishNotification`, the `timestamp` of `publishEventsBestEffort` included. -/
def Notification.tree (now : Nat) (message : Notification) : Tree :=
  .obj [("orderId", .str message.orderId), ("userName", .str message.userName),
    ("userEmail", .str message.userEmail), ("productName", .str message.productName),
    ("quantity", jsonNumber (Float.ofInt message.quantity.toInt)),
    ("totalPrice", jsonNumber message.totalPrice), ("timestamp", .str (toISOString now))]

/-- A value as the buffer a broker keeps. -/
def buffer (x : Tree) : List UInt8 := Utf8.encode x.stringify

end Written

/-! ## What is read -/

/-- A buffer is read as the value it was made of. -/
theorem parse_buffer (reader : JsonReader) (x : Tree) :
    reader.parse (Utf8.decode (buffer x)) = .ok x.value := by
  unfold buffer
  rw [Utf8.decode_encode]
  exact reader.reads x

section Read

variable {toISOString : Nat → String} {now : Nat}

/-- The two fields of an event that its consumer reads. -/
theorem tree_value (event : OrderEvent) :
    (event.tree toISOString now).value = .obj [("data", (event.data toISOString).value),
      ("timestamp", .str (toISOString now)), ("eventType", .str event.eventType)] := by
  unfold OrderEvent.tree
  simp only [Json.Tree.value, Json.fieldValues, List.reverse_cons, List.reverse_nil, List.nil_append,
    List.cons_append]

/-- A double as it arrives. -/
def arriving (x : Float) : JsValue := (jsonNumber x).value

/-- An `ORDER_CREATED` as it is parsed. -/
theorem created_value (id userId productId : String) (quantity : Int32) (totalPrice : Float)
    (userName productName : String) (createdAt : Nat) :
    ((OrderEvent.orderCreated id userId productId quantity totalPrice userName productName
      createdAt).data toISOString).value =
    .obj [("createdAt", .str (toISOString createdAt)), ("productName", .str productName),
      ("userName", .str userName), ("totalPrice", arriving totalPrice),
      ("quantity", arriving (Float.ofInt quantity.toInt)), ("productId", .str productId),
      ("userId", .str userId), ("id", .str id)] := by
  unfold OrderEvent.data arriving
  simp only [Json.Tree.value, Json.fieldValues, List.reverse_cons, List.reverse_nil, List.nil_append,
    List.cons_append]

/-- An `ORDER_FAILED` as it is parsed. -/
theorem failed_value (id error : String) :
    ((OrderEvent.orderFailed id error).data toISOString).value =
      .obj [("error", .str error), ("id", .str id)] := by
  unfold OrderEvent.data
  simp only [Json.Tree.value, Json.fieldValues, List.reverse_cons, List.reverse_nil, List.nil_append,
    List.cons_append]

end Read

/-! ## Amounts -/

/-- A double that stands for an amount is neither `NaN` nor zero. -/
theorem truthy_of_near {k : ℕ} {x : Float} {v : ℚ} (h : Near k x.toModel v) :
    (JsValue.num x).truthy = true := by
  obtain ⟨m, e, hm, -⟩ := h
  obtain ⟨hpos, hunpack⟩ := hm.unpack
  have hself : (x == x) = true := by
    show Float.Model.UnpackedFloat.beq x.toModel.unpack x.toModel.unpack = true
    rw [hunpack]
    show ((some ((compare e e).then (compare m m)) : Option Ordering) == some .eq) = true
    rw [Std.compare_self, Std.compare_self]
    rfl
  have hzero : (x == 0.0) = false := by
    show Float.Model.UnpackedFloat.beq x.toModel.unpack (0.0 : Float).toModel.unpack = false
    rw [hunpack]
    rfl
  show (x == x && !(x == 0.0)) = true
  rw [hself, hzero]
  rfl

/-- What `totalPrice || 0` becomes in a `NUMERIC(12,2)` column, sent as `String(number)`. -/
def storedAmount (x : JsValue) : Option Numeric :=
  match x.orElse (.num 0.0) with
  | .num y => numericColumn (numberText y)
  | _ => none

/-- **An amount arrives to the cent.**  The price an order is stored with, read out of the column,
    written to JSON, read from it and stored again is the same price, whatever the conversions
    round. -/
theorem storedAmount_arriving {n : ℕ} (hlt : n < 10 ^ 12) :
    storedAmount (arriving (Numeric.hundredths n).toNumber) = some (.hundredths n) := by
  rcases Nat.eq_zero_or_pos n with rfl | hpos
  · decide +kernel
  have hwithin := (within_hundredths hpos (show n < 2 ^ 80 by omega)).mono (show (80 : ℤ) ≤ 700 by decide)
  obtain ⟨l, hjson, hnear⟩ := Json.near_number_jsonNumber (near_toNumber hpos hlt) (by decide) hwithin
  have harriving : arriving (Numeric.hundredths n).toNumber = .num l.number := by
    unfold arriving
    rw [hjson, Json.Tree.value]
  unfold storedAmount JsValue.orElse
  rw [harriving, if_pos (truthy_of_near hnear)]
  exact numericColumn_near hnear (by decide) hpos hlt

/-- What arrives of a number is a number or `null`. -/
theorem arriving_cases (x : Float) : (∃ y, arriving x = .num y) ∨ arriving x = .null := by
  unfold arriving jsonNumber
  split
  · left
    exact ⟨_, by rw [Json.Tree.value]⟩
  · right
    rw [Json.Tree.value]

end Order

end Microservices
