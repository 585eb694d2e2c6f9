/-
  JavaScript values as `JSON.parse` makes them, and what the consumers do with them.

  Reading a property of `null` or `undefined` throws; reading one that is absent gives `undefined`.
  Both happen to the consumers of this repository: whatever a producer has put on a topic or a
  queue is read without a schema.

  `JsValue` is the value, `get` the step that may throw, `truthy` and `orElse` what `||` makes of
  it.  How a number is written in a text, and how a text is read as a number, is the engine's
  business: the models take it as `Conversions`, any two such functions, and `toText` and `toNumber`
  add what the language does with the values that are neither.
-/
import Microservices.Common

namespace Microservices

/-- A JavaScript value: what JSON can say, and `undefined` for what is not there. -/
inductive JsValue : Type where
  | undefined
  | null
  | bool (b : Bool)
  | num (x : Float)
  | str (s : String)
  | arr (xs : List JsValue)
  | obj (fields : List (String × JsValue))

namespace JsValue

/-- `v.name` where `v` is neither `null` nor `undefined`. -/
def field (name : String) : JsValue → JsValue
  | obj fields =>
    match fields.find? fun entry => decide (entry.1 = name) with
    | some entry => entry.2
    | none => undefined
  | _ => undefined

/-- `v.name`. -/
def get (v : JsValue) (name : String) : Except JsError JsValue :=
  match v with
  | undefined =>
    .error { message := "Cannot read properties of undefined (reading '" ++ name ++ "')" }
  | null => .error { message := "Cannot read properties of null (reading '" ++ name ++ "')" }
  | v => .ok (v.field name)

/-- `const { name, ... } = value`, the error naming the variable that is destructured. -/
def destructure (source name : String) (value : JsValue) : Except JsError JsValue :=
  match value with
  | undefined =>
    .error { message := "Cannot destructure property '" ++ name ++ "' of '" ++ source ++
      "' as it is undefined." }
  | null =>
    .error { message := "Cannot destructure property '" ++ name ++ "' of '" ++ source ++
      "' as it is null." }
  | v => .ok (v.field name)

/-- `v === s` for a string `s`. -/
def isStr (s : String) : JsValue → Bool
  | str t => decide (t = s)
  | _ => false

/-- `Boolean(v)`. -/
def truthy : JsValue → Bool
  | undefined => false
  | null => false
  | bool b => b
  | num x => x == x && !(x == 0.0)
  | str s => !(s == "")
  | arr _ => true
  | obj _ => true

/-- `v || fallback`. -/
def orElse (v fallback : JsValue) : JsValue := if v.truthy then v else fallback

end JsValue

/-- The conversions between strings and numbers: `Number(s)` and `String(x)`. -/
structure Conversions where
  number : String → Float
  string : Float → String

/-- An object whose own `toString` is no function. -/
def noPrimitive : JsError := { message := "Cannot convert object to primitive value" }

namespace JsValue

mutual

/-- `String(v)`. -/
def toText (c : Conversions) : JsValue → Except JsError String
  | undefined => .ok "undefined"
  | null => .ok "null"
  | bool b => .ok (if b then "true" else "false")
  | num x => .ok (c.string x)
  | str s => .ok s
  | arr xs => (elementTexts c xs).map (String.intercalate ",")
  | obj fields =>
    -- what JSON says is no function
    if fields.any fun entry => decide (entry.1 = "toString") then .error noPrimitive
    else .ok "[object Object]"

/-- The elements of an array as `join` takes them. -/
def elementTexts (c : Conversions) : List JsValue → Except JsError (List String)
  | [] => .ok []
  | undefined :: xs => (elementTexts c xs).map fun texts => "" :: texts
  | null :: xs => (elementTexts c xs).map fun texts => "" :: texts
  | x :: xs =>
    match x.toText c with
    | .error err => .error err
    | .ok text => (elementTexts c xs).map fun texts => text :: texts

end

/-- `Number(v)`. -/
def toNumber (c : Conversions) : JsValue → Except JsError Float
  | undefined => .ok (0.0 / 0.0)
  | null => .ok 0.0
  | bool b => .ok (if b then 1.0 else 0.0)
  | num x => .ok x
  | str s => .ok (c.number s)
  | v => (v.toText c).map c.number

end JsValue

/-- ASCII bytes as text. -/
def ascii (bytes : List UInt8) : String := String.ofList (bytes.map fun b => Char.ofNat b.toNat)

end Microservices
