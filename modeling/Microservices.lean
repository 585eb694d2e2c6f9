import Microservices.Payment.OrderLock
import Microservices.Payment.Ledger
import Microservices.Payment.Commute
import Microservices.Payment.Refunds
import Microservices.Payment.Retry
import Microservices.Order.Confirmed
import Microservices.Order.Shutdown
import Microservices.Order.Events
import Microservices.Analytics.Summary
import Microservices.Analytics.Dlq
import Microservices.Notification.NeverLost
import Microservices.Notification.Deaths
import Microservices.Notification.Tally
import Microservices.Notification.Bounded
import Microservices.Notification.Settlement
import Microservices.Gateway.Deadline
import Microservices.Gateway.Correlation
import Microservices.Limits
import Microservices.Order.Total
import Microservices.Product.ReadBack
import Microservices.Gateway.Lookups
import Microservices.Gateway.Quantity
import Microservices.Amqp.Reconnect
import Microservices.Trace.OneId
import Microservices.Notification.Wired
import Microservices.Order.ReadBack
import Microservices.Order.Once
import Microservices.Pipeline.Metrics
import Microservices.Pipeline.Calm
import Microservices.Pipeline.Mails
import Microservices.User.Correlation
import Microservices.User.ReadBack
import Microservices.Pipeline.Revenue
import Microservices.Payment.Replies
import Microservices.Payment.Shutdown
