import PyBoard.Results.Capacity
import PyBoard.Results.Completion
import PyBoard.Results.Fulfilment
import PyBoard.Results.Wallets
import PyBoard.Results.Notification
import PyBoard.Results.Giftcards
import PyBoard.Results.Payments
import PyBoard.Results.Reservations
import PyBoard.Results.Coupons
import PyBoard.Results.Commissions
import PyBoard.Results.Pending
import PyBoard.Results.Traffic
import PyBoard.Results.Queue
import PyBoard.Results.Expiry
import PyBoard.Results.Cache
import PyBoard.Results.Subscribers
import PyBoard.Results.Tokens
import PyBoard.Results.Settings
import PyBoard.Results.Statistics
import PyBoard.Results.Access
import PyBoard.Results.Deposits
import PyBoard.Results.Periods
import PyBoard.Results.Fees
import PyBoard.Results.Resets
import PyBoard.Results.UsedUsers
import PyBoard.Results.Reports
import PyBoard.Results.Drain
import PyBoard.Results.Pushes
import PyBoard.Results.Retries
import PyBoard.Results.ServerKeys
import PyBoard.Results.NodeUpdates
import PyBoard.Results.Signatures
import PyBoard.Results.Callbacks
import PyBoard.Results.Actions
import PyBoard.Results.Tags
import PyBoard.Results.Transport
import PyBoard.Results.Documents
import PyBoard.Results.Money
import PyBoard.Results.Resolution
import PyBoard.Results.Knowledge
import PyBoard.Results.Months
import PyBoard.Results.Redaction
import PyBoard.Results.Codes
import PyBoard.Results.Limits
import PyBoard.Results.Invites
import PyBoard.Python.IsoFormat
import PyBoard.Results.AdminDates
import PyBoard.Results.Identities
import PyBoard.Results.Tickets
import PyBoard.Results.Chats
import PyBoard.Results.Aggregates
import PyBoard.Results.Alive
import PyBoard.Results.Amounts
import PyBoard.Results.Secrets
import PyBoard.Results.Accounts
import PyBoard.Results.Administrators
import PyBoard.Results.Issued
import PyBoard.Results.Removals
