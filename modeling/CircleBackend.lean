import CircleBackend.Session.Revocation
import CircleBackend.Session.Family
import CircleBackend.Session.Device
import CircleBackend.Session.Sockets
import CircleBackend.Session.Outbox
import CircleBackend.Session.LogoutAll
import CircleBackend.Session.Cleanup
import CircleBackend.Challenge.Recovery
import CircleBackend.Challenge.Budget
import CircleBackend.Chat.Quotes
import CircleBackend.Chat.ClearRequest
import CircleBackend.Chat.Governance
import CircleBackend.Chat.Entry
import CircleBackend.Fancy.Consistency
import CircleBackend.Coin.Model
import CircleBackend.Calls.Model
import CircleBackend.Coin.Gifts
import CircleBackend.Calls.Endings
import CircleBackend.Calls.Hangups
import CircleBackend.Calls.Replays
import CircleBackend.Circle.Seating
import CircleBackend.Circle.Seats
import CircleBackend.Library.Lease
import CircleBackend.Redis.Exclusion
import CircleBackend.Circle.Gaps
import CircleBackend.Joining.Accounting
import CircleBackend.Joining.Ballots
import CircleBackend.Email.Codes
import CircleBackend.Email.Guesses
import CircleBackend.Email.Standing
import CircleBackend.Friends.Blocks
import CircleBackend.Friends.Limits
import CircleBackend.Friends.Replay
import CircleBackend.Friends.Replayed
import CircleBackend.Library.Grouping
import CircleBackend.Library.Json
import CircleBackend.Memberships.Grants
import CircleBackend.Notes.Announced
import CircleBackend.Notes.Drafts
import CircleBackend.Notes.Fanout
import CircleBackend.Notes.Media
import CircleBackend.Notes.Private
import CircleBackend.Notes.Published
import CircleBackend.Notes.Served
import CircleBackend.Notes.Signed
import CircleBackend.Push.Outbox
import CircleBackend.Push.Settled
import CircleBackend.Push.Stranded
import CircleBackend.Recharge.Intake
import CircleBackend.Recharge.Payout
import CircleBackend.Recharge.Screenshots
import CircleBackend.Fancy.Orders
import CircleBackend.Library.Calendar
import CircleBackend.Memberships.Calendar
import CircleBackend.Memberships.Terms
import CircleBackend.Expansion.Model
import CircleBackend.Expansion.Purchases
import CircleBackend.Runtime.WorkBudget
import CircleBackend.Chat.Canonical
import CircleBackend.Chat.Keyword
import CircleBackend.Chat.Limiter
import CircleBackend.Chat.RequestHash
import CircleBackend.Circle.Coalesced
import CircleBackend.Library.Bytes
import CircleBackend.Library.Crc
import CircleBackend.Library.Trie
import CircleBackend.Notes.Zip
import CircleBackend.Runtime.TtlCache
import CircleBackend.Session.Fence
import CircleBackend.Words.Matcher
import CircleBackend.Words.Service
import CircleBackend.Library.Counted
import CircleBackend.Likes.Model
import CircleBackend.Likes.Received
import CircleBackend.Likes.Recognitions
import CircleBackend.Plaza.Counters
import CircleBackend.Plaza.Exact
import CircleBackend.Plaza.Runs
import CircleBackend.Notes.GroupCard
import CircleBackend.Notes.InStep
import CircleBackend.Chat.MessageDays
import CircleBackend.Credit.Chain
import CircleBackend.Library.Base64
import CircleBackend.Library.FixedWindow
import CircleBackend.Logging.Sanitizer
import CircleBackend.Plaza.Feed
import CircleBackend.Redis.Fallback
import CircleBackend.Push.FairQueue
import CircleBackend.TempChat.Guests
