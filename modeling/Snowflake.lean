import Snowflake.Session
import Snowflake.Stored
import Snowflake.Proofs.Base64.Canonical
import Snowflake.Proofs.Id.Layout
import Snowflake.Proofs.Id.Bytes
import Snowflake.Proofs.Id.Text
import Snowflake.Proofs.Slot.Trail
import Snowflake.Proofs.Generator.Call
import Snowflake.Proofs.Session.Life
import Snowflake.Proofs.Session.Trace
import Snowflake.Proofs.Session.Restart
import Snowflake.Proofs.Clock.Tape
import Snowflake.Proofs.Generator.Threads
import Snowflake.Proofs.Session.Linear
import Snowflake.Proofs.Generator.Retry
import Snowflake.Proofs.Id.Canonical
import Snowflake.Proofs.Session.Owner
import Snowflake.Proofs.Session.Fleet
import Snowflake.Proofs.Generator.Refusal
import Snowflake.Proofs.Id.Order
import Snowflake.Proofs.Session.Refusal
import Snowflake.Proofs.Session.Failure
import Snowflake.Proofs.Session.Poison
import Snowflake.Proofs.Id.Parts
import Snowflake.Proofs.Generator.Issue
import Snowflake.Proofs.Session.Timestamp
import Snowflake.Proofs.Clock.Timeline
import Snowflake.Proofs.Session.Forward
import Snowflake.Proofs.Json.Integer
import Snowflake.Proofs.Json.Token
import Snowflake.Proofs.Json.Codec
import Snowflake.Proofs.Stored
import Snowflake.Proofs.Resolution.Until
import Snowflake.Proofs.Clock.Wall
import Snowflake.Proofs.Session.Wait
import Snowflake.Proofs.Generator.Rebase
import Snowflake.Proofs.Session.Rebase
import Snowflake.Proofs.Base64.Fault
import Snowflake.Proofs.Id.Fault
import Snowflake.Proofs.Generator.Report
import Snowflake.Proofs.Session.Report
import Snowflake.Proofs.Settings.Written
import Snowflake.Proofs.Clock.Ticker
import Snowflake.Proofs.Json.Spelling
import Snowflake.Proofs.Json.Row
import Snowflake.Proofs.StoredText
