import HubAutomation.Automations
import HubAutomation.Client.Call
import HubAutomation.Client.Channel
import HubAutomation.Client.Connection
import HubAutomation.Client.Error
import HubAutomation.Client.Handshake
import HubAutomation.Client.Location
import HubAutomation.Client.Message
import HubAutomation.Client.Options
import HubAutomation.Client.PendingCommands
import HubAutomation.Client.Session
import HubAutomation.Client.Subscriptions
import HubAutomation.Command
import HubAutomation.Context
import HubAutomation.Dict
import HubAutomation.Difference
import HubAutomation.Digest
import HubAutomation.Entity
import HubAutomation.Event
import HubAutomation.Frame
import HubAutomation.Frame.Description
import HubAutomation.Json.Basic
import HubAutomation.Json.Binary64
import HubAutomation.Json.Decimal
import HubAutomation.Json.Printer
import HubAutomation.Json.ReadError
import HubAutomation.Json.Reader
import HubAutomation.Json.Record
import HubAutomation.Json.Tagged
import HubAutomation.Proofs.Client.CommandSteps
import HubAutomation.Proofs.Client.Correlation
import HubAutomation.Proofs.Client.Firings
import HubAutomation.Proofs.Client.Handshakes
import HubAutomation.Proofs.Client.Hearing
import HubAutomation.Proofs.Client.ListenerSteps
import HubAutomation.Proofs.Client.LiveListeners
import HubAutomation.Proofs.Client.LockOrder
import HubAutomation.Proofs.Client.Outcomes
import HubAutomation.Proofs.Client.Readings
import HubAutomation.Proofs.Client.Routes
import HubAutomation.Proofs.Client.Shutdown
import HubAutomation.Proofs.Client.Steps
import HubAutomation.Proofs.Client.Streams
import HubAutomation.Proofs.Client.SharedSubscriptions
import HubAutomation.Proofs.Client.SubscriptionOrder
import HubAutomation.Proofs.Client.WireOrder
import HubAutomation.Proofs.Client.Writing
import HubAutomation.Proofs.Json.CanonicalDocuments
import HubAutomation.Proofs.EntityTexts
import HubAutomation.Proofs.Json.Differences
import HubAutomation.Proofs.Json.DocumentTexts
import HubAutomation.Proofs.Json.Edits
import HubAutomation.Proofs.Json.EqualValues
import HubAutomation.Proofs.Json.Places
import HubAutomation.Proofs.Json.ReaderFuel
import HubAutomation.Proofs.Json.Records
import HubAutomation.Proofs.Json.RoundTrip
import HubAutomation.Proofs.Json.TaggedObjects
import HubAutomation.Proofs.Runner.Changes
import HubAutomation.Proofs.Runner.Evaluations
import HubAutomation.Proofs.Runner.Feeds
import HubAutomation.Proofs.Runner.Returns
import HubAutomation.Proofs.Runner.Runs
import HubAutomation.Proofs.Runner.Unfailing
import HubAutomation.Runner
import HubAutomation.ServiceCall
import HubAutomation.Settings
import HubAutomation.Stamp
import HubAutomation.State
import HubAutomation.StateChange
import HubAutomation.Text.Blank
import HubAutomation.Text.Digits
import HubAutomation.Text.Hidden
import HubAutomation.Text.Quoted
import HubAutomation.Time.Instant
import HubAutomation.Time.Rfc3339
import HubAutomation.Time.Unit
import HubAutomation.Timeline
import HubAutomation.Trigger.Callback
import HubAutomation.Trigger.Chain
import HubAutomation.Trigger.Debounced
import HubAutomation.Trigger.Debouncer
import HubAutomation.Trigger.Dispatcher
import HubAutomation.Trigger.Error
import HubAutomation.Trigger.Handler
import HubAutomation.Trigger.HandlerSet
import HubAutomation.Trigger.Rule
import HubAutomation.Trigger.RuleSet
import HubAutomation.Trigger.Watch
import HubAutomation.Proofs.Trigger.Orders
import HubAutomation.Proofs.Trigger.Timers
import HubAutomation.Proofs.Trigger.OneSlot
import HubAutomation.Proofs.Trigger.Watching
import HubAutomation.Proofs.Trigger.ChainMeaning
import HubAutomation.Proofs.Trigger.Consistency
import HubAutomation.Proofs.Trigger.RuleIdentity
import HubAutomation.Proofs.Trigger.AddedRules
import HubAutomation.Proofs.Trigger.HandlerSets
import HubAutomation.Proofs.Trigger.SoundStages
import HubAutomation.Proofs.Trigger.GoneHandlers
import HubAutomation.Proofs.Trigger.SilentHandlers
import HubAutomation.Proofs.Trigger.PlannedEnds
import HubAutomation.Proofs.Trigger.Detaching
import HubAutomation.Proofs.Trigger.OwnClocks
import HubAutomation.Proofs.Trigger.Siblings
import HubAutomation.Proofs.Trigger.Ledgers
import HubAutomation.Proofs.Trigger.HandlerOrder
import HubAutomation.Proofs.Trigger.WaitingCalls
import HubAutomation.Proofs.Trigger.EntityFilter
import HubAutomation.Proofs.Trigger.Withdrawals
import HubAutomation.Proofs.Trigger.Whereabouts
import HubAutomation.Proofs.Runner.KeyedHandlers
import HubAutomation.Proofs.Time.InstantTexts
import HubAutomation.Proofs.Wire.CommandTexts
import HubAutomation.Proofs.Wire.FrameFields
import HubAutomation.Proofs.Wire.EventDocuments
import HubAutomation.Proofs.EntityOrder
import HubAutomation.Proofs.OptionVariables
import HubAutomation.Proofs.Client.PendingHistories
import HubAutomation.Proofs.Shorthands
import HubAutomation.Proofs.Client.SentMessages
import HubAutomation.Proofs.Client.ShorthandCalls
