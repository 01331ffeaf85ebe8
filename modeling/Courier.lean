import Courier.Event.Listener
import Courier.RequestId
import Courier.Scenario.EngineReport
import Courier.Scenario.PoolRun
import Courier.Scenario.WatchdogRun
import Courier.Settings.Load
import Courier.Proofs.PoolLimits
import Courier.Proofs.Rounds
import Courier.Proofs.CalendarDays
import Courier.Proofs.InstantText
import Courier.Proofs.SpelledTexts
import Courier.Proofs.WrittenValues
import Courier.Proofs.Envelopes
import Courier.Proofs.OpenPools
import Courier.Proofs.Tries
import Courier.Proofs.LaterInstants
import Courier.Proofs.Journeys
import Courier.Proofs.JourneyActs
import Courier.Proofs.JourneyPolls
import Courier.Proofs.JourneyEnds
import Courier.Proofs.KeptRetries
import Courier.Proofs.EngineActs
import Courier.Proofs.LossRuns
import Courier.Proofs.Races
import Courier.Proofs.RaceEnds
import Courier.Proofs.Accounts
import Courier.Proofs.Books
import Courier.Proofs.WorkTickets
import Courier.Proofs.ClosedPools
import Courier.Proofs.PoolOrder
import Courier.Proofs.StrayRetries
import Courier.Proofs.Shares
import Courier.Proofs.Mailings
import Courier.Proofs.MailingTurns
import Courier.Proofs.MailingPolls
import Courier.Proofs.Isolation
import Courier.Proofs.ContainerStates
import Courier.Proofs.DelayedRetries
import Courier.Proofs.WholePolls
import Courier.Proofs.Patrols
import Courier.Proofs.Backlogs
import Courier.Proofs.LoneGroups
import Courier.Proofs.Chronicles
import Courier.Proofs.ToldTries
import Courier.Proofs.RetryWaits
import Courier.Proofs.DispatchCounts
import Courier.Proofs.AttemptCalls
import Courier.Proofs.DelayedPublications
import Courier.Proofs.DueTimes
import Courier.Proofs.Sightings
import Courier.Proofs.PollEffects
import Courier.Proofs.PollingCounts
import Courier.Proofs.PoolAdmissions
import Courier.Proofs.HonouredSettings
import Courier.Proofs.FanOut
import Courier.Proofs.Registrations
import Courier.Proofs.HeardEvents
import Courier.Proofs.RetryAlarms
import Courier.Proofs.RetryOffers
import Courier.Proofs.CallBlocks
import Courier.Proofs.Backoffs
import Courier.Proofs.StoreContents
import Courier.Proofs.StoreLocks
import Courier.Proofs.ContainerCalls
import Courier.Proofs.SharedClocks
import Courier.Proofs.TimedLooks
