import ArenaPaths.Channel.Script
import ArenaPaths.Main
import ArenaPaths.Proofs.BadLines
import ArenaPaths.Proofs.Blocks
import ArenaPaths.Proofs.Conversations
import ArenaPaths.Proofs.Effort
import ArenaPaths.Proofs.FailedEdges
import ArenaPaths.Proofs.FiniteMap
import ArenaPaths.Proofs.Footprint
import ArenaPaths.Proofs.Labels
import ArenaPaths.Proofs.Layouts
import ArenaPaths.Proofs.PageScans
import ArenaPaths.Proofs.Polling
import ArenaPaths.Proofs.PriorityQueue
import ArenaPaths.Proofs.Reading
import ArenaPaths.Proofs.Refusals
import ArenaPaths.Proofs.Routes
import ArenaPaths.Proofs.Sessions
import ArenaPaths.Proofs.ShortestPaths
import ArenaPaths.Proofs.Transactions
import ArenaPaths.Proofs.TypedAccess
import ArenaPaths.Proofs.UselessEdges
import ArenaPaths.Record.Lawful
import ArenaPaths.Proofs.Opening
import ArenaPaths.Proofs.Translation
import ArenaPaths.Proofs.MissingSlots
import ArenaPaths.Proofs.PollLimits
import ArenaPaths.Proofs.Attributes
import ArenaPaths.Proofs.ChainGuards
import ArenaPaths.Proofs.NotedSearch
import ArenaPaths.Proofs.StaleEntries
