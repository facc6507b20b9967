import Terraformer.Admission.Accounting
import Terraformer.Admission.Rates
import Terraformer.Analysis.Drift
import Terraformer.Analysis.Service
import Terraformer.Assistant.Anthropic
import Terraformer.Assistant.Budget
import Terraformer.Assistant.Kept
import Terraformer.Assistant.Replay
import Terraformer.Assistant.Streaming
import Terraformer.Assistant.Summaries
import Terraformer.Changes.AdminState
import Terraformer.Changes.Allowance
import Terraformer.Changes.ApplyRequests
import Terraformer.Changes.Histories
import Terraformer.Changes.LayerTwo
import Terraformer.Changes.Outcomes
import Terraformer.Changes.PostCheck
import Terraformer.Changes.Rejections
import Terraformer.Changes.Risk
import Terraformer.Changes.RoutingGrammar
import Terraformer.Changes.RoutingProcesses
import Terraformer.Changes.StaticRoutes
import Terraformer.Changes.StoredCommands
import Terraformer.Changes.VlanLists
import Terraformer.Device.VlanLists
import Terraformer.Drivers.Routing
import Terraformer.Drivers.Switchports
import Terraformer.Drivers.Vlans
import Terraformer.Jobs.Truth
import Terraformer.Telnet.Items
import Terraformer.Telnet.Read
import Terraformer.Terminal.Custody
import Terraformer.Topology.Agreement
import Terraformer.Trust.Pinning
