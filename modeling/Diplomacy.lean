import Diplomacy.Identifier.Text
import Diplomacy.Identifier.Bytes
import Diplomacy.Identifier.Mint
import Diplomacy.Relationship
import Diplomacy.Text.Blank
import Diplomacy.EdgeList.Reciprocity
import Diplomacy.Hierarchy.VassalTree
import Diplomacy.Hierarchy.LiegeChain
import Diplomacy.Hierarchy.Descent
import Diplomacy.Hierarchy.Climb
import Diplomacy.Event
import Diplomacy.Repository.Memory
import Diplomacy.Repository.Table
import Diplomacy.Repository.Outage
import Diplomacy.Index
import Diplomacy.Json.Reader
import Diplomacy.Json.Printer
import Diplomacy.Config.Json
import Diplomacy.Config.Toml
import Diplomacy.LogFilter
import Diplomacy.Text.Quoted
import Diplomacy.Service.Mutation
import Diplomacy.Proofs.Index.Listing
import Diplomacy.Proofs.Repository.Memory
import Diplomacy.Proofs.Repository.Row
import Diplomacy.Proofs.Repository.Table
import Diplomacy.Proofs.Repository.Backend
import Diplomacy.Proofs.Repository.Outage
import Diplomacy.Proofs.Service.Coherence
import Diplomacy.Proofs.Hierarchy.Descent
import Diplomacy.Proofs.Repository.History
import Diplomacy.Proofs.Service.Consultation
import Diplomacy.Proofs.Service.Outcome
import Diplomacy.Proofs.Repository.Agreement
import Diplomacy.Proofs.Hierarchy.Ascent
import Diplomacy.Proofs.Hierarchy.Budget
import Diplomacy.Proofs.Hierarchy.Growth
import Diplomacy.Proofs.Hierarchy.Correspondence
import Diplomacy.Proofs.Service.Pipeline
import Diplomacy.Proofs.Hierarchy.Cutoffs
import Diplomacy.Proofs.Repository.Recovery
import Diplomacy.Proofs.Config.Layouts
import Diplomacy.Proofs.Service.Veto
import Diplomacy.Proofs.Hierarchy.Reach
import Diplomacy.Proofs.Hierarchy.Climb
import Diplomacy.Proofs.EdgeList.War
import Diplomacy.Proofs.Hierarchy.Calls
import Diplomacy.Proofs.Hierarchy.Listing
import Diplomacy.Proofs.Hierarchy.Relevance
import Diplomacy.Proofs.EdgeList.Extension
import Diplomacy.Proofs.Index.Roster
import Diplomacy.Proofs.Index.Arrival
import Diplomacy.Proofs.Service.Dispatch
import Diplomacy.Proofs.Repository.Writes
import Diplomacy.Proofs.Repository.Faults
import Diplomacy.Proofs.Service.Loading
import Diplomacy.Proofs.Identifier.Order
import Diplomacy.Proofs.Config.Json
import Diplomacy.Proofs.Stance
