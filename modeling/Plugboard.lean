import Plugboard.Main
import Plugboard.Proofs.Journal
import Plugboard.Script
import Plugboard.Storage.Files
import Plugboard.Workspace
import Plugboard.Proofs.Panel.Turns
import Plugboard.Proofs.Panel.Hooks
import Plugboard.Proofs.Session.Basic
import Plugboard.Proofs.Session.Identity
import Plugboard.Proofs.Session.Views
import Plugboard.Proofs.Session.Freshness
import Plugboard.Proofs.Session.Update
import Plugboard.Proofs.Session.Newest
import Plugboard.Proofs.Panel.Gate
import Plugboard.Proofs.Panel.Stages
import Plugboard.Proofs.Session.Calls
import Plugboard.Proofs.Session.Atomic
import Plugboard.Proofs.Session.InStep
import Plugboard.Proofs.Session.Detached
import Plugboard.Proofs.Panel.Abreast
import Plugboard.Proofs.Panel.Isolation
import Plugboard.Proofs.Core
import Plugboard.Proofs.Registrations
import Plugboard.Proofs.Broadcast
import Plugboard.Proofs.Panel.Alongside
import Plugboard.Proofs.Panel.Dashboard
import Plugboard.Proofs.Panel.Marks
import Plugboard.Proofs.CommandLine.Opening
import Plugboard.Proofs.CommandLine.Secrets
import Plugboard.Proofs.CommandLine.Guards
import Plugboard.Proofs.Session.Apart
import Plugboard.Proofs.Session.Contexts
import Plugboard.Proofs.Session.Frozen
import Plugboard.Proofs.Panel.Reports
import Plugboard.Proofs.Panel.Resync
import Plugboard.Proofs.Panel.News
import Plugboard.Proofs.Panel.Deliveries
import Plugboard.Proofs.Subscriptions
import Plugboard.Proofs.Panel.Handlers
import Plugboard.Proofs.Sidebar
import Plugboard.Proofs.Panel.Sidebar
import Plugboard.Proofs.Removal
import Plugboard.Proofs.Text.Numeral
import Plugboard.Proofs.Schema
import Plugboard.Proofs.Config
import Plugboard.Proofs.Endpoints
import Plugboard.Proofs.Exchange
import Plugboard.Proofs.Entries
import Plugboard.Proofs.Events
import Plugboard.Proofs.CommandLine.Assignments
import Plugboard.Proofs.Search
import Plugboard.Proofs.CommandLine.Rendering
