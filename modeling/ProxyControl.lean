import ProxyControl.Command.Rehearsal
import ProxyControl.Engine.Scripted
import ProxyControl.Main
import ProxyControl.Relay.Request
import ProxyControl.Proofs.Log.Conservation
import ProxyControl.Proofs.Session.Events
import ProxyControl.Proofs.Session.Scene
import ProxyControl.Proofs.Session.Tableau
import ProxyControl.Proofs.Session.Grammar
import ProxyControl.Proofs.Session.Chronicle
import ProxyControl.Proofs.Files.Replacement
import ProxyControl.Proofs.Store.Sections
import ProxyControl.Proofs.Store.WorkingSet
import ProxyControl.Proofs.Store.Persistence
import ProxyControl.Proofs.Line.Fields
import ProxyControl.Proofs.Line.RoundTrip
import ProxyControl.Proofs.Line.Bars
import ProxyControl.Proofs.Line.PipeOnly
import ProxyControl.Proofs.Line.Lists
import ProxyControl.Proofs.Line.OtherDialect
import ProxyControl.Proofs.Store.OrderedMap
import ProxyControl.Proofs.Files.Faults
import ProxyControl.Proofs.Store.SharedFile
import ProxyControl.Proofs.Session.Holdings
import ProxyControl.Proofs.Engine.Outflow
import ProxyControl.Proofs.Session.Desk
import ProxyControl.Proofs.Session.Ensemble
import ProxyControl.Proofs.Session.Concord
import ProxyControl.Proofs.Engine.Tenure
import ProxyControl.Proofs.Engine.Callers
import ProxyControl.Proofs.Engine.Succession
import ProxyControl.Proofs.Profile.Disclosure
import ProxyControl.Proofs.Session.Reports
import ProxyControl.Proofs.Session.Readiness
import ProxyControl.Proofs.Session.Verdict
import ProxyControl.Proofs.Command.ExitCode
import ProxyControl.Proofs.Text.Pieces
import ProxyControl.Proofs.Text.Words
import ProxyControl.Proofs.Store.FlatFile
import ProxyControl.Proofs.Files.Names
import ProxyControl.Proofs.Files.Changes
import ProxyControl.Proofs.Files.Surroundings
import ProxyControl.Proofs.Files.Mishaps
import ProxyControl.Proofs.Store.Rewriting
import ProxyControl.Proofs.Store.InStep
import ProxyControl.Proofs.Command.Import
import ProxyControl.Proofs.Store.SavedSettings
import ProxyControl.Proofs.Session.Upkeep
import ProxyControl.Proofs.Command.Rehearsed
import ProxyControl.Proofs.Command.Remembered
import ProxyControl.Proofs.Command.Overlay
import ProxyControl.Proofs.Log.Rounds
import ProxyControl.Proofs.Session.Waiting
import ProxyControl.Proofs.Text.ByteLines
import ProxyControl.Proofs.Store.FlatRecords
import ProxyControl.Proofs.Store.SettingKeys
import ProxyControl.Proofs.Store.CheckedSettings
import ProxyControl.Proofs.Session.Refusals
import ProxyControl.Proofs.Session.Farewell
import ProxyControl.Proofs.Log.Window
import ProxyControl.Proofs.Session.Display
import ProxyControl.Proofs.Files.Whole
import ProxyControl.Proofs.Relay.Descriptor
import ProxyControl.Proofs.Command.ControlLines
import ProxyControl.Proofs.Engine.Arguments
import ProxyControl.Proofs.Engine.Backlog
import ProxyControl.Proofs.Text.Decoding
import ProxyControl.Proofs.Text.Boundaries
import ProxyControl.Proofs.Engine.OutputLines
