import Dataflow.Graph.Validation
import Dataflow.Document.Graph
import Dataflow.Document.Manifest
import Dataflow.File.Tree
import Dataflow.Manifest.Parser
import Dataflow.Registry.Scope
import Dataflow.Main
import Dataflow.Proofs.Engine.Run
import Dataflow.Proofs.Run.Confluence
import Dataflow.Proofs.Run.Calls
import Dataflow.Proofs.Run.Failure
import Dataflow.Proofs.Graph.Parser
import Dataflow.Proofs.Engine.Failure
import Dataflow.Proofs.Run.TierCalls
import Dataflow.Proofs.Engine.History
import Dataflow.Proofs.Engine.Rearrangement
import Dataflow.Proofs.Manifest.Printing
import Dataflow.Proofs.Engine.Typed
import Dataflow.Proofs.Type.Default
import Dataflow.Proofs.Manifest.Layout
import Dataflow.Proofs.Run.Collection
import Dataflow.Proofs.Registry.Scope
import Dataflow.Proofs.Graph.Wiring
import Dataflow.Proofs.Manifest.Citing
import Dataflow.Proofs.Manifest.Contents
import Dataflow.Proofs.Graph.Contents
import Dataflow.Proofs.Json.Reading
import Dataflow.Proofs.Json.Value
import Dataflow.Proofs.Engine.Envelope
import Dataflow.Proofs.Document.Record
import Dataflow.Proofs.Document.ReadBack
import Dataflow.Proofs.Engine.Binding
import Dataflow.Proofs.Manifest.FreeText
import Dataflow.Proofs.Plugin.Reading
import Dataflow.Proofs.Plugin.Output
import Dataflow.Proofs.Schedule.Longest
import Dataflow.Proofs.Type.DefaultTyping
import Dataflow.Proofs.Registry.Spelling
import Dataflow.Proofs.Registry.Missing
import Dataflow.Proofs.Schedule.Source
import Dataflow.Proofs.Schedule.Rewiring
import Dataflow.Proofs.Schedule.Seed
import Dataflow.Proofs.Registry.Registration
import Dataflow.Proofs.Plugin.Casting
