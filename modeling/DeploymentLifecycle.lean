import DeploymentLifecycle.Agent.Answer
import DeploymentLifecycle.Agent.Client
import DeploymentLifecycle.Agent.Url
import DeploymentLifecycle.Agent.Wire
import DeploymentLifecycle.Cli.Arguments
import DeploymentLifecycle.Cli.Commands
import DeploymentLifecycle.Cli.Output
import DeploymentLifecycle.Cloud.Client
import DeploymentLifecycle.Cloud.Error
import DeploymentLifecycle.Cloud.Wire
import DeploymentLifecycle.Config.Basic
import DeploymentLifecycle.Config.Init
import DeploymentLifecycle.Config.Load
import DeploymentLifecycle.Config.Reading
import DeploymentLifecycle.Config.Setting
import DeploymentLifecycle.Connect
import DeploymentLifecycle.Decimal.Shortest
import DeploymentLifecycle.Effect
import DeploymentLifecycle.Environment
import DeploymentLifecycle.FileTree
import DeploymentLifecycle.FileTree.Contents
import DeploymentLifecycle.Host
import DeploymentLifecycle.IoError
import DeploymentLifecycle.Json.Number
import DeploymentLifecycle.Json.Printer
import DeploymentLifecycle.Json.Reader
import DeploymentLifecycle.Json.Tree
import DeploymentLifecycle.Json.Value
import DeploymentLifecycle.Lifecycle.Deployment
import DeploymentLifecycle.Lifecycle.Inspect
import DeploymentLifecycle.Lifecycle.Instance
import DeploymentLifecycle.Lifecycle.Release
import DeploymentLifecycle.Lifecycle.Request
import DeploymentLifecycle.Lifecycle.Stage
import DeploymentLifecycle.Lifecycle.Wait
import DeploymentLifecycle.Machine
import DeploymentLifecycle.Main
import DeploymentLifecycle.Name
import DeploymentLifecycle.Path
import DeploymentLifecycle.Policy.Waiting
import DeploymentLifecycle.Policy.WatchTime
import DeploymentLifecycle.Proofs.Agent.Tasks
import DeploymentLifecycle.Proofs.Agent.Url
import DeploymentLifecycle.Proofs.Cli.EventStream
import DeploymentLifecycle.Proofs.Cli.Modes
import DeploymentLifecycle.Proofs.Cli.Notice
import DeploymentLifecycle.Proofs.Cli.Operation
import DeploymentLifecycle.Proofs.Cli.Reading
import DeploymentLifecycle.Proofs.Cli.Terminal
import DeploymentLifecycle.Proofs.Cloud.Replies
import DeploymentLifecycle.Proofs.Config.Accepted
import DeploymentLifecycle.Proofs.Config.Discovery
import DeploymentLifecycle.Proofs.Config.Init
import DeploymentLifecycle.Proofs.Config.Pasted
import DeploymentLifecycle.Proofs.Config.Template
import DeploymentLifecycle.Proofs.Decimal.Spelling
import DeploymentLifecycle.Proofs.Elision
import DeploymentLifecycle.Proofs.Expansion
import DeploymentLifecycle.Proofs.FileTree.Directories
import DeploymentLifecycle.Proofs.FileTree.Disk
import DeploymentLifecycle.Proofs.FileTree.Frame
import DeploymentLifecycle.Proofs.FileTree.Navigation
import DeploymentLifecycle.Proofs.FileTree.Place
import DeploymentLifecycle.Proofs.FileTree.Replace
import DeploymentLifecycle.Proofs.Json.Number
import DeploymentLifecycle.Proofs.Json.Proper
import DeploymentLifecycle.Proofs.Json.Quoted
import DeploymentLifecycle.Proofs.Json.RoundTrip
import DeploymentLifecycle.Proofs.Lifecycle.Agreement
import DeploymentLifecycle.Proofs.Lifecycle.Cleanup
import DeploymentLifecycle.Proofs.Lifecycle.Clock
import DeploymentLifecycle.Proofs.Lifecycle.Conduct
import DeploymentLifecycle.Proofs.Lifecycle.Convergence
import DeploymentLifecycle.Proofs.Lifecycle.DeletionOrder
import DeploymentLifecycle.Proofs.Lifecycle.Draining
import DeploymentLifecycle.Proofs.Lifecycle.Effects
import DeploymentLifecycle.Proofs.Lifecycle.Fate
import DeploymentLifecycle.Proofs.Lifecycle.GuestOnly
import DeploymentLifecycle.Proofs.Lifecycle.KeptHandles
import DeploymentLifecycle.Proofs.Lifecycle.Names
import DeploymentLifecycle.Proofs.Lifecycle.Narrative
import DeploymentLifecycle.Proofs.Lifecycle.Polling
import DeploymentLifecycle.Proofs.Lifecycle.Reachability
import DeploymentLifecycle.Proofs.Lifecycle.Readers
import DeploymentLifecycle.Proofs.Lifecycle.ReleaseAll
import DeploymentLifecycle.Proofs.Lifecycle.Released
import DeploymentLifecycle.Proofs.Lifecycle.Representation
import DeploymentLifecycle.Proofs.Lifecycle.Rounds
import DeploymentLifecycle.Proofs.Lifecycle.Serving
import DeploymentLifecycle.Proofs.Lifecycle.Teardown
import DeploymentLifecycle.Proofs.Lifecycle.Timeout
import DeploymentLifecycle.Proofs.Lifecycle.VmPointer
import DeploymentLifecycle.Proofs.Lifecycle.Watch
import DeploymentLifecycle.Proofs.Name
import DeploymentLifecycle.Proofs.Path.Parts
import DeploymentLifecycle.Proofs.Perform
import DeploymentLifecycle.Proofs.Policy.UpdatePolicy
import DeploymentLifecycle.Proofs.Policy.WatchTime
import DeploymentLifecycle.Proofs.Run
import DeploymentLifecycle.Proofs.State.Atomic
import DeploymentLifecycle.Proofs.State.Codec
import DeploymentLifecycle.Proofs.State.Conduct
import DeploymentLifecycle.Proofs.State.Dropped
import DeploymentLifecycle.Proofs.State.FileStore
import DeploymentLifecycle.Proofs.State.InStep
import DeploymentLifecycle.Proofs.State.Independence
import DeploymentLifecycle.Proofs.State.Interchange
import DeploymentLifecycle.Proofs.State.Replacement
import DeploymentLifecycle.Proofs.State.Repository
import DeploymentLifecycle.Proofs.State.Sound
import DeploymentLifecycle.Proofs.State.Verdict
import DeploymentLifecycle.Proofs.State.Working
import DeploymentLifecycle.Proofs.Text.Base64
import DeploymentLifecycle.Proofs.Text.Blank
import DeploymentLifecycle.Proofs.Text.Cut
import DeploymentLifecycle.Proofs.Text.Natural
import DeploymentLifecycle.Proofs.Text.Utf8
import DeploymentLifecycle.Proofs.Time.DurationText
import DeploymentLifecycle.Proofs.Yaml.Extent
import DeploymentLifecycle.Proofs.Yaml.Fields
import DeploymentLifecycle.Proofs.Yaml.Layout
import DeploymentLifecycle.Proofs.Yaml.Lines
import DeploymentLifecycle.Proofs.Yaml.Opening
import DeploymentLifecycle.Proofs.Yaml.PlainLine
import DeploymentLifecycle.Proofs.Yaml.Quoted
import DeploymentLifecycle.Proofs.Yaml.Within
import DeploymentLifecycle.Resource
import DeploymentLifecycle.State.Codec
import DeploymentLifecycle.State.Document
import DeploymentLifecycle.State.FileStore
import DeploymentLifecycle.State.MemoryStore
import DeploymentLifecycle.State.Repository
import DeploymentLifecycle.State.Status
import DeploymentLifecycle.State.Store
import DeploymentLifecycle.Text.Basic
import DeploymentLifecycle.Text.Hex
import DeploymentLifecycle.Text.Printable
import DeploymentLifecycle.Text.Utf8
import DeploymentLifecycle.Time.Duration
import DeploymentLifecycle.Time.DurationText
import DeploymentLifecycle.Yaml.Core
import DeploymentLifecycle.Yaml.Cursor
import DeploymentLifecycle.Yaml.Lexing
import DeploymentLifecycle.Yaml.Node
import DeploymentLifecycle.Yaml.Reading
import DeploymentLifecycle.Yaml.Scalar
import DeploymentLifecycle.Yaml.Tag
import DeploymentLifecycle.Yaml.Token
