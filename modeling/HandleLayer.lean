import HandleLayer.ApiVersion
import HandleLayer.AppArray
import HandleLayer.Blob
import HandleLayer.Chain
import HandleLayer.Chain.Block
import HandleLayer.Chain.Plain
import HandleLayer.Chain.TypeName
import HandleLayer.Command
import HandleLayer.Deferred
import HandleLayer.Description.Call
import HandleLayer.Description.Chain
import HandleLayer.Description.Datum
import HandleLayer.Description.Descriptor
import HandleLayer.Description.Geometry
import HandleLayer.Description.Pipeline
import HandleLayer.Description.Request
import HandleLayer.Description.Session
import HandleLayer.Descriptor.Slot
import HandleLayer.Descriptor.Type
import HandleLayer.Descriptor.Write
import HandleLayer.Device
import HandleLayer.Device.CommandBuffers
import HandleLayer.Device.Completion
import HandleLayer.Device.Descriptors
import HandleLayer.Device.Objects
import HandleLayer.Device.Pipelines
import HandleLayer.Device.Swapchains
import HandleLayer.Device.Tracked
import HandleLayer.Dispatch
import HandleLayer.EntryTable
import HandleLayer.Feature
import HandleLayer.Geometry
import HandleLayer.Handle
import HandleLayer.HandleSet
import HandleLayer.Identity
import HandleLayer.Instance
import HandleLayer.NextLayer
import HandleLayer.Notice
import HandleLayer.Overlay
import HandleLayer.Proofs.Ids
import HandleLayer.Proofs.MapRuns
import HandleLayer.Proofs.Programs
import HandleLayer.RenderPass
import HandleLayer.Request.Create
import HandleLayer.Request.Device
import HandleLayer.Request.Instance
import HandleLayer.Request.Pipeline
import HandleLayer.Result
import HandleLayer.Scripted
import HandleLayer.Session
import HandleLayer.Settings
import HandleLayer.Settings.Environment
import HandleLayer.Settings.File
import HandleLayer.Stage
import HandleLayer.SurrogateMap
import HandleLayer.System
import HandleLayer.Table
import HandleLayer.Template
import HandleLayer.Text
import HandleLayer.Toml.Document
import HandleLayer.Toml.Number
import HandleLayer.Toml.Scalar
import HandleLayer.Toml.Text
import HandleLayer.Validation.Chain
import HandleLayer.Validation.Kind
import HandleLayer.Validation.Registry
import HandleLayer.Wrapper
import HandleLayer.Proofs.SkippedCalls
import HandleLayer.Proofs.Unobserved
import HandleLayer.Proofs.Announcements
import HandleLayer.Proofs.Lifetimes
import HandleLayer.Proofs.LifetimeRuns
import HandleLayer.Proofs.Naming
import HandleLayer.Proofs.Ledger
import HandleLayer.Proofs.Resemblance
import HandleLayer.Proofs.Aftermath
import HandleLayer.Proofs.Bindings
import HandleLayer.Proofs.Upkeep
import HandleLayer.Proofs.Transparency
import HandleLayer.Proofs.ChainCopies
import HandleLayer.Proofs.CopyBack
import HandleLayer.Proofs.Edits
import HandleLayer.Proofs.Children
import HandleLayer.Proofs.History
import HandleLayer.Proofs.ChildrenRuns
import HandleLayer.Proofs.Indifference
import HandleLayer.Proofs.Waiting
import HandleLayer.Proofs.Completion
import HandleLayer.Proofs.DeferralRuns
import HandleLayer.Proofs.TemplateBlobs
import HandleLayer.Proofs.FailedCalls
import HandleLayer.Proofs.Memos
import HandleLayer.Proofs.RenderPassRuns
import HandleLayer.Proofs.UnwrappedRuns
import HandleLayer.Proofs.AtOnceOrLater
import HandleLayer.Proofs.Displays
import HandleLayer.Proofs.Newcomers
import HandleLayer.Proofs.Handouts
import HandleLayer.Proofs.Attendance
import HandleLayer.Proofs.Farewells
import HandleLayer.Proofs.HandingDown
import HandleLayer.Proofs.ImageDescriptors
import HandleLayer.Proofs.DynamicRendering
import HandleLayer.Proofs.PipelineBatches
import HandleLayer.Proofs.Standing
import HandleLayer.Proofs.TemplateRuns
import HandleLayer.Proofs.HostBuilds
import HandleLayer.Proofs.GeometryCounts
import HandleLayer.Proofs.DescriptorUpdates
import HandleLayer.Proofs.SwapchainImages
import HandleLayer.Proofs.Minting
import HandleLayer.Proofs.Overrides
import HandleLayer.Proofs.ToolLists
import HandleLayer.Proofs.Secondaries
