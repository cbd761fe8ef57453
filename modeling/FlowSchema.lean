import FlowSchema.Descriptor.Draft
import FlowSchema.Main
import FlowSchema.Proofs.Outcome
import FlowSchema.Proofs.Rendering
import FlowSchema.Proofs.Nesting
import FlowSchema.Proofs.Uses
import FlowSchema.Proofs.Faults
import FlowSchema.Proofs.Acceptance
import FlowSchema.Proofs.CaseMapping
import FlowSchema.Proofs.Registered
import FlowSchema.Proofs.Lines
import FlowSchema.Proofs.Rendered
import FlowSchema.Proofs.Strings
import FlowSchema.Proofs.Splitting
import FlowSchema.Proofs.SourcePaths
import FlowSchema.Proofs.Unbroken
import FlowSchema.Proofs.Page
import FlowSchema.Proofs.Exports
import FlowSchema.Proofs.Dotted
import FlowSchema.Proofs.Mentions
import FlowSchema.Proofs.WellFormed
import FlowSchema.Proofs.Agreement
import FlowSchema.Proofs.Qualifiers
import FlowSchema.Proofs.Enumeration
import FlowSchema.Proofs.LastDeclared
import FlowSchema.Proofs.FileOrder
import FlowSchema.Proofs.LocalNames
import FlowSchema.Proofs.DistinctExports
import FlowSchema.Proofs.WireScalars
import FlowSchema.Proofs.Sends
import FlowSchema.Proofs.Encoded
import FlowSchema.Proofs.Forms
import FlowSchema.Proofs.PluginRun
import FlowSchema.Proofs.Batches
import FlowSchema.Proofs.ExtraFiles
import FlowSchema.Proofs.OptionChange
import FlowSchema.Proofs.Alike
import FlowSchema.Proofs.Revision
import FlowSchema.Proofs.Unread
import FlowSchema.Proofs.Answered
import FlowSchema.Proofs.ObjectBody
import FlowSchema.Proofs.OneofTables
import FlowSchema.Proofs.DraftCalls
import FlowSchema.Proofs.MapFields
import FlowSchema.Proofs.AliasCollisions
import FlowSchema.Proofs.OptionPieces
import FlowSchema.Proofs.LastOption
import FlowSchema.Proofs.WellKnownRoot
import FlowSchema.Proofs.WordRuns
import FlowSchema.Proofs.AsciiNames
import FlowSchema.Proofs.Escaping
import FlowSchema.Proofs.SnakeCase
import FlowSchema.Proofs.PropertyKeys
import FlowSchema.Proofs.JoinedNames
import FlowSchema.Proofs.RegistryKeys
import FlowSchema.Proofs.SortedNames
import FlowSchema.Proofs.WrittenTables
import FlowSchema.Proofs.Logged
import FlowSchema.Proofs.Visits
import FlowSchema.Proofs.Walks
import FlowSchema.Proofs.TraceMirror
