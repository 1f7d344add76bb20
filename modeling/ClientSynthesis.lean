import ClientSynthesis.Assembly.EndpointGroups
import ClientSynthesis.Assembly.Interpretation
import ClientSynthesis.Assembly.NameMap
import ClientSynthesis.Assembly.Registry
import ClientSynthesis.Body.Elaboration
import ClientSynthesis.Body.Element
import ClientSynthesis.Body.Kind
import ClientSynthesis.Body.Scope
import ClientSynthesis.Code.Chunk
import ClientSynthesis.Code.MethodItem
import ClientSynthesis.Code.Module
import ClientSynthesis.Code.Package
import ClientSynthesis.Code.Serializer
import ClientSynthesis.Code.TypeItem
import ClientSynthesis.Code.Url
import ClientSynthesis.CommandLine.Arguments
import ClientSynthesis.CommandLine.Program
import ClientSynthesis.Config.Basic
import ClientSynthesis.Config.File
import ClientSynthesis.Config.Reading
import ClientSynthesis.Definition.Basic
import ClientSynthesis.Definition.OfElement
import ClientSynthesis.Descriptor.Error
import ClientSynthesis.Descriptor.Fields
import ClientSynthesis.Endpoint.Descriptor
import ClientSynthesis.Endpoint.Methods
import ClientSynthesis.Endpoint.SkipList
import ClientSynthesis.Endpoint.Template
import ClientSynthesis.Files.Documents
import ClientSynthesis.Files.FileSystem
import ClientSynthesis.Files.Kind
import ClientSynthesis.Files.Output
import ClientSynthesis.Files.Path
import ClientSynthesis.Json.Basic
import ClientSynthesis.Json.Census
import ClientSynthesis.Json.Document
import ClientSynthesis.Json.Lexeme
import ClientSynthesis.Json.Record
import ClientSynthesis.Json.Skip
import ClientSynthesis.Main
import ClientSynthesis.Naming.Identifier
import ClientSynthesis.Naming.Words
import ClientSynthesis.Pattern.Atom
import ClientSynthesis.Pattern.CharacterSet
import ClientSynthesis.Pattern.Mode
import ClientSynthesis.Pattern.WellFormed
import ClientSynthesis.Report.Event
import ClientSynthesis.Report.Filter
import ClientSynthesis.Report.LogLine
import ClientSynthesis.Report.Setting
import ClientSynthesis.Report.Traced
import ClientSynthesis.Run.Generation
import ClientSynthesis.Text.Alphanumeric
import ClientSynthesis.Text.Blank
import ClientSynthesis.Text.ByteOrder
import ClientSynthesis.Text.CaseMapping
import ClientSynthesis.Text.Digit
import ClientSynthesis.Text.Inversion
import ClientSynthesis.Text.LetterCase
import ClientSynthesis.Text.Lines
import ClientSynthesis.Text.Lowercase
import ClientSynthesis.Text.Printable
import ClientSynthesis.Text.Quoted
import ClientSynthesis.Text.Split
import ClientSynthesis.Proofs.Assembly.Content
import ClientSynthesis.Proofs.Assembly.Documents
import ClientSynthesis.Proofs.Code.UrlReading
import ClientSynthesis.Proofs.Endpoint.TemplatePath
import ClientSynthesis.Proofs.Code.SerializerReading
import ClientSynthesis.Proofs.Code.SerializerRun
import ClientSynthesis.Proofs.Body.Descent
import ClientSynthesis.Proofs.Body.Origin
import ClientSynthesis.Proofs.Code.SerializerMeaning
import ClientSynthesis.Proofs.Assembly.Reached
import ClientSynthesis.Proofs.Assembly.Serialization
import ClientSynthesis.Proofs.Body.Parts
import ClientSynthesis.Proofs.Descriptor.Accessors
import ClientSynthesis.Proofs.Body.Comparison
import ClientSynthesis.Proofs.Body.Expansion
import ClientSynthesis.Proofs.Body.LevelBound
import ClientSynthesis.Proofs.Body.Inlining
import ClientSynthesis.Proofs.Assembly.Inlining
import ClientSynthesis.Proofs.Endpoint.MethodNames
import ClientSynthesis.Proofs.Naming.WordContent
import ClientSynthesis.Proofs.Endpoint.Signatures
import ClientSynthesis.Proofs.Body.References
import ClientSynthesis.Proofs.Assembly.References
import ClientSynthesis.Proofs.Code.Arrangement
import ClientSynthesis.Proofs.Assembly.StructForm
import ClientSynthesis.Proofs.Body.ElementTree
import ClientSynthesis.Proofs.Assembly.ElementTree
import ClientSynthesis.Proofs.Assembly.Session
import ClientSynthesis.Proofs.Code.Layout
import ClientSynthesis.Proofs.Files.Location
import ClientSynthesis.Proofs.Files.Preservation
import ClientSynthesis.Proofs.Files.Output
import ClientSynthesis.Proofs.Run.Generation
import ClientSynthesis.Proofs.Code.ModuleLines
import ClientSynthesis.Proofs.Code.WholeLines
import ClientSynthesis.Proofs.Code.SiblingImports
import ClientSynthesis.Proofs.Naming.RawIdentifiers
import ClientSynthesis.Proofs.Run.ModuleNames
import ClientSynthesis.Proofs.Run.DeclaredNames
import ClientSynthesis.Proofs.Run.Documentation
import ClientSynthesis.Proofs.Descriptor.Faults
import ClientSynthesis.Proofs.Assembly.EndpointGroups
import ClientSynthesis.Proofs.Report.Mirrors
import ClientSynthesis.Proofs.CommandLine.Switches
import ClientSynthesis.Proofs.CommandLine.DryRun
import ClientSynthesis.Proofs.Descriptor.Rearrangement
import ClientSynthesis.Proofs.Body.Rearrangement
import ClientSynthesis.Proofs.Body.Calls
import ClientSynthesis.Proofs.Endpoint.Rearrangement
import ClientSynthesis.Proofs.Body.EndlessDescent
import ClientSynthesis.Proofs.Assembly.EndlessExpansion
import ClientSynthesis.Proofs.Assembly.Rearrangement
import ClientSynthesis.Proofs.Body.Nesting
import ClientSynthesis.Proofs.Assembly.Termination
import ClientSynthesis.Proofs.Body.Bindings
import ClientSynthesis.Proofs.Assembly.MergedScope
import ClientSynthesis.Proofs.Endpoint.Grammar
import ClientSynthesis.Proofs.Endpoint.Verdicts
import ClientSynthesis.Proofs.Text.Outside
import ClientSynthesis.Proofs.Code.MacroUse
import ClientSynthesis.Proofs.Assembly.MacroImport
import ClientSynthesis.Proofs.Naming.Variants
import ClientSynthesis.Proofs.Code.EnumReading
import ClientSynthesis.Proofs.Assembly.WireValues
import ClientSynthesis.Proofs.Code.RequestReading
import ClientSynthesis.Proofs.Code.RequestRun
import ClientSynthesis.Proofs.Endpoint.RequestRule
import ClientSynthesis.Proofs.Json.Merge
import ClientSynthesis.Proofs.Json.Members
import ClientSynthesis.Proofs.Files.Loading
import ClientSynthesis.Proofs.Text.LineBreaks
import ClientSynthesis.Proofs.Code.DocComments
import ClientSynthesis.Proofs.Naming.LegalIdentifiers
import ClientSynthesis.Proofs.Run.OutputDirectory
