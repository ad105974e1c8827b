import ProtoModules.CamelCase
import ProtoModules.Command
import ProtoModules.CommandLine.Flag
import ProtoModules.CommandLine.Settings
import ProtoModules.CommandLine.Token
import ProtoModules.Compile
import ProtoModules.Compiler
import ProtoModules.Disk.Basic
import ProtoModules.Disk.Directories
import ProtoModules.EsModule.Basic
import ProtoModules.EsModule.Draft
import ProtoModules.EsModule.Layout
import ProtoModules.Exchange
import ProtoModules.Imports
import ProtoModules.Job
import ProtoModules.Main
import ProtoModules.Options
import ProtoModules.Path.Basic
import ProtoModules.Path.Extension
import ProtoModules.Path.Parent
import ProtoModules.Path.Relative
import ProtoModules.Plugin
import ProtoModules.Registry
import ProtoModules.Schema.Basic
import ProtoModules.Schema.Field
import ProtoModules.Schema.TypeName
import ProtoModules.Scope
import ProtoModules.Text.Basic
import ProtoModules.Text.Blank
import ProtoModules.Text.CharClass
import ProtoModules.Text.DecimalDigit
import ProtoModules.Text.Printable
import ProtoModules.Text.Quoted
import ProtoModules.Text.Uppercase
import ProtoModules.Text.Utf8
import ProtoModules.Text.WordChar
import ProtoModules.Wire.Descriptor
import ProtoModules.Wire.Exchange
import ProtoModules.Wire.Part
import ProtoModules.Wire.Reader
import ProtoModules.Wire.Record
import ProtoModules.Wire.Varint
import ProtoModules.Proofs.SiteNames
import ProtoModules.Proofs.Drafting
import ProtoModules.Proofs.Collisions
import ProtoModules.Proofs.Emission
import ProtoModules.Proofs.Registration
import ProtoModules.Proofs.Importing
import ProtoModules.Proofs.Linking
import ProtoModules.Proofs.Aliasing
import ProtoModules.Proofs.BoundNames
import ProtoModules.Proofs.FirstDeclarations
import ProtoModules.Proofs.Dependence
import ProtoModules.Proofs.ImportLists
import ProtoModules.Proofs.Specifiers
import ProtoModules.Proofs.Answers
import ProtoModules.Proofs.WrittenForms
import ProtoModules.Proofs.RoundTrip
import ProtoModules.Proofs.DiskWrites
import ProtoModules.Proofs.Standalone
import ProtoModules.Proofs.PlainModules
import ProtoModules.Proofs.Readers
import ProtoModules.Proofs.Reading
import ProtoModules.Proofs.FieldViews
import ProtoModules.Proofs.GivenValues
import ProtoModules.Proofs.JobRuns
import ProtoModules.Proofs.Atomicity
import ProtoModules.Proofs.Overwriting
import ProtoModules.Proofs.Capitals
import ProtoModules.Proofs.MemberNames
import ProtoModules.Proofs.Parameters
import ProtoModules.Proofs.ChosenExtension
import ProtoModules.Proofs.SourceNames
import ProtoModules.Proofs.AbsoluteNames
import ProtoModules.Proofs.Respelling
import ProtoModules.Proofs.Containment
import ProtoModules.Proofs.WrittenChoices
import ProtoModules.Proofs.ChoiceOrder
import ProtoModules.Proofs.ScannedClasses
import ProtoModules.Proofs.Extensions
