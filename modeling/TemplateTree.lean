import TemplateTree.Main
import TemplateTree.Session.OnDisk
import TemplateTree.Proofs.Configuration.Layers
import TemplateTree.Proofs.Template.Written
import TemplateTree.Proofs.Directive.CommentLines
import TemplateTree.Proofs.Cache.Entries
import TemplateTree.Proofs.Workspace.LookUp
import TemplateTree.Proofs.Workspace.Moves
import TemplateTree.Proofs.Workspace.Agenda
import TemplateTree.Proofs.Session.Chronicle
import TemplateTree.Proofs.Storage.Answers
import TemplateTree.Proofs.Storage.Revisions
import TemplateTree.Proofs.Cache.Faithful
import TemplateTree.Proofs.Session.Soundness
import TemplateTree.Proofs.Cache.Interval
import TemplateTree.Proofs.Cache.Transparency
import TemplateTree.Proofs.Text.Trimming
import TemplateTree.Proofs.Template.Names
import TemplateTree.Proofs.Directive.WrittenLines
import TemplateTree.Proofs.Template.Rendering
import TemplateTree.Proofs.Template.RoundTrip
import TemplateTree.Proofs.Path.Names
import TemplateTree.Proofs.Path.Places
import TemplateTree.Proofs.Host.Alone
import TemplateTree.Proofs.Session.EntryPoints
import TemplateTree.Proofs.Session.Scope
import TemplateTree.Proofs.Code.Body
import TemplateTree.Proofs.Path.Levels
import TemplateTree.Proofs.Session.Walk
import TemplateTree.Proofs.Host.Work
import TemplateTree.Proofs.Host.Inline
import TemplateTree.Proofs.Path.Within
import TemplateTree.Proofs.Path.Descent
import TemplateTree.Proofs.Directive.Leniency
import TemplateTree.Proofs.Session.Placement
import TemplateTree.Proofs.Session.Lifecycle
import TemplateTree.Proofs.Host.Confinement
import TemplateTree.Proofs.Session.ParsedOnce
import TemplateTree.Proofs.CommandLine.Accounting
import TemplateTree.Proofs.Session.Inheritance
import TemplateTree.Proofs.Session.Lookups
import TemplateTree.Proofs.Template.Seam
import TemplateTree.Proofs.Host.Spelling
import TemplateTree.Proofs.Directive.Arguments
import TemplateTree.Proofs.Workspace.FirstReading
import TemplateTree.Proofs.Template.Refusal
import TemplateTree.Proofs.Host.Stages
import TemplateTree.Proofs.Cache.Genuine
import TemplateTree.Proofs.Configuration.BaseClass
import TemplateTree.Proofs.Code.Outline
import TemplateTree.Proofs.Session.Genuine
import TemplateTree.Proofs.Session.BaseClass
import TemplateTree.Proofs.Session.Levels
import TemplateTree.Proofs.Template.Shape
import TemplateTree.Proofs.Storage.Discovery
import TemplateTree.Proofs.Options.Root
import TemplateTree.Proofs.Options.Documents
import TemplateTree.Proofs.CommandLine.Tree
import TemplateTree.Proofs.Path.ClassNames
import TemplateTree.Proofs.Configuration.Substitution
import TemplateTree.Proofs.Directive.NormalForm
import TemplateTree.Proofs.Storage.History
