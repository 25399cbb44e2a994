import TypedTree.Construction.Basic
import TypedTree.Construction.Hooks
import TypedTree.Generation.Formatter
import TypedTree.Generation.Fragment
import TypedTree.Generation.Generator
import TypedTree.Generation.Rule
import TypedTree.Naming.CaseStyle
import TypedTree.Numeric.Binary64
import TypedTree.Numeric.Decimal
import TypedTree.Numeric.Integer
import TypedTree.Pattern.ByteSequence
import TypedTree.Pattern.Footprint
import TypedTree.Pattern.Matching
import TypedTree.Pattern.Parser
import TypedTree.Pattern.PropertyName
import TypedTree.Pattern.Size
import TypedTree.Pattern.Syntax
import TypedTree.Proofs.Construction.Correctness
import TypedTree.Proofs.Construction.Execution
import TypedTree.Proofs.Construction.Semantics
import TypedTree.Proofs.Except
import TypedTree.Proofs.List.First
import TypedTree.Proofs.Schema.Declaration
import TypedTree.Proofs.Schema.Extension
import TypedTree.Proofs.Schema.Specialization
import TypedTree.Proofs.Tree.Declarations
import TypedTree.Proofs.Ty.Induction
import TypedTree.Proofs.Ty.Substitution
import TypedTree.Proofs.Validation.Application
import TypedTree.Proofs.Validation.Correctness
import TypedTree.Proofs.Validation.Semantics
import TypedTree.Record.Access
import TypedTree.Record.Error
import TypedTree.Schema.Basic
import TypedTree.Schema.Declaration
import TypedTree.Schema.Error
import TypedTree.Schema.Handlers
import TypedTree.Schema.Specialization
import TypedTree.Schema.Text
import TypedTree.Script.Answer
import TypedTree.Script.Env
import TypedTree.Script.Evaluation
import TypedTree.Script.Expr
import TypedTree.Script.Hooks
import TypedTree.Script.Run
import TypedTree.Script.Step
import TypedTree.Session.Basic
import TypedTree.Template.Basic
import TypedTree.Template.Parser
import TypedTree.Template.Printer
import TypedTree.Text.Block
import TypedTree.Text.Escape
import TypedTree.Text.Join
import TypedTree.Text.Trim
import TypedTree.Text.Utf8
import TypedTree.Tree.Children
import TypedTree.Tree.Sequence
import TypedTree.Tree.Symbols
import TypedTree.Tree.Transform
import TypedTree.Tree.Visit
import TypedTree.Tree.Walk
import TypedTree.Ty.Basic
import TypedTree.Ty.Symbol
import TypedTree.Ty.Text
import TypedTree.Ty.WellFormed
import TypedTree.Unicode.Age
import TypedTree.Unicode.BinaryProperty
import TypedTree.Unicode.CaseMapping
import TypedTree.Unicode.Category
import TypedTree.Unicode.CodePointSet
import TypedTree.Unicode.Edition
import TypedTree.Unicode.Property
import TypedTree.Unicode.Script
import TypedTree.Unicode.Segmentation
import TypedTree.Validation.Basic
import TypedTree.Validation.Mismatch
import TypedTree.Value.Basic
import TypedTree.Value.Coercion
import TypedTree.Value.Collection
import TypedTree.Value.Equality
import TypedTree.Value.Order
import TypedTree.Value.Text
import TypedTree.Proofs.World.Run
import TypedTree.Proofs.World.Soundness
import TypedTree.Proofs.World.Remembering
import TypedTree.Proofs.World.Composition
import TypedTree.Proofs.Validation.Instance
import TypedTree.Proofs.Construction.Validity
import TypedTree.Proofs.World.Derivation
import TypedTree.Proofs.Validation.Narrowing
import TypedTree.Proofs.Schema.Layout
import TypedTree.Proofs.Schema.Representation
import TypedTree.Proofs.World.Applications
import TypedTree.Proofs.World.Representation
import TypedTree.Proofs.Tree.DepthFirst
import TypedTree.Proofs.Tree.BreadthFirst
import TypedTree.Proofs.Value.Equality
import TypedTree.Proofs.Value.Equivalence
import TypedTree.Proofs.Value.Origin
import TypedTree.Proofs.Record.Roles
import TypedTree.Proofs.World.FieldRoles
import TypedTree.Proofs.Value.Induction
import TypedTree.Proofs.Tree.Symbols
import TypedTree.Proofs.Construction.Stages
import TypedTree.Proofs.Tree.Resolution
import TypedTree.Proofs.Tree.Rebuilding
import TypedTree.Proofs.Tree.CarriedAnnotations
import TypedTree.Proofs.Value.Invariance
import TypedTree.Proofs.Validation.Extension
import TypedTree.Proofs.Tree.RelabeledTrees
import TypedTree.Proofs.Tree.Extension
import TypedTree.Proofs.Construction.Repetition
import TypedTree.Proofs.Tree.Building
import TypedTree.Proofs.Tree.Reproduction
import TypedTree.Proofs.Construction.Sessions
import TypedTree.Proofs.List.Pointwise
import TypedTree.Proofs.Value.Components
import TypedTree.Proofs.Generation.Semantics
import TypedTree.Proofs.Generation.Correctness
import TypedTree.Proofs.Record.Mutation
import TypedTree.Proofs.Record.ScriptedChanges
import TypedTree.Proofs.World.History
import TypedTree.Proofs.Construction.Histories
import TypedTree.Proofs.Construction.StockHooks
import TypedTree.Proofs.Tree.Histories
import TypedTree.Proofs.World.Continuation
import TypedTree.Proofs.World.Numbering
import TypedTree.Proofs.World.FrozenRecords
import TypedTree.Proofs.Template.Segments
import TypedTree.Proofs.Template.Reading
import TypedTree.Proofs.Template.Format
import TypedTree.Proofs.Template.Substitution
import TypedTree.Proofs.Ty.Parts
import TypedTree.Proofs.World.Ancestry
import TypedTree.Proofs.World.FailedApplications
import TypedTree.Proofs.Validation.ArgumentOrder
import TypedTree.Proofs.Validation.Contexts
import TypedTree.Proofs.Value.Collection
import TypedTree.Proofs.Value.Order
import TypedTree.Proofs.Numeric.Rounding
import TypedTree.Proofs.Record.Annotations
import TypedTree.Proofs.Text.Dedenting
import TypedTree.Proofs.Tree.Visiting
import TypedTree.Proofs.Value.Transitivity
import TypedTree.Proofs.World.AnnotatedRecords
import TypedTree.Proofs.Text.Nesting
import TypedTree.Proofs.Naming.Letters
import TypedTree.Proofs.Naming.Capitals
import TypedTree.Proofs.Generation.Bindings
import TypedTree.Proofs.Generation.Failures
import TypedTree.Proofs.Text.Trimming
import TypedTree.Proofs.Numeric.Integer
import TypedTree.Proofs.Numeric.Truncation
import TypedTree.Proofs.Value.IntegerCoercion
import TypedTree.Proofs.Tree.Chunks
