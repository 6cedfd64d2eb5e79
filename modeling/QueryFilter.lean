import QueryFilter.Description
import QueryFilter.Json.Writer
import QueryFilter.Settings.Document
import QueryFilter.Proofs.Grammar
import QueryFilter.Proofs.Numbering
import QueryFilter.Proofs.Placeholders
import QueryFilter.Proofs.Reading
import QueryFilter.Proofs.Decoding
import QueryFilter.Proofs.Resolution
import QueryFilter.Proofs.Expressions
import QueryFilter.Proofs.Enabling
import QueryFilter.Proofs.Forms
import QueryFilter.Proofs.Independence
import QueryFilter.Proofs.AllowList
import QueryFilter.Proofs.Filtering
import QueryFilter.Proofs.Sessions
import QueryFilter.Proofs.Ambient
import QueryFilter.Proofs.Layout
import QueryFilter.Proofs.Recording
import QueryFilter.Proofs.Registries
import QueryFilter.Proofs.Renumbering
import QueryFilter.Proofs.Arrays
import QueryFilter.Proofs.Dialects
import QueryFilter.Proofs.Shapes
import QueryFilter.Proofs.Choosing
import QueryFilter.Proofs.Extension
import QueryFilter.Proofs.Reordering
import QueryFilter.Proofs.Defaults
import QueryFilter.Proofs.Operands
import QueryFilter.Proofs.Nulls
import QueryFilter.Proofs.Numerals
import QueryFilter.Proofs.Integers
import QueryFilter.Proofs.Marking
import QueryFilter.Proofs.Insertion
