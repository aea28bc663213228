import BemRules.Inspect
import BemRules.Markup.Word
import BemRules.Proofs.Script.Depth
import BemRules.Proofs.Script.Rollback
import BemRules.Proofs.Script.Tidy
import BemRules.Script.Run
import BemRules.Stored
import BemRules.Value.Reader
import BemRules.Proofs.Script.Sequence
import BemRules.Proofs.Selection.Exchange
import BemRules.Proofs.Registry.Shortcut
import BemRules.Proofs.Options.Marks
import BemRules.Proofs.Options.Latest
import BemRules.Proofs.Markup.Entities
import BemRules.Proofs.Options.Overrides
import BemRules.Proofs.Ident.Run
import BemRules.Proofs.Ident.Unique
import BemRules.Proofs.Body.Requests
import BemRules.Proofs.Template.Parts
import BemRules.Proofs.Method.Grammar
import BemRules.Proofs.Script.Late
import BemRules.Proofs.Body.Additions
import BemRules.Proofs.Context.Lookup
import BemRules.Proofs.Script.ByName
import BemRules.Proofs.Selection.Frame
import BemRules.Proofs.Options.Settings
import BemRules.Proofs.Selection.Mode
import BemRules.Proofs.Body.Mapping
import BemRules.Proofs.Value.Leaves
import BemRules.Proofs.Naming.Split
import BemRules.Proofs.Script.Points
import BemRules.Proofs.Stored.ReadBack
