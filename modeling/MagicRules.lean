import MagicRules.Main
import MagicRules.Proofs.ByteOrder.Bits
import MagicRules.Proofs.Line.Level
import MagicRules.Proofs.Line.Message
import MagicRules.Proofs.Line.Numeric
import MagicRules.Proofs.Line.Pattern
import MagicRules.Proofs.Line.Wildcard
import MagicRules.Proofs.Literal.Grammar
import MagicRules.Proofs.Offset.Outcome
import MagicRules.Proofs.Offset.Resolve
import MagicRules.Proofs.Report
import MagicRules.Proofs.RuleSet.Attachment
import MagicRules.Proofs.RuleSet.Forest
import MagicRules.Proofs.RuleSet.Idle
import MagicRules.Proofs.RuleSet.RawBytes
import MagicRules.Proofs.RuleSet.Reader
import MagicRules.Proofs.RuleSet.Shape
import MagicRules.Proofs.RuleSet.Texts
import MagicRules.Proofs.Template.Grammar
import MagicRules.Proofs.Template.Padding
import MagicRules.Proofs.Template.Printf
import MagicRules.Proofs.Test.Blame
import MagicRules.Proofs.Field.Count
import MagicRules.Proofs.Field.Joined
import MagicRules.Proofs.Line.Suffix
import MagicRules.Proofs.Regex.BytePattern
