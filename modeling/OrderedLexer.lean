import OrderedLexer.Disk.Tree
import OrderedLexer.Main
import OrderedLexer.Proofs.CommandLine.ReadBack
import OrderedLexer.Proofs.Disk.Selection
import OrderedLexer.Proofs.RuleFile.Agreement
import OrderedLexer.Proofs.RuleFile.Floor
import OrderedLexer.Proofs.RuleFile.Outcome
import OrderedLexer.Proofs.RuleFile.Plain.LineEnds
import OrderedLexer.Proofs.RuleFile.Plain.Progress
import OrderedLexer.Proofs.RuleFile.Plain.Refusal
import OrderedLexer.Proofs.RuleFile.Reload
import OrderedLexer.Proofs.RuleFile.Respelling
import OrderedLexer.Proofs.Scan.Insertion
import OrderedLexer.Proofs.Scan.LastResort
import OrderedLexer.Proofs.Scan.Restart
import OrderedLexer.Proofs.Scan.SamePatterns
import OrderedLexer.Proofs.Scan.Whitespace
import OrderedLexer.Proofs.Source.Places
import OrderedLexer.Proofs.RuleFile.Plain.Fronts
