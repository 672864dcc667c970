import WordSwap.Files.Host
import WordSwap.Main
import WordSwap.Proofs.Analysis
import WordSwap.Proofs.Arguments
import WordSwap.Proofs.CaseStability
import WordSwap.Proofs.CutFiles
import WordSwap.Proofs.DocumentText
import WordSwap.Proofs.Edits
import WordSwap.Proofs.FirstFaults
import WordSwap.Proofs.Mirror
import WordSwap.Proofs.NormalForm
import WordSwap.Proofs.PassByPass
import WordSwap.Proofs.Routing
import WordSwap.Proofs.RuleFiles
import WordSwap.Proofs.Sessions
import WordSwap.Proofs.SettingsReach
import WordSwap.Proofs.Showing
import WordSwap.Proofs.TokenMatches
import WordSwap.Proofs.TokenResolution
import WordSwap.Proofs.Writing
