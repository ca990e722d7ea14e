import Testsmith.Main
import Testsmith.Proofs.Cli.ExitCodes
import Testsmith.Proofs.Config.RoundTrip
import Testsmith.Proofs.Facts.Spelling
import Testsmith.Proofs.Imports.Declarations
import Testsmith.Proofs.Imports.Increasing
import Testsmith.Proofs.Imports.Keywords
import Testsmith.Proofs.Java.Mentions
import Testsmith.Proofs.Java.Order
import Testsmith.Proofs.Repair.Emptiness
import Testsmith.Proofs.Repair.Feedback
import Testsmith.Proofs.Repair.Fences
import Testsmith.Proofs.Repair.Raise
import Testsmith.Proofs.Run.Account
import Testsmith.Proofs.Run.Destinations
import Testsmith.Proofs.Run.FoundFiles
import Testsmith.Proofs.Run.Overflow
import Testsmith.Proofs.Staging.Leftovers
import Testsmith.Proofs.Symbols.Subject
