import ImpToC.Main
import ImpToC.Proofs.Concatenation
import ImpToC.Proofs.Declarations
import ImpToC.Proofs.Hoisting
import ImpToC.Proofs.Hygiene
import ImpToC.Proofs.Isolation
import ImpToC.Proofs.Lexemes
import ImpToC.Proofs.Limits
import ImpToC.Proofs.Nesting
import ImpToC.Proofs.Octets
import ImpToC.Proofs.Output
import ImpToC.Proofs.Positional.Run
import ImpToC.Proofs.Preservation
import ImpToC.Proofs.Resolution
import ImpToC.Proofs.RoundTrip
import ImpToC.Proofs.Shape
import ImpToC.Proofs.Spelling
import ImpToC.Proofs.Termination
import ImpToC.Proofs.Viability
import ImpToC.Proofs.Calls
import ImpToC.Proofs.Legibility
import ImpToC.Proofs.Renaming
import ImpToC.Proofs.Inodes
import ImpToC.Proofs.Overwriting
import ImpToC.Proofs.Footprint
import ImpToC.Proofs.Discipline
import ImpToC.Proofs.Arithmetic
