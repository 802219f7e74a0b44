import Chip8.File.Tree
import Chip8.Main
import Chip8.Proofs.AddressStep
import Chip8.Proofs.Calls
import Chip8.Proofs.Caseless
import Chip8.Proofs.CaseTables
import Chip8.Proofs.Concatenation
import Chip8.Proofs.Counterparts
import Chip8.Proofs.Decoding
import Chip8.Proofs.EditDistance
import Chip8.Proofs.Emission
import Chip8.Proofs.Formatting
import Chip8.Proofs.Grammar
import Chip8.Proofs.InstructionTable
import Chip8.Proofs.Letters
import Chip8.Proofs.LineEnds
import Chip8.Proofs.Listing
import Chip8.Proofs.MissingMnemonic
import Chip8.Proofs.Names
import Chip8.Proofs.ReservedNames
import Chip8.Proofs.Separators
import Chip8.Proofs.SpoiledOperands
import Chip8.Proofs.StrictLabels
import Chip8.Proofs.Tokens
import Chip8.Proofs.TableHistory
import Chip8.Proofs.Writing
import Chip8.Proofs.Operands
import Chip8.Proofs.Suggestions
import Chip8.CommandLine.Desk
import Chip8.Proofs.FileTree
import Chip8.Proofs.Desk
import Chip8.Proofs.Options
import Chip8.Proofs.Runs
import Chip8.Proofs.Outputs
import Chip8.Proofs.DefaultOutput
