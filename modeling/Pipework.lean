import Pipework.Channel
import Pipework.CommandLine
import Pipework.Main
import Pipework.Proofs.Agreement
import Pipework.Proofs.Beginning
import Pipework.Proofs.Budget
import Pipework.Proofs.Closing
import Pipework.Proofs.Fate
import Pipework.Proofs.Inert
import Pipework.Proofs.Insulation
import Pipework.Proofs.Isolation
import Pipework.Proofs.Prompt
import Pipework.Proofs.Spelling
import Pipework.Proofs.Transport
import Pipework.Proofs.Vigil
import Pipework.Proofs.Words
import Pipework.Session
