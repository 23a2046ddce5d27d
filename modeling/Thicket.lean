import Thicket.Main
import Thicket.Proofs.Codec.Blocks
import Thicket.Proofs.Codec.Length
import Thicket.Proofs.Codec.Neighbours
import Thicket.Proofs.Command.ExitCode
import Thicket.Proofs.Command.Meaning
import Thicket.Proofs.Fixture.Checked
import Thicket.Proofs.Fixture.Chronicle
import Thicket.Proofs.Fixture.Interruption
import Thicket.Proofs.Fixture.LostLines
import Thicket.Proofs.Fixture.Names
import Thicket.Proofs.Fixture.Permanence
import Thicket.Proofs.Fixture.Shape
import Thicket.Proofs.Random.Uniform
import Thicket.Proofs.Tagging.Ends
import Thicket.Proofs.Tagging.FirstUse
import Thicket.Session
