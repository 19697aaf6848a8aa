import RobotSoccer.Profile
import RobotSoccer.Session.Command
import RobotSoccer.Proofs.Ball.History
import RobotSoccer.Proofs.Ball.Episodes
import RobotSoccer.Proofs.Ball.Likeness
import RobotSoccer.Proofs.Numeric.Sign
import RobotSoccer.Proofs.Session.Look
import RobotSoccer.Proofs.Session.Players
import RobotSoccer.Proofs.Ball.HalfTurn
import RobotSoccer.Proofs.Session.Opposed
import RobotSoccer.Proofs.Geometry.Turn
import RobotSoccer.Proofs.Ball.OnPlane
import RobotSoccer.Proofs.Body.Twin
import RobotSoccer.Proofs.Session.Twin
import RobotSoccer.Proofs.Session.PlaneAndSpace
import RobotSoccer.Proofs.Session.Sighting
import RobotSoccer.Proofs.Team.Partition
import RobotSoccer.Proofs.Session.Lineup
import RobotSoccer.Proofs.Ball.Rolling
import RobotSoccer.Proofs.Session.Reachable
import RobotSoccer.Proofs.Body.Placement
import RobotSoccer.Proofs.Geometry.Frame
import RobotSoccer.Proofs.Session.RobotPlacement
import RobotSoccer.Proofs.Ball.Resting
import RobotSoccer.Proofs.Session.Undisturbed
import RobotSoccer.Proofs.Session.BallPlacement
import RobotSoccer.Proofs.Session.Change
import RobotSoccer.Proofs.Session.Ownership
import RobotSoccer.Proofs.Session.Bending
import RobotSoccer.Proofs.Ball.AllOrNothing
import RobotSoccer.Proofs.Session.Bystanders
import RobotSoccer.Proofs.Numeric.Nearest
import RobotSoccer.Proofs.Numeric.Rounded
import RobotSoccer.Proofs.Numeric.Arithmetic
import RobotSoccer.Proofs.Ball.Friction
import RobotSoccer.Proofs.Geometry.HeadingRange
import RobotSoccer.Proofs.Geometry.Opposite
import RobotSoccer.Proofs.Session.Slowing
import RobotSoccer.Proofs.Geometry.Motion
import RobotSoccer.Proofs.Body.Turned
import RobotSoccer.Proofs.Session.Coherence
import RobotSoccer.Proofs.Team.Scan
import RobotSoccer.Proofs.Team.Name
import RobotSoccer.Proofs.Setup.Entry
import RobotSoccer.Proofs.Setup.Lookup
import RobotSoccer.Proofs.Settings
