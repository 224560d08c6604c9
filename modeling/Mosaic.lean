import Mosaic.Num.Bounded
import Mosaic.Canvas.Command
import Mosaic.Device.Recorder
import Mosaic.Maze.Program
import Mosaic.Main
import Mosaic.Proofs.Sheet.Names
import Mosaic.Proofs.Vertex.Arena
import Mosaic.Proofs.Stage.Layout
import Mosaic.Proofs.Maze.Session
import Mosaic.Proofs.Stage.Setup
import Mosaic.Proofs.Stage.Ownership
import Mosaic.Proofs.Gpu.Screen
import Mosaic.Proofs.Maze.FrameRate
import Mosaic.Proofs.Stage.Lives
import Mosaic.Proofs.Stage.Ensemble
import Mosaic.Proofs.Maze.Sync
import Mosaic.Proofs.Maze.Pace
import Mosaic.Proofs.Maze.Modest
import Mosaic.Proofs.Stage.Chart
import Mosaic.Proofs.Sheet.Tiling
import Mosaic.Proofs.Sheet.Text
import Mosaic.Proofs.Stage.Misuse
import Mosaic.Proofs.Stage.Copy
import Mosaic.Proofs.Gpu.Recorded
import Mosaic.Proofs.Window.Surface
import Mosaic.Proofs.Stage.Seams
import Mosaic.Proofs.Maze.Turns
import Mosaic.Proofs.Gpu.Shrink
import Mosaic.Proofs.Sheet.Pixels
import Mosaic.Proofs.Vertex.Calls
import Mosaic.Proofs.Device.Records
