import Plane.Chrono
import Plane.Controller.Scheduler
import Plane.Controller.Liveness
import Plane.Drone.Basic
import Plane.Drone.Step
import Plane.Drone.RunBackend
import Plane.Drone.Announce
import Plane.Drone.Stop
import Plane.Drone.Monitor
import Plane.Drone.Resume
import Plane.Drone.Executor
import Plane.Drone.Listener
import Plane.Drone.Deadlock
import Plane.Drone.StatsStream
import Plane.Drone.Docker
import Plane.Drone.Terminate
