import MeesignServer.Basic
import MeesignServer.Main.Task
import MeesignServer.Main.Status
import MeesignServer.Main.State
import MeesignServer.Main.Requests
import MeesignServer.Main.Progress
import MeesignServer.Main.Service
import MeesignServer.State.Model
import MeesignServer.State.Run
import MeesignServer.State.Step
import MeesignServer.State.Laws
import MeesignServer.State.SpecTask
import MeesignServer.State.Notify
import MeesignServer.State.Devices
import MeesignServer.State.Groups
import MeesignServer.State.Listing
import MeesignServer.State.Create
import MeesignServer.State.History
import MeesignServer.Protocol.Round
import MeesignServer.Protocol.Musig2
