import Imt.Hid
import Imt.Coll
import Imt.Map
import Imt.ReportSize
import Imt.Parse.Feature
import Imt.Parse.Input
import Imt.Parse
import Imt.Parse.Probe
import Imt.Parse.Accept
import Imt.Parse.Bind
import Imt.Parse.Pin
import Imt.Parse.Orient
import Imt.Intr
import Imt.Intr.Events
import Imt.Intr.Slots
import Imt.Attach
import Imt.Attach.ContMax
import Imt.Attach.Evdev
import Imt.Attach.InputMode
import Imt.Intr.Axes
import Imt.Intr.Reads
import Imt.Intr.Protocol
