import CanGw.Frame
import CanGw.Layout
import CanGw.Job
import CanGw.Netlink
import CanGw.Parse
import CanGw.Rcv
import CanGw.Fanout
import CanGw.Registry
import CanGw.System
import CanGw.Modification
import CanGw.Dump
import CanGw.RoundTrip
import CanGw.Validation
import CanGw.Matching
import CanGw.Cascade
import CanGw.Lifecycle
