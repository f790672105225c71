import SmartHome.FifoRefinement
import SmartHome.FrameStream
import SmartHome.ReceiveProgress
import SmartHome.LoginSnapshot
import SmartHome.FrameSizes
import SmartHome.ZoneReplay
import SmartHome.ReportRelay
import SmartHome.ZoneTypes
import SmartHome.Destinations
import SmartHome.DeviceStates
import SmartHome.RegistryRestart
import SmartHome.RepeatedEnrolments
import SmartHome.RejectedEnrolments
import SmartHome.Sending
import SmartHome.FaithfulPipes
import SmartHome.VanishedDevices
import SmartHome.TruncatedSerials
import SmartHome.DurableRenames
import SmartHome.DescriptorReuse
import SmartHome.RegistryView
import SmartHome.Arming
import SmartHome.Sirens
import SmartHome.BasicDecoding
import SmartHome.PayloadBuilders
import SmartHome.ReportMemory
import SmartHome.OutgoingFrames
import SmartHome.Sequence
import SmartHome.OutletNames
import SmartHome.BalancedRegistry
import SmartHome.QueueInterleavings
import SmartHome.RpcInterleavings
import SmartHome.RadioRefinement
import SmartHome.CommandDelivery
