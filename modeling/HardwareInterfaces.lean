import HardwareInterfaces.Camera.BatchTransparency
import HardwareInterfaces.Camera.CameraProvider
import HardwareInterfaces.Camera.CaptureResults
import HardwareInterfaces.Camera.ErrorRemoval
import HardwareInterfaces.Camera.FailedConfigurations
import HardwareInterfaces.Camera.PhysicalSettings
import HardwareInterfaces.Camera.RequestRollback
import HardwareInterfaces.Fingerprint.AuthToken
import HardwareInterfaces.Fingerprint.Enumerations
import HardwareInterfaces.Fingerprint.FailedMatches
import HardwareInterfaces.GameKeys.GameKeyEventStream
import HardwareInterfaces.Leds.AwinicSysfs
import HardwareInterfaces.LiveDisplay.DisplayModes
import HardwareInterfaces.Power.AppliedRange
import HardwareInterfaces.Power.ChannelConsistency
import HardwareInterfaces.Power.ChannelDispatch
import HardwareInterfaces.Power.GameHistogram
import HardwareInterfaces.Power.GpuCapacityNode
import HardwareInterfaces.Power.HeuristicSafety
import HardwareInterfaces.Power.InteractionDuration
import HardwareInterfaces.Power.PowerModes
import HardwareInterfaces.Power.RampupBoost
import HardwareInterfaces.Power.SessionPausing
import HardwareInterfaces.Power.SessionTimeouts
import HardwareInterfaces.Power.WorkerLoop
import HardwareInterfaces.TouchInjector.EventStream
import HardwareInterfaces.TouchInjector.FailedWrites
import HardwareInterfaces.TouchInjector.Interleaving
import HardwareInterfaces.TouchInjector.SlotCapacity
import HardwareInterfaces.TouchInjector.TouchButton
import HardwareInterfaces.Usb.PortNames
