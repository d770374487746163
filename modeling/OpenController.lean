import OpenController.Theorems.HostWakeQueue
import OpenController.Theorems.Holdoff
import OpenController.Theorems.HostWakeAck
import OpenController.Theorems.HostWakeLed
import OpenController.Theorems.HostWakeLine
import OpenController.Theorems.UartScanner
import OpenController.Theorems.UartStream
import OpenController.Theorems.RfPairing
import OpenController.Theorems.RfProbe
import OpenController.Theorems.RfSupervision
import OpenController.Theorems.RfRest
import OpenController.Theorems.RfAnnounce
import OpenController.Theorems.RfTimers
import OpenController.Theorems.RfCatch
import OpenController.RfHears
import OpenController.Theorems.RfSend
import OpenController.Theorems.RfChannel
import OpenController.Theorems.RfSleep
import OpenController.Theorems.MainUpdate
import OpenController.Theorems.MainSleep
import OpenController.Theorems.RfNews
import OpenController.Theorems.RfLock
import OpenController.Theorems.RtcCircle
import OpenController.Theorems.RfRange
import OpenController.Theorems.RfRotation
import OpenController.Theorems.RfCatchUp
import OpenController.Theorems.RtcClock
import OpenController.Theorems.HostWakeDrain
import OpenController.Theorems.HidDiscard
import OpenController.Theorems.HidQueue
import OpenController.Theorems.BondAgree
import OpenController.Theorems.BondFlash
import OpenController.Theorems.LedRelay
import OpenController.Lib.Repeats
import OpenController.Theorems.HidLink
import OpenController.Theorems.MainIdle
import OpenController.Theorems.DiagDump
import OpenController.Theorems.LedPath
import OpenController.Theorems.MainTrace
import OpenController.Lib.Potential
import OpenController.Theorems.RfDuty
import OpenController.Theorems.RfCadence
import OpenController.Theorems.UartLink
