import SmartSurf.Ecc.Availability
import SmartSurf.Ecc.Decision
import SmartSurf.Ecc.Parsing
import SmartSurf.Ecc.RepeatedRefresh
import SmartSurf.Ril.FailedSetup
import SmartSurf.Ril.Interfaces
import SmartSurf.Ril.Traffic
import SmartSurf.Mrdump.Faults
import SmartSurf.Wifi.ApInterface
import SmartSurf.Wifi.Arguments
import SmartSurf.Wifi.CommandRuns
import SmartSurf.Wifi.Dispatch
import SmartSurf.Wifi.Exchanges
import SmartSurf.Wifi.Rejections
import SmartSurf.Wifi.ReportReading
import SmartSurf.Wifi.WapiKey
import SmartSurf.Wifi.WfdUpdate
import SmartSurf.Blobs.Pipeline
import SmartSurf.Power.Hal
import SmartSurf.Support.SlotSet
import SmartSurf.Ril.RecordedCalls
