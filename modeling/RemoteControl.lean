import RemoteControl.Lib.Run
import RemoteControl.Lib.CString
import RemoteControl.Lib.Subsequence
import RemoteControl.Ota.Flash
import RemoteControl.Ota.Session
import RemoteControl.Sys.Errsrc
import RemoteControl.Sys.Monitor
import RemoteControl.Ble.Fallback
import RemoteControl.Sys.Syscoord
import RemoteControl.Net.Wifi
import RemoteControl.Sys.Progress
import RemoteControl.Sys.Recovery
import RemoteControl.Ota.SessionRuns
import RemoteControl.Ble.OtaAdapter
import RemoteControl.Ble.Delivery
import RemoteControl.Ota.Interleave
import RemoteControl.Cmd.Dispatch
import RemoteControl.Cmd.Handlers
import RemoteControl.Net.TcpClient
import RemoteControl.Net.Framing
import RemoteControl.Ble.Cmd
import RemoteControl.Lib.Trace
import RemoteControl.Sys.Firmware
import RemoteControl.Sys.Authorization
import RemoteControl.Sys.Activation
import RemoteControl.Sys.Watch
import RemoteControl.Sys.Reboots
import RemoteControl.Ble.Advertising
import RemoteControl.Ble.Lifeboat
import RemoteControl.Cmd.Router
import RemoteControl.Cmd.Replies
import RemoteControl.Net.RequestReply
import RemoteControl.Sys.Reauth
import RemoteControl.Ble.WifiWrite
import RemoteControl.Net.Credentials
import RemoteControl.Ble.Notify
import RemoteControl.Cmd.Token
import RemoteControl.Ota.PerformRun
import RemoteControl.Ota.EndToEnd
import RemoteControl.Ota.Handles
import RemoteControl.Ble.Agreement
import RemoteControl.Cmd.Lines
import RemoteControl.Ble.Upload
import RemoteControl.Lib.ShiftRegister
import RemoteControl.Ble.Useless
import RemoteControl.Ota.HostCrc
import RemoteControl.Cmd.Grammar
import RemoteControl.Sys.Escalation
import RemoteControl.Ble.ErrsrcNotify
import RemoteControl.Cmd.SetwifiArgs
import RemoteControl.Net.CredentialStore
import RemoteControl.Ble.LinkMtu
import RemoteControl.Net.LogLine
import RemoteControl.Sys.DhtSampler
import RemoteControl.Sys.ErrsrcCode
import RemoteControl.Net.LinkLoss
import RemoteControl.Net.TcpListener
import RemoteControl.Net.TcpStart
import RemoteControl.Cmd.TokenLoad
import RemoteControl.Net.Backoff
import RemoteControl.Lib.Waveform
import RemoteControl.Sys.DhtWire
import RemoteControl.Cmd.BusOrder
import RemoteControl.Sys.UpdateCycle
import RemoteControl.Sys.SensorPath
import RemoteControl.Net.OtaAtomic
import RemoteControl.Net.OtaProgress
import RemoteControl.Ble.Subscription
import RemoteControl.Ble.Attributes
import RemoteControl.Net.HostSession
import RemoteControl.Net.SessionOrder
import RemoteControl.Ble.HostSession
import RemoteControl.Net.SessionLink
import RemoteControl.Net.SessionRuns
import RemoteControl.Ble.HostCommands
import RemoteControl.Ble.TypedWifi
import RemoteControl.Ble.HostVerdict
import RemoteControl.Ble.GotIp
