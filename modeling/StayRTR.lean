import StayRTR.Net.IP
import StayRTR.Net.Digits
import StayRTR.Net.Text
import StayRTR.ProcessData
import StayRTR.Refresh.Update
import StayRTR.Refresh.Loop
import StayRTR.Refresh.Snapshot
import StayRTR.Refresh.Served
import StayRTR.Refresh.Metrics
import StayRTR.SSH.Base64
import StayRTR.SSH.KeyAuth
