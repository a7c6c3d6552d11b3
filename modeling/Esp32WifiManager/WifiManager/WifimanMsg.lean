import Esp32WifiManager.WifiManager.AccessPointsList

/-!
# Sending a message to the manager task

All senders go through `wifiman_msg_send_with_timeout`, which keeps the mutex
while it waits for room in the queue.
-/

namespace Esp32WifiManager
namespace WifiManager

open CString TaskSystem WifiCall

def wifimanMsgSendWithTimeout (msg : QueueMessage) (timeout : Timeout) : WifiProg Bool := do
  call wifiManagerLock
  let isNull ← call isMsgQueueNull
  if isNull then
    call wifiManagerUnlock
    return false
  let sent ← call (xQueueSend msg timeout)
  call wifiManagerUnlock
  return sent

def wifimanMsgSend (msg : QueueMessage) : WifiProg Bool :=
  wifimanMsgSendWithTimeout msg .portMaxDelay

def wifimanMsgTrySendWithoutWaiting (msg : QueueMessage) : WifiProg Bool :=
  wifimanMsgSendWithTimeout msg .noWait

def wifimanMsgInit : WifiProg Bool := do
  let created ← call xQueueCreate
  return created

def wifimanMsgDeinit : WifiProg Unit := do
  call vQueueDelete

def wifimanMsgRecv : WifiProg (Option QueueMessage) := do
  let msg ← call xQueueReceive
  return msg

def wifimanMsgClearFlagWdogFeedActive : WifiProg Unit := do
  call wifiManagerLock
  call (setFlagWdogFeedActive false)
  call wifiManagerUnlock

def wifimanMsgSendCmdTaskWatchdogFeed : WifiProg Unit := do
  call wifiManagerLock
  let active ← call getFlagWdogFeedActive
  if !active then
    call (setFlagWdogFeedActive true)
    let _ ← wifimanMsgTrySendWithoutWaiting .orderTaskWatchdogFeed
  call wifiManagerUnlock

def wifimanMsgSendCmdStartAp (flagBlockReqFromLan : Bool) : WifiProg Bool :=
  wifimanMsgSend (.orderStartAp flagBlockReqFromLan)

def wifimanMsgSendCmdEnableWps : WifiProg Bool := wifimanMsgSend .orderEnableWps

def wifimanMsgSendCmdDisableWps : WifiProg Bool := wifimanMsgSend .orderDisableWps

def wifimanMsgSendCmdStopAp : WifiProg Bool := wifimanMsgSend .orderStopAp

def wifimanMsgSendCmdConnectEth : WifiProg Bool := wifimanMsgSend .orderConnectEth

def wifimanMsgSendCmdConnectSta (connReq : ConnectionRequest) : WifiProg Bool := do
  let _ ← call (xEventGroupSetBits [.cmdStaConnect])
  wifimanMsgSend (.orderConnectSta connReq)

def wifimanMsgSendCmdDisconnectEth : WifiProg Bool := wifimanMsgSend .orderDisconnectEth

def wifimanMsgSendCmdDisconnectSta : WifiProg Bool := wifimanMsgSend .orderDisconnectSta

def wifimanMsgSendCmdStopAndDestroy : WifiProg Bool := wifimanMsgSend .orderStopAndDestroy

def wifimanMsgSendCmdStartWifiScan : WifiProg Bool := wifimanMsgSend .orderStartWifiScan

def wifimanMsgSendEvScanNext : WifiProg Bool := wifimanMsgSend .eventScanNext

def wifimanMsgSendEvScanDone : WifiProg Bool := wifimanMsgSend .eventScanDone

def wifimanMsgSendEvGotIp (ip : Ip4) : WifiProg Bool := wifimanMsgSend (.eventStaGotIp ip)

def wifimanMsgSendEvApStaConnected : WifiProg Bool := wifimanMsgSend .eventApStaConnected

def wifimanMsgSendEvApStaDisconnected : WifiProg Bool := wifimanMsgSend .eventApStaDisconnected

def wifimanMsgSendEvApStaIpAssigned : WifiProg Bool := wifimanMsgSend .eventApStaIpAssigned

def wifimanMsgSendEvDisconnected (reason : WifiErrReason) : WifiProg Bool :=
  wifimanMsgSend (.eventStaDisconnected reason)

end WifiManager
end Esp32WifiManager
