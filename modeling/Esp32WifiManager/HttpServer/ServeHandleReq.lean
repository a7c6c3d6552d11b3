import Esp32WifiManager.HttpServer.HandleReq
import Esp32WifiManager.HttpReqParse
import Esp32WifiManager.HeaderLines

/-!
# The captive portal

`http_server_netconn_serve_handle_req` up to the handler: a request that arrives
on the address of the hotspot is handled when its `Host` contains that address,
and redirected to it otherwise.
-/

namespace Esp32WifiManager
namespace Auth

open CString HttpReq

/-- What is done with a request. -/
inductive ServedReq
  | resp400
  | resp500
  | resp503
  | resp302
  | handleReq (param : HttpServerHandleReqParam)

/-- `*p_is_request_to_ap_ip`; `memmem` is the search in the bytes of the value. -/
def isRequestToApIp (header apIp : Bytes) : Bool :=
  match httpReqHeaderGetField header (ascii "Host:") with
  | none => false
  | some host => 0 < host.len ∧ (strstr (host.value header) apIp).isSome

/-- The strings that `http_req_parse` has cut in the buffer. -/
def HttpReqInfo.ofPtrs (m : Bytes) (info : HttpReqInfoPtrs) : HttpReqInfo where
  httpCmd := (info.httpCmd.map (strAt m)).getD []
  httpUri := (info.httpUri.map (strAt m)).getD []
  httpUriParams := info.httpUriParams.map (strAt m)
  httpHeader := (info.httpHeader.map (strAt m)).getD []
  httpBody := (info.httpBody.map (strAt m)).getD []

/-- `hostnameMem`: the allocation of the host name; `lanBlocked`: the answer of
`wifi_manager_is_req_from_lan_blocked_while_ap_is_active`. -/
def httpServerNetconnServeHandleReq (m : Bytes) (localIp remoteIp : CharBuf 17) (apIp : Bytes)
    (hostnameMem lanBlocked : Bool) : ServedReq :=
  let (m, info) := httpReqParse m
  if !info.isSuccess then .resp400
  else
    let reqInfo := HttpReqInfo.ofPtrs m info
    let flagAccessFromLan := localIp.str ≠ apIp
    let param : HttpServerHandleReqParam := ⟨reqInfo, remoteIp, flagAccessFromLan⟩
    if !hostnameMem then .resp500
    else if flagAccessFromLan then
      if lanBlocked then .resp503 else .handleReq param
    else if !isRequestToApIp reqInfo.httpHeader apIp then .resp302
    else .handleReq param

end Auth
end Esp32WifiManager
