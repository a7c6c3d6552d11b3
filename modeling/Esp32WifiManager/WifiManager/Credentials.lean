import Esp32WifiManager.HttpServer.SoundLogin
import Esp32WifiManager.Lib.CallTrace
import Esp32WifiManager.WifiManager.ApConfig
import Esp32WifiManager.WifiManager.Frames
import Esp32WifiManager.WifiManager.JsonAccessPoints

/-!
# Credentials on their way to the driver

An SSID has up to 32 bytes and a password up to 64, and the arrays they are
printed into have 32 and 64 bytes, a terminator included. The arrays of the
driver need no terminator, but nothing fills them to the end: what is posted is
rejected at the full length, and what is converted from a blob loses its last
byte.
-/

namespace Esp32WifiManager
namespace WifiManager

open CString JsonText TaskSystem WifiCall

/-! ### Strings that are printed into an array -/

section Printed

variable {n : ℕ} {v : Bytes}

/-- A string that is printed into an array is cut off before the last byte of the array. -/
theorem CharBuf.str_ofStr_take (hnul : 0 ∉ v) (hn : 0 < n) :
    (CharBuf.ofStr n v).str = v.take (n - 1) := by
  have hprint : CharBuf.ofStr n v = CharBuf.ofStr n (v.take (n - 1)) := by
    simp only [CharBuf.ofStr, snprintf, List.take_take, Nat.min_self]
  rw [hprint]
  refine CharBuf.str_ofStr (fun h => hnul (List.mem_of_mem_take h)) ?_
  rw [List.length_take]
  omega

theorem CharBuf.str_ofStr_eq_iff (hnul : 0 ∉ v) (hn : 0 < n) :
    (CharBuf.ofStr n v).str = v ↔ v.length < n := by
  rw [CharBuf.str_ofStr_take hnul hn, List.take_eq_self_iff]
  omega

/-- An array can be filled to its end. -/
theorem CharBuf.str_ofBytes (hnul : 0 ∉ v) (hlen : v.length ≤ n) :
    (CharBuf.ofBytes n v 0).str = v := by
  have hlist : (CharBuf.ofBytes n v 0).toList = v ++ List.replicate (n - v.length) 0 := by
    apply List.ext_getElem
    · simp
      omega
    · intro i hi₁ hi₂
      rcases Nat.lt_or_ge i v.length with hi | hi
      · simp [CharBuf.ofBytes, hi]
      · simp [CharBuf.ofBytes, List.getElem_append_right hi, hi]
  rw [CharBuf.str, hlist, text_append hnul]
  cases n - v.length <;> simp [text]

theorem nul_notMem_str (b : CharBuf n) : (0 : UInt8) ∉ b.str := nul_notMem_text _

end Printed

/-- The configuration that is stored has exactly the given strings. -/
def WifiStaConfig.Holds (sta : WifiStaConfig) (ssid password : Bytes) : Prop :=
  sta.ssid.str = ssid ∧ sta.password.str = password

theorem holds_set_iff {ssid password : Bytes} (hssid : 0 ∉ ssid) (hpassword : 0 ∉ password) :
    (wifimanConfigStaDoSetSsidAndPassword (.ofStr 32 ssid) (some (.ofStr 64 password))).Holds
        ssid password ↔ ssid.length < 32 ∧ password.length < 64 := by
  have htwice {n : ℕ} (hn : 0 < n) {v : Bytes} (hv : 0 ∉ v) :
      (CharBuf.ofStr n (CharBuf.ofStr n v).str).str = v ↔ v.length < n := by
    have htake := CharBuf.str_ofStr_take hv hn
    rw [htake, CharBuf.str_ofStr_take (fun h => hv (List.mem_of_mem_take h)) hn, List.take_take,
      Nat.min_self, List.take_eq_self_iff]
    omega
  simp only [WifiStaConfig.Holds, wifimanConfigStaDoSetSsidAndPassword, Option.map_some,
    Option.getD_some]
  rw [htwice (by omega) hssid, htwice (by omega) hpassword]

/-! ### The configuration over a list of calls -/

/-- What a call leaves in the configuration of the station. -/
def WifiCall.configEffect (cfg : WifimanConfigSta) : WifiCall → WifimanConfigSta
  | wifimanConfigInit c => c
  | wifimanConfigStaSet c => c
  | wifimanConfigStaSetSsidAndPassword ssid password =>
    { cfg with wifiConfigSta := wifimanConfigStaDoSetSsidAndPassword ssid password }
  | _ => cfg

def configAfter (calls : List WifiCall) (cfg : WifimanConfigSta) : WifimanConfigSta :=
  calls.foldl WifiCall.configEffect cfg

theorem configAfter_cons {o : WifiCall} {calls : List WifiCall} {cfg : WifimanConfigSta} :
    configAfter (o :: calls) cfg = configAfter calls (o.configEffect cfg) := rfl

theorem exec_config {t : TaskId} {o : WifiCall} {c : Reply} {s s' : WifiState} {r : o.Ret}
    (h : exec t o c s = some (r, s')) : s'.config = o.configEffect s.config := by
  by_cases hw : Field.config ∈ o.writes
  · cases o <;> simp [writes] at hw
    all_goals
      obtain ⟨-, rfl⟩ := Prod.mk.inj (Option.some.inj h)
      rfl
  · have hsame : o.configEffect s.config = s.config := by
      cases o <;> simp [writes] at hw ⊢ <;> rfl
    rw [hsame]
    exact exec_agree (f := .config) h hw

/-- The configuration that the driver is given by these calls. -/
def configGiven (calls : List WifiCall) : Option WifiStaConfig :=
  calls.findSome? fun o =>
    match o with
    | driver (.espWifiSetConfigSta sta) => some sta
    | _ => none

/-! ### From `connect.json` to the driver -/

/-- The posted body is taken over by the handler, and in whatever way the calls are answered, a
connect order that finds the station inactive gives the driver the two strings. -/
def PostCarries (plat : Auth.Platform) (out : Auth.Outcomes) (body ssid password : Bytes) : Prop :=
  ∃ attrs, Auth.httpServerParseJsonWifiSsidPassword plat out body = some attrs ∧
    ∀ (cfg : WifimanConfigSta) (connReq : ConnectionRequest) (ans ans' : (o : WifiCall) → o.Ret),
      ans' wifimanConfigStaGet =
          configAfter ((httpServerHandleReqPostConnectJson (wifiSsidPassword attrs)).trace ans) cfg →
        ans' xEventGroupGetBits .staActive = false →
        ∃ sta, configGiven ((wifiHandleCmdConnectSta connReq).trace ans') = some sta ∧
          sta.Holds ssid password

section Post

variable {ans : (o : WifiCall) → o.Ret} {cfg : WifimanConfigSta}

theorem configAfter_connectAsync : configAfter (wifiManagerConnectAsync.trace ans) cfg = cfg := by
  simp only [wifiManagerConnectAsync, wifimanMsgSendCmdConnectSta, wifimanMsgSend,
    wifimanMsgSendWithTimeout, call, Prog.trace_bind, Prog.trace_perform, Prog.trace_pure,
    Prog.trace_ite]
  split <;> rfl

theorem configAfter_post {login : WifiSsidPassword} (hssid : login.isSsidNull = false)
    (hpassword : login.isPasswordNull = false) :
    (configAfter ((httpServerHandleReqPostConnectJson login).trace ans) cfg).wifiConfigSta =
      wifimanConfigStaDoSetSsidAndPassword login.ssid (some login.password) := by
  have htrace : (httpServerHandleReqPostConnectJson login).trace ans =
      wifimanConfigStaSetSsidAndPassword login.ssid (some login.password) :: wifiManagerLock ::
        jsonNetworkInfoClear :: wifiManagerUnlock :: wifiManagerConnectAsync.trace ans := by
    unfold httpServerHandleReqPostConnectJson
    simp only [hssid, hpassword]
    rfl
  rw [htrace]
  simp only [configAfter_cons, WifiCall.configEffect, configAfter_connectAsync]

theorem configGiven_connect {connReq : ConnectionRequest}
    (hactive : ans xEventGroupGetBits .staActive = false) :
    configGiven ((wifiHandleCmdConnectSta connReq).trace ans) =
      some (ans wifimanConfigStaGet).wifiConfigSta := by
  simp only [wifiHandleCmdConnectSta, wifiConnectStaRun, call, Prog.trace_bind, Prog.trace_perform,
    Prog.trace_ite, Prog.value_perform, hactive]
  cases connReq <;> rfl

/-- What is posted comes to the driver unchanged exactly where both strings leave room for a
terminator. -/
theorem postCarries_iff {plat : Auth.Platform} {out : Auth.Outcomes} {body ssid password : Bytes}
    {jsonRoot : Bytes → Option (Option Bytes)} (hssid : 0 ∉ ssid) (hpassword : 0 ∉ password)
    (hbody : Auth.cJsonParse plat out body = some jsonRoot)
    (hattrSsid : jsonRoot (ascii "ssid") = some (some ssid))
    (hattrPassword : jsonRoot (ascii "password") = some (some password)) :
    PostCarries plat out body ssid password ↔ ssid.length < 32 ∧ password.length < 64 := by
  have hparse : Auth.httpServerParseJsonWifiSsidPassword plat out body =
      if 32 ≤ ssid.length then none
      else if 64 ≤ password.length then none else some (some ssid, some password) := by
    simp only [Auth.httpServerParseJsonWifiSsidPassword, hbody, hattrSsid, hattrPassword,
      Option.any_some, text_eq_self hssid, text_eq_self hpassword, Auth.maxSsidSize,
      Auth.maxPasswordSize, decide_eq_true_eq]
  have hset := holds_set_iff hssid hpassword
  unfold PostCarries
  rw [hparse]
  split_ifs with hlong hlong'
  · simp only [false_and, exists_false, false_iff]
    omega
  · simp only [false_and, exists_false, false_iff]
    omega
  · have hfit : ssid.length < 32 ∧ password.length < 64 := by omega
    refine ⟨fun _ => hfit, fun _ => ⟨_, rfl, ?_⟩⟩
    intro cfg connReq ans ans' hget hactive
    refine ⟨_, configGiven_connect hactive, ?_⟩
    rw [hget, configAfter_post rfl rfl]
    simpa only [wifiSsidPassword, Option.map_some, Option.getD_some, text_eq_self hssid,
      text_eq_self hpassword] using hset.mpr hfit

end Post

/-! ### wifiman_cfg_blob_convert.c -/

/-- `wifiman_cfg_blob_wifi_settings_t`, without the members that are not converted. -/
structure WifimanCfgBlobWifiSettings where
  apChannel : UInt8
  apSsidHidden : UInt8
  apBandwidth : ℕ
  staPowerSave : ℕ
  staStaticIp : Bool
  staStaticIpConfig : EspNetifIpInfo

structure WifimanCfgBlob where
  staSsid : CharBuf 32
  staPassword : CharBuf 64
  wifiSettings : WifimanCfgBlobWifiSettings

/-- A configuration with the settings of the station that only a conversion writes. -/
structure WifimanCfgConverted extends WifimanConfig where
  staPowerSave : ℕ
  staStaticIpConfig : EspNetifIpInfo

def wifiMaxApChannel : ℕ := 14

/-- `WIFI_BW_HT20` is 1 and `WIFI_BW_HT40` is 2. -/
def wifiBandwidth : ℕ → Option WifiBandwidth
  | 1 => some .ht20
  | 2 => some .ht40
  | _ => none

def wifiPsMaxModem : ℕ := 2

/-- The strings of the blob are printed with `%s`; where one has no terminator, what follows it in
memory would come after the last byte that is printed. -/
def wifimanCfgBlobConvert (cfgDefault : WifimanCfgConverted) (src : WifimanCfgBlob) :
    WifimanCfgConverted :=
  let ap := cfgDefault.ap
  let settings := src.wifiSettings
  { ap :=
      { ap with
        wifiConfigAp :=
          { ap.wifiConfigAp with
            channel := if settings.apChannel.toNat ≤ wifiMaxApChannel then settings.apChannel else 1
            ssidHidden := if settings.apSsidHidden ≠ 0 then 1 else 0 }
        wifiSettingsAp :=
          { ap.wifiSettingsAp with
            apBandwidth :=
              (wifiBandwidth settings.apBandwidth).getD ap.wifiSettingsAp.apBandwidth } }
    sta :=
      { wifiConfigSta := ⟨.ofStr 32 src.staSsid.str, .ofStr 64 src.staPassword.str⟩
        staStaticIp := settings.staStaticIp }
    hostinfo := cfgDefault.hostinfo
    staPowerSave :=
      if settings.staPowerSave ≤ wifiPsMaxModem then settings.staPowerSave
      else cfgDefault.staPowerSave
    staStaticIpConfig := settings.staStaticIpConfig }

/-- Every blob with these strings is converted to a configuration with these strings. -/
def BlobCarries (cfgDefault : WifimanCfgConverted) (ssid password : Bytes) : Prop :=
  ∀ src : WifimanCfgBlob, src.staSsid.str = ssid → src.staPassword.str = password →
    (wifimanCfgBlobConvert cfgDefault src).sta.wifiConfigSta.Holds ssid password

/-- A blob that holds the strings is converted without loss exactly where neither of them fills its
array. -/
theorem blobCarries_iff {cfgDefault : WifimanCfgConverted} {ssid password : Bytes}
    (hssid : 0 ∉ ssid) (hpassword : 0 ∉ password) (hssidLength : ssid.length ≤ 32)
    (hpasswordLength : password.length ≤ 64) :
    BlobCarries cfgDefault ssid password ↔ ssid.length < 32 ∧ password.length < 64 := by
  have hconvert (src : WifimanCfgBlob) (hs : src.staSsid.str = ssid)
      (hp : src.staPassword.str = password) :
      (wifimanCfgBlobConvert cfgDefault src).sta.wifiConfigSta.Holds ssid password ↔
        ssid.length < 32 ∧ password.length < 64 := by
    simp only [WifiStaConfig.Holds, wifimanCfgBlobConvert, hs, hp]
    rw [CharBuf.str_ofStr_eq_iff hssid (by omega), CharBuf.str_ofStr_eq_iff hpassword (by omega)]
  constructor
  · intro h
    have hs := CharBuf.str_ofBytes hssid hssidLength
    have hp := CharBuf.str_ofBytes hpassword hpasswordLength
    exact (hconvert ⟨_, _, ⟨0, 0, 0, 0, false, ⟨0, 0, 0⟩⟩⟩ hs hp).mp (h _ hs hp)
  · exact fun hfit src hs hp => (hconvert src hs hp).mpr hfit

/-- The SSID of a scanned network and a password go through `connect.json` unchanged exactly where
each of them is shorter than its array, and so they do through the conversion of a blob. -/
theorem credentials_carried_iff (ap : WifiApRecord) (ssid password : Bytes)
    (rest : List (Bytes × Json))
    (hshown : JsonAccessPoints.accessPointJson ap = .obj ((ascii "ssid", .str ssid) :: rest))
    (hssidLength : ssid.length ≤ 32) (hpassword : 0 ∉ password)
    (hpasswordLength : password.length ≤ 64) (plat : Auth.Platform) (out : Auth.Outcomes)
    (body : Bytes) (jsonRoot : Bytes → Option (Option Bytes))
    (hbody : Auth.cJsonParse plat out body = some jsonRoot)
    (hattrSsid : jsonRoot (ascii "ssid") = some (some ssid))
    (hattrPassword : jsonRoot (ascii "password") = some (some password))
    (cfgDefault : WifimanCfgConverted) :
    (PostCarries plat out body ssid password ↔
        ssid.length < Auth.maxSsidSize ∧ password.length < Auth.maxPasswordSize) ∧
      (BlobCarries cfgDefault ssid password ↔
        ssid.length < Auth.maxSsidSize ∧ password.length < Auth.maxPasswordSize) := by
  have hnul : 0 ∉ ssid := by
    obtain ⟨hfirst, -⟩ := List.cons.inj (Json.obj.inj hshown)
    have hssid : ap.ssid.str = ssid := Json.str.inj (Prod.mk.inj hfirst).2
    exact hssid ▸ nul_notMem_str ap.ssid
  exact ⟨postCarries_iff hnul hpassword hbody hattrSsid hattrPassword,
    blobCarries_iff hnul hpassword hssidLength hpasswordLength⟩

/-! ### Two networks -/

/-- JSON texts are read with the reader above. -/
def readerPlatform : Auth.Platform :=
  { Auth.samplePlatform [] with
    cJsonParse := fun m =>
      match JsonText.parse m with
      | some (.obj members) =>
        some fun attr => (members.lookup attr).map fun v =>
          match v with
          | .str s => some s
          | _ => none
      | _ => none }

def connectBody (ssid password : Bytes) : Bytes :=
  ascii "\x7b\"ssid\":\"" ++ ssid ++ ascii "\",\"password\":\"" ++ password ++ ascii "\"\x7d"

/-- The object in the body. -/
def connectRoot (ssid password : Bytes) : Bytes → Option (Option Bytes) :=
  fun attr => ([(ascii "ssid", Json.str ssid), (ascii "password", Json.str password)].lookup attr).map
    fun v =>
      match v with
      | .str s => some s
      | _ => none

def scannedAs (ssid : Bytes) : WifiApRecord := { WifiApRecord.zero with ssid := .ofBytes 33 ssid 0 }

def cfgDefaultZero : WifimanCfgConverted := ⟨WifimanConfig.zero, 0, ⟨0, 0, 0⟩⟩

theorem shown_scannedAs {ssid : Bytes} (hnul : 0 ∉ ssid) (hlen : ssid.length ≤ 33) :
    JsonAccessPoints.accessPointJson (scannedAs ssid) =
      .obj ((ascii "ssid", .str ssid) :: [(ascii "chan", .num 0), (ascii "rssi", .num 0),
        (ascii "auth", .num 0)]) := by
  have hssid : (scannedAs ssid).ssid.str = ssid := CharBuf.str_ofBytes hnul hlen
  rw [JsonAccessPoints.accessPointJson, hssid]
  rfl

theorem credentials_carried_iff_home :
    (PostCarries readerPlatform Auth.sampleOutcomes (connectBody (ascii "home") (ascii "secret"))
          (ascii "home") (ascii "secret") ↔
        (ascii "home").length < Auth.maxSsidSize ∧
          (ascii "secret").length < Auth.maxPasswordSize) ∧
      (BlobCarries cfgDefaultZero (ascii "home") (ascii "secret") ↔
        (ascii "home").length < Auth.maxSsidSize ∧
          (ascii "secret").length < Auth.maxPasswordSize) :=
  credentials_carried_iff (scannedAs (ascii "home")) (ascii "home") (ascii "secret") _
    (shown_scannedAs (by decide) (by decide)) (by decide) (by decide) (by decide) readerPlatform
    Auth.sampleOutcomes (connectBody (ascii "home") (ascii "secret"))
    (connectRoot (ascii "home") (ascii "secret")) rfl rfl rfl cfgDefaultZero

/-- An SSID of 32 bytes is shown but cannot be posted, and a blob with it is cut off. -/
theorem credentials_rejected :
    ¬ ∀ (ap : WifiApRecord) (ssid password : Bytes) (rest : List (Bytes × Json)),
      JsonAccessPoints.accessPointJson ap = .obj ((ascii "ssid", .str ssid) :: rest) →
      ssid ≠ [] → ssid.length ≤ 32 → 0 ∉ password → password.length ≤ 64 →
      ∀ (plat : Auth.Platform) (out : Auth.Outcomes) (body : Bytes)
        (jsonRoot : Bytes → Option (Option Bytes)),
      Auth.cJsonParse plat out body = some jsonRoot →
      jsonRoot (ascii "ssid") = some (some ssid) →
      jsonRoot (ascii "password") = some (some password) →
      ∀ cfgDefault : WifimanCfgConverted,
      PostCarries plat out body ssid password ∧ BlobCarries cfgDefault ssid password := by
  intro h
  have hcarries := h (scannedAs (List.replicate 32 97)) (List.replicate 32 97) (ascii "secret") _
    (shown_scannedAs (by decide) (by decide)) (by decide) (by decide) (by decide) (by decide)
    readerPlatform Auth.sampleOutcomes (connectBody (List.replicate 32 97) (ascii "secret"))
    (connectRoot (List.replicate 32 97) (ascii "secret")) rfl rfl rfl cfgDefaultZero
  have hfit := (postCarries_iff (by decide) (by decide) rfl rfl rfl).mp hcarries.1
  exact absurd hfit (by decide)

end WifiManager
end Esp32WifiManager
