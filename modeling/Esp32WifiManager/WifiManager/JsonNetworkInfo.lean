import Esp32WifiManager.WifiManager.JsonString
import Esp32WifiManager.WifiManager.Calls

/-!
# The status of the connection as JSON

The status is printed into an array of `JSON_IP_INFO_SIZE` bytes and no result
of the printing is looked at. What is printed is complete exactly when the
lengths of its parts add up to less than the size of the array, where a byte of
the SSID counts once, twice or six times.
-/

namespace Esp32WifiManager
namespace WifiManager

open CString StrBuf JsonText

/-! ### json_network_info.c -/

def jsonNetworkExtraInfoSize : ℕ := 100

def jsonIpInfoSize : ℕ := 150 + jsonNetworkExtraInfoSize

/-- `json_network_info_t` with its last field. -/
structure JsonNetworkStatus extends JsonNetworkInfo where
  extraInfo : CharBuf 100

/-- The number that stands for the reason. -/
def UpdateReasonCode.toInt : UpdateReasonCode → ℤ
  | .connectionUndefined => -1
  | .connectionOk => 0
  | .failedAttempt => 1
  | .userDisconnect => 2
  | .lostConnection => 3

/-- What is called on the status; a null pointer is `none`. -/
inductive JsonNetworkAction
  | update (pSsid : Option (CharBuf 32)) (pNetworkInfo : Option NetworkInfoStr)
      (updateReasonCode : UpdateReasonCode)
  | clear
  | setReasonUserDisconnect
  | updateTimeSyncInfo (isTimeValid : Bool)
  | setExtraInfo (pExtra : Option Bytes)

def jsonNetworkInfoDoSetExtraInfo (pExtra : Option Bytes) (pInfo : JsonNetworkStatus) :
    JsonNetworkStatus :=
  { pInfo with extraInfo := .ofStr 100 ((pExtra.map text).getD []) }

def JsonNetworkAction.run (pInfo : JsonNetworkStatus) : JsonNetworkAction → JsonNetworkStatus
  | update pSsid pNetworkInfo updateReasonCode =>
    { jsonNetworkInfoDoUpdate pSsid (pNetworkInfo.getD ⟨[], [], [], []⟩) updateReasonCode
        pInfo.toJsonNetworkInfo with extraInfo := pInfo.extraInfo }
  | clear =>
    { jsonNetworkInfoDoClear pInfo.toJsonNetworkInfo with extraInfo := pInfo.extraInfo }
  | setReasonUserDisconnect => { pInfo with updateReasonCode := .userDisconnect }
  | updateTimeSyncInfo isTimeValid => { pInfo with isTimeValid := isTimeValid }
  | setExtraInfo pExtra => jsonNetworkInfoDoSetExtraInfo pExtra pInfo

/-- The status before the first call: all zero. -/
def JsonNetworkStatus.zero : JsonNetworkStatus where
  isSsidNull := false
  isTimeValid := false
  ssid := .zero 32
  networkInfo := ⟨[], [], [], []⟩
  updateReasonCode := .connectionOk
  extraInfo := .zero 100

section Code

variable {σ : Type} (B : StrBuf.Ops σ)

/-- The value of `ssid`. -/
def jsonNetworkInfoPrintSsid (pInfo : JsonNetworkStatus) (strBuf : σ) : σ :=
  if pInfo.isSsidNull then (B.printf strBuf (ascii "null")).2
  else if ! CharBuf.isEmpty pInfo.ssid then
    (jsonPrintEscapedString B strBuf (some pInfo.ssid.toList)).2
  else (B.printf strBuf (ascii "\"\"")).2

/-- The members that are there once the reason is defined. -/
def jsonNetworkInfoPrintConnection (pInfo : JsonNetworkStatus) (strBuf : σ) : σ :=
  let info := pInfo.networkInfo
  let strBuf := (B.printf strBuf (ascii "\"ssid\":")).2
  let strBuf := jsonNetworkInfoPrintSsid B pInfo strBuf
  let strBuf := (B.printf strBuf
    (ascii ",\"ip\":\"" ++ info.ip ++ ascii "\",\"netmask\":\"" ++ info.netmask ++
      ascii "\",\"gw\":\"" ++ info.gw ++ ascii "\",\"dhcp\":\"" ++ info.dhcp ++
      ascii "\",\"urc\":" ++ printInt pInfo.updateReasonCode.toInt)).2
  let strBuf := (B.printf strBuf
    (ascii ",\"is_time_valid\":" ++ printNat (if pInfo.isTimeValid then 1 else 0))).2
  if ! CharBuf.isEmpty pInfo.extraInfo then (B.printf strBuf (ascii ",")).2 else strBuf

/-- The buffer that is returned stands over the array of the response. -/
def jsonNetworkInfoDoGenerateInternal (pInfo : JsonNetworkStatus) : σ :=
  let strBuf := B.arr jsonIpInfoSize
  let strBuf := (B.printf strBuf (ascii "\x7b")).2
  let strBuf :=
    if pInfo.updateReasonCode ≠ .connectionUndefined then
      jsonNetworkInfoPrintConnection B pInfo strBuf
    else strBuf
  let strBuf :=
    if ! CharBuf.isEmpty pInfo.extraInfo then
      (B.printf strBuf (ascii "\"extra\":\x7b" ++ pInfo.extraInfo.str ++ ascii "\x7d")).2
    else strBuf
  (B.printf strBuf (ascii "\x7d\n")).2

end Code

/-! ### The complete text -/

namespace JsonNetworkStatus

/-- The texts that are printed for the value of `ssid`. -/
def ssidTexts (j : JsonNetworkStatus) : List Bytes :=
  if j.isSsidNull then [ascii "null"]
  else if ! CharBuf.isEmpty j.ssid then jsonStringTexts j.ssid.str
  else [ascii "\"\""]

/-- What follows the SSID. -/
def addressTexts (j : JsonNetworkStatus) : List Bytes :=
  (ascii ",\"ip\":\"" ++ j.networkInfo.ip ++ ascii "\",\"netmask\":\"" ++ j.networkInfo.netmask ++
      ascii "\",\"gw\":\"" ++ j.networkInfo.gw ++ ascii "\",\"dhcp\":\"" ++ j.networkInfo.dhcp ++
      ascii "\",\"urc\":" ++ printInt j.updateReasonCode.toInt) ::
    (ascii ",\"is_time_valid\":" ++ printNat (if j.isTimeValid then 1 else 0)) ::
    if ! CharBuf.isEmpty j.extraInfo then [ascii ","] else []

def connectionTexts (j : JsonNetworkStatus) : List Bytes :=
  ascii "\"ssid\":" :: (j.ssidTexts ++ j.addressTexts)

def extraTexts (j : JsonNetworkStatus) : List Bytes :=
  if ! CharBuf.isEmpty j.extraInfo then
    [ascii "\"extra\":\x7b" ++ j.extraInfo.str ++ ascii "\x7d"]
  else []

def texts (j : JsonNetworkStatus) : List Bytes :=
  ascii "\x7b" ::
    ((if j.updateReasonCode ≠ .connectionUndefined then j.connectionTexts else []) ++
      (j.extraTexts ++ [ascii "\x7d\n"]))

/-- The complete output. -/
def jsonText (j : JsonNetworkStatus) : Bytes := j.texts.flatten

/-- How many bytes a byte of a string takes in its literal. -/
def escapedLength (c : UInt8) : ℕ :=
  if c = 34 ∨ c = 92 ∨ c = 8 ∨ c = 9 ∨ c = 10 ∨ c = 12 ∨ c = 13 then 2
  else if c < 32 then 6
  else 1

def ssidSize (j : JsonNetworkStatus) : ℕ :=
  if j.isSsidNull then 4 else 2 + (j.ssid.str.map escapedLength).sum

def extraSize (j : JsonNetworkStatus) : ℕ :=
  if j.extraInfo.str = [] then 0 else 10 + j.extraInfo.str.length

/-- The lengths of the parts of an output with a defined reason. -/
def connectionSize (j : JsonNetworkStatus) : ℕ :=
  75 + j.ssidSize + j.networkInfo.ip.length + j.networkInfo.netmask.length +
    j.networkInfo.gw.length + j.networkInfo.dhcp.length +
    if j.extraInfo.str = [] then 0 else 1 + j.extraSize

/-! ### The size of the text -/

variable {j : JsonNetworkStatus}

theorem jsonText_closed : ascii "\x7d\n" <:+ j.jsonText := by
  rw [jsonText, texts, ← List.append_assoc, ← List.cons_append, List.flatten_concat]
  exact List.suffix_append _ _

theorem length_jsonEscape (c : UInt8) : (jsonEscape c).length = escapedLength c := by
  unfold jsonEscape escapedLength
  by_cases hshort : c = 34 ∨ c = 92 ∨ c = 8 ∨ c = 9 ∨ c = 10 ∨ c = 12 ∨ c = 13
  · rw [if_pos hshort]
    rcases hshort with rfl | rfl | rfl | rfl | rfl | rfl | rfl <;> rfl
  · rw [if_neg hshort]
    simp only [not_or] at hshort
    obtain ⟨h34, h92, h8, h9, h10, h12, h13⟩ := hshort
    simp only [h34, h92, h8, h9, h10, h12, h13, or_self, if_false]
    by_cases hraw : c < 32
    · have hlt : c.toNat < 32 := UInt8.lt_iff_toNat_lt.mp hraw
      rw [if_pos hraw, if_neg (UInt8.not_le.mpr hraw), List.length_cons, List.length_cons,
        JsonString.printHex04_length _ hlt]
    · rw [if_neg hraw, if_pos (UInt8.not_lt.mp hraw)]
      rfl

theorem length_jsonStringLiteral (s : Bytes) :
    (jsonStringLiteral s).length = 2 + (s.map escapedLength).sum := by
  have hsum : (s.flatMap jsonEscape).length = (s.map escapedLength).sum := by
    rw [List.length_flatMap]
    exact congrArg List.sum (List.map_congr_left fun c _ => length_jsonEscape c)
  rw [jsonStringLiteral_eq, List.length_cons, List.length_append, hsum, List.length_singleton]
  omega

theorem length_ssidTexts : j.ssidTexts.flatten.length = j.ssidSize := by
  unfold ssidTexts ssidSize
  split
  · rfl
  · by_cases hempty : CharBuf.isEmpty j.ssid = true
    · have hstr := CharBuf.isEmpty_iff.mp hempty
      simp only [hempty, hstr]
      rfl
    · rw [Bool.not_eq_true] at hempty
      simp only [hempty, Bool.not_false, if_true]
      exact length_jsonStringLiteral _

theorem extraInfo_isEmpty : (! CharBuf.isEmpty j.extraInfo) = true ↔ ¬ j.extraInfo.str = [] := by
  rw [Bool.not_eq_true', ← Bool.not_eq_true, CharBuf.isEmpty_iff]

theorem length_extraTexts : j.extraTexts.flatten.length = j.extraSize := by
  have hopen : (ascii "\"extra\":\x7b").length = 9 := by decide
  have hclose : (ascii "\x7d").length = 1 := by decide
  unfold extraTexts extraSize
  by_cases hextra : j.extraInfo.str = []
  · rw [if_neg (mt extraInfo_isEmpty.mp (not_not.mpr hextra)), if_pos hextra]
    rfl
  · rw [if_pos (extraInfo_isEmpty.mpr hextra), if_neg hextra]
    simp only [List.flatten_cons, List.flatten_nil, List.append_nil, List.length_append, hopen,
      hclose]
    omega

theorem length_urc : (printInt j.updateReasonCode.toInt).length =
    if j.updateReasonCode = .connectionUndefined then 2 else 1 := by
  cases j.updateReasonCode <;> decide

theorem length_jsonText_defined (h : j.updateReasonCode ≠ .connectionUndefined) :
    j.jsonText.length = j.connectionSize := by
  have hssid : (ascii "\"ssid\":").length = 7 := by decide
  have hip : (ascii ",\"ip\":\"").length = 7 := by decide
  have hnetmask : (ascii "\",\"netmask\":\"").length = 13 := by decide
  have hgw : (ascii "\",\"gw\":\"").length = 8 := by decide
  have hdhcp : (ascii "\",\"dhcp\":\"").length = 10 := by decide
  have hurc : (ascii "\",\"urc\":").length = 8 := by decide
  have hvalid : (ascii ",\"is_time_valid\":").length = 17 := by decide
  have hflag : (printNat (if j.isTimeValid then 1 else 0)).length = 1 := by
    cases j.isTimeValid <;> decide
  have hopen : (ascii "\x7b").length = 1 := by decide
  have hclose : (ascii "\x7d\n").length = 2 := by decide
  have hcomma : (ascii ",").length = 1 := by decide
  have hcode : (printInt j.updateReasonCode.toInt).length = 1 := length_urc.trans (if_neg h)
  have hextra := length_extraTexts (j := j)
  have hvalue := length_ssidTexts (j := j)
  unfold jsonText texts connectionTexts addressTexts connectionSize
  rw [if_pos h]
  by_cases hempty : j.extraInfo.str = []
  · rw [if_neg (mt extraInfo_isEmpty.mp (not_not.mpr hempty)), if_pos hempty]
    have hnone : j.extraSize = 0 := if_pos hempty
    simp only [List.flatten_cons, List.flatten_append, List.flatten_nil, List.length_append,
      List.append_nil, hssid, hip, hnetmask, hgw, hdhcp, hurc, hvalid, hflag,
      hopen, hclose, hcode, hextra, hvalue]
    omega
  · rw [if_pos (extraInfo_isEmpty.mpr hempty), if_neg hempty]
    simp only [List.flatten_cons, List.flatten_append, List.flatten_nil, List.length_append,
      List.append_nil, hssid, hip, hnetmask, hgw, hdhcp, hurc, hvalid, hflag,
      hopen, hclose, hcomma, hcode, hextra, hvalue]
    omega

/-- Without a defined reason the output always fits. -/
theorem length_jsonText_undefined (h : j.updateReasonCode = .connectionUndefined) :
    j.jsonText.length ≤ 249 := by
  have hopen : (ascii "\x7b").length = 1 := by decide
  have hclose : (ascii "\x7d\n").length = 2 := by decide
  have hextra := length_extraTexts (j := j)
  have hbound : j.extraSize ≤ 110 := by
    have := CharBuf.str_length_le j.extraInfo
    unfold extraSize
    split <;> omega
  unfold jsonText texts
  rw [if_neg (not_not.mpr h)]
  simp only [List.flatten_cons, List.flatten_append, List.flatten_nil, List.length_append,
    List.append_nil, List.length_nil, hopen, hclose, hextra]
  omega

end JsonNetworkStatus

/-! ### What is printed -/

section Print

variable {σ : Type} {B : StrBuf.Ops σ} {s : σ} {j : JsonNetworkStatus}

/-- Something is printed for the SSID in any case, and its complete value into a buffer with room
for it. -/
theorem jsonNetworkInfoPrintSsid_eq (hB : B.Lawful) :
    ∃ ts, jsonNetworkInfoPrintSsid B j s = printAll B ts s ∧
      (B.sizing s = false → j.ssidTexts.flatten.length ≤ B.room s → ts = j.ssidTexts) := by
  unfold jsonNetworkInfoPrintSsid JsonNetworkStatus.ssidTexts
  split
  · exact ⟨_, rfl, fun _ _ => rfl⟩
  · split
    · obtain ⟨ts, -, hstate, hall⟩ :=
        JsonString.jsonPrintEscapedString_prefix (B := B) (p := s) (m := j.ssid.toList)
      exact ⟨ts, hstate, fun hs hroom =>
        hall (JsonString.jsonPrintEscapedString_fits hB hs hroom)⟩
    · exact ⟨_, rfl, fun _ _ => rfl⟩

theorem jsonNetworkInfoPrintConnection_eq (hB : B.Lawful) :
    ∃ ts, jsonNetworkInfoPrintConnection B j s = printAll B ts s ∧
      (B.sizing s = false → j.connectionTexts.flatten.length ≤ B.room s →
        ts = j.connectionTexts) := by
  obtain ⟨ts, hstate, hall⟩ :=
    jsonNetworkInfoPrintSsid_eq (j := j) (s := (B.printf s (ascii "\"ssid\":")).2) hB
  refine ⟨ascii "\"ssid\":" :: (ts ++ j.addressTexts), ?_, fun hs hroom => ?_⟩
  · simp only [jsonNetworkInfoPrintConnection, hstate]
    rw [printAll_cons, printAll_append, JsonNetworkStatus.addressTexts]
    split <;> rfl
  · rw [JsonNetworkStatus.connectionTexts, List.flatten_cons, List.length_append,
      List.flatten_append, List.length_append] at hroom
    have happ := (hB.fits hs (t := ascii "\"ssid\":") (by omega)).2
    have := happ.room
    rw [hall happ.fixed (by omega)]
    rfl

/-- The function prints a list of texts, which is the complete one where the array has room. -/
theorem jsonNetworkInfoDoGenerateInternal_eq (hB : B.Lawful) :
    ∃ ts, jsonNetworkInfoDoGenerateInternal B j = printAll B ts (B.arr jsonIpInfoSize) ∧
      (j.jsonText.length ≤ B.room (B.arr jsonIpInfoSize) → ts = j.texts) := by
  obtain ⟨ts, hstate, hall⟩ := jsonNetworkInfoPrintConnection_eq (j := j)
    (s := (B.printf (B.arr jsonIpInfoSize) (ascii "\x7b")).2) hB
  refine ⟨ascii "\x7b" :: ((if j.updateReasonCode ≠ .connectionUndefined then ts else []) ++
    (j.extraTexts ++ [ascii "\x7d\n"])), ?_, fun hroom => ?_⟩
  · simp only [jsonNetworkInfoDoGenerateInternal, hstate, JsonNetworkStatus.extraTexts]
    split_ifs <;> simp only [printAll_cons, printAll_append, List.nil_append, printAll_nil]
  · by_cases hundef : j.updateReasonCode = .connectionUndefined
    · simp only [JsonNetworkStatus.texts, hundef, ne_eq, not_true, if_false]
    · rw [JsonNetworkStatus.jsonText, JsonNetworkStatus.texts, if_pos hundef, List.flatten_cons,
        List.length_append, List.flatten_append, List.length_append] at hroom
      have happ := (hB.fits (hB.fixed_arr (n := jsonIpInfoSize)).1 (t := ascii "\x7b") (by omega)).2
      have := happ.room
      rw [hall happ.fixed (by omega)]
      rfl

theorem jsonNetworkInfoDoGenerateInternal_complete (hB : B.Lawful) :
    B.text (jsonNetworkInfoDoGenerateInternal B j) = j.jsonText ∧ ascii "\x7d\n" <:+ j.jsonText ↔
      j.updateReasonCode = .connectionUndefined ∨ j.connectionSize < jsonIpInfoSize := by
  obtain ⟨ts, hstate, hall⟩ := jsonNetworkInfoDoGenerateInternal_eq (j := j) hB
  obtain ⟨hfixed, hempty, hroom⟩ := hB.fixed_arr (n := jsonIpInfoSize)
  have hsize : jsonIpInfoSize = 250 := rfl
  have hfits : B.text (jsonNetworkInfoDoGenerateInternal B j) = j.jsonText ↔
      j.jsonText.length ≤ 249 := by
    rw [hstate]
    constructor
    · intro htext
      have hbound := printAll_bounded hB hfixed ts
      rw [htext, hempty, hroom, List.length_nil] at hbound
      omega
    · intro hlen
      rw [hall (by omega), (printAll_fits hB hfixed _ (by rw [hroom]; exact hlen)).text, hempty]
      rfl
  rw [hfits, and_iff_left JsonNetworkStatus.jsonText_closed]
  by_cases hundef : j.updateReasonCode = .connectionUndefined
  · exact ⟨fun _ => .inl hundef, fun _ => JsonNetworkStatus.length_jsonText_undefined hundef⟩
  · rw [JsonNetworkStatus.length_jsonText_defined hundef]
    constructor
    · exact fun h => .inr (by omega)
    · rintro (h | h)
      · exact absurd h hundef
      · omega

end Print

/-- The status after a run of calls. -/
def JsonNetworkStatus.after (actions : List JsonNetworkAction) : JsonNetworkStatus :=
  actions.foldl JsonNetworkAction.run .zero

/-- In every state the output is complete, down to the closing brace and the newline, exactly where
no connection was reported or the lengths of the parts add up to less than the size of the array. -/
theorem status_json_complete_iff {σ : Type} (B : StrBuf.Ops σ) (hB : B.Lawful)
    (actions : List JsonNetworkAction) :
    B.text (jsonNetworkInfoDoGenerateInternal B (.after actions)) =
          (JsonNetworkStatus.after actions).jsonText ∧
        ascii "\x7d\n" <:+ (JsonNetworkStatus.after actions).jsonText ↔
      (JsonNetworkStatus.after actions).updateReasonCode = .connectionUndefined ∨
        (JsonNetworkStatus.after actions).connectionSize < jsonIpInfoSize :=
  jsonNetworkInfoDoGenerateInternal_complete hB

/-- An SSID of 31 control characters is connected. -/
def controlSsidActions : List JsonNetworkAction :=
  [.clear, .update (some (.ofStr 32 (List.replicate 31 1)))
    (some ⟨ascii "192.168.1.119", ascii "192.168.1.1", ascii "255.255.255.0", ascii "192.168.1.1"⟩)
    .connectionOk]

theorem status_json_complete_iff_control :
    buffer.text (jsonNetworkInfoDoGenerateInternal buffer (.after controlSsidActions)) =
          (JsonNetworkStatus.after controlSsidActions).jsonText ∧
        ascii "\x7d\n" <:+ (JsonNetworkStatus.after controlSsidActions).jsonText ↔
      (JsonNetworkStatus.after controlSsidActions).updateReasonCode = .connectionUndefined ∨
        (JsonNetworkStatus.after controlSsidActions).connectionSize < jsonIpInfoSize :=
  status_json_complete_iff buffer buffer_lawful controlSsidActions

/-- The output is cut off. -/
theorem status_json_truncated :
    ¬ ascii "\x7d\n" <:+
        buffer.text (jsonNetworkInfoDoGenerateInternal buffer (.after controlSsidActions)) ∧
      ¬ ∀ (σ : Type) (B : StrBuf.Ops σ), B.Lawful → ∀ actions : List JsonNetworkAction,
        B.text (jsonNetworkInfoDoGenerateInternal B (.after actions)) =
          (JsonNetworkStatus.after actions).jsonText := by
  refine ⟨by decide +kernel, fun h => ?_⟩
  have hcomplete := h Buffer buffer buffer_lawful controlSsidActions
  have hlen := congrArg List.length hcomplete
  revert hlen
  decide +kernel

end WifiManager
end Esp32WifiManager
