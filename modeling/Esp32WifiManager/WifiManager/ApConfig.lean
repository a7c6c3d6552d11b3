import Esp32WifiManager.Lib.FoldRuns
import Esp32WifiManager.WifiManager.State

/-!
# The security of the configured access point

The configuration of the access point is copied from the caller by several
operations, and the two that write the default configuration make its
authentication mode fit its password.
-/

namespace Esp32WifiManager
namespace WifiManager

open CString FoldRuns

/-- `wifi_auth_mode_t`. -/
inductive WifiAuthMode
  | open
  | wep
  | wpaPsk
  | wpa2Psk
  | wpaWpa2Psk
  | wpa2Enterprise
  | wpa3Psk
  | wpa2Wpa3Psk
  | wapiPsk
  | max
  deriving DecidableEq, Repr

/-- `wifi_ap_config_t`. -/
structure WifiApConfig where
  ssid : CharBuf 32
  password : CharBuf 64
  ssidLen : UInt8
  channel : UInt8
  authmode : WifiAuthMode
  ssidHidden : UInt8
  maxConnection : UInt8
  beaconInterval : UInt16
  deriving DecidableEq

inductive WifiBandwidth
  | ht20
  | ht40
  deriving DecidableEq, Repr

structure WifiSettingsAp where
  apBandwidth : WifiBandwidth
  apIp : CharBuf 16
  apGw : CharBuf 16
  apNetmask : CharBuf 16
  deriving DecidableEq

structure WifimanConfigAp where
  wifiConfigAp : WifiApConfig
  wifiSettingsAp : WifiSettingsAp
  deriving DecidableEq

structure WifimanHostinfo where
  hostname : CharBuf 30
  fwVer : CharBuf 33
  nrf52FwVer : CharBuf 33
  deriving DecidableEq

/-- `wifiman_config_t`; `hostinfo` is its member `sta.hostinfo`. -/
structure WifimanConfig where
  ap : WifimanConfigAp
  sta : WifimanConfigSta
  hostinfo : WifimanHostinfo
  deriving DecidableEq

/-- The `CONFIG_DEFAULT_AP_*` values of a build. -/
structure DefaultAp where
  password : CharBuf 64
  channel : UInt8
  maxConnections : UInt8
  beaconInterval : UInt16
  ip : CharBuf 16
  gateway : CharBuf 16
  netmask : CharBuf 16

/-- The configurations of the module, and those that the driver was given for the access point,
the newest first. -/
structure ConfigState where
  wifimanConfigDefault : WifimanConfig
  wifimanConfig : WifimanConfig
  given : List WifiApConfig

/-- The configuration that is all zeros. -/
def WifimanConfig.zero : WifimanConfig where
  ap := ⟨⟨CharBuf.zero 32, CharBuf.zero 64, 0, 0, .open, 0, 0, 0⟩,
    ⟨.ht20, CharBuf.zero 16, CharBuf.zero 16, CharBuf.zero 16⟩⟩
  sta := ⟨⟨CharBuf.zero 32, CharBuf.zero 64⟩, false⟩
  hostinfo := ⟨CharBuf.zero 30, CharBuf.zero 33, CharBuf.zero 33⟩

/-- `g_wifiman_config_default_const`. -/
def wifimanConfigDefaultConst (build : DefaultAp) : WifimanConfig where
  ap := ⟨⟨CharBuf.zero 32, build.password, 0, build.channel, .wpa2Psk, 0, build.maxConnections,
      build.beaconInterval⟩, ⟨.ht20, build.ip, build.gateway, build.netmask⟩⟩
  sta := ⟨⟨CharBuf.zero 32, CharBuf.zero 64⟩, false⟩
  hostinfo := ⟨CharBuf.zero 30, CharBuf.zero 33, CharBuf.zero 33⟩

/-! ### The operations -/

namespace ConfigState

/-- The static configurations before the first operation. -/
def init : ConfigState := ⟨WifimanConfig.zero, WifimanConfig.zero, []⟩

variable (s : ConfigState)

def wifimanDefaultConfigInit (build : DefaultAp) (ssid : CharBuf 32) (hostinfo : WifimanHostinfo) :
    ConfigState :=
  let cfg := wifimanConfigDefaultConst build
  let ap : WifiApConfig :=
    { cfg.ap.wifiConfigAp with
      ssid := CharBuf.ofStr 32 ssid.str
      authmode := if cfg.ap.wifiConfigAp.password.isEmpty then .open else .wpa2Psk }
  let printed : WifimanHostinfo :=
    { hostname := CharBuf.ofStr 30 hostinfo.hostname.str
      fwVer := CharBuf.ofStr 33 hostinfo.fwVer.str
      nrf52FwVer := CharBuf.ofStr 33 hostinfo.nrf52FwVer.str }
  { s with
    wifimanConfigDefault :=
      { cfg with ap := { cfg.ap with wifiConfigAp := ap }, hostinfo := printed } }

/-- What `wifiman_default_config_set` makes of the authentication mode. -/
def fitAuthmode (ap : WifiApConfig) : WifiApConfig :=
  if ap.password.isEmpty then
    if ap.authmode ≠ .open then { ap with authmode := .open } else ap
  else
    if ap.authmode = .open then { ap with authmode := .wpa2Psk } else ap

def wifimanDefaultConfigSet (cfg : WifimanConfig) : ConfigState :=
  { s with
    wifimanConfigDefault :=
      { cfg with ap := { cfg.ap with wifiConfigAp := fitAuthmode cfg.ap.wifiConfigAp } } }

def wifimanConfigInit (cfg : WifimanConfig) : ConfigState := { s with wifimanConfig := cfg }

def wifimanConfigApSet (ap : WifimanConfigAp) : ConfigState :=
  { s with wifimanConfig := { s.wifimanConfig with ap := ap } }

def wifimanConfigStaSet (sta : WifimanConfigSta) (hostinfo : WifimanHostinfo) : ConfigState :=
  { s with wifimanConfig := { s.wifimanConfig with sta := sta, hostinfo := hostinfo } }

def wifimanConfigApGetConfig : WifiApConfig := s.wifimanConfig.ap.wifiConfigAp

/-- The driver answers `err` to `esp_wifi_set_mode`. -/
def wifiManagerEspWifiConfigureAp (err : EspErr) : ConfigState :=
  if err ≠ espOk then s
  else { s with given := s.wifimanConfigApGetConfig :: s.given }

def wifiManagerSetConfigAp (ap : WifimanConfigAp) (err : EspErr) : ConfigState :=
  (s.wifimanConfigApSet ap).wifiManagerEspWifiConfigureAp err

/-- The calls for the station interface touch none of the configurations. -/
def wifiManagerReconfigure (cfg : WifimanConfig) (err : EspErr) : ConfigState :=
  (s.wifiManagerSetConfigAp cfg.ap err).wifimanConfigStaSet cfg.sta cfg.hostinfo

end ConfigState

/-- An operation, with what the driver answers to `esp_wifi_set_mode` in it. The last one is the
step of `wifi_manager_start` that configures the driver. -/
inductive ConfigOp
  | wifimanDefaultConfigInit (ssid : CharBuf 32) (hostinfo : WifimanHostinfo)
  | wifimanDefaultConfigSet (cfg : WifimanConfig)
  | wifimanConfigInit (cfg : WifimanConfig)
  | wifimanConfigApSet (ap : WifimanConfigAp)
  | wifiManagerSetConfigAp (ap : WifimanConfigAp) (err : EspErr)
  | wifiManagerReconfigure (cfg : WifimanConfig) (err : EspErr)
  | wifiManagerEspWifiConfigureAp (err : EspErr)

def ConfigState.step (build : DefaultAp) (s : ConfigState) : ConfigOp → ConfigState
  | .wifimanDefaultConfigInit ssid hostinfo => s.wifimanDefaultConfigInit build ssid hostinfo
  | .wifimanDefaultConfigSet cfg => s.wifimanDefaultConfigSet cfg
  | .wifimanConfigInit cfg => s.wifimanConfigInit cfg
  | .wifimanConfigApSet ap => s.wifimanConfigApSet ap
  | .wifiManagerSetConfigAp ap err => s.wifiManagerSetConfigAp ap err
  | .wifiManagerReconfigure cfg err => s.wifiManagerReconfigure cfg err
  | .wifiManagerEspWifiConfigureAp err => s.wifiManagerEspWifiConfigureAp err

def ConfigState.run (build : DefaultAp) (ops : List ConfigOp) : ConfigState :=
  ops.foldl (ConfigState.step build) .init

/-! ### Password and authentication mode -/

/-- The password is empty if and only if the access point is open. -/
def WifiApConfig.AuthFits (ap : WifiApConfig) : Prop := ap.password.str = [] ↔ ap.authmode = .open

/-- The configuration of the access point that the operation copies from its caller. -/
def ConfigOp.copied : ConfigOp → Option WifiApConfig
  | .wifimanConfigInit cfg => some cfg.ap.wifiConfigAp
  | .wifimanConfigApSet ap => some ap.wifiConfigAp
  | .wifiManagerSetConfigAp ap _ => some ap.wifiConfigAp
  | .wifiManagerReconfigure cfg _ => some cfg.ap.wifiConfigAp
  | _ => none

/-- What is returned and what the driver has been given are secured as their passwords say. -/
structure ConfigState.Secured (s : ConfigState) : Prop where
  returned : s.wifimanConfigApGetConfig.AuthFits
  given : ∀ ap ∈ s.given, ap.AuthFits

namespace ApConfig

variable {build : DefaultAp} {s : ConfigState} {ap : WifiApConfig}

theorem fitAuthmode_authFits : (ConfigState.fitAuthmode ap).AuthFits := by
  unfold ConfigState.fitAuthmode WifiApConfig.AuthFits
  rw [← CharBuf.isEmpty_iff]
  split_ifs with hempty hmode hmode
  · simp [hempty]
  · simp [hempty, not_not.mp hmode]
  · simp [hempty]
  · simp [hempty, hmode]

theorem wifimanDefaultConfigInit_authFits (ssid : CharBuf 32) (hostinfo : WifimanHostinfo) :
    (s.wifimanDefaultConfigInit build ssid hostinfo).wifimanConfigDefault.ap.wifiConfigAp.AuthFits := by
  unfold WifiApConfig.AuthFits
  rw [← CharBuf.isEmpty_iff]
  simp only [ConfigState.wifimanDefaultConfigInit]
  split_ifs with hempty
  · simp [hempty]
  · simp [hempty]

@[simp] theorem wifiManagerEspWifiConfigureAp_wifimanConfig (err : EspErr) :
    (s.wifiManagerEspWifiConfigureAp err).wifimanConfig = s.wifimanConfig := by
  unfold ConfigState.wifiManagerEspWifiConfigureAp
  split_ifs <;> rfl

@[simp] theorem wifiManagerEspWifiConfigureAp_wifimanConfigDefault (err : EspErr) :
    (s.wifiManagerEspWifiConfigureAp err).wifimanConfigDefault = s.wifimanConfigDefault := by
  unfold ConfigState.wifiManagerEspWifiConfigureAp
  split_ifs <;> rfl

@[simp] theorem wifimanDefaultConfigInit_wifimanConfig (ssid : CharBuf 32)
    (hostinfo : WifimanHostinfo) :
    (s.wifimanDefaultConfigInit build ssid hostinfo).wifimanConfig = s.wifimanConfig := by
  simp only [ConfigState.wifimanDefaultConfigInit]

@[simp] theorem wifimanDefaultConfigInit_given (ssid : CharBuf 32) (hostinfo : WifimanHostinfo) :
    (s.wifimanDefaultConfigInit build ssid hostinfo).given = s.given := by
  simp only [ConfigState.wifimanDefaultConfigInit]

/-- The driver is given what is returned, or nothing. -/
theorem mem_given_configureAp {err : EspErr}
    (h : ap ∈ (s.wifiManagerEspWifiConfigureAp err).given) :
    ap = s.wifimanConfigApGetConfig ∨ ap ∈ s.given := by
  unfold ConfigState.wifiManagerEspWifiConfigureAp at h
  split_ifs at h with herr
  · exact Or.inr h
  · exact List.mem_cons.mp h

/-- An operation that copies a configuration makes it the one that is returned. -/
theorem step_returned_copied {op : ConfigOp} (h : op.copied = some ap) :
    (s.step build op).wifimanConfigApGetConfig = ap := by
  cases op with
  | wifimanDefaultConfigInit ssid hostinfo => simp [ConfigOp.copied] at h
  | wifimanDefaultConfigSet cfg => simp [ConfigOp.copied] at h
  | wifimanConfigInit cfg => exact Option.some.inj h
  | wifimanConfigApSet ap => exact Option.some.inj h
  | wifiManagerSetConfigAp ap err =>
    rw [← Option.some.inj h]
    simp [ConfigState.step, ConfigState.wifiManagerSetConfigAp, ConfigState.wifimanConfigApSet,
      ConfigState.wifimanConfigApGetConfig]
  | wifiManagerReconfigure cfg err =>
    rw [← Option.some.inj h]
    simp [ConfigState.step, ConfigState.wifiManagerReconfigure, ConfigState.wifimanConfigStaSet,
      ConfigState.wifiManagerSetConfigAp, ConfigState.wifimanConfigApSet,
      ConfigState.wifimanConfigApGetConfig]
  | wifiManagerEspWifiConfigureAp err => simp [ConfigOp.copied] at h

/-- The other operations leave it. -/
theorem step_returned_kept {op : ConfigOp} (h : op.copied = none) :
    (s.step build op).wifimanConfigApGetConfig = s.wifimanConfigApGetConfig := by
  cases op with
  | wifimanDefaultConfigInit ssid hostinfo =>
    simp [ConfigState.step, ConfigState.wifimanConfigApGetConfig]
  | wifimanDefaultConfigSet cfg =>
    simp [ConfigState.step, ConfigState.wifimanDefaultConfigSet,
      ConfigState.wifimanConfigApGetConfig]
  | wifimanConfigInit cfg => simp [ConfigOp.copied] at h
  | wifimanConfigApSet ap => simp [ConfigOp.copied] at h
  | wifiManagerSetConfigAp ap err => simp [ConfigOp.copied] at h
  | wifiManagerReconfigure cfg err => simp [ConfigOp.copied] at h
  | wifiManagerEspWifiConfigureAp err =>
    simp [ConfigState.step, ConfigState.wifimanConfigApGetConfig]

/-- The driver is given nothing but what is returned after the operation. -/
theorem mem_given_step {op : ConfigOp} (h : ap ∈ (s.step build op).given) :
    ap = (s.step build op).wifimanConfigApGetConfig ∨ ap ∈ s.given := by
  cases op with
  | wifimanDefaultConfigInit ssid hostinfo =>
    rw [ConfigState.step, wifimanDefaultConfigInit_given] at h
    exact Or.inr h
  | wifimanDefaultConfigSet cfg => exact Or.inr h
  | wifimanConfigInit cfg => exact Or.inr h
  | wifimanConfigApSet ap => exact Or.inr h
  | wifiManagerSetConfigAp ap' err =>
    have hreturned :
        (s.step build (.wifiManagerSetConfigAp ap' err)).wifimanConfigApGetConfig =
          ap'.wifiConfigAp :=
      step_returned_copied rfl
    rw [hreturned]
    exact mem_given_configureAp h
  | wifiManagerReconfigure cfg err =>
    have hreturned :
        (s.step build (.wifiManagerReconfigure cfg err)).wifimanConfigApGetConfig =
          cfg.ap.wifiConfigAp :=
      step_returned_copied rfl
    rw [hreturned]
    exact mem_given_configureAp (s := s.wifimanConfigApSet cfg.ap) h
  | wifiManagerEspWifiConfigureAp err =>
    rw [step_returned_kept rfl]
    exact mem_given_configureAp h

theorem init_secured : ConfigState.init.Secured := by
  constructor
  · exact iff_of_true CharBuf.str_zero rfl
  · simp [ConfigState.init]

/-- The configuration that the operation copies, if any, is secured as its password says. -/
def CopiesFitting (op : ConfigOp) : Prop := ∀ ap ∈ op.copied, ap.AuthFits

theorem step_secured_iff (op : ConfigOp) (h : s.Secured) :
    (s.step build op).Secured ↔ CopiesFitting op := by
  constructor
  · intro hnext ap hap
    have hreturned : (s.step build op).wifimanConfigApGetConfig = ap := step_returned_copied hap
    rw [← hreturned]
    exact hnext.returned
  · intro hfit
    have hreturned : (s.step build op).wifimanConfigApGetConfig.AuthFits := by
      cases hop : op.copied with
      | none =>
        rw [step_returned_kept hop]
        exact h.returned
      | some ap =>
        rw [step_returned_copied hop]
        exact hfit ap hop
    refine ⟨hreturned, ?_⟩
    intro ap hap
    rcases mem_given_step hap with rfl | hold
    · exact hreturned
    · exact h.given ap hold

/-- The operations on the default configuration make it fit, whatever they are given. -/
theorem default_step (op : ConfigOp) (h : s.wifimanConfigDefault.ap.wifiConfigAp.AuthFits) :
    (s.step build op).wifimanConfigDefault.ap.wifiConfigAp.AuthFits := by
  cases op with
  | wifimanDefaultConfigInit ssid hostinfo => exact wifimanDefaultConfigInit_authFits ssid hostinfo
  | wifimanDefaultConfigSet cfg => exact fitAuthmode_authFits
  | wifimanConfigInit cfg => exact h
  | wifimanConfigApSet ap => exact h
  | wifiManagerSetConfigAp ap err =>
    simpa [ConfigState.step, ConfigState.wifiManagerSetConfigAp, ConfigState.wifimanConfigApSet] using h
  | wifiManagerReconfigure cfg err =>
    simpa [ConfigState.step, ConfigState.wifiManagerReconfigure, ConfigState.wifimanConfigStaSet,
      ConfigState.wifiManagerSetConfigAp, ConfigState.wifimanConfigApSet] using h
  | wifiManagerEspWifiConfigureAp err => simpa [ConfigState.step] using h

end ApConfig

open ApConfig

/-- The default configuration is secured as its password says in every state. -/
theorem default_config_secured (build : DefaultAp) (ops : List ConfigOp) :
    Always (ConfigState.step build)
      (fun s => s.wifimanConfigDefault.ap.wifiConfigAp.AuthFits) .init ops :=
  always_of_step (fun _ op h => default_step op h) init_secured.returned

/-- The invariant holds in every state of a run exactly when every configuration that the run
copies from a caller has it. -/
theorem ap_config_secured (build : DefaultAp) (ops : List ConfigOp) :
    (∀ pre, pre <+: ops → (ConfigState.run build pre).Secured) ↔
      ∀ op ∈ ops, CopiesFitting op := by
  have hrun : Always (ConfigState.step build) ConfigState.Secured .init ops ↔
      EveryStep (ConfigState.step build) (fun _ op => CopiesFitting op) .init ops :=
    always_iff_everyStep (fun s op => step_secured_iff op) init_secured
  rw [everyStep_const] at hrun
  exact always_iff_prefix.symm.trans hrun

/-- An open access point with a password. -/
def openWithPassword : WifimanConfigAp where
  wifiConfigAp := { WifimanConfig.zero.ap.wifiConfigAp with
    password := CharBuf.ofStr 64 (ascii "12345678") }
  wifiSettingsAp := WifimanConfig.zero.ap.wifiSettingsAp

/-- The driver opens the hotspot although a password is configured. -/
theorem ap_config_open_hotspot :
    ¬ ∀ (build : DefaultAp) (ops : List ConfigOp), (ConfigState.run build ops).Secured := by
  intro h
  have hrun := h ⟨CharBuf.zero 64, 1, 4, 100, CharBuf.zero 16, CharBuf.zero 16, CharBuf.zero 16⟩
    [.wifiManagerSetConfigAp openWithPassword espOk]
  have hgiven := hrun.given openWithPassword.wifiConfigAp (by decide +kernel)
  have hempty : openWithPassword.wifiConfigAp.password.str = [] := hgiven.mpr rfl
  revert hempty
  decide +kernel

end WifiManager
end Esp32WifiManager
