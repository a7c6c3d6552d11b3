import Esp32WifiManager.WifiManager.StickyDisconnect

/-!
# Which credentials are saved

The connect handler reads the configuration and gives it to the driver; when the
address has been obtained, the handler of that event saves the configuration as
it is by then, unless `REQUEST_RESTORE_STA_BIT` is set.
-/

namespace Esp32WifiManager
namespace WifiManager

open CString TaskSystem WifiCall

/-- What is left of the connect handler when it is about to read the configuration. -/
def wifiConnectStaConfigure : WifiProg Unit := do
  let cfg ← call wifimanConfigStaGet
  let err ← call (driver (.espWifiSetConfigSta cfg.wifiConfigSta))
  if err = espOk then
    let _ ← call (driver .espWifiConnect)

/-- What is left of the round of `msg` when `handler` is left of its handler. -/
def wifiManagerTaskRest (msg : QueueMessage) (handler : WifiProg (Bool × Bool)) : WifiProg Unit := do
  let flagTerminate ← (do
    let (flagTerminate, callCb) ← handler
    if callCb then
      call (callback (.onMessage msg))
    return flagTerminate : WifiProg Bool)
  if flagTerminate then
    wifiManagerTaskFinish
    call (setManagerTask .none)

theorem wifiManagerTaskHandle_eq (msg : QueueMessage) :
    wifiManagerTaskHandle msg = wifiManagerTaskRest msg (wifiManagerHandleMsg msg) := rfl

/-- The manager task is about to read the configuration for a connect order. -/
def connectReads (connReq : ConnectionRequest) : WifiProg Unit :=
  wifiManagerTaskRest (.orderConnectSta connReq) do
    wifiConnectStaConfigure
    return (false, true)

/-- A connect order that finds the station inactive comes to this point. -/
theorem wifiConnectStaRun_inactive {bits : EventBits} (h : bits .staActive = false) :
    wifiConnectStaRun bits = (do
      let _ ← call (xEventGroupClearBits [.requestDisconnect])
      let _ ← call (xEventGroupSetBits [.staActive])
      wifiConnectStaConfigure) := by
  unfold wifiConnectStaRun
  rw [if_neg (by simp [h])]
  rfl

/-- The server does not run. -/
def OthersOnly (_ : WifiConfig) (l : WifiLabel) : Prop := ∀ c, l ≠ .run .server c

/-- The manager task does not give a configuration to the driver. -/
def GivesNoConfig (cfg : WifiConfig) (_ : WifiLabel) : Prop :=
  ∀ sta, cfg.server.prog.next ≠ some (driver (.espWifiSetConfigSta sta))

/-- The connect handler reads the configuration at `read` and gives it to the driver; later, at
`gotIp`, the manager task is about to handle an address that has been obtained, and no other
configuration has been given by then. -/
structure Obtains (connReq : ConnectionRequest) (ip : Ip4) (read gotIp : WifiConfig) : Prop where
  reads : read.server.prog = connectReads connReq
  gives : ∃ c₁ cfg₁ labels₁ cfg₂ c₂ cfg₃ labels₂, Step machine read (.run .server c₁) cfg₁ ∧
    Path machine OthersOnly cfg₁ labels₁ cfg₂ ∧ Step machine cfg₂ (.run .server c₂) cfg₃ ∧
    Path machine GivesNoConfig cfg₃ labels₂ gotIp
  handles : gotIp.server.prog = wifiManagerTaskHandle (.eventStaGotIp ip)

/-- The handler at `gotIp` has read the bits, and then other tasks have run. -/
def Decided (gotIp decided : WifiConfig) : Prop :=
  ∃ c cfg labels, Step machine gotIp (.run .server c) cfg ∧
    Path machine OthersOnly cfg labels decided

/-- The next call of the manager task saves the configuration. -/
def SavesNext (cfg : WifiConfig) : Prop := cfg.server.prog.next = some wifimanConfigStaSave

/-- The configuration that is saved is the one last given to the driver, and it is saved when the
connection was ordered by the user or by WPS. -/
structure SavesVerified (connReq : ConnectionRequest) (cfg : WifiConfig) : Prop where
  given : SavesNext cfg → cfg.shared.driver.staConfig = some cfg.shared.config.wifiConfigSta
  saved : connReq = .user ∨ connReq = .wps → SavesNext cfg

namespace SavedConfig

variable {cfg cfg' : WifiConfig} {labels : List WifiLabel} {c : Reply}

/-- Only the manager task gives a configuration to the driver. -/
theorem staConfig_step {l : WifiLabel} (hclients : ClientsAll WifiCall.IsClientCall cfg)
    (hs : Step machine cfg l cfg') (hok : GivesNoConfig cfg l) :
    cfg'.shared.driver.staConfig = cfg.shared.driver.staConfig := by
  cases hs with
  | @answer t o k w reply r s htask he =>
    have hno : Field.driverStaConfig ∉ o.writes := by
      cases t with
      | server =>
        have hserver : cfg.server = ⟨.call o k, w⟩ := Option.some.inj htask
        intro hw
        cases o <;> simp [writes] at hw
        case driver d =>
          cases d <;> simp [DriverCall.writes] at hw
          case espWifiSetConfigSta sta => exact hok sta (by rw [hserver]; rfl)
      | client i =>
        obtain ⟨posts, ho⟩ := (hclients htask).1
        intro hw
        exact absurd (ho.writes hw) (by decide)
    rw [Config.setTask_shared]
    exact exec_agree (f := .driverStaConfig) he hno
  | wait htask he => rw [Config.setTask_shared]
  | serve hserver hp => rw [Config.setTask_shared]
  | arrive ha =>
    obtain ⟨hoccur, -⟩ := arrive_eq ha
    exact agreeInside_occur hoccur .driverStaConfig (by decide)

theorem staConfig_path (hclients : ClientsAll WifiCall.IsClientCall cfg)
    (hp : Path machine GivesNoConfig cfg labels cfg') :
    cfg'.shared.driver.staConfig = cfg.shared.driver.staConfig := by
  induction hp with
  | nil => rfl
  | cons hs hok _ ih =>
    have hrest := ih (ClientsAll.step arrive_all hclients hs)
    exact hrest.trans (staConfig_step hclients hs hok)

theorem connectReads_call (connReq : ConnectionRequest) :
    ∃ k, connectReads connReq = .call wifimanConfigStaGet k ∧
      ∀ sta, ∃ k', k sta = .call (driver (.espWifiSetConfigSta sta.wifiConfigSta)) k' :=
  ⟨_, rfl, fun _ => ⟨_, rfl⟩⟩

/-- When the address is handled, the driver has the configuration that was read. -/
theorem given_of_obtains {connReq : ConnectionRequest} {ip : Ip4} {read gotIp : WifiConfig}
    (hclients : ClientsAll WifiCall.IsClientCall read) (h : Obtains connReq ip read gotIp) :
    ClientsAll WifiCall.IsClientCall gotIp ∧
      gotIp.shared.driver.staConfig = some read.shared.config.wifiConfigSta := by
  obtain ⟨c₁, cfg₁, labels₁, cfg₂, c₂, cfg₃, labels₂, hread, hothers, hgive, hrest⟩ := h.gives
  have hclients₁ : ClientsAll WifiCall.IsClientCall cfg₁ := ClientsAll.step arrive_all hclients hread
  have hclients₂ : ClientsAll WifiCall.IsClientCall cfg₂ := ClientsAll.path arrive_all hothers hclients₁
  have hclients₃ : ClientsAll WifiCall.IsClientCall cfg₃ := ClientsAll.step arrive_all hclients₂ hgive
  refine ⟨ClientsAll.path arrive_all hrest hclients₃, ?_⟩
  rw [staConfig_path hclients₃ hrest]
  obtain ⟨hserver, -⟩ := others_run hclients₁ hothers
  obtain ⟨k, hk, hgives⟩ := connectReads_call connReq
  rcases hread.server_call (h.reads.trans hk) with ⟨sta, s, he, rfl⟩ | ⟨he, -⟩
  · obtain ⟨rfl, rfl⟩ := Prod.mk.inj (Option.some.inj he)
    obtain ⟨k', hk'⟩ := hgives read.shared.config
    have hprog : cfg₂.server.prog = _ := (congrArg Task.prog hserver).trans hk'
    rcases hgive.server_call hprog with ⟨err, s, he, rfl⟩ | ⟨he, -⟩
    · obtain ⟨-, rfl⟩ := Prod.mk.inj (Option.some.inj he)
      rfl
    · exact absurd he (by simp [machine, exec])
  · exact absurd he (by simp [machine, exec])

/-- The handler of the address saves when it reads `REQUEST_RESTORE_STA_BIT` as clear. -/
theorem gotIp_call (ip : Ip4) : ∃ f, wifiManagerTaskHandle (.eventStaGotIp ip) =
      .call (xEventGroupClearBits [.requestStaConnect, .requestRestoreSta]) f ∧
    ∀ bits, (f bits).next = some wifimanConfigStaSave ↔ bits .requestRestoreSta = false := by
  simp only [wifiManagerTaskHandle, wifiManagerHandleMsg, wifiHandleEvStaGotIp, Prog.bind_bind]
  refine ⟨_, rfl, ?_⟩
  intro bits
  cases hrestore : bits .requestRestoreSta with
  | true =>
    refine iff_of_false ?_ (by simp)
    simp only [Prog.bind, hrestore, Bool.not_true, Bool.false_eq_true, if_false]
    change some espNetifGetIpInfo ≠ some wifimanConfigStaSave
    simp
  | false =>
    refine iff_of_true ?_ rfl
    simp only [Prog.bind, hrestore, Bool.not_false, if_true]
    rfl

end SavedConfig

/-- The verified credentials are saved if and only if the configuration, where it is saved, is still
the one that the connect handler has read, and `REQUEST_RESTORE_STA_BIT` is clear when the address
is handled, where the connection was ordered by the user or by WPS. -/
theorem saves_verified_iff {connReq : ConnectionRequest} {ip : Ip4}
    {read gotIp decided : WifiConfig} (hreach : Reachable read)
    (hobtains : Obtains connReq ip read gotIp) (hdecided : Decided gotIp decided) :
    SavesVerified connReq decided ↔
      (gotIp.shared.eventBits .requestRestoreSta = false →
        decided.shared.config.wifiConfigSta = read.shared.config.wifiConfigSta) ∧
      (connReq = .user ∨ connReq = .wps →
        gotIp.shared.eventBits .requestRestoreSta = false) := by
  obtain ⟨hclients, hgiven⟩ := SavedConfig.given_of_obtains (fun hx => hreach.clientsAll hx) hobtains
  obtain ⟨c, cfg, labels, hclear, hothers⟩ := hdecided
  obtain ⟨f, hf, hsave⟩ := SavedConfig.gotIp_call ip
  have hclients' : ClientsAll WifiCall.IsClientCall cfg := ClientsAll.step arrive_all hclients hclear
  obtain ⟨hserver, hagree⟩ := others_run hclients' hothers
  have hconfig : decided.shared.driver.staConfig = some read.shared.config.wifiConfigSta := by
    have hcfg : cfg.shared.driver.staConfig = gotIp.shared.driver.staConfig :=
      SavedConfig.staConfig_step hclients hclear fun sta hnext => by
        rw [hobtains.handles, hf] at hnext
        exact absurd hnext nofun
    have hdec : decided.shared.driver.staConfig = cfg.shared.driver.staConfig :=
      hagree .driverStaConfig (by decide)
    exact hdec.trans (hcfg.trans hgiven)
  have hnext : SavesNext decided ↔ gotIp.shared.eventBits .requestRestoreSta = false := by
    unfold SavesNext
    rw [hserver]
    rcases hclear.server_call (hobtains.handles.trans hf) with ⟨bits, s, he, rfl⟩ | ⟨he, -⟩
    · obtain ⟨rfl, rfl⟩ := Prod.mk.inj (Option.some.inj he)
      exact hsave _
    · exact absurd he (by simp [machine, exec])
  constructor
  · intro h
    refine ⟨fun hrestore => ?_, fun hreq => hnext.mp (h.saved hreq)⟩
    have hgiven := h.given (hnext.mpr hrestore)
    exact Option.some.inj (hgiven.symm.trans hconfig)
  · rintro ⟨hsame, hrestore⟩
    constructor
    · intro hsaves
      rw [hconfig, hsame (hnext.mp hsaves)]
    · exact fun hreq => hnext.mpr (hrestore hreq)

/-! ### Two runs in which the user connects -/

def givesNoConfig (cfg : WifiConfig) (_ : WifiLabel) : Bool :=
  match cfg.server.prog.next with
  | some (driver (.espWifiSetConfigSta _)) => false
  | _ => true

theorem givesNoConfig_of_test (cfg : WifiConfig) (l : WifiLabel) (h : givesNoConfig cfg l = true) :
    GivesNoConfig cfg l := by
  intro sta hnext
  simp [givesNoConfig, hnext] at h

/-- The user connects to the network "home", and the handler is about to read the configuration. -/
def readLabels : List WifiLabel :=
  runs .server 4 ++ .arrive .connectAsync :: runs (.client 0) 8 ++ runs .server 8

/-- The address is obtained. -/
def obtainLabels : List WifiLabel :=
  runs .server 2 ++ .arrive (.ipEventStaGotIp 1) :: runs (.client 1) 4 ++ runs .server 2

def officeLogin : WifiSsidPassword :=
  ⟨false, false, CharBuf.ofStr 32 (ascii "office"), CharBuf.ofStr 64 (ascii "secret")⟩

/-- The user posts other credentials before the address is obtained. -/
def repostLabels : List WifiLabel :=
  .arrive (.postConnectJson officeLogin) :: runs (.client 1) 1 ++ runs .server 2 ++
    .arrive (.ipEventStaGotIp 1) :: runs (.client 2) 4 ++ runs .server 2

/-- The run from the read to the address. -/
def runToAddress (labels : List WifiLabel) (read : WifiConfig) : Option WifiConfig :=
  (step machine read (.run .server .ok)).bind fun cfg₁ =>
    (step machine cfg₁ (.run .server .ok)).bind fun cfg₃ => runWhere machine givesNoConfig cfg₃ labels

/-- `P` holds of the states at the read, at the address and when the bits have been read there. -/
def decidedBy (labels : List WifiLabel) (P : WifiConfig → WifiConfig → WifiConfig → Bool)
    (read : WifiConfig) : Bool :=
  (runToAddress labels read).any fun gotIp =>
    (step machine gotIp (.run .server .ok)).any fun decided => P read gotIp decided

def readRun : Option WifiConfig :=
  runWhere machine (fun _ _ => true) (WifiConfig.started false homeConfig) readLabels

theorem readRun_reads : readRun.map (fun cfg => cfg.server.prog) = some (connectReads .user) := rfl

theorem decided_run {labels : List WifiLabel} {P : WifiConfig → WifiConfig → WifiConfig → Bool}
    (hgotIp : (readRun.bind (runToAddress labels)).map (fun cfg => cfg.server.prog) =
      some (wifiManagerTaskHandle (.eventStaGotIp 1)))
    (htest : readRun.any (decidedBy labels P) = true) :
    ∃ read gotIp decided, Reachable read ∧ Obtains .user 1 read gotIp ∧ Decided gotIp decided ∧
      P read gotIp decided = true := by
  obtain ⟨read, h₀, htest⟩ := (Option.any_eq_true _ _).mp htest
  obtain ⟨gotIp, hto, htest⟩ := (Option.any_eq_true _ _).mp htest
  obtain ⟨decided, hdecided, hP⟩ := (Option.any_eq_true _ _).mp htest
  have hreads := readRun_reads
  rw [h₀] at hreads
  simp only [h₀, Option.bind_some, hto, Option.map_some] at hgotIp
  obtain ⟨cfg₁, h₁, hto⟩ := Option.bind_eq_some_iff.mp hto
  obtain ⟨cfg₃, h₃, hto⟩ := Option.bind_eq_some_iff.mp hto
  have hgives := Path.of_runWhere givesNoConfig_of_test hto
  refine ⟨read, gotIp, decided, ⟨_, _, _, Path.of_runWhere (fun _ _ _ => trivial) h₀⟩, ?_,
    ⟨.ok, decided, [], .of_step hdecided, .nil⟩, hP⟩
  exact ⟨Option.some.inj hreads, ⟨.ok, cfg₁, [], cfg₁, .ok, cfg₃, labels, .of_step h₁, .nil,
    .of_step h₃, hgives⟩, Option.some.inj hgotIp⟩

/-- Nothing has changed the configuration, and no restored connection was ordered. -/
def configKept (read gotIp decided : WifiConfig) : Bool :=
  !gotIp.shared.eventBits .requestRestoreSta &&
    decide (decided.shared.config.wifiConfigSta = read.shared.config.wifiConfigSta)

theorem saves_verified_home : ∃ read gotIp decided, Obtains .user 1 read gotIp ∧
    Decided gotIp decided ∧ SavesVerified .user decided := by
  obtain ⟨read, gotIp, decided, hreach, hobtains, hdecided, hkept⟩ :=
    @decided_run obtainLabels configKept rfl (by decide +kernel)
  simp only [configKept, Bool.and_eq_true, Bool.not_eq_true', decide_eq_true_eq] at hkept
  refine ⟨read, gotIp, decided, hobtains, hdecided, ?_⟩
  exact (saves_verified_iff hreach hobtains hdecided).mpr ⟨fun _ => hkept.2, fun _ => hkept.1⟩

/-- The manager task is about to save other credentials than it has given to the driver. -/
def savesOther (_ _ decided : WifiConfig) : Bool :=
  decide (decided.server.prog.next = some wifimanConfigStaSave) &&
    decide (decided.shared.driver.staConfig ≠ some decided.shared.config.wifiConfigSta)

theorem saves_unverified : ¬ ∀ (connReq : ConnectionRequest) (ip : Ip4)
    (read gotIp decided : WifiConfig), Reachable read → Obtains connReq ip read gotIp →
      Decided gotIp decided → SavesVerified connReq decided := by
  intro hclaim
  obtain ⟨read, gotIp, decided, hreach, hobtains, hdecided, hother⟩ :=
    @decided_run repostLabels savesOther rfl (by decide +kernel)
  simp only [savesOther, Bool.and_eq_true, decide_eq_true_eq] at hother
  have hgiven := (hclaim .user 1 read gotIp decided hreach hobtains hdecided).given hother.1
  exact hother.2 hgiven

end WifiManager
end Esp32WifiManager
