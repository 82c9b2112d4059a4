import Mathlib.Data.List.TakeDrop
import RemoteControl.Net.Wifi

/-!
# Credentials over a reboot (`wifi_api.c`)

`wifi_set_credentials` stores a pair in the NVS and gives it to the driver; after a reboot
`wifi_start` reads it back. The driver's fields hold 32 and 64 bytes, which is what the parsers of
the pair admit. But one path copies a byte less into them, and the other one wants room for a NUL.
-/

namespace RemoteControl

open CString

/-- `sizeof(sta_cfg.sta.ssid)`. -/
def staSsidSz : Nat := 32

/-- `sizeof(sta_cfg.sta.password)`. -/
def staPasswordSz : Nat := 64

/-- `nvs_get_str` into a buffer of `size` bytes; `none` for an error. The string needs room for its
NUL. -/
def nvsGetStr (size : Nat) (stored : Option Bytes) : Option Bytes :=
  stored.filter (·.length < size)

/-- The `sta_cfg` of `wifi_start`; `opened` says that `nvs_open` succeeds, and `none` is the null
pointer. -/
def wifiStartCfg (ssid pwd : Option Bytes) (opened : Bool) (nvsSsid nvsPwd : Option Bytes) :
    StaCfg :=
  let (ssid, pwd) :=
    if ssid.getD [] ≠ [] then
      ((ssid.getD []).take (staSsidSz - 1), (pwd.getD []).take (staPasswordSz - 1))
    else if opened then
      match nvsGetStr staSsidSz nvsSsid with
      | none => ([], [])
      | some ssid => (ssid, (nvsGetStr staPasswordSz nvsPwd).getD [])
    else ([], [])
  ⟨ssid, pwd, pwd = []⟩

/-- The device after a restart: `wifi_start(NULL, NULL)` with what the NVS holds. -/
def Control.restart (opened : Bool) (c : Control) : Control :=
  .boot (wifiStartCfg none none opened c.wifi.nvsSsid c.wifi.nvsPwd) c.wifi.nvsSsid c.wifi.nvsPwd
    c.sys.postRb

/-- Every NVS call of `wifi_set_credentials` succeeds. -/
def Answers.storesCreds (a : Answers) : Bool :=
  a.credOpen && a.credSsid && a.credPwd && a.credCommit

/-- The configuration that carries exactly this pair. -/
def exactCfg (ssid pwd : Bytes) : StaCfg := ⟨ssid, pwd, pwd = []⟩

/-- The pair reaches the driver as it is, and does so again after a restart. -/
def CredentialsSurvive (a : Answers) (ssid pwd : Bytes) (c : Control) : Prop :=
  (c.wifiSetCredentials a ssid pwd).wifi.cfg = exactCfg ssid pwd ∧
    ((c.wifiSetCredentials a ssid pwd).restart true).wifi.cfg = exactCfg ssid pwd

/-! ## What the two paths keep -/

/-- The live path keeps pairs of at most 31 and 63 bytes. -/
theorem staCfgOf_eq_iff (ssid pwd : Bytes) :
    staCfgOf ssid pwd = exactCfg ssid pwd ↔
      ssid.length ≤ staSsidSz - 1 ∧ pwd.length ≤ staPasswordSz - 1 := by
  rw [staCfgOf, exactCfg, StaCfg.mk.injEq, List.take_eq_self_iff, List.take_eq_self_iff]
  simp [staSsidSz, staPasswordSz]

/-- The restart keeps such pairs. -/
theorem wifiStartCfg_of_fits {ssid pwd : Bytes} (hssid : ssid.length < staSsidSz)
    (hpwd : pwd.length < staPasswordSz) :
    wifiStartCfg none none true (some ssid) (some pwd) = exactCfg ssid pwd := by
  simp [wifiStartCfg, nvsGetStr, exactCfg, Option.filter, hssid, hpwd]

/-- What a call that fails nowhere leaves. -/
theorem Control.wifiSetCredentials_stored {a : Answers} (h : a.storesCreds = true)
    (ssid pwd : Bytes) (c : Control) :
    (c.wifiSetCredentials a ssid pwd).wifi.cfg = staCfgOf ssid pwd ∧
      (c.wifiSetCredentials a ssid pwd).wifi.nvsSsid = some ssid ∧
      (c.wifiSetCredentials a ssid pwd).wifi.nvsPwd = some pwd := by
  simp only [Answers.storesCreds, Bool.and_eq_true] at h
  obtain ⟨⟨⟨hopen, hssid⟩, hpwd⟩, hcommit⟩ := h
  simp [Control.wifiSetCredentials, hopen, hssid, hpwd, hcommit, wifiBackoffSchedule,
    wifiBackoffReset, wifiBackoffStopTimer]

/-- A pair of credentials survives exactly if the SSID has at most 31 bytes and the password at most
63. -/
theorem credentials_survive_iff {a : Answers} (h : a.storesCreds = true) (ssid pwd : Bytes)
    (c : Control) :
    CredentialsSurvive a ssid pwd c ↔ ssid.length ≤ 31 ∧ pwd.length ≤ 63 := by
  obtain ⟨hcfg, hssid, hpwd⟩ := c.wifiSetCredentials_stored h ssid pwd
  rw [CredentialsSurvive, hcfg, staCfgOf_eq_iff]
  constructor
  · exact fun hs => hs.1
  · intro hlen
    refine ⟨hlen, ?_⟩
    show wifiStartCfg none none true _ _ = _
    rw [hssid, hpwd]
    exact wifiStartCfg_of_fits (Nat.lt_of_le_of_lt hlen.1 (by decide))
      (Nat.lt_of_le_of_lt hlen.2 (by decide))

/-- The device at boot without credentials. -/
def blankControl : Control := .boot (wifiStartCfg none none true none none) none none none

theorem credentials_survive_longest :
    CredentialsSurvive .factory (List.replicate 31 65) (List.replicate 63 66) blankControl :=
  (credentials_survive_iff (by decide) _ _ _).mpr ⟨by decide, by decide⟩

/-- An SSID of 32 bytes loses its last one on the way to the driver, and after a restart there are
no credentials at all. -/
theorem credentials_not_survive :
    (blankControl.wifiSetCredentials .factory (List.replicate 32 65) (lit "password")).wifi.cfg =
        ⟨List.replicate 31 65, lit "password", false⟩ ∧
      ((blankControl.wifiSetCredentials .factory (List.replicate 32 65)
        (lit "password")).restart true).wifi.cfg = ⟨[], [], true⟩ ∧
      ¬ CredentialsSurvive .factory (List.replicate 32 65) (lit "password") blankControl := by
  refine ⟨by decide, by decide, ?_⟩
  rintro ⟨hlive, -⟩
  revert hlive
  decide

end RemoteControl
