import Esp32WifiManager.WifiManager.Calls
import Mathlib.Data.List.Sort

/-!
# The list of access points

`ap_list_filter_unique` works in place: it clears the later of two records with
one key, moves what is left to the front and counts it. `qsort` is the stable
merge sort here; the order of records with equal `rssi` is not used.
-/

namespace Esp32WifiManager
namespace WifiManager

open CString TaskSystem

namespace WifiApRecord

/-- `'\0' == ssid[0]` -/
def isBlank (ap : WifiApRecord) : Bool := CharBuf.isEmpty ap.ssid

/-- What two records have in common when they are one access point to the list: the name, and
whether a password is needed. -/
def key (ap : WifiApRecord) : Bytes × Bool := (ap.ssid.str, !(ap.authmode == 0))

end WifiApRecord

/-- `ap_list_clear_identical_ap`: the source and the destination after the call. -/
def apListClearIdenticalAp (src dst : WifiApRecord) : WifiApRecord × WifiApRecord :=
  if src.ssid.str = dst.ssid.str ∧ (!(src.authmode == 0)) = (!(dst.authmode == 0)) then
    ({ src with rssi := if src.rssi < dst.rssi then dst.rssi else src.rssi }, .zero)
  else (src, dst)

/-- The inner loop of `ap_list_clear_identical_aps`: one source against the records behind it. -/
def apListClearIdenticalFrom : WifiApRecord → List WifiApRecord →
    WifiApRecord × List WifiApRecord
  | src, [] => (src, [])
  | src, dst :: rest =>
    let (src, dst) := apListClearIdenticalAp src dst
    let (src, rest) := apListClearIdenticalFrom src rest
    (src, dst :: rest)

theorem apListClearIdenticalFrom_length (src : WifiApRecord) (rest : List WifiApRecord) :
    (apListClearIdenticalFrom src rest).2.length = rest.length := by
  induction rest generalizing src with
  | nil => rfl
  | cons dst rest ih => simp [apListClearIdenticalFrom, ih]

/-- The outer loop; a blank record is skipped. -/
def apListClearIdenticalAps : List WifiApRecord → List WifiApRecord
  | [] => []
  | ap :: rest =>
    if ap.isBlank then ap :: apListClearIdenticalAps rest
    else
      (apListClearIdenticalFrom ap rest).1 ::
        apListClearIdenticalAps (apListClearIdenticalFrom ap rest).2
termination_by l => l.length
decreasing_by
  · simp
  · simp [apListClearIdenticalFrom_length]

/-- `ap_list_find_first_free_slot` -/
def apListFindFirstFreeSlot (records : List WifiApRecord) : Option ℕ :=
  records.findIdx? WifiApRecord.isBlank

/-- The state of the loop in `ap_list_reorder`. -/
structure ApListReorder where
  records : List WifiApRecord
  firstFree : Option ℕ
  numUniqueAps : ℕ

def ApListReorder.step (st : ApListReorder) (i : ℕ) : ApListReorder :=
  match st.records[i]? with
  | none => st
  | some ap =>
    if ap.isBlank then
      { st with firstFree := st.firstFree.or (some i), numUniqueAps := st.numUniqueAps - 1 }
    else
      match st.firstFree with
      | none => st
      | some j =>
        let records := (st.records.set j ap).set i .zero
        { st with records := records, firstFree := apListFindFirstFreeSlot records }

def apListReorder (records : List WifiApRecord) : List WifiApRecord × ℕ :=
  let st := (List.range records.length).foldl ApListReorder.step ⟨records, none, records.length⟩
  (st.records, st.numUniqueAps)

def apListFilterUnique (records : List WifiApRecord) : List WifiApRecord × ℕ :=
  apListReorder (apListClearIdenticalAps records)

/-- `ap_list_compare_by_rssi`, negative when the first stays before the second. -/
def apListCompareByRssi (item1 item2 : WifiApRecord) : ℤ :=
  if item2.isBlank then -32768 else item2.rssi - item1.rssi

def apListSortByRssi (records : List WifiApRecord) (num : ℕ) : List WifiApRecord :=
  (records.take num).mergeSort (fun a b => apListCompareByRssi a b ≤ 0) ++ records.drop num

/-- The records that `json_access_points_generate` prints. -/
def jsonAccessPointsGenerate (records : List WifiApRecord) (num : ℕ) : List WifiApRecord :=
  records.take (if num ≤ maxApNum then num else maxApNum)

end WifiManager
end Esp32WifiManager
