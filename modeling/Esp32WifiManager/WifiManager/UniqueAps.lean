import Esp32WifiManager.WifiManager.AccessPointsList
import Mathlib.Data.Finset.Card

/-!
# What is left in the list of access points

The records that `ap_list_filter_unique` leaves, as one pass over the list: the
first record of every key, with the strongest signal of the records with its
key. The clearing loop and the compaction in place come to the same records.
-/

namespace Esp32WifiManager
namespace WifiManager

open CString

namespace WifiApRecord

theorem isBlank_iff {ap : WifiApRecord} : ap.isBlank = true ↔ ap.key.1 = [] := CharBuf.isEmpty_iff

/-- Records with one key are both blank or both not. -/
theorem isBlank_eq {a b : WifiApRecord} (h : a.key = b.key) : a.isBlank = b.isBlank := by
  rw [Bool.eq_iff_iff, isBlank_iff, isBlank_iff, h]

@[simp] theorem isBlank_zero : WifiApRecord.zero.isBlank = true := by decide

@[simp] theorem key_rssi (ap : WifiApRecord) (rssi : ℤ) :
    { ap with rssi := rssi }.key = ap.key := rfl

@[simp] theorem isBlank_rssi (ap : WifiApRecord) (rssi : ℤ) :
    { ap with rssi := rssi }.isBlank = ap.isBlank := rfl

end WifiApRecord

/-- The strongest signal of the records with this key. -/
def strongest (key : Bytes × Bool) (rssi : ℤ) (records : List WifiApRecord) : ℤ :=
  (records.filter fun x => x.key = key).foldl (fun m x => max m x.rssi) rssi

/-- The records with another key. -/
def others (key : Bytes × Bool) (records : List WifiApRecord) : List WifiApRecord :=
  records.filter fun x => x.key ≠ key

/-- The first record of every key that is not blank, with the strongest signal of its key. -/
def uniqueAps : List WifiApRecord → List WifiApRecord
  | [] => []
  | ap :: rest =>
    if ap.isBlank then uniqueAps rest
    else { ap with rssi := strongest ap.key ap.rssi rest } :: uniqueAps (others ap.key rest)
termination_by l => l.length
decreasing_by
  · simp
  · exact Nat.lt_succ_of_le (List.length_filter_le _ _)

section Strongest

variable {key : Bytes × Bool} {rssi : ℤ} {records : List WifiApRecord} {ap : WifiApRecord}

theorem strongest_cons : strongest key rssi (ap :: records) =
    strongest key (if ap.key = key then max rssi ap.rssi else rssi) records := by
  unfold strongest
  by_cases h : ap.key = key <;> simp [h]

theorem rssi_le_strongest : rssi ≤ strongest key rssi records := by
  induction records generalizing rssi with
  | nil => exact le_rfl
  | cons ap records ih =>
    rw [strongest_cons]
    split
    · exact (le_max_left _ _).trans ih
    · exact ih

theorem le_strongest (hap : ap ∈ records) (hkey : ap.key = key) :
    ap.rssi ≤ strongest key rssi records := by
  induction records generalizing rssi with
  | nil => exact absurd hap (by simp)
  | cons x records ih =>
    rw [strongest_cons]
    rcases List.mem_cons.mp hap with rfl | hap
    · rw [if_pos hkey]
      exact (le_max_right _ _).trans rssi_le_strongest
    · exact ih hap

theorem strongest_reached (key : Bytes × Bool) (rssi : ℤ) (records : List WifiApRecord) :
    strongest key rssi records = rssi ∨
    ∃ x ∈ records, x.key = key ∧ x.rssi = strongest key rssi records := by
  induction records generalizing rssi with
  | nil => exact .inl rfl
  | cons ap records ih =>
    rw [strongest_cons]
    split
    · rename_i hkey
      rcases ih (max rssi ap.rssi) with heq | ⟨x, hx, hxkey, hxrssi⟩
      · rcases le_total ap.rssi rssi with hle | hle
        · exact .inl (heq.trans (max_eq_left hle))
        · exact .inr ⟨ap, by simp, hkey, (heq.trans (max_eq_right hle)).symm⟩
      · exact .inr ⟨x, by simp [hx], hxkey, hxrssi⟩
    · rcases ih rssi with heq | ⟨x, hx, hxkey, hxrssi⟩
      · exact .inl heq
      · exact .inr ⟨x, by simp [hx], hxkey, hxrssi⟩

end Strongest

/-! ### The clearing loop -/

theorem apListClearIdenticalAp_same {src dst : WifiApRecord} (h : dst.key = src.key) :
    apListClearIdenticalAp src dst = ({ src with rssi := max src.rssi dst.rssi }, .zero) := by
  have hmax : (if src.rssi < dst.rssi then dst.rssi else src.rssi) = max src.rssi dst.rssi := by
    rcases lt_or_ge src.rssi dst.rssi with hlt | hge
    · rw [if_pos hlt, max_eq_right hlt.le]
    · rw [if_neg hge.not_gt, max_eq_left hge]
  rw [apListClearIdenticalAp, if_pos (Prod.mk.inj h.symm), hmax]

theorem apListClearIdenticalAp_other {src dst : WifiApRecord} (h : dst.key ≠ src.key) :
    apListClearIdenticalAp src dst = (src, dst) :=
  if_neg fun hsame => h (Prod.ext hsame.1 hsame.2).symm

/-- A source takes the strongest signal of its key, and the records with its key are cleared. -/
theorem apListClearIdenticalFrom_eq (src : WifiApRecord) (rest : List WifiApRecord) :
    apListClearIdenticalFrom src rest =
      ({ src with rssi := strongest src.key src.rssi rest },
        rest.map fun x => if x.key = src.key then .zero else x) := by
  induction rest generalizing src with
  | nil => rfl
  | cons dst rest ih =>
    rw [strongest_cons]
    by_cases hkey : dst.key = src.key
    · rw [apListClearIdenticalFrom, apListClearIdenticalAp_same hkey]
      simp only [ih, hkey, WifiApRecord.key_rssi, if_true, List.map_cons]
      rfl
    · rw [apListClearIdenticalFrom, apListClearIdenticalAp_other hkey]
      simp [hkey, ih]

theorem uniqueAps_filter (records : List WifiApRecord) :
    uniqueAps (records.filter fun x => !x.isBlank) = uniqueAps records := by
  induction records using uniqueAps.induct with
  | case1 => rfl
  | case2 ap rest hblank ih => simp [hblank, uniqueAps, ih]
  | case3 ap rest hblank ih =>
    have hblank' : ap.isBlank = false := by simpa using hblank
    have hstrongest : strongest ap.key ap.rssi (rest.filter fun x => !x.isBlank) =
        strongest ap.key ap.rssi rest := by
      unfold strongest
      rw [List.filter_filter]
      congr 1
      apply List.filter_congr
      intro x _
      by_cases hkey : x.key = ap.key
      · simp [hkey, WifiApRecord.isBlank_eq hkey, hblank']
      · simp [hkey]
    have hothers : others ap.key (rest.filter fun x => !x.isBlank) =
        (others ap.key rest).filter fun x => !x.isBlank := by
      simp only [others, List.filter_filter, Bool.and_comm]
    rw [List.filter_cons_of_pos (by simp [hblank']), uniqueAps, uniqueAps, if_neg hblank,
      if_neg hblank, hstrongest, hothers, ih]

/-- The records that are left uncleared. -/
theorem filter_apListClearIdenticalAps (records : List WifiApRecord) :
    (apListClearIdenticalAps records).filter (fun x => !x.isBlank) = uniqueAps records := by
  induction records using apListClearIdenticalAps.induct with
  | case1 => simp [apListClearIdenticalAps, uniqueAps]
  | case2 ap rest hblank ih => simp [apListClearIdenticalAps, uniqueAps, hblank, ih]
  | case3 ap rest hblank ih =>
    have hblank' : ap.isBlank = false := by simpa using hblank
    have hcleared : ((rest.map fun x => if x.key = ap.key then .zero else x).filter
        fun x => !x.isBlank) = (others ap.key rest).filter fun x => !x.isBlank := by
      clear ih
      induction rest with
      | nil => rfl
      | cons x rest ih =>
        by_cases hkey : x.key = ap.key
        · simpa [others, hkey] using ih
        · cases hx : x.isBlank <;> simpa [others, hkey, hx] using ih
    rw [apListClearIdenticalFrom_eq] at ih
    rw [apListClearIdenticalAps, uniqueAps, if_neg hblank, if_neg hblank,
      apListClearIdenticalFrom_eq, List.filter_cons_of_pos (by simp [hblank']), ih,
      ← uniqueAps_filter, hcleared, uniqueAps_filter]

/-! ### What the pass leaves -/

/-- The first key that is seen is kept where it stands, and later ones with it go. -/
theorem map_key_uniqueAps (records : List WifiApRecord) :
    (uniqueAps records).map (·.key) =
      ((records.filter fun x => !x.isBlank).map (·.key)).eraseDups := by
  induction records using uniqueAps.induct with
  | case1 => simp [uniqueAps]
  | case2 ap rest hblank ih =>
    rw [uniqueAps, if_pos hblank, ih, List.filter_cons_of_neg (by simp [hblank])]
  | case3 ap rest hblank ih =>
    have hblank' : ap.isBlank = false := by simpa using hblank
    rw [uniqueAps, if_neg hblank, List.map_cons, ih, List.filter_cons_of_pos (by simp [hblank']),
      List.map_cons, List.eraseDups_cons, List.filter_map, List.filter_filter, others,
      List.filter_filter]
    have hsame : (rest.filter fun x => !x.isBlank && decide (x.key ≠ ap.key)) =
        rest.filter fun x => !(x.key == ap.key) && !x.isBlank := by
      apply List.filter_congr
      intro x _
      by_cases hkey : x.key = ap.key <;> simp [hkey]
    simp only [WifiApRecord.key_rssi, Function.comp_def, hsame]

theorem nodup_map_key_uniqueAps (records : List WifiApRecord) :
    ((uniqueAps records).map (·.key)).Nodup := by
  induction records using uniqueAps.induct with
  | case1 => simp [uniqueAps]
  | case2 ap rest hblank ih => rwa [uniqueAps, if_pos hblank]
  | case3 ap rest hblank ih =>
    rw [uniqueAps, if_neg hblank, List.map_cons, List.nodup_cons]
    refine ⟨?_, ih⟩
    simp only [map_key_uniqueAps, List.mem_eraseDups, others, List.mem_map, List.mem_filter]
    rintro ⟨x, ⟨⟨-, hother⟩, -⟩, hkey⟩
    exact of_decide_eq_true hother hkey

theorem isBlank_uniqueAps {records : List WifiApRecord} {ap : WifiApRecord}
    (hap : ap ∈ uniqueAps records) : ap.isBlank = false := by
  rw [← filter_apListClearIdenticalAps, List.mem_filter] at hap
  simpa using hap.2

/-- This record is the first one of its key in the list, with the strongest signal of its key. -/
structure OfStrongest (records : List WifiApRecord) (ap : WifiApRecord) : Prop where
  first : ∃ first, records.find? (·.key = ap.key) = some first ∧
    ap = { first with rssi := ap.rssi }
  reached : ∃ x ∈ records, x.key = ap.key ∧ x.rssi = ap.rssi
  bound : ∀ x ∈ records, x.key = ap.key → x.rssi ≤ ap.rssi

/-- Only the records with its key matter. -/
theorem OfStrongest.of_filter {records records' : List WifiApRecord} {ap : WifiApRecord}
    (h : OfStrongest records ap)
    (hsame : records.filter (·.key = ap.key) = records'.filter (·.key = ap.key)) :
    OfStrongest records' ap := by
  have hmem : ∀ x, x.key = ap.key → (x ∈ records ↔ x ∈ records') := by
    intro x hx
    have := congrArg (x ∈ ·) hsame
    simpa [List.mem_filter, hx] using this
  constructor
  · obtain ⟨first, hfind, heq⟩ := h.first
    rw [← List.head?_filter] at hfind
    exact ⟨first, by rw [← List.head?_filter, ← hsame, hfind], heq⟩
  · obtain ⟨x, hx, hkey, hrssi⟩ := h.reached
    exact ⟨x, (hmem x hkey).mp hx, hkey, hrssi⟩
  · intro x hx hkey
    exact h.bound x ((hmem x hkey).mpr hx) hkey

theorem ofStrongest_head (ap : WifiApRecord) (rest : List WifiApRecord) :
    OfStrongest (ap :: rest) { ap with rssi := strongest ap.key ap.rssi rest } := by
  constructor
  · exact ⟨ap, by simp, rfl⟩
  · rcases strongest_reached ap.key ap.rssi rest with
      heq | ⟨x, hx, hkey, hrssi⟩
    · exact ⟨ap, by simp, rfl, heq.symm⟩
    · exact ⟨x, by simp [hx], hkey, hrssi⟩
  · intro x hx hkey
    rcases List.mem_cons.mp hx with rfl | hx
    · exact rssi_le_strongest
    · exact le_strongest hx hkey

theorem ofStrongest_uniqueAps {records : List WifiApRecord} {ap : WifiApRecord}
    (hap : ap ∈ uniqueAps records) : OfStrongest records ap := by
  induction records using uniqueAps.induct with
  | case1 => simp [uniqueAps] at hap
  | case2 x rest hblank ih =>
    rw [uniqueAps, if_pos hblank] at hap
    have hkey : x.key ≠ ap.key := by
      intro hkey
      rw [WifiApRecord.isBlank_eq hkey, isBlank_uniqueAps hap] at hblank
      exact absurd hblank (by simp)
    apply (ih hap).of_filter
    rw [List.filter_cons_of_neg (by simpa using hkey)]
  | case3 x rest hblank ih =>
    rw [uniqueAps, if_neg hblank] at hap
    rcases List.mem_cons.mp hap with rfl | hap
    · exact ofStrongest_head x rest
    · have hkey : x.key ≠ ap.key := by
        obtain ⟨y, hy, hykey, -⟩ := (ih hap).reached
        rw [← hykey]
        exact Ne.symm (by simpa using (List.mem_filter.mp hy).2)
      apply (ih hap).of_filter
      rw [List.filter_cons_of_neg (by simpa using hkey), others, List.filter_filter]
      apply List.filter_congr
      intro y _
      by_cases hy : y.key = ap.key
      · simp [hy, hkey.symm]
      · simp [hy]

/-! ### The compaction -/

/-- In front are the records that are kept, behind them the free slots, and then what is not
scanned yet. -/
structure Compacted (kept free rest : List WifiApRecord) (st : ApListReorder) : Prop where
  named : ∀ ap ∈ kept, ap.isBlank = false
  blank : ∀ ap ∈ free, ap.isBlank = true
  records : st.records = kept ++ free ++ rest
  firstFree : st.firstFree = if free = [] then none else some kept.length
  num : st.numUniqueAps = kept.length + rest.length

namespace Compacted

variable {kept free rest : List WifiApRecord} {st : ApListReorder} {ap : WifiApRecord}

theorem getElem? (h : Compacted kept free (ap :: rest) st) :
    st.records[kept.length + free.length]? = some ap := by
  rw [h.records, List.getElem?_append_right (by simp)]
  simp

/-- A blank record is one more free slot. -/
theorem step_blank (h : Compacted kept free (ap :: rest) st) (hblank : ap.isBlank = true) :
    Compacted kept (free ++ [ap]) rest (st.step (kept.length + free.length)) := by
  unfold ApListReorder.step
  simp only [h.getElem?, hblank, if_true]
  constructor
  · exact h.named
  · intro x hx
    rcases List.mem_append.mp hx with hx | hx
    · exact h.blank x hx
    · rw [List.mem_singleton.mp hx, hblank]
  · simp [h.records]
  · cases free <;> simp [h.firstFree]
  · simp [h.num]

/-- The first free slot is the first one behind the records that are kept. -/
theorem findFirstFreeSlot (rest : List WifiApRecord) (hkept : ∀ ap ∈ kept, ap.isBlank = false)
    (hblank : ap.isBlank = true) :
    apListFindFirstFreeSlot (kept ++ ap :: rest) = some kept.length := by
  have hnone : kept.findIdx? WifiApRecord.isBlank = none := by
    rw [List.findIdx?_eq_none_iff]
    exact hkept
  rw [apListFindFirstFreeSlot, List.findIdx?_append, hnone, List.findIdx?_cons, hblank]
  simp

/-- Any other record is moved to the first free slot, and its own slot is free then. -/
theorem step_kept (h : Compacted kept free (ap :: rest) st) (hblank : ap.isBlank = false) :
    ∃ free', free'.length = free.length ∧
      Compacted (kept ++ [ap]) free' rest (st.step (kept.length + free.length)) := by
  have hkept : ∀ x ∈ kept ++ [ap], x.isBlank = false := by
    intro x hx
    rcases List.mem_append.mp hx with hx | hx
    · exact h.named x hx
    · rw [List.mem_singleton.mp hx, hblank]
  have hnum : st.numUniqueAps = (kept ++ [ap]).length + rest.length := by
    rw [h.num, List.length_cons, List.length_append, List.length_singleton]
    omega
  unfold ApListReorder.step
  simp only [h.getElem?, hblank, Bool.false_eq_true, if_false]
  cases free with
  | nil =>
    rw [h.firstFree, if_pos rfl]
    refine ⟨[], rfl, hkept, by simp, ?_, ?_, hnum⟩
    · simp [h.records]
    · rw [h.firstFree, if_pos rfl, if_pos rfl]
  | cons slot free =>
    have hmoved : (st.records.set kept.length ap).set (kept.length + (slot :: free).length) .zero =
        kept ++ [ap] ++ (free ++ [.zero]) ++ rest := by
      rw [h.records]
      simp
    rw [h.firstFree, if_neg (by simp)]
    refine ⟨free ++ [.zero], by simp, hkept, ?_, hmoved, ?_, hnum⟩
    · intro x hx
      rcases List.mem_append.mp hx with hx | hx
      · exact h.blank x (by simp [hx])
      · rw [List.mem_singleton.mp hx, WifiApRecord.isBlank_zero]
    · simp only [hmoved]
      cases free with
      | nil => simpa using findFirstFreeSlot rest hkept WifiApRecord.isBlank_zero
      | cons next free =>
        have hnext : next.isBlank = true := h.blank next (by simp)
        simpa using findFirstFreeSlot (free ++ .zero :: rest) hkept hnext

/-- The rest of the loop. -/
theorem run (h : Compacted kept free rest st) : ∃ free',
    free'.length + (rest.filter fun x => !x.isBlank).length = free.length + rest.length ∧
      Compacted (kept ++ rest.filter fun x => !x.isBlank) free' []
        ((List.range' (kept.length + free.length) rest.length).foldl ApListReorder.step st) := by
  induction rest generalizing kept free st with
  | nil => exact ⟨free, rfl, by simpa using h⟩
  | cons ap rest ih =>
    rw [List.length_cons, List.range'_succ, List.foldl_cons]
    cases hblank : ap.isBlank with
    | true =>
      obtain ⟨free', hlength, hrun⟩ := ih (h.step_blank hblank)
      rw [List.filter_cons_of_neg (by simp [hblank])]
      refine ⟨free', ?_, ?_⟩
      · simp only [List.length_append, List.length_singleton] at hlength
        omega
      · simpa [Nat.add_assoc] using hrun
    | false =>
      obtain ⟨free₁, hlength₁, hstep⟩ := h.step_kept hblank
      obtain ⟨free', hlength, hrun⟩ := ih hstep
      rw [List.filter_cons_of_pos (by simp [hblank])]
      refine ⟨free', ?_, ?_⟩
      · simp only [List.length_cons]
        omega
      · have hnext : kept.length + free.length + 1 = (kept ++ [ap]).length + free₁.length := by
          rw [hlength₁, List.length_append, List.length_singleton]
          omega
        rw [hnext, List.append_cons]
        exact hrun

end Compacted

/-- The compaction keeps the order of the records with a name, and counts them. -/
theorem apListReorder_eq (records : List WifiApRecord) : ∃ free,
    (∀ ap ∈ free, ap.isBlank = true) ∧
      apListReorder records = ((records.filter fun x => !x.isBlank) ++ free,
        (records.filter fun x => !x.isBlank).length) ∧
      ((records.filter fun x => !x.isBlank) ++ free).length = records.length := by
  have hstart : Compacted [] [] records ⟨records, none, records.length⟩ :=
    ⟨by simp, by simp, rfl, rfl, by simp⟩
  obtain ⟨free, hlength, hrun⟩ := hstart.run
  refine ⟨free, hrun.blank, ?_, ?_⟩
  · have hrecords := hrun.records
    have hnum := hrun.num
    simp only [List.length_nil, Nat.add_zero, List.nil_append, List.append_nil] at hrecords hnum
    rw [apListReorder, List.range_eq_range', hrecords, hnum]
  · rw [List.length_append]
    simp only [List.length_nil] at hlength
    omega

theorem apListClearIdenticalAps_length (records : List WifiApRecord) :
    (apListClearIdenticalAps records).length = records.length := by
  induction records using apListClearIdenticalAps.induct with
  | case1 => simp [apListClearIdenticalAps]
  | case2 ap rest hblank ih => simp [apListClearIdenticalAps, hblank, ih]
  | case3 ap rest hblank ih =>
    rw [apListClearIdenticalAps, if_neg hblank, List.length_cons, ih,
      apListClearIdenticalFrom_length, List.length_cons]

/-- `ap_list_filter_unique` is the one pass, with blank records behind what it leaves. -/
theorem apListFilterUnique_eq (records : List WifiApRecord) : ∃ free,
    (∀ ap ∈ free, ap.isBlank = true) ∧
      apListFilterUnique records = (uniqueAps records ++ free, (uniqueAps records).length) ∧
      (uniqueAps records ++ free).length = records.length := by
  have h := apListReorder_eq (apListClearIdenticalAps records)
  rwa [filter_apListClearIdenticalAps, apListClearIdenticalAps_length] at h

/-! ### The order of the list -/

section Qsort

variable {α : Type*}

/-- A comparator that may be given to `qsort` for these elements. -/
structure Consistent (cmp : α → α → ℤ) (l : List α) : Prop where
  opposite : ∀ a ∈ l, ∀ b ∈ l, cmp a b ≤ 0 ↔ 0 ≤ cmp b a
  trans : ∀ a ∈ l, ∀ b ∈ l, ∀ c ∈ l, cmp a b ≤ 0 → cmp b c ≤ 0 → cmp a c ≤ 0

/-- What the library promises of `qsort`. -/
def SortsConsistent (qsort : (α → α → ℤ) → List α → List α) : Prop :=
  ∀ cmp l, Consistent cmp l → (qsort cmp l).Perm l ∧ (qsort cmp l).Pairwise (cmp · · ≤ 0)

/-- The merge sort is such a function. -/
theorem sortsConsistent_mergeSort :
    SortsConsistent fun (cmp : α → α → ℤ) l => l.mergeSort fun a b => cmp a b ≤ 0 := by
  intro cmp l h
  refine ⟨List.mergeSort_perm _ _, ?_⟩
  -- The comparator is only known to be an order on the elements of the list.
  let le : {a // a ∈ l} → {a // a ∈ l} → Bool := fun a b => cmp a.1 b.1 ≤ 0
  have hattach : l.mergeSort (fun a b => cmp a b ≤ 0) = (l.attach.mergeSort le).map (·.1) := by
    rw [List.map_mergeSort (s := fun a b => decide (cmp a b ≤ 0)), List.attach_map_subtype_val]
    intro a _ b _
    rfl
  have hsorted : (l.attach.mergeSort le).Pairwise fun a b => le a b = true := by
    apply List.pairwise_mergeSort
    · intro a b c hab hbc
      exact decide_eq_true (h.trans a.1 a.2 b.1 b.2 c.1 c.2 (of_decide_eq_true hab)
        (of_decide_eq_true hbc))
    · intro a b
      rcases le_total (cmp a.1 b.1) 0 with hle | hge
      · simp [le, hle]
      · simp [le, (h.opposite b.1 b.2 a.1 a.2).mpr hge]
  change (l.mergeSort fun a b => cmp a b ≤ 0).Pairwise (cmp · · ≤ 0)
  rw [hattach, List.pairwise_map]
  exact hsorted.imp of_decide_eq_true

end Qsort

/-- `ap_list_sort_by_rssi` with the `qsort` of the library. -/
def apListSortByRssiWith
    (qsort : (WifiApRecord → WifiApRecord → ℤ) → List WifiApRecord → List WifiApRecord)
    (records : List WifiApRecord) (num : ℕ) : List WifiApRecord :=
  if num = 0 then records
  else qsort apListCompareByRssi (records.take num) ++ records.drop num

theorem apListSortByRssi_eq (records : List WifiApRecord) (num : ℕ) :
    apListSortByRssi records num =
      apListSortByRssiWith (fun cmp l => l.mergeSort fun a b => cmp a b ≤ 0) records num := by
  unfold apListSortByRssi apListSortByRssiWith
  split
  · rename_i hnum
    simp [hnum]
  · rfl

theorem consistent_compareByRssi {records : List WifiApRecord}
    (h : ∀ ap ∈ records, ap.isBlank = false) : Consistent apListCompareByRssi records := by
  have hcompare : ∀ a, ∀ b ∈ records, apListCompareByRssi a b = b.rssi - a.rssi := by
    intro a b hb
    rw [apListCompareByRssi, h b hb]
    rfl
  constructor
  · intro a ha b hb
    rw [hcompare a b hb, hcompare b a ha]
    omega
  · intro a _ b hb c hc hab hbc
    rw [hcompare a b hb] at hab
    rw [hcompare b c hc] at hbc
    rw [hcompare a c hc]
    omega

theorem apListSortByRssiWith_spec {qsort} (hqsort : SortsConsistent qsort)
    {named rest : List WifiApRecord} (h : ∀ ap ∈ named, ap.isBlank = false) : ∃ sorted,
    apListSortByRssiWith qsort (named ++ rest) named.length = sorted ++ rest ∧
      sorted.Perm named ∧ sorted.Pairwise fun a b => b.rssi ≤ a.rssi := by
  cases named with
  | nil => exact ⟨[], by simp [apListSortByRssiWith], .nil, .nil⟩
  | cons ap named =>
    obtain ⟨hperm, hsorted⟩ := hqsort _ _ (consistent_compareByRssi h)
    refine ⟨_, ?_, hperm, ?_⟩
    · rw [apListSortByRssiWith, if_neg (by simp), List.take_left, List.drop_left]
    · apply List.Pairwise.imp_of_mem _ hsorted
      intro a b _ hb hle
      rw [apListCompareByRssi, h b (hperm.mem_iff.mp hb)] at hle
      have hsub : b.rssi - a.rssi ≤ 0 := hle
      omega

/-- What is left of a list of access points, and how it is sorted. -/
theorem ap_list_unique_and_sorted
    {qsort : (WifiApRecord → WifiApRecord → ℤ) → List WifiApRecord → List WifiApRecord}
    (hqsort : SortsConsistent qsort) (records : List WifiApRecord) :
    let left := (apListFilterUnique records).1
    let num := (apListFilterUnique records).2
    let keys := (records.filter fun x => !x.isBlank).map (·.key)
    left.length = records.length ∧ num = keys.toFinset.card ∧
    ((left.take num).map (·.key)).Nodup ∧ (left.take num).map (·.key) = keys.eraseDups ∧
    (∀ ap ∈ left.take num, OfStrongest records ap) ∧
    (∀ ap ∈ left.drop num, ap.ssid.str = []) ∧
    ∃ sorted, apListSortByRssiWith qsort left num = sorted ++ left.drop num ∧
      sorted.Perm (left.take num) ∧ sorted.Pairwise fun a b => b.rssi ≤ a.rssi := by
  obtain ⟨free, hfree, heq, hlength⟩ := apListFilterUnique_eq records
  have hkeys := map_key_uniqueAps records
  have hnodup := nodup_map_key_uniqueAps records
  simp only [heq, List.take_left, List.drop_left]
  refine ⟨hlength, ?_, hnodup, hkeys, fun ap => ofStrongest_uniqueAps, ?_, ?_⟩
  · rw [← List.length_map, ← List.toFinset_card_of_nodup hnodup, hkeys]
    congr 1
    ext key
    rw [List.mem_toFinset, List.mem_toFinset, List.mem_eraseDups]
  · intro ap hap
    exact CharBuf.isEmpty_iff.mp (hfree ap hap)
  · exact apListSortByRssiWith_spec hqsort fun ap => isBlank_uniqueAps

theorem ap_list_unique_and_sorted_merged :
    let qsort := fun (cmp : WifiApRecord → WifiApRecord → ℤ) l =>
      l.mergeSort fun a b => cmp a b ≤ 0
    let home : WifiApRecord := { WifiApRecord.zero with ssid := (CharBuf.zero 33).set 0 104 }
    let records := [{ home with rssi := -70 }, .zero, { home with rssi := -50 }]
    let left := (apListFilterUnique records).1
    let num := (apListFilterUnique records).2
    let keys := (records.filter fun x => !x.isBlank).map (·.key)
    left.length = records.length ∧ num = keys.toFinset.card ∧
    ((left.take num).map (·.key)).Nodup ∧ (left.take num).map (·.key) = keys.eraseDups ∧
    (∀ ap ∈ left.take num, OfStrongest records ap) ∧
    (∀ ap ∈ left.drop num, ap.ssid.str = []) ∧
    ∃ sorted, apListSortByRssiWith qsort left num = sorted ++ left.drop num ∧
      sorted.Perm (left.take num) ∧ sorted.Pairwise fun a b => b.rssi ≤ a.rssi :=
  ap_list_unique_and_sorted sortsConsistent_mergeSort _

end WifiManager
end Esp32WifiManager
