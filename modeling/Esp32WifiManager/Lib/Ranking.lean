import Mathlib.Data.Finset.Card
import Mathlib.Data.List.Nodup
import Mathlib.Tactic.Common

/-!
# The strongest entries of what has been seen

Entries come in portions. A list holds one entry for each key, the strongest
first, and with each portion only its first `n` entries are sure to stay. They
are the strongest of all that has been seen: what has been lost is covered.
-/

namespace Ranking

variable {ρ K V : Type} [LinearOrder V]

section Definitions

variable (key : ρ → K) (val : ρ → V) (n : ℕ)

/-- The `n` strongest keys of what has been seen, or all if there are fewer, each once with its
greatest value, the strongest first. -/
structure TopOf [DecidableEq K] (seen top : List ρ) : Prop where
  nodup : (top.map key).Nodup
  sorted : top.Pairwise fun a b => val b ≤ val a
  reached : ∀ a ∈ top, ∃ x ∈ seen, key x = key a ∧ val x = val a
  strongest : ∀ a ∈ top, ∀ x ∈ seen, key x = key a → val x ≤ val a
  unlisted : ∀ x ∈ seen, key x ∉ top.map key → ∀ a ∈ top, val x ≤ val a
  length : top.length = min n (seen.map key).toFinset.card

/-- An entry that has been seen is listed among the first `n`, or `n` others are as strong. -/
def Covered (kept : List ρ) (x : ρ) : Prop :=
  (∃ a ∈ kept.take n, key a = key x ∧ val x ≤ val a) ∨
    n ≤ kept.length ∧ ∀ a ∈ kept.take n, val x ≤ val a

structure Ranked (seen kept : List ρ) : Prop where
  nodup : (kept.map key).Nodup
  sorted : kept.Pairwise fun a b => val b ≤ val a
  sound : ∀ a ∈ kept, ∃ x ∈ seen, key x = key a ∧ val a ≤ val x
  covered : ∀ x ∈ seen, Covered key val n kept x

/-- One entry for each key of the pool, with its greatest value. -/
structure MergeOf (pool merged : List ρ) : Prop where
  nodup : (merged.map key).Nodup
  reached : ∀ a ∈ merged, ∃ x ∈ pool, key x = key a ∧ val x = val a
  merged : ∀ x ∈ pool, ∃ a ∈ merged, key a = key x ∧ val x ≤ val a

/-- The keys of the entries that are stronger than `v`. -/
def strongerKeys [DecidableEq K] (seen : List ρ) (v : V) : Finset K :=
  ((seen.filter fun x => v < val x).map key).toFinset

/-- Each earlier entry has come again as strong as before, or `n` keys are stronger. -/
def Outdone [DecidableEq K] (earlier latest : List ρ) : Prop :=
  ∀ e ∈ earlier, (∃ x ∈ latest, key x = key e ∧ val e ≤ val x) ∨
    n ≤ (strongerKeys key val (earlier ++ latest) (val e)).card

end Definitions

variable {key : ρ → K} {val : ρ → V} {n : ℕ} {seen kept merged top : List ρ}

/-- Entries with one key are one. -/
theorem eq_of_key (h : (kept.map key).Nodup) {a b : ρ} (ha : a ∈ kept) (hb : b ∈ kept)
    (hkey : key a = key b) : a = b := List.inj_on_of_nodup_map h ha hb hkey

theorem ranked_nil : Ranked key val n [] [] where
  nodup := .nil
  sorted := .nil
  sound a ha := absurd ha (by simp)
  covered x hx := absurd hx (by simp)

/-- The first entries are the strongest of all that has been seen. -/
theorem Ranked.topOf [DecidableEq K] (h : Ranked key val n seen kept) : TopOf key val n seen (kept.take n) := by
  have hmem {a : ρ} (ha : a ∈ kept.take n) : a ∈ kept := List.mem_of_mem_take ha
  have hnodup : ((kept.take n).map key).Nodup := h.nodup.sublist ((List.take_sublist n kept).map key)
  have hstrongest : ∀ a ∈ kept.take n, ∀ x ∈ seen, key x = key a → val x ≤ val a := by
    intro a ha x hx hkey
    rcases h.covered x hx with ⟨b, hb, hbkey, hle⟩ | ⟨-, hall⟩
    · obtain rfl := eq_of_key hnodup hb ha (hbkey.trans hkey)
      exact hle
    · exact hall a ha
  refine ⟨hnodup, h.sorted.sublist (List.take_sublist n kept), ?_, hstrongest, ?_, ?_⟩
  · intro a ha
    obtain ⟨x, hx, hkey, hle⟩ := h.sound a (hmem ha)
    exact ⟨x, hx, hkey, le_antisymm (hstrongest a ha x hx hkey) hle⟩
  · intro x hx hnot a ha
    rcases h.covered x hx with ⟨b, hb, hbkey, -⟩ | ⟨-, hall⟩
    · exact absurd (hbkey ▸ List.mem_map_of_mem hb) hnot
    · exact hall a ha
  · have hsub : ((kept.take n).map key).toFinset ⊆ (seen.map key).toFinset := by
      intro k hk
      obtain ⟨a, ha, rfl⟩ := List.mem_map.mp (List.mem_toFinset.mp hk)
      obtain ⟨x, hx, hkey, -⟩ := h.sound a (hmem ha)
      exact List.mem_toFinset.mpr (hkey ▸ List.mem_map_of_mem hx)
    have hcard : ((kept.take n).map key).toFinset.card = (kept.take n).length := by
      rw [List.toFinset_card_of_nodup hnodup, List.length_map]
    have hle := Finset.card_le_card hsub
    rw [hcard, List.length_take] at hle
    rw [List.length_take]
    by_cases hfull : n ≤ kept.length
    · omega
    · have hsup : (seen.map key).toFinset ⊆ ((kept.take n).map key).toFinset := by
        intro k hk
        obtain ⟨x, hx, rfl⟩ := List.mem_map.mp (List.mem_toFinset.mp hk)
        rcases h.covered x hx with ⟨a, ha, hkey, -⟩ | ⟨hlong, -⟩
        · exact List.mem_toFinset.mpr (hkey ▸ List.mem_map_of_mem ha)
        · exact absurd hlong hfull
      have hge := Finset.card_le_card hsup
      rw [hcard, List.length_take] at hge
      omega

/-- When `n` keys are at least as strong as `v`, so are the first `n` entries of a merge that is
sorted. -/
theorem first_strong {v : V} {witnesses : List ρ} (hnodup : (witnesses.map key).Nodup)
    (hlength : n ≤ witnesses.length) (hsorted : merged.Pairwise fun a b => val b ≤ val a)
    (h : ∀ w ∈ witnesses, ∃ a ∈ merged, key a = key w ∧ v ≤ val a) :
    n ≤ merged.length ∧ ∀ a ∈ merged.take n, v ≤ val a := by
  have hcount : n ≤ (merged.filter fun a => decide (v ≤ val a)).length := by
    have hsub : witnesses.map key ⊆ (merged.filter fun a => decide (v ≤ val a)).map key := by
      intro k hk
      obtain ⟨w, hw, rfl⟩ := List.mem_map.mp hk
      obtain ⟨a, ha, hkey, hle⟩ := h w hw
      rw [← hkey]
      exact List.mem_map_of_mem (List.mem_filter.mpr ⟨ha, decide_eq_true hle⟩)
    have hle := (hnodup.subperm hsub).length_le
    rw [List.length_map, List.length_map] at hle
    exact hlength.trans hle
  refine ⟨hcount.trans (List.length_filter_le _ _), fun a ha => ?_⟩
  by_contra hweak
  obtain ⟨i, hi, rfl⟩ := List.mem_take_iff_getElem.mp ha
  have hrest : (merged.drop i).filter (fun a => decide (v ≤ val a)) = [] := by
    apply List.filter_eq_nil_iff.mpr
    intro b hb hstrong
    obtain ⟨j, hj, rfl⟩ := List.mem_drop_iff_getElem.mp hb
    have hi' : i < merged.length := by omega
    have hle : val merged[i + j] ≤ val merged[i] := by
      rcases Nat.eq_zero_or_pos j with rfl | hpos
      · exact le_rfl
      · exact List.pairwise_iff_getElem.mp hsorted i (i + j) (by omega) (by omega) (by omega)
    exact hweak ((of_decide_eq_true hstrong).trans hle)
  rw [← List.take_append_drop i merged, List.filter_append, hrest, List.append_nil] at hcount
  have hshort := hcount.trans ((List.length_filter_le _ _).trans (List.length_take_le i merged))
  omega

/-- The next portion joins the first `n` entries and some of the others, and the pool is merged and
sorted. -/
theorem Ranked.portion {portion pool : List ρ} (h : Ranked key val n seen kept)
    (hpool : ∀ x ∈ pool, x ∈ kept ∨ x ∈ portion) (hkept : ∀ x ∈ kept.take n, x ∈ pool)
    (hportion : ∀ x ∈ portion, x ∈ pool) (hmerge : MergeOf key val pool merged)
    (hsorted : merged.Pairwise fun a b => val b ≤ val a) :
    Ranked key val n (seen ++ portion) merged where
  nodup := hmerge.nodup
  sorted := hsorted
  sound := by
    intro a ha
    obtain ⟨x, hx, hkey, hval⟩ := hmerge.reached a ha
    rcases hpool x hx with hx | hx
    · obtain ⟨y, hy, hykey, hle⟩ := h.sound x hx
      exact ⟨y, List.mem_append_left _ hy, hykey.trans hkey, hval ▸ hle⟩
    · exact ⟨x, List.mem_append_right _ hx, hkey, hval.ge⟩
  covered := by
    -- an entry of the merge stands among the first `n`, or behind `n` that are as strong
    have hlisted {x : ρ} (hx : ∃ a ∈ merged, key a = key x ∧ val x ≤ val a) :
        Covered key val n merged x := by
      obtain ⟨a, ha, hkey, hle⟩ := hx
      rw [← List.take_append_drop n merged, List.mem_append] at ha
      rcases ha with ha | ha
      · exact .inl ⟨a, ha, hkey, hle⟩
      · have hlong : n ≤ merged.length := by
          by_contra hshort
          rw [List.drop_eq_nil_of_le (by omega)] at ha
          exact absurd ha (by simp)
        refine .inr ⟨hlong, fun b hb => hle.trans ?_⟩
        rw [← List.take_append_drop n merged] at hsorted
        exact (List.pairwise_append.mp hsorted).2.2 b hb a ha
    intro x hx
    rcases List.mem_append.mp hx with hx | hx
    · rcases h.covered x hx with ⟨a, ha, hkey, hle⟩ | ⟨hlong, hall⟩
      · obtain ⟨b, hb, hbkey, hble⟩ := hmerge.merged a (hkept a ha)
        exact hlisted ⟨b, hb, hbkey.trans hkey, hle.trans hble⟩
      · refine .inr (first_strong (h.nodup.sublist ((List.take_sublist n kept).map key))
          (by rw [List.length_take]; omega) hsorted fun w hw => ?_)
        obtain ⟨b, hb, hbkey, hble⟩ := hmerge.merged w (hkept w hw)
        exact ⟨b, hb, hbkey, (hall w hw).trans hble⟩
    · exact hlisted (hmerge.merged x (hportion x hx))

section Latest

variable [DecidableEq K] {earlier latest : List ρ}

theorem mem_strongerKeys {v : V} {k : K} :
    k ∈ strongerKeys key val seen v ↔ ∃ x ∈ seen, v < val x ∧ key x = k := by
  simp [strongerKeys, and_assoc]

/-- When the earlier entries are outdone, the strongest of all are the strongest of the latest. -/
theorem TopOf.of_outdone (h : TopOf key val n (earlier ++ latest) top)
    (hout : Outdone key val n earlier latest) : TopOf key val n latest top := by
  have hreached : ∀ a ∈ top, ∃ x ∈ latest, key x = key a ∧ val x = val a := by
    intro a ha
    obtain ⟨x, hx, hkey, hval⟩ := h.reached a ha
    rcases List.mem_append.mp hx with hearlier | hlatest
    · rcases hout x hearlier with ⟨y, hy, hykey, hle⟩ | hmany
      · refine ⟨y, hy, hykey.trans hkey, le_antisymm ?_ (hval ▸ hle)⟩
        exact h.strongest a ha y (List.mem_append_right _ hy) (hykey.trans hkey)
      · -- the stronger keys are all listed, and so is the key of `a`
        have hsub : insert (key a) (strongerKeys key val (earlier ++ latest) (val x)) ⊆
            (top.map key).toFinset := by
          intro k hk
          rw [List.mem_toFinset]
          rcases Finset.mem_insert.mp hk with rfl | hk
          · exact List.mem_map_of_mem ha
          · obtain ⟨y, hy, hlt, rfl⟩ := mem_strongerKeys.mp hk
            by_contra hnot
            exact absurd (h.unlisted y hy hnot a ha) (not_le.mpr (hval ▸ hlt))
        have hnew : key a ∉ strongerKeys key val (earlier ++ latest) (val x) := by
          intro hk
          obtain ⟨y, hy, hlt, hykey⟩ := mem_strongerKeys.mp hk
          exact absurd (h.strongest a ha y hy hykey) (not_le.mpr (hval ▸ hlt))
        have hcard := Finset.card_le_card hsub
        rw [Finset.card_insert_of_notMem hnew, List.toFinset_card_of_nodup h.nodup,
          List.length_map, h.length] at hcard
        omega
    · exact ⟨x, hlatest, hkey, hval⟩
  refine ⟨h.nodup, h.sorted, hreached, ?_, ?_, ?_⟩
  · exact fun a ha x hx => h.strongest a ha x (List.mem_append_right _ hx)
  · exact fun x hx => h.unlisted x (List.mem_append_right _ hx)
  · have hlisted : (top.map key).toFinset ⊆ (latest.map key).toFinset := by
      intro k hk
      obtain ⟨a, ha, rfl⟩ := List.mem_map.mp (List.mem_toFinset.mp hk)
      obtain ⟨x, hx, hkey, -⟩ := hreached a ha
      exact List.mem_toFinset.mpr (hkey ▸ List.mem_map_of_mem hx)
    have hall : (latest.map key).toFinset ⊆ ((earlier ++ latest).map key).toFinset := by
      intro k hk
      rw [List.map_append, List.toFinset_append]
      exact Finset.mem_union_right _ hk
    have hle := Finset.card_le_card hlisted
    rw [List.toFinset_card_of_nodup h.nodup, List.length_map] at hle
    have hge := Finset.card_le_card hall
    have hlength := h.length
    omega

/-- When an earlier entry has not come again as strong, and fewer than `n` keys are as strong, it
is taken for one of the latest. -/
theorem TopOf.not_of_lost (h : TopOf key val n (earlier ++ latest) top) {e : ρ} (he : e ∈ earlier)
    (hlost : ∀ x ∈ latest, key x = key e → val x < val e)
    (hfew : (((earlier ++ latest).filter fun x => decide (val e ≤ val x ∧ key x ≠ key e)).map
      key).toFinset.card < n) : ¬ TopOf key val n latest top := by
  intro hlatest
  by_cases hlisted : key e ∈ top.map key
  · obtain ⟨a, ha, hkey⟩ := List.mem_map.mp hlisted
    obtain ⟨x, hx, hxkey, hval⟩ := hlatest.reached a ha
    have hle := h.strongest a ha e (List.mem_append_left _ he) hkey.symm
    exact absurd (hlost x hx (hxkey.trans hkey)) (not_lt.mpr (hval ▸ hle))
  · -- the list is full of other keys that are as strong
    have hsub : (top.map key).toFinset ⊆ (((earlier ++ latest).filter fun x =>
        decide (val e ≤ val x ∧ key x ≠ key e)).map key).toFinset := by
      intro k hk
      obtain ⟨a, ha, rfl⟩ := List.mem_map.mp (List.mem_toFinset.mp hk)
      obtain ⟨x, hx, hkey, hval⟩ := h.reached a ha
      rw [List.mem_toFinset, ← hkey]
      refine List.mem_map_of_mem (List.mem_filter.mpr ⟨hx, decide_eq_true ⟨?_, ?_⟩⟩)
      · rw [hval]
        exact h.unlisted e (List.mem_append_left _ he) hlisted a ha
      · intro heq
        exact hlisted (heq ▸ hkey ▸ List.mem_map_of_mem ha)
    have hcard := Finset.card_le_card hsub
    rw [List.toFinset_card_of_nodup h.nodup, List.length_map] at hcard
    have hmissing : (insert (key e) (top.map key).toFinset) ⊆ ((earlier ++ latest).map key).toFinset := by
      intro k hk
      rcases Finset.mem_insert.mp hk with rfl | hk
      · exact List.mem_toFinset.mpr (List.mem_map_of_mem (List.mem_append_left _ he))
      · obtain ⟨a, ha, rfl⟩ := List.mem_map.mp (List.mem_toFinset.mp hk)
        obtain ⟨x, hx, hkey, -⟩ := h.reached a ha
        exact List.mem_toFinset.mpr (hkey ▸ List.mem_map_of_mem hx)
    have hmore := Finset.card_le_card hmissing
    rw [Finset.card_insert_of_notMem (by rwa [List.mem_toFinset]), List.toFinset_card_of_nodup h.nodup,
      List.length_map] at hmore
    have hlength := h.length
    omega

end Latest

end Ranking
