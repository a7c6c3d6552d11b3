import Esp32WifiManager.HttpServer.AuthRuuvi
import Mathlib.Data.List.GetD

/-!
# The bounded search

`http_server_strnstr` cuts a needle that is longer than the slice to the length
of the slice. A slice that is the beginning of such a needle is therefore taken
for the needle, and a token can be read whose prefix or suffix is not there.
-/

namespace Esp32WifiManager
namespace Auth

open CString

/-! ### One search -/

/-- The answer of a search in a slice: the first place of the whole needle. -/
def FindsFirst (needle slice : Bytes) : Option ℕ → Prop
  | some i => i + needle.length ≤ slice.length ∧ Occurs needle slice i ∧
      ∀ j < i, ¬ Occurs needle slice j
  | none => ∀ i, i + needle.length ≤ slice.length → ¬ Occurs needle slice i

section Search

variable {needle slice : Bytes}

theorem findsFirst_strstr (needle slice : Bytes) : FindsFirst needle slice (strstr slice needle) := by
  cases hfind : strstr slice needle with
  | some i =>
    obtain ⟨-, hocc, hfirst⟩ := strstr_eq_some.mp hfind
    exact ⟨strstr_length_le hfind, hocc, hfirst⟩
  | none =>
    intro i hi
    exact strstr_eq_none.mp hfind i (by omega)

/-- A needle that is longer than the slice is cut to it. -/
theorem httpServerStrnstr_cut (behind : Bytes) (hlt : slice.length < needle.length) :
    httpServerStrnstr (slice ++ behind) needle slice.length =
      if slice <+: needle then some 0 else none := by
  have hcut : min needle.length slice.length = slice.length := min_eq_right hlt.le
  rw [httpServerStrnstr, hcut]
  by_cases hzero : slice.length = 0
  · obtain rfl := List.eq_nil_of_length_eq_zero hzero
    simp
  · have heq : strncmpEq ((slice ++ behind).drop 0) needle slice.length = decide (slice <+: needle) := by
      rw [Bool.eq_iff_iff, strncmpEq_iff, decide_eq_true_iff, List.drop_zero, List.take_left,
        List.prefix_iff_eq_take]
    simp only [if_neg hzero, Nat.sub_self, Nat.zero_add, List.range_one, List.find?_singleton, heq,
      decide_eq_true_iff]

/-- A length that is too long for the text does no harm to the result. -/
theorem httpServerStrnstr_of_length_le {hay : Bytes} {len : ℕ} (hne : needle ≠ [])
    (hneedle : needle.length ≤ len) (hlen : hay.length ≤ len) :
    httpServerStrnstr hay needle len = strstr hay needle := by
  have hpos : needle.length ≠ 0 := by simpa using hne
  have hocc : ∀ i, (strncmpEq (hay.drop i) needle needle.length = true ↔ Occurs needle hay i) := by
    intro i
    rw [strncmpEq_iff, List.take_length, Occurs, List.prefix_iff_eq_take, eq_comm]
  rw [httpServerStrnstr, min_eq_left hneedle, if_neg hpos]
  ext i
  rw [List.find?_range_eq_some, strstr_eq_some]
  simp only [hocc, List.mem_range, Bool.not_eq_true', ← Bool.not_eq_true]
  constructor
  · rintro ⟨hi, -, hfirst⟩
    exact ⟨(hi.lt_length hne).le, hi, hfirst⟩
  · rintro ⟨hle, hi, hfirst⟩
    have hend := hi.length_le hle
    exact ⟨hi, by omega, hfirst⟩

theorem FindsFirst.unique {i j : ℕ} (hi : FindsFirst needle slice (some i))
    (hj : FindsFirst needle slice (some j)) : i = j := by
  rcases Nat.lt_trichotomy i j with hlt | heq | hgt
  · exact absurd hi.2.1 (hj.2.2 i hlt)
  · exact heq
  · exact absurd hj.2.1 (hi.2.2 j hgt)

/-- The search is right just when the needle fits or the slice is not its beginning. -/
theorem findsFirst_httpServerStrnstr (behind : Bytes) (hne : needle ≠ []) :
    FindsFirst needle slice (httpServerStrnstr (slice ++ behind) needle slice.length) ↔
      needle.length ≤ slice.length ∨ ¬ slice <+: needle := by
  rcases Nat.lt_or_ge slice.length needle.length with hlt | hle
  · rw [httpServerStrnstr_cut behind hlt]
    split_ifs with hpre
    · refine iff_of_false ?_ (by simp [hpre, hlt])
      intro h
      have hfits := h.1
      omega
    · refine iff_of_true ?_ (.inr hpre)
      intro i hi
      omega
  · rw [httpServerStrnstr_eq_strstr slice behind hne hle]
    exact iff_of_true (findsFirst_strstr needle slice) (.inl hle)

end Search

/-! ### Tokens -/

/-- The token in the buffer, with its terminator. -/
theorem take_token {n k : ℕ} {m : Bytes} (hk : k < n) (hm : k ≤ m.length) (buf : CharBuf n) :
    (Vector.ofFn fun i : Fin n =>
      if i.1 < k then (m.take k).getD i 0 else if i.1 = k then 0 else buf[i]).toList.take (k + 1) =
      m.take k ++ [0] := by
  refine List.ext_getElem ?_ ?_
  · simp only [List.length_take, Vector.length_toList, List.length_append, List.length_singleton]
    omega
  · intro i hi hi'
    simp only [List.length_take, Vector.length_toList, List.length_append,
      List.length_singleton] at hi hi'
    rw [List.getElem_take, Vector.getElem_toList, Vector.getElem_ofFn]
    rcases Nat.lt_or_ge i k with hlt | hge
    · have hin : i < (m.take k).length := by
        rw [List.length_take]
        omega
      rw [if_pos hlt, List.getElem_append_left hin]
      exact List.getD_eq_getElem _ _ hin
    · obtain rfl : i = k := by omega
      rw [if_neg (Nat.lt_irrefl i), if_pos rfl,
        List.getElem_append_right (by rw [List.length_take]; omega)]
      simp

/-- The `len` bytes that a token is searched in, and the memory behind them. -/
structure TokenSearch where
  slice : Bytes
  behind : Bytes
  tokenPrefix : Bytes
  tokenSuffix : Bytes
  prefix_ne : tokenPrefix ≠ []
  suffix_ne : tokenSuffix ≠ []
  addressable : (slice ++ behind).length ≤ 4294967296
  strings_addressable : tokenPrefix.length + tokenSuffix.length ≤ 4294967296

namespace TokenSearch

variable {n : ℕ} (search : TokenSearch)

/-- The token is what stands between the first prefix and the next suffix, both inside the
slice. -/
def Between (token : CharBuf n) : Prop :=
  ∃ i k, FindsFirst search.tokenPrefix search.slice (some i) ∧
    FindsFirst search.tokenSuffix (search.slice.drop (i + search.tokenPrefix.length)) (some k) ∧
    token.toList.take (k + 1) =
      (search.slice.drop (i + search.tokenPrefix.length)).take k ++ [0]

/-- Whatever token is read. -/
def Sound (buf : CharBuf n) : Prop :=
  ∀ token, httpServerParseToken (search.slice ++ search.behind) search.slice.length
    search.tokenPrefix search.tokenSuffix buf = some token → search.Between token

/-- The slice ends within the prefix, and the suffix stands behind the slice, near enough. -/
def PrefixCut (n : ℕ) : Prop :=
  search.slice <+: search.tokenPrefix ∧ search.slice.length < search.tokenPrefix.length ∧
    ∃ k < n, Occurs search.tokenSuffix
      ((search.slice ++ search.behind).drop search.tokenPrefix.length) k

/-- The slice ends within the suffix that follows the first prefix. -/
def SuffixCut (n : ℕ) : Prop :=
  ∃ i, strstr search.slice search.tokenPrefix = some i ∧
    search.slice.drop (i + search.tokenPrefix.length) <+: search.tokenSuffix ∧
    (search.slice.drop (i + search.tokenPrefix.length)).length < search.tokenSuffix.length ∧ 0 < n

/-- Nothing is read where the prefix is not found. -/
theorem sound_of_none {buf : CharBuf n} (hfind : httpServerStrnstr
    (search.slice ++ search.behind) search.tokenPrefix search.slice.length = none) :
    search.Sound buf := by
  intro token htoken
  rw [httpServerParseToken, hfind] at htoken
  exact absurd htoken (by simp)

/-- The prefix is in the slice: the token is right unless the slice ends within the suffix. -/
theorem sound_iff_of_found (buf : CharBuf n) {i : ℕ}
    (hfind : strstr search.slice search.tokenPrefix = some i) :
    search.Sound buf ↔ ¬ search.SuffixCut n := by
  have hfits := strstr_length_le hfind
  have hfirst := findsFirst_strstr search.tokenPrefix search.slice
  rw [hfind] at hfirst
  have hrest : (search.slice ++ search.behind).drop (i + search.tokenPrefix.length) =
      search.slice.drop (i + search.tokenPrefix.length) ++ search.behind :=
    List.drop_append_of_le_length hfits
  have hlen : sizeSub search.slice.length (i + search.tokenPrefix.length) =
      (search.slice.drop (i + search.tokenPrefix.length)).length := by
    rw [sizeSub, if_pos hfits, List.length_drop]
  have hstart : httpServerStrnstr (search.slice ++ search.behind) search.tokenPrefix
      search.slice.length = some i := by
    rw [httpServerStrnstr_eq_strstr _ _ search.prefix_ne (by omega), hfind]
  have hcut : search.SuffixCut n ↔
      search.slice.drop (i + search.tokenPrefix.length) <+: search.tokenSuffix ∧
      (search.slice.drop (i + search.tokenPrefix.length)).length < search.tokenSuffix.length ∧
      0 < n := by
    constructor
    · rintro ⟨j, hj, hcut⟩
      obtain rfl := Option.some.inj (hfind.symm.trans hj)
      exact hcut
    · intro hcut
      exact ⟨i, hfind, hcut⟩
  rw [hcut, Sound]
  simp only [httpServerParseToken, hstart, hrest, hlen]
  set rest := search.slice.drop (i + search.tokenPrefix.length) with hrestDef
  rcases Nat.lt_or_ge rest.length search.tokenSuffix.length with hlt | hle
  · rw [httpServerStrnstr_cut _ hlt]
    by_cases hpre : rest <+: search.tokenSuffix
    · rw [if_pos hpre]
      rcases Nat.eq_zero_or_pos n with rfl | hpos
      · simp
      · -- the empty token is read, although there is no room for the suffix
        refine iff_of_false ?_ (by simp [hpre, hlt, hpos])
        intro h
        obtain ⟨j, k, hj, hk, -⟩ := h _ (if_neg (Nat.not_le.mpr hpos))
        obtain rfl := hj.unique hfirst
        have hroom := hk.1
        rw [← hrestDef] at hroom
        omega
    · rw [if_neg hpre]
      simp [hpre]
  · rw [httpServerStrnstr_eq_strstr rest _ search.suffix_ne hle]
    refine iff_of_true ?_ (by omega)
    intro token htoken
    cases hend : strstr rest search.tokenSuffix with
    | none => simp [hend] at htoken
    | some k =>
      have hnext := findsFirst_strstr search.tokenSuffix rest
      rw [hend] at hnext
      have hk : k ≤ rest.length := by
        have := hnext.1
        omega
      simp only [hend] at htoken
      split at htoken
      · exact absurd htoken (by simp)
      · next hroom =>
        obtain rfl := Option.some.inj htoken
        refine ⟨i, k, hfirst, hnext, ?_⟩
        rw [take_token (Nat.not_le.mp hroom) (by rw [List.length_append]; omega),
          List.take_append_of_le_length hk]

/-- The slice is the beginning of the prefix: the token comes from the memory behind it. -/
theorem sound_iff_of_cut (buf : CharBuf n) (hpre : search.slice <+: search.tokenPrefix)
    (hlt : search.slice.length < search.tokenPrefix.length) :
    search.Sound buf ↔ ¬ search.PrefixCut n := by
  have hmem := search.addressable
  have hstrings := search.strings_addressable
  have hstart : httpServerStrnstr (search.slice ++ search.behind) search.tokenPrefix
      search.slice.length = some 0 := by
    rw [httpServerStrnstr_cut _ hlt, if_pos hpre]
  have hlen : sizeSub search.slice.length search.tokenPrefix.length =
      search.slice.length + 4294967296 - search.tokenPrefix.length := by
    rw [sizeSub, if_neg (by omega)]
  have hnot : ∀ token : CharBuf n, ¬ search.Between token := by
    rintro token ⟨i, k, hi, -⟩
    have hroom := hi.1
    omega
  set rest := (search.slice ++ search.behind).drop search.tokenPrefix.length with hrestDef
  have hrestLen : rest.length = (search.slice ++ search.behind).length -
      search.tokenPrefix.length := List.length_drop
  have hend : httpServerStrnstr rest search.tokenSuffix
      (search.slice.length + 4294967296 - search.tokenPrefix.length) =
        strstr rest search.tokenSuffix :=
    httpServerStrnstr_of_length_le search.suffix_ne (by omega) (by omega)
  have hcut : search.PrefixCut n ↔ ∃ k, strstr rest search.tokenSuffix = some k ∧ k < n := by
    constructor
    · rintro ⟨-, -, k, hk, hocc⟩
      have hle := (hocc.lt_length search.suffix_ne).le
      cases hfind : strstr rest search.tokenSuffix with
      | none => exact absurd hocc (strstr_eq_none.mp hfind k hle)
      | some j =>
        obtain ⟨-, -, hfirst⟩ := strstr_eq_some.mp hfind
        have hj : j ≤ k := Nat.not_lt.mp fun h => hfirst k h hocc
        exact ⟨j, rfl, by omega⟩
    · rintro ⟨k, hfind, hk⟩
      exact ⟨hpre, hlt, k, hk, (strstr_eq_some.mp hfind).2.1⟩
  rw [hcut, Sound]
  simp only [httpServerParseToken, hstart, Nat.zero_add, hlen, ← hrestDef, hend]
  cases hfind : strstr rest search.tokenSuffix with
  | none => simp
  | some k =>
    by_cases hk : k < n
    · have hroom : ¬ k ≥ n := Nat.not_le.mpr hk
      simp only [if_neg hroom]
      refine iff_of_false (fun h => hnot _ (h _ rfl)) ?_
      simp [hk]
    · simp [hk]

/-- A token is right just when the slice does not end within the prefix or the suffix. -/
theorem sound_iff (buf : CharBuf n) :
    search.Sound buf ↔ ¬ search.PrefixCut n ∧ ¬ search.SuffixCut n := by
  rcases Nat.lt_or_ge search.slice.length search.tokenPrefix.length with hlt | hle
  · have hsuffix : ¬ search.SuffixCut n := by
      rintro ⟨i, hfind, -⟩
      have := strstr_length_le hfind
      omega
    by_cases hpre : search.slice <+: search.tokenPrefix
    · rw [search.sound_iff_of_cut buf hpre hlt, and_iff_left hsuffix]
    · refine iff_of_true (search.sound_of_none ?_) ⟨fun h => hpre h.1, hsuffix⟩
      rw [httpServerStrnstr_cut _ hlt, if_neg hpre]
  · have hstarts : ¬ search.PrefixCut n := by
      rintro ⟨-, hlt, -⟩
      omega
    cases hfind : strstr search.slice search.tokenPrefix with
    | some i => rw [search.sound_iff_of_found buf hfind, and_iff_right hstarts]
    | none =>
      refine iff_of_true (search.sound_of_none ?_) ⟨hstarts, ?_⟩
      · rw [httpServerStrnstr_eq_strstr _ _ search.prefix_ne hle, hfind]
      · rintro ⟨i, hi, -⟩
        rw [hfind] at hi
        exact absurd hi (by simp)

end TokenSearch

/-! ### Both -/

/-- The search finds the first place of the needle just when the needle is no longer than the slice
or the slice is not its beginning, and what is read as a token stands between its prefix and its
suffix just when the slice does not end within one of them. -/
theorem bounded_search_iff (slice behind needle : Bytes) (hne : needle ≠ []) {n : ℕ}
    (search : TokenSearch) (buf : CharBuf n) :
    (FindsFirst needle slice (httpServerStrnstr (slice ++ behind) needle slice.length) ↔
      needle.length ≤ slice.length ∨ ¬ slice <+: needle) ∧
    (search.Sound buf ↔ ¬ search.PrefixCut n ∧ ¬ search.SuffixCut n) :=
  ⟨findsFirst_httpServerStrnstr behind hne, search.sound_iff buf⟩

/-- The last directive of a header has no comma behind it. -/
def lastNonceCount : TokenSearch where
  slice := ascii "nc="
  behind := ascii "\r\n"
  tokenPrefix := ascii "nc="
  tokenSuffix := ascii ","
  prefix_ne := by decide
  suffix_ne := by decide
  addressable := by decide
  strings_addressable := by decide

theorem lastNonceCount_suffixCut : lastNonceCount.SuffixCut 17 :=
  ⟨0, by decide, by decide, by decide, by decide⟩

theorem bounded_search_session :
    FindsFirst httpServerAuthRuuviCookieSession (ascii "RUUVISESSION=A")
      (httpServerStrnstr (ascii "RUUVISESSION=A" ++ ascii "\r\n") httpServerAuthRuuviCookieSession
        (ascii "RUUVISESSION=A").length) ∧
    ¬ lastNonceCount.Sound (.zero 17) := by
  have h := bounded_search_iff (ascii "RUUVISESSION=A") (ascii "\r\n")
    httpServerAuthRuuviCookieSession (by decide) lastNonceCount (.zero 17)
  exact ⟨h.1.mpr (.inl (by decide)), fun hsound => (h.2.mp hsound).2 lastNonceCount_suffixCut⟩

/-- A cookie header with the single letter `R` is taken for the name of the session cookie, and the
last directive of a header is read without its comma. -/
theorem bounded_search_cut :
    (¬ ∀ slice behind needle : Bytes, needle ≠ [] →
      FindsFirst needle slice (httpServerStrnstr (slice ++ behind) needle slice.length)) ∧
    ¬ ∀ (search : TokenSearch) (buf : CharBuf 17), search.Sound buf := by
  constructor
  · intro h
    have hfind : httpServerStrnstr (ascii "R" ++ ascii "\r\n") httpServerAuthRuuviCookieSession
        (ascii "R").length = some 0 := by decide
    have hfirst := h (ascii "R") (ascii "\r\n") httpServerAuthRuuviCookieSession (by decide)
    rw [hfind] at hfirst
    exact absurd hfirst.1 (by decide)
  · intro h
    have hfound : strstr lastNonceCount.slice lastNonceCount.tokenPrefix = some 0 := by decide
    exact (lastNonceCount.sound_iff_of_found (.zero 17) hfound).mp (h _ _) lastNonceCount_suffixCut

end Auth
end Esp32WifiManager
