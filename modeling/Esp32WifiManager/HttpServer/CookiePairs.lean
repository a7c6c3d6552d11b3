import Esp32WifiManager.HttpServer.AuthRuuvi

/-!
# The pairs of a cookie header

The name of a cookie is searched in the value as a whole. The search comes to
the first pair that mentions the name, in its own name or in its value, and what
is returned is read from there.
-/

namespace Esp32WifiManager
namespace Auth

open CString HttpReq

/-! ### The text that is read -/

/-- What stands at offset `i`, up to the next `;`. -/
def pairAt (cookies : Bytes) (i : ℕ) : Bytes := (cookies.drop i).takeWhile (· ≠ 59)

/-- What stands behind the first `=`. -/
def behindEquals (part : Bytes) : Option Bytes := (strchr part 61).map fun i => part.drop (i + 1)

/-- The text behind the first place where the name stands. -/
def cookieText (cookies cookieName : Bytes) : Option Bytes :=
  (strstr cookies cookieName).bind fun i => behindEquals (pairAt cookies i)

/-- Only a value that is not empty and fits the buffer is returned. -/
def usable (bufSize : ℕ) (value : Option Bytes) : Option Bytes :=
  value.filter fun v => v ≠ [] ∧ v.length < bufSize

theorem usable_some (bufSize : ℕ) (v : Bytes) :
    usable bufSize (some v) = if v ≠ [] ∧ v.length < bufSize then some v else none := by
  simp [usable, Option.filter_some]

def cookieResult (bufSize : ℕ) (value : Option Bytes) : Bool × CharBuf bufSize :=
  match usable bufSize value with
  | none => (false, .zero bufSize)
  | some v => (true, .ofStr bufSize v)

theorem cookieResult_some (bufSize : ℕ) (v : Bytes) :
    cookieResult bufSize (some v) =
      if v.length = 0 then (false, .zero bufSize)
      else if v.length ≥ bufSize then (false, .zero bufSize)
      else (true, .ofStr bufSize v) := by
  rw [cookieResult, usable_some]
  by_cases hempty : v = []
  · simp [hempty]
  · by_cases hfit : v.length < bufSize
    · simp [hempty, hfit]
    · simp [hempty, hfit, Nat.not_lt.mp hfit]

theorem pairAt_append (cookies : Bytes) (i : ℕ) :
    cookies.drop i = pairAt cookies i ++ (cookies.drop i).dropWhile (· ≠ 59) :=
  (List.takeWhile_append_dropWhile ..).symm

/-- Behind the place where the name stands, the pair is not empty. -/
theorem pairAt_ne_nil {cookies cookieName : Bytes} {i : ℕ} (hname : cookieName ≠ [])
    (h59 : 59 ∉ cookieName) (h : strstr cookies cookieName = some i) : pairAt cookies i ≠ [] := by
  obtain ⟨x, name, rfl⟩ := List.exists_cons_of_ne_nil hname
  obtain ⟨t, ht⟩ := (strstr_eq_some.mp h).2.1
  have hx : x ≠ 59 := fun he => h59 (by simp [he])
  rw [pairAt, ← ht]
  simp [hx]

theorem getCookie_eq {cookies cookieName : Bytes} (t : Bytes) (bufSize : ℕ)
    (hname : cookieName ≠ []) (hle : cookieName.length ≤ cookies.length)
    (h59 : 59 ∉ cookieName) :
    httpServerAuthRuuviGetCookie (cookies ++ t) cookies.length cookieName bufSize =
      cookieResult bufSize (cookieText cookies cookieName) := by
  rw [httpServerAuthRuuviGetCookie, httpServerStrnstr_eq_strstr cookies t hname hle, cookieText]
  cases hfind : strstr cookies cookieName with
  | none => rfl
  | some i =>
    obtain ⟨hi, hocc, -⟩ := strstr_eq_some.mp hfind
    have hlt : i < cookies.length := hocc.lt_length hname
    have hne := pairAt_ne_nil hname h59 hfind
    obtain ⟨part, rest, hpart, hsplit⟩ : ∃ part rest, pairAt cookies i = part ∧
        (cookies ++ t).drop i = part ++ rest :=
      ⟨pairAt cookies i, _, rfl, by
        rw [List.drop_append_of_le_length hi, pairAt_append, List.append_assoc]⟩
    have hend : (httpServerStrnstr ((cookies ++ t).drop i) (ascii ";") (cookies.length - i)).getD
        (cookies.length - i) = part.length := by
      have hsemicolon : ascii ";" = [59] := by decide
      rw [List.drop_append_of_le_length hi, hsemicolon, ← List.length_drop,
        httpServerStrnstr_eq_strstr _ _ (by simp)
          (by rw [List.length_drop, List.length_singleton]; omega),
        strstr_singleton, strchr_getD, ← hpart]
      rfl
    rw [hsplit] at hend
    have hequals : httpServerStrnstr (part ++ rest) (ascii "=") part.length = strchr part 61 := by
      have hsign : ascii "=" = [61] := by decide
      have hpos : [61].length ≤ part.length := by
        rw [List.length_singleton, Nat.succ_le_iff, List.length_pos_iff, ← hpart]
        exact hne
      rw [hsign, httpServerStrnstr_eq_strstr part rest (by simp) hpos, strstr_singleton]
    simp only [hend, hsplit, hequals, hpart, Option.bind_some, behindEquals]
    cases hd : strchr part 61 with
    | none => rfl
    | some d =>
      have hdlt := lt_of_strchr hd
      have hlen : sizeSub part.length (d + 1) = (part.drop (d + 1)).length := by
        rw [sizeSub, if_pos (by omega), List.length_drop]
      have hvalue : ((part ++ rest).drop (d + 1)).take (part.drop (d + 1)).length =
          part.drop (d + 1) := by
        rw [List.drop_append_of_le_length (by omega), List.take_left]
      simp only [hlen, hvalue, if_neg (Nat.not_lt.mpr hdlt.le), Option.map_some]
      exact (cookieResult_some bufSize (part.drop (d + 1))).symm

/-! ### Lists of pairs -/

structure CookiePair where
  name : Bytes
  value : Bytes
  name_bytes : ∀ c ∈ name, c ≠ 61 ∧ c ≠ 59 ∧ c ≠ 32 ∧ c ≠ 0
  value_bytes : ∀ c ∈ value, c ≠ 59 ∧ c ≠ 0

namespace CookiePair

def bytes (p : CookiePair) : Bytes := p.name ++ 61 :: p.value

/-- The cookie name stands somewhere in the pair. -/
def Mentions (cookieName : Bytes) (p : CookiePair) : Prop :=
  (strstr p.name cookieName).isSome ∨ (strstr p.value cookieName).isSome

instance (cookieName : Bytes) (p : CookiePair) : Decidable (p.Mentions cookieName) :=
  inferInstanceAs (Decidable (_ ∨ _))

/-- What is read of a pair that mentions the name: its value, or in the value what stands behind
the next `=`. -/
def reading (cookieName : Bytes) (p : CookiePair) : Option Bytes :=
  match strstr p.name cookieName with
  | some _ => some p.value
  | none => (strstr p.value cookieName).bind fun i => behindEquals (p.value.drop i)

end CookiePair

/-- The pairs of the list, separated by `; `. -/
def cookiePairs : List CookiePair → Bytes
  | [] => []
  | [p] => p.bytes
  | p :: q :: pairs => p.bytes ++ 59 :: 32 :: cookiePairs (q :: pairs)

/-- The value of the first pair with exactly this name. -/
def lookupCookie (cookieName : Bytes) (pairs : List CookiePair) : Option Bytes :=
  (pairs.find? fun p => p.name = cookieName).map CookiePair.value

section Pairs

variable {cookieName : Bytes} {p : CookiePair}

/-- What can be a cookie name. -/
structure IsCookieName (cookieName : Bytes) : Prop where
  ne_nil : cookieName ≠ []
  equals : 61 ∉ cookieName
  semicolon : 59 ∉ cookieName
  space : 32 ∉ cookieName

theorem strstr_bytes (hname : IsCookieName cookieName) (p : CookiePair) :
    strstr p.bytes cookieName = (strstr p.name cookieName).or
      ((strstr p.value cookieName).map (p.name.length + 1 + ·)) :=
  strstr_append_cons hname.equals hname.ne_nil p.name p.value

theorem mentions_iff (hname : IsCookieName cookieName) :
    p.Mentions cookieName ↔ (strstr p.bytes cookieName).isSome := by
  rw [strstr_bytes hname, CookiePair.Mentions]
  cases strstr p.name cookieName <;> simp

theorem semicolon_notMem_bytes (p : CookiePair) : (59 : UInt8) ∉ p.bytes := by
  simp only [CookiePair.bytes, List.mem_append, List.mem_cons, not_or]
  exact ⟨fun h => (p.name_bytes 59 h).2.1 rfl, by decide, fun h => (p.value_bytes 59 h).1 rfl⟩

/-- The search stays in the first pair when it mentions the name. -/
theorem cookieText_bytes (hname : IsCookieName cookieName) (p : CookiePair)
    (hp : p.Mentions cookieName) : cookieText p.bytes cookieName = p.reading cookieName := by
  have hpair (i : ℕ) : pairAt p.bytes i = p.bytes.drop i := by
    apply List.takeWhile_eq_self_iff.mpr
    intro c hc
    exact decide_eq_true fun he =>
      semicolon_notMem_bytes p (he ▸ List.drop_subset i p.bytes hc)
  have h61 : (61 : UInt8) ∉ p.name := fun h => (p.name_bytes 61 h).1 rfl
  rw [cookieText, strstr_bytes hname, CookiePair.reading]
  cases hfind : strstr p.name cookieName with
  | some i =>
    have hi : i ≤ p.name.length := (strstr_eq_some.mp hfind).1
    have hdrop : p.bytes.drop i = p.name.drop i ++ 61 :: p.value :=
      List.drop_append_of_le_length hi
    have hequals : strchr (p.name.drop i ++ 61 :: p.value) 61 = some (p.name.drop i).length :=
      strchr_append_cons (fun h => h61 (List.drop_subset i p.name h)) p.value
    have hbehind : (p.name.drop i ++ 61 :: p.value).drop ((p.name.drop i).length + 1) = p.value := by
      rw [List.append_cons, List.drop_left' (by simp)]
    simp only [Option.some_or, Option.bind_some, hpair, hdrop, behindEquals, hequals,
      Option.map_some, hbehind]
  | none =>
    cases hvalue : strstr p.value cookieName with
    | none => simp [CookiePair.Mentions, hfind, hvalue] at hp
    | some i =>
      have hdrop : p.bytes.drop (p.name.length + 1 + i) = p.value.drop i := by
        rw [← List.drop_drop, CookiePair.bytes, List.append_cons, List.drop_left' (by simp)]
      simp [hpair, hdrop]

theorem cookieText_append (hname : IsCookieName cookieName) (p : CookiePair) (t : Bytes) :
    cookieText (p.bytes ++ 59 :: 32 :: t) cookieName =
      if p.Mentions cookieName then cookieText p.bytes cookieName else cookieText t cookieName := by
  rw [cookieText, strstr_append_cons hname.semicolon hname.ne_nil]
  cases hfind : strstr p.bytes cookieName with
  | some i =>
    have hp : p.Mentions cookieName := (mentions_iff hname).mpr (by simp [hfind])
    have hi : i ≤ p.bytes.length := (strstr_eq_some.mp hfind).1
    have hpair : pairAt (p.bytes ++ 59 :: 32 :: t) i = pairAt p.bytes i := by
      have hnot : ∀ c ∈ p.bytes.drop i, c ≠ 59 := fun c hc he =>
        semicolon_notMem_bytes p (he ▸ List.drop_subset i p.bytes hc)
      have hall : (p.bytes.drop i).takeWhile (· ≠ 59) = p.bytes.drop i :=
        List.takeWhile_eq_self_iff.mpr fun c hc => decide_eq_true (hnot c hc)
      rw [pairAt, pairAt, hall, List.drop_append_of_le_length hi,
        List.takeWhile_append_of_pos fun c hc => decide_eq_true (hnot c hc)]
      simp
    simp [hp, cookieText, hfind, hpair]
  | none =>
    have hp : ¬ p.Mentions cookieName := fun h => by
      simpa [hfind] using (mentions_iff hname).mp h
    have hspace : strstr (32 :: t) cookieName = (strstr t cookieName).map (· + 1) := by
      apply strstr_cons
      intro h
      exact hname.ne_nil (List.prefix_nil.mp ((prefix_append_cons_iff hname.space [] t).mp h))
    rw [if_neg hp, hspace, cookieText]
    cases hrest : strstr t cookieName with
    | none => rfl
    | some i =>
      have hdrop : (p.bytes ++ 59 :: 32 :: t).drop (p.bytes.length + 1 + (i + 1)) = t.drop i := by
        have hsplit : p.bytes ++ 59 :: 32 :: t = (p.bytes ++ [59, 32]) ++ t := by simp
        have hidx : p.bytes.length + 1 + (i + 1) = (p.bytes ++ [59, 32]).length + i := by
          rw [List.length_append]
          simp only [List.length_cons, List.length_nil]
          omega
        rw [hsplit, hidx, ← List.drop_drop, List.drop_left]
      simp [pairAt, hdrop]

/-- What is found is read from the first pair that mentions the name. -/
theorem cookieText_cookiePairs (hname : IsCookieName cookieName) (pairs : List CookiePair) :
    cookieText (cookiePairs pairs) cookieName =
      (pairs.find? fun p => p.Mentions cookieName).bind (·.reading cookieName) := by
  induction pairs using cookiePairs.induct with
  | case1 =>
    have hnone : strstr [] cookieName = none := by
      obtain ⟨c, hc⟩ := List.exists_mem_of_ne_nil cookieName hname.ne_nil
      exact strstr_eq_none_of_notMem hc (by simp)
    simp [cookiePairs, cookieText, hnone]
  | case2 p =>
    by_cases hp : p.Mentions cookieName
    · simp [cookiePairs, hp, cookieText_bytes hname p hp]
    · have hnone : strstr p.bytes cookieName = none := by
        simpa [mentions_iff hname] using hp
      simp [cookiePairs, hp, cookieText, hnone]
  | case3 p q pairs ih =>
    rw [cookiePairs, cookieText_append hname, ih]
    by_cases hp : p.Mentions cookieName
    · rw [if_pos hp, List.find?_cons_of_pos (by simpa using hp), cookieText_bytes hname p hp]
      rfl
    · rw [if_neg hp, List.find?_cons_of_neg (a := p) (by simpa using hp)]

theorem equals_mem_cookiePairs {pairs : List CookiePair} (hne : pairs ≠ []) :
    (61 : UInt8) ∈ cookiePairs pairs := by
  induction pairs using cookiePairs.induct with
  | case1 => exact absurd rfl hne
  | case2 p => simp [cookiePairs, CookiePair.bytes]
  | case3 p q pairs => simp [cookiePairs, CookiePair.bytes]

/-- A needle that is longer than the text is cut to it, and then it has no `=`. -/
theorem httpServerStrnstr_short (hname : IsCookieName cookieName) {s : Bytes} (t : Bytes)
    (hequals : 61 ∈ s) (hlt : s.length < cookieName.length) :
    httpServerStrnstr (s ++ t) cookieName s.length = none := by
  have hpos : s.length ≠ 0 := by
    rintro hnil
    rw [List.length_eq_zero_iff.mp hnil] at hequals
    exact absurd hequals (by simp)
  rw [httpServerStrnstr, min_eq_right hlt.le, if_neg hpos, List.find?_range_eq_none]
  intro i hi
  have hi0 : i = 0 := by omega
  subst hi0
  rw [Bool.not_eq_true', ← Bool.not_eq_true, strncmpEq_iff, List.drop_zero, List.take_left]
  intro heq
  exact hname.equals (List.take_subset s.length cookieName (heq ▸ hequals))

theorem getCookie_cookiePairs (hname : IsCookieName cookieName) (pairs : List CookiePair)
    (t : Bytes) {bufSize : ℕ} (hsize : bufSize < 4294967296) :
    httpServerAuthRuuviGetCookie (cookiePairs pairs ++ t) (cookiePairs pairs).length cookieName
        bufSize =
      cookieResult bufSize ((pairs.find? fun p => p.Mentions cookieName).bind
        (·.reading cookieName)) := by
  rw [← cookieText_cookiePairs hname]
  rcases Nat.lt_or_ge (cookiePairs pairs).length cookieName.length with hlt | hle
  · have hnone : cookieText (cookiePairs pairs) cookieName = none := by
      rw [cookieText, strstr_eq_none.mpr, Option.bind_none]
      intro i hi hocc
      have := hocc.length_le hi
      omega
    rw [hnone]
    by_cases hempty : pairs = []
    · subst hempty
      have hlen : ¬ sizeSub 0 1 < bufSize := by
        rw [sizeSub, if_neg (by omega)]
        omega
      simp [cookiePairs, httpServerAuthRuuviGetCookie, httpServerStrnstr, hlen, cookieResult,
        usable]
    · rw [httpServerAuthRuuviGetCookie,
        httpServerStrnstr_short hname t (equals_mem_cookiePairs hempty) hlt]
      rfl
  · exact getCookie_eq t bufSize hname.ne_nil hle hname.semicolon

/-! ### The pair with the name -/

theorem strstr_self (s : Bytes) : strstr s s = some 0 := strstr_of_isPrefix (List.prefix_refl s)

theorem mentions_of_name (hp : p.name = cookieName) : p.Mentions cookieName := by
  simp [CookiePair.Mentions, hp, strstr_self]

theorem reading_of_name (hp : p.name = cookieName) : p.reading cookieName = some p.value := by
  simp [CookiePair.reading, hp, strstr_self]

/-- A pair with the name is the one that is looked up, when no earlier one mentions the name. -/
theorem lookupCookie_of_find {pairs : List CookiePair}
    (hfind : (pairs.find? fun p => p.Mentions cookieName) = some p) (hp : p.name = cookieName) :
    lookupCookie cookieName pairs = some p.value := by
  obtain ⟨-, before, behind, hpairs, hbefore⟩ := List.find?_eq_some_iff_append.mp hfind
  have hname : (pairs.find? fun p => p.name = cookieName) = some p := by
    rw [List.find?_eq_some_iff_append]
    refine ⟨by simpa using hp, before, behind, hpairs, ?_⟩
    intro x hx
    have hnot : ¬ x.Mentions cookieName := by simpa using hbefore x hx
    simpa using fun hxname => hnot (mentions_of_name hxname)
  rw [lookupCookie, hname]
  rfl

theorem lookupCookie_of_find_none {pairs : List CookiePair}
    (hfind : (pairs.find? fun p => p.Mentions cookieName) = none) :
    lookupCookie cookieName pairs = none := by
  rw [List.find?_eq_none] at hfind
  rw [lookupCookie, List.find?_eq_none.mpr, Option.map_none]
  intro x hx
  have hnot : ¬ x.Mentions cookieName := by simpa using hfind x hx
  simpa using fun hxname => hnot (mentions_of_name hxname)

/-- The first pair that mentions the name has it as its name, or what is read of that pair is
what the pair with the name would give all the same. -/
def CookieFound (cookieName : Bytes) (bufSize : ℕ) (pairs : List CookiePair) : Prop :=
  ∀ p, (pairs.find? fun p => p.Mentions cookieName) = some p →
    p.name = cookieName ∨
      usable bufSize (p.reading cookieName) = usable bufSize (lookupCookie cookieName pairs)

theorem cookieFound_iff (bufSize : ℕ) (pairs : List CookiePair) :
    usable bufSize ((pairs.find? fun p => p.Mentions cookieName).bind (·.reading cookieName)) =
        usable bufSize (lookupCookie cookieName pairs) ↔
      CookieFound cookieName bufSize pairs := by
  unfold CookieFound
  cases hfind : pairs.find? fun p => p.Mentions cookieName with
  | none => simp [lookupCookie_of_find_none hfind]
  | some p =>
    simp only [Option.bind_some, Option.some.injEq, forall_eq']
    by_cases hp : p.name = cookieName
    · simp [hp, reading_of_name hp, lookupCookie_of_find hfind hp]
    · simp [hp]

end Pairs

/-! ### The buffer -/

section Buffer

variable {n : ℕ}

theorem str_cookieResult {value : Option Bytes} (hnul : ∀ v ∈ value, (0 : UInt8) ∉ v) :
    (cookieResult n value).2.str = (usable n value).getD [] := by
  rw [cookieResult]
  cases hvalue : usable n value with
  | none => exact CharBuf.str_zero
  | some v =>
    obtain ⟨hmem, hv⟩ := Option.filter_eq_some_iff.mp hvalue
    simp only [decide_eq_true_eq] at hv
    exact CharBuf.str_ofStr (hnul v hmem) hv.2

/-- The buffer tells which value was read. -/
theorem cookieResult_snd_inj {x y : Option Bytes} (hx : ∀ v ∈ x, (0 : UInt8) ∉ v)
    (hy : ∀ v ∈ y, (0 : UInt8) ∉ v) :
    (cookieResult n x).2 = (cookieResult n y).2 ↔ usable n x = usable n y := by
  constructor
  · intro h
    have hstr := congrArg CharBuf.str h
    rw [str_cookieResult hx, str_cookieResult hy] at hstr
    have hne : ∀ z : Option Bytes, [] ∉ usable n z := by
      intro z hz
      simpa using (Option.filter_eq_some_iff.mp hz).2
    have hnex := hne x
    have hney := hne y
    cases hux : usable n x <;> cases huy : usable n y <;> simp_all
  · intro h
    rw [cookieResult, cookieResult, h]

theorem cookieResult_inj {x y : Option Bytes} (hx : ∀ v ∈ x, (0 : UInt8) ∉ v)
    (hy : ∀ v ∈ y, (0 : UInt8) ∉ v) :
    cookieResult n x = cookieResult n y ↔ usable n x = usable n y := by
  constructor
  · intro h
    exact (cookieResult_snd_inj hx hy).mp (congrArg Prod.snd h)
  · intro h
    rw [cookieResult, cookieResult, h]

end Buffer

/-! ### The session and the previous page -/

theorem isCookieName_session : IsCookieName httpServerAuthRuuviCookieSession := by
  constructor <;> decide

theorem isCookieName_prevUrl : IsCookieName httpServerAuthRuuviCookiePrevUrl := by
  constructor <;> decide

theorem nul_notMem_lookupCookie (cookieName : Bytes) (pairs : List CookiePair) :
    ∀ v ∈ lookupCookie cookieName pairs, (0 : UInt8) ∉ v := by
  intro v hv h0
  obtain ⟨p, -, rfl⟩ := Option.map_eq_some_iff.mp hv
  exact (p.value_bytes 0 h0).2 rfl

theorem nul_notMem_reading (cookieName : Bytes) (pairs : List CookiePair) :
    ∀ v ∈ (pairs.find? fun p => p.Mentions cookieName).bind (·.reading cookieName),
      (0 : UInt8) ∉ v := by
  intro v hv h0
  obtain ⟨p, -, hread⟩ := Option.bind_eq_some_iff.mp hv
  have hmem : (0 : UInt8) ∈ p.value := by
    unfold CookiePair.reading at hread
    cases hname : strstr p.name cookieName with
    | some i =>
      rw [hname] at hread
      exact Option.some.inj hread ▸ h0
    | none =>
      rw [hname] at hread
      obtain ⟨i, -, hbehind⟩ := Option.bind_eq_some_iff.mp hread
      obtain ⟨d, -, rfl⟩ := Option.map_eq_some_iff.mp hbehind
      exact List.drop_subset i _ (List.drop_subset (d + 1) _ h0)
  exact (p.value_bytes 0 hmem).2 rfl

/-- Each cookie is looked up exactly just when the first pair that mentions its name has it, or
gives the same. -/
theorem cookie_lookup {header : Bytes} (pairs : List CookiePair) (field : HttpReqField)
    (t : Bytes)
    (hfield : httpReqHeaderGetField header (ascii "Cookie:") = some field)
    (hvalue : header.drop field.ptr = cookiePairs pairs ++ t)
    (hlen : field.len = (cookiePairs pairs).length) :
    (httpServerAuthRuuviGetSessionIdFromCookies header =
        cookieResult 17 (lookupCookie httpServerAuthRuuviCookieSession pairs) ↔
      CookieFound httpServerAuthRuuviCookieSession 17 pairs) ∧
    (httpServerAuthRuuviGetPrevUrlFromCookies header =
        (cookieResult 65 (lookupCookie httpServerAuthRuuviCookiePrevUrl pairs)).2 ↔
      CookieFound httpServerAuthRuuviCookiePrevUrl 65 pairs) := by
  have hget (cookieName : Bytes) (hname : IsCookieName cookieName) (bufSize : ℕ)
      (hsize : bufSize < 4294967296) :
      httpServerAuthRuuviGetCookieFromHeader header cookieName bufSize =
        cookieResult bufSize ((pairs.find? fun p => p.Mentions cookieName).bind
          (·.reading cookieName)) := by
    rw [httpServerAuthRuuviGetCookieFromHeader, hfield]
    simp only [hvalue, hlen]
    exact getCookie_cookiePairs hname pairs t hsize
  constructor
  · rw [httpServerAuthRuuviGetSessionIdFromCookies, hget _ isCookieName_session 17 (by omega),
      cookieResult_inj (nul_notMem_reading _ pairs) (nul_notMem_lookupCookie _ pairs),
      cookieFound_iff]
  · rw [httpServerAuthRuuviGetPrevUrlFromCookies, hget _ isCookieName_prevUrl 65 (by omega),
      cookieResult_snd_inj (nul_notMem_reading _ pairs) (nul_notMem_lookupCookie _ pairs),
      cookieFound_iff]

/-- The name of the first cookie ends with the name of the session cookie. -/
def otherSession : List CookiePair := [
  { name := ascii "MYRUUVISESSION", value := ascii "a", name_bytes := by decide,
    value_bytes := by decide },
  { name := ascii "RUUVISESSION", value := ascii "b", name_bytes := by decide,
    value_bytes := by decide }]

def otherSessionHeader : Bytes := ascii "Cookie: MYRUUVISESSION=a; RUUVISESSION=b\r\n"

theorem cookie_lookup_session :
    (httpServerAuthRuuviGetSessionIdFromCookies otherSessionHeader =
        cookieResult 17 (lookupCookie httpServerAuthRuuviCookieSession otherSession) ↔
      CookieFound httpServerAuthRuuviCookieSession 17 otherSession) ∧
    (httpServerAuthRuuviGetPrevUrlFromCookies otherSessionHeader =
        (cookieResult 65 (lookupCookie httpServerAuthRuuviCookiePrevUrl otherSession)).2 ↔
      CookieFound httpServerAuthRuuviCookiePrevUrl 65 otherSession) :=
  cookie_lookup otherSession ⟨8, 32⟩ lineEnd (by decide +kernel)
    (by decide +kernel) (by decide +kernel)

theorem cookie_lookup_stray :
    (httpServerAuthRuuviGetSessionIdFromCookies otherSessionHeader).2.str = ascii "a" ∧
    (cookieResult 17 (lookupCookie httpServerAuthRuuviCookieSession otherSession)).2.str =
      ascii "b" ∧
    ¬ ∀ (header t : Bytes) (field : HttpReqField) (pairs : List CookiePair),
      httpReqHeaderGetField header (ascii "Cookie:") = some field →
      header.drop field.ptr = cookiePairs pairs ++ t →
      field.len = (cookiePairs pairs).length →
      httpServerAuthRuuviGetSessionIdFromCookies header =
        cookieResult 17 (lookupCookie httpServerAuthRuuviCookieSession pairs) := by
  have hread : (httpServerAuthRuuviGetSessionIdFromCookies otherSessionHeader).2.str =
      ascii "a" := by decide +kernel
  have hlookup : (cookieResult 17
      (lookupCookie httpServerAuthRuuviCookieSession otherSession)).2.str = ascii "b" := by
    decide +kernel
  refine ⟨hread, hlookup, ?_⟩
  intro h
  have := h otherSessionHeader lineEnd ⟨8, 32⟩ otherSession (by decide +kernel)
    (by decide +kernel) (by decide +kernel)
  rw [this, hlookup] at hread
  exact absurd hread (by decide)

end Auth
end Esp32WifiManager
