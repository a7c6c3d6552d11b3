import Esp32WifiManager.WifiManager.JsonString
import Esp32WifiManager.WifiManager.AccessPointsList

/-!
# The list of access points as JSON

`json_access_points_generate` prints the records twice, once to measure and once
into a buffer of the measured size. Both runs are one function of the buffer
they print into, and what it prints does not depend on the buffer as long as
the buffer takes it.
-/

namespace Esp32WifiManager
namespace WifiManager

namespace JsonAccessPoints

open CString StrBuf JsonText JsonString

/-! ### json_access_points.c -/

section Code

variable {σ : Type} (B : StrBuf.Ops σ)

/-- One round of the loop; the flag tells whether another access point follows. -/
def jsonAccessPointsPrint (pAp : WifiApRecord) (more : Bool) (pStrBuf : σ) : σ :=
  let pStrBuf := (B.printf pStrBuf (ascii "\x7b\"ssid\":")).2
  let pStrBuf := (jsonPrintEscapedString B pStrBuf (some pAp.ssid.toList)).2
  (B.printf pStrBuf
    (ascii ",\"chan\":" ++ printNat pAp.primary.toNat ++ ascii ",\"rssi\":" ++ printInt pAp.rssi ++
      ascii ",\"auth\":" ++ printNat pAp.authmode ++ ascii "\x7d" ++
      (if more then ascii "," else []) ++ ascii "\n")).2

def jsonAccessPointsGenerateStrBuf (pStrBuf : σ) (pAccessPoints : List WifiApRecord)
    (numAccessPoints : ℕ) : σ :=
  let pStrBuf := (B.printf pStrBuf (ascii "[")).2
  let numApChecked := if numAccessPoints ≤ maxApNum then numAccessPoints else maxApNum
  let pStrBuf := (List.range numApChecked).foldl
    (fun pStrBuf i =>
      jsonAccessPointsPrint B (pAccessPoints.getD i .zero) (i < numApChecked - 1) pStrBuf)
    pStrBuf
  (B.printf pStrBuf (ascii "]\n")).2

def jsonAccessPointsGenerate (pAccessPoints : List WifiApRecord) (numAccessPoints : ℕ) : σ :=
  let strBuf := jsonAccessPointsGenerateStrBuf B B.null pAccessPoints numAccessPoints
  match B.initWithAlloc strBuf with
  | none => B.null
  | some strBuf => jsonAccessPointsGenerateStrBuf B strBuf pAccessPoints numAccessPoints

end Code

/-! ### The text -/

/-- The texts that are printed for one access point. -/
def jsonAccessPointTexts (ap : WifiApRecord) (more : Bool) : List Bytes :=
  ascii "\x7b\"ssid\":" :: (jsonStringTexts ap.ssid.str ++
    [ascii ",\"chan\":" ++ printNat ap.primary.toNat ++ ascii ",\"rssi\":" ++ printInt ap.rssi ++
      ascii ",\"auth\":" ++ printNat ap.authmode ++ ascii "\x7d" ++
      (if more then ascii "," else []) ++ ascii "\n"])

/-- The texts of a list of access points. -/
def jsonAccessPointListTexts : List WifiApRecord → List Bytes
  | [] => []
  | ap :: aps => jsonAccessPointTexts ap (!aps.isEmpty) ++ jsonAccessPointListTexts aps

def jsonAccessPointsTexts (aps : List WifiApRecord) : List Bytes :=
  ascii "[" :: (jsonAccessPointListTexts aps ++ [ascii "]\n"])

/-- What the text of an access point says. -/
def accessPointJson (ap : WifiApRecord) : Json :=
  .obj [(ascii "ssid", .str ap.ssid.str), (ascii "chan", .num ap.primary.toNat),
    (ascii "rssi", .num ap.rssi), (ascii "auth", .num ap.authmode)]

section Print

variable {σ : Type} {B : StrBuf.Ops σ} {s : σ}

theorem jsonPrintEscapedString_takes (hB : B.Lawful) {m : Bytes}
    (h : B.Takes s (jsonStringLiteral (text m)).length) :
    (jsonPrintEscapedString B s (some m)).2 = printAll B (jsonStringTexts (text m)) s := by
  obtain ⟨ts, -, hstate, hall⟩ := jsonPrintEscapedString_prefix (B := B) (p := s) (m := m)
  have hok : (jsonPrintEscapedString B s (some m)).1 = true := by
    rcases h with hs | ⟨hs, hroom⟩
    · exact jsonPrintEscapedString_sizing hB hs
    · exact jsonPrintEscapedString_fits hB hs hroom
  rw [hstate, hall hok]

theorem jsonAccessPointsPrint_eq (hB : B.Lawful) (ap : WifiApRecord) (more : Bool)
    (h : B.Takes s (jsonAccessPointTexts ap more).flatten.length) :
    jsonAccessPointsPrint B ap more s = printAll B (jsonAccessPointTexts ap more) s := by
  have hopen : B.Takes (B.printf s (ascii "\x7b\"ssid\":")).2
      (jsonStringLiteral (text ap.ssid.toList)).length := by
    refine (printAll_takes [ascii "\x7b\"ssid\":"] hB (h.mono ?_) :)
    simp only [jsonAccessPointTexts, jsonStringLiteral, CharBuf.str, List.flatten_cons,
      List.flatten_append, List.length_append, List.flatten_nil, List.append_nil]
    omega
  simp only [jsonAccessPointsPrint, jsonPrintEscapedString_takes hB hopen]
  rw [jsonAccessPointTexts, printAll_cons, printAll_append]
  rfl

/-- The rounds of the loop, in the order of the records. -/
theorem range_flatMap {k : ℕ} {aps : List WifiApRecord} (hk : k ≤ aps.length) :
    ((List.range k).flatMap fun i =>
      jsonAccessPointTexts (aps.getD i .zero) (i < k - 1)) =
      jsonAccessPointListTexts (aps.take k) := by
  induction k generalizing aps with
  | zero => rfl
  | succ k ih =>
    cases aps with
    | nil => simp at hk
    | cons ap aps =>
      have hk : k ≤ aps.length := by simpa using hk
      have hmore : decide (0 < k) = !(aps.take k).isEmpty := by
        cases k with
        | zero => rfl
        | succ k =>
          cases aps with
          | nil => simp at hk
          | cons ap' aps => rfl
      have hrest : ∀ i, decide (i + 1 < k) = decide (i < k - 1) := by
        intro i
        rw [decide_eq_decide]
        omega
      rw [List.range_succ_eq_map, List.flatMap_cons, List.flatMap_map, List.take_succ_cons,
        jsonAccessPointListTexts, ← ih hk, ← hmore]
      simp only [Nat.add_sub_cancel, List.getD_cons_zero, List.getD_cons_succ, Nat.succ_eq_add_one,
        hrest]

theorem jsonAccessPointsGenerateStrBuf_eq (hB : B.Lawful) {aps : List WifiApRecord} {n : ℕ}
    (hn : min n maxApNum ≤ aps.length)
    (h : B.Takes s (jsonAccessPointsTexts (aps.take (min n maxApNum))).flatten.length) :
    jsonAccessPointsGenerateStrBuf B s aps n =
      printAll B (jsonAccessPointsTexts (aps.take (min n maxApNum))) s := by
  have hchecked : (if n ≤ maxApNum then n else maxApNum) = min n maxApNum := by
    split <;> omega
  simp only [jsonAccessPointsGenerateStrBuf, hchecked]
  generalize min n maxApNum = k at *
  have hloop : B.Takes (B.printf s (ascii "[")).2
      ((List.range k).flatMap fun i =>
        jsonAccessPointTexts (aps.getD i .zero) (i < k - 1)).flatten.length := by
    rw [range_flatMap hn]
    refine (printAll_takes [ascii "["] hB (h.mono ?_) :)
    simp only [jsonAccessPointsTexts, List.flatten_cons, List.flatten_append, List.length_append,
      List.flatten_nil, List.append_nil]
    omega
  rw [foldl_printAll hB (fun i => jsonAccessPointsPrint_eq hB _ _) _ hloop, range_flatMap hn,
    jsonAccessPointsTexts, printAll_cons, printAll_append]
  rfl

end Print

/-! ### Reading the text -/

section Read

variable {n k : ℕ} {rest t : Bytes}

/-- A member of an object, its name printed as a literal. -/
theorem readMember_literal {v : Json} {value : Bytes → Option (Json × Bytes)} (name : Bytes)
    (hvalue : value t = some (v, rest)) :
    readMember value (jsonStringLiteral name ++ 58 :: t) = some ((name, v), rest) := by
  have hname := readString_jsonStringLiteral name (58 :: t)
  rw [jsonStringLiteral_eq, List.cons_append] at hname ⊢
  exact readMember_string hname hvalue

theorem readValue_literal (s : Bytes) :
    readValue (n + 1) (jsonStringLiteral s ++ rest) = some (.str s, rest) := by
  have hread := readString_jsonStringLiteral s rest
  rw [jsonStringLiteral_eq, List.cons_append] at hread ⊢
  exact readValue_string hread

/-- An access point, without what separates it from the next one. -/
def accessPointText (ap : WifiApRecord) (rest : Bytes) : Bytes :=
  123 :: (jsonStringLiteral (ascii "ssid") ++ 58 :: (jsonStringLiteral ap.ssid.str ++
    44 :: (jsonStringLiteral (ascii "chan") ++ 58 :: (printInt ap.primary.toNat ++
    44 :: (jsonStringLiteral (ascii "rssi") ++ 58 :: (printInt ap.rssi ++
    44 :: (jsonStringLiteral (ascii "auth") ++ 58 :: (printInt ap.authmode ++
    125 :: rest))))))))

theorem jsonAccessPointTexts_flatten (ap : WifiApRecord) (more : Bool) :
    (jsonAccessPointTexts ap more).flatten ++ rest =
      accessPointText ap ((if more then [44] else []) ++ 10 :: rest) := by
  have hssid : ascii "\x7b\"ssid\":" = 123 :: (jsonStringLiteral (ascii "ssid") ++ [58]) := by
    decide
  have hchan : ascii ",\"chan\":" = 44 :: (jsonStringLiteral (ascii "chan") ++ [58]) := by decide
  have hrssi : ascii ",\"rssi\":" = 44 :: (jsonStringLiteral (ascii "rssi") ++ [58]) := by decide
  have hauth : ascii ",\"auth\":" = 44 :: (jsonStringLiteral (ascii "auth") ++ [58]) := by decide
  have hclose : ascii "\x7d" = [125] := by decide
  have hcomma : ascii "," = [44] := by decide
  have heol : ascii "\n" = [10] := by decide
  have hliteral : (jsonStringTexts ap.ssid.str).flatten = jsonStringLiteral ap.ssid.str := rfl
  have hnat : ∀ n : ℕ, printNat n = printInt n := fun _ => rfl
  unfold jsonAccessPointTexts accessPointText
  rw [hssid, hchan, hrssi, hauth, hclose, hcomma, heol, hnat, hnat]
  simp only [List.flatten_cons, List.flatten_append, List.flatten_nil, hliteral, List.append_nil,
    List.append_assoc, List.cons_append, List.nil_append]

theorem readValue_accessPoint (ap : WifiApRecord) :
    readValue (n + 2) (accessPointText ap rest) = some (accessPointJson ap, rest) := by
  have hcomma (t : Bytes) : skipSpaces (44 :: t) = 44 :: t := skipSpaces_cons (by decide)
  have hclose : skipSpaces (125 :: rest) = 125 :: rest := skipSpaces_cons (by decide)
  have hint (i : ℤ) {c : UInt8} (hc : isdigit c = false) (t : Bytes) :
      readValue (n + 1) (printInt i ++ c :: t) = some (.num i, c :: t) := readValue_int hc
  have hauth (k : ℕ) := readItems_last (n := k)
    (readMember_literal (ascii "auth") (hint ap.authmode (by decide) rest)) hclose
  have hrssi (k : ℕ) := readItems_more
    (readMember_literal (ascii "rssi") (hint ap.rssi (by decide) _)) (hcomma _) (by decide)
    (hauth k)
  have hchan (k : ℕ) := readItems_more
    (readMember_literal (ascii "chan") (hint ap.primary.toNat (by decide) _)) (hcomma _)
    (by decide) (hrssi k)
  have hssid (k : ℕ) := readItems_more
    (readMember_literal (ascii "ssid") (readValue_literal (n := n) ap.ssid.str)) (hcomma _)
    (by decide) (hchan k)
  have hname : jsonStringLiteral (ascii "ssid") = 34 :: ascii "ssid\"" := by decide
  unfold accessPointText accessPointJson
  rw [hname, List.cons_append] at hssid ⊢
  refine readValue_object ?_
  have hfive : (ascii "ssid\"").length = 5 := by decide
  rw [List.length_cons, List.length_append, hfive, Nat.add_comm 5]
  exact hssid _

/-- The text of a list of access points after its opening bracket. -/
def accessPointListText : List WifiApRecord → Bytes
  | [] => [93, 10]
  | ap :: aps =>
    accessPointText ap ((if aps.isEmpty then [] else [44]) ++ 10 :: accessPointListText aps)

theorem jsonAccessPointsTexts_flatten (aps : List WifiApRecord) :
    (jsonAccessPointsTexts aps).flatten = 91 :: accessPointListText aps := by
  have hopen : ascii "[" = [91] := by decide
  have hclose : ascii "]\n" = [93, 10] := by decide
  have hlist : (jsonAccessPointListTexts aps).flatten ++ [93, 10] = accessPointListText aps := by
    induction aps with
    | nil => rfl
    | cons ap aps ih =>
      rw [jsonAccessPointListTexts, List.flatten_append, List.append_assoc, ih,
        jsonAccessPointTexts_flatten, accessPointListText]
      cases aps <;> rfl
  simp [jsonAccessPointsTexts, hopen, hclose, ← hlist]

/-- Each access point is an item, and the last one is followed by the bracket. -/
theorem readItems_accessPointListText {aps : List WifiApRecord} (hne : aps ≠ [])
    (hk : aps.length ≤ k) :
    readItems (readValue (n + 2)) 93 k (accessPointListText aps) =
      some (aps.map accessPointJson, [10]) := by
  have hcomma (t : Bytes) : skipSpaces (44 :: t) = 44 :: t := skipSpaces_cons (by decide)
  have hclose : skipSpaces (10 :: accessPointListText []) = 93 :: [10] := by decide
  induction aps generalizing k with
  | nil => exact absurd rfl hne
  | cons ap aps ih =>
    cases k with
    | zero => simp at hk
    | succ k =>
      cases aps with
      | nil => exact readItems_last (readValue_accessPoint ap) hclose
      | cons ap' aps =>
        have hmore := ih (by simp) (by simpa using hk)
        rw [← readItems_congr (readValue_space (c := 10) (by decide))] at hmore
        exact readItems_more (readValue_accessPoint ap) (hcomma _) (by decide) hmore

theorem length_accessPointListText (aps : List WifiApRecord) :
    aps.length + 2 ≤ (accessPointListText aps).length := by
  induction aps with
  | nil => exact Nat.le_refl _
  | cons ap aps ih =>
    simp only [accessPointListText, accessPointText, List.length_cons, List.length_append]
    omega

/-- The whole text is an array of the access points. -/
theorem parse_accessPoints (aps : List WifiApRecord) :
    parse (91 :: accessPointListText aps) = some (.arr (aps.map accessPointJson)) := by
  have hread : readValue (91 :: accessPointListText aps).length (91 :: accessPointListText aps) =
      some (.arr (aps.map accessPointJson), [10]) := by
    have hlen := length_accessPointListText aps
    obtain ⟨n, hn⟩ : ∃ n, (accessPointListText aps).length = n + 2 :=
      ⟨(accessPointListText aps).length - 2, by omega⟩
    cases aps with
    | nil => exact readValue_array_nil
    | cons ap aps =>
      have hitems := readItems_accessPointListText (n := n) (List.cons_ne_nil ap aps)
        (Nat.le_of_add_right_le hlen)
      rw [List.length_cons, hn]
      exact readValue_array (by decide) (by decide) hitems
  have hrest : skipSpaces [10] = [] := by decide
  simp only [parse, hread, hrest, if_true]

end Read

/-- The records that the model of the manager has printed. -/
theorem jsonAccessPointsGenerate_records (aps : List WifiApRecord) (n : ℕ) :
    WifiManager.jsonAccessPointsGenerate aps n = aps.take (min n maxApNum) := by
  unfold WifiManager.jsonAccessPointsGenerate
  split <;> congr 1 <;> omega

/-- The text is exactly as long as it was measured, and it is a JSON array with an object for each
of the first `maxApNum` records, in their order. -/
theorem json_access_points_complete {σ : Type} (B : StrBuf.Ops σ) (hB : B.Lawful)
    (aps : List WifiApRecord) (n : ℕ) (hn : min n maxApNum ≤ aps.length) (strBuf : σ)
    (halloc : B.initWithAlloc (jsonAccessPointsGenerateStrBuf B B.null aps n) = some strBuf) :
    (B.text (jsonAccessPointsGenerate B aps n)).length =
        B.counted (jsonAccessPointsGenerateStrBuf B B.null aps n) ∧
      parse (B.text (jsonAccessPointsGenerate B aps n)) =
        some (.arr ((aps.take (min n maxApNum)).map accessPointJson)) := by
  have hmeasured := jsonAccessPointsGenerateStrBuf_eq hB hn (.inl hB.sizing_null)
  obtain ⟨hsizing, hcounted⟩ := printAll_counted hB hB.sizing_null
    (jsonAccessPointsTexts (aps.take (min n maxApNum)))
  rw [← hmeasured] at hsizing hcounted
  rw [hB.counted_null, Nat.zero_add] at hcounted
  obtain ⟨hfixed, hempty, hroom⟩ := hB.alloc hsizing halloc
  have hfits := hroom.trans hcounted
  have hwritten := jsonAccessPointsGenerateStrBuf_eq hB hn (.inr ⟨hfixed, hfits.ge⟩)
  have htext : B.text (jsonAccessPointsGenerate B aps n) =
      (jsonAccessPointsTexts (aps.take (min n maxApNum))).flatten := by
    simp only [jsonAccessPointsGenerate, halloc]
    rw [hwritten, (printAll_fits hB hfixed _ hfits.ge).text, hempty, List.nil_append]
  rw [htext, hcounted]
  exact ⟨rfl, by rw [jsonAccessPointsTexts_flatten, parse_accessPoints]⟩

/-- Two records, with a quote in the first name. -/
def sampleAccessPoints : List WifiApRecord :=
  [⟨.ofStr 33 (ascii "a\"b"), 6, -70, 0, []⟩, ⟨.ofStr 33 (ascii "c"), 11, -9, 3, []⟩]

theorem json_access_points_complete_two :
    (buffer.text (jsonAccessPointsGenerate buffer sampleAccessPoints 2)).length =
        buffer.counted (jsonAccessPointsGenerateStrBuf buffer buffer.null sampleAccessPoints 2) ∧
      parse (buffer.text (jsonAccessPointsGenerate buffer sampleAccessPoints 2)) =
        some (.arr ((sampleAccessPoints.take (min 2 maxApNum)).map accessPointJson)) :=
  json_access_points_complete buffer buffer_lawful sampleAccessPoints 2 (by decide)
    (.fixed 91 []) (by decide +kernel)

end JsonAccessPoints

end WifiManager
end Esp32WifiManager
