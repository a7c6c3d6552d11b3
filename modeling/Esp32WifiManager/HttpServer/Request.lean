import Esp32WifiManager.HttpServer.HandleConn

/-!
# Well-formed requests

A header block ends at its only `CRLFCRLF`; its body is as long as the one
`Content-Length` of the block says, or empty when the block has none. What the
receiving code reads off such a block does not depend on the bytes behind it.
-/

namespace Esp32WifiManager
namespace HandleConn

open CString HttpReq

/-- The end of the header and the declared length, as the code finds them in a block. -/
def declaredLen (mem : Bytes) : Option (ℕ × ℕ) := do
  let headerLen ← getHttpBody mem
  let field ← httpReqHeaderGetField (mem.take headerLen) (ascii "Content-Length:")
  some (headerLen, strtoul (mem.drop field.ptr))

structure HeaderBlock (h : Bytes) : Prop where
  nulFree : (0 : UInt8) ∉ h
  ends : headerEnd <:+ h
  unique : ∀ i, Occurs headerEnd h i → i + headerEnd.length = h.length

/-- `Content-Length:` stands at offset `i`, letter case ignored. -/
def ContentLengthAt (h : Bytes) (i : ℕ) : Prop :=
  Occurs ((ascii "Content-Length:").map tolower) (h.map tolower) i

def isBlank (c : UInt8) : Bool := c = 32 ∨ c = 9

/-- The header has one `Content-Length` line, and its value is the decimal number `n`. -/
def DeclaresLength (h : Bytes) (n : ℕ) : Prop :=
  ∃ pre name blanks digits trailing post,
    h = pre ++ name ++ blanks ++ digits ++ trailing ++ lineEnd ++ post ∧
    (pre = [] ∨ lineEnd <:+ pre) ∧
    name.map tolower = (ascii "Content-Length:").map tolower ∧
    (∀ c ∈ blanks, isBlank c = true) ∧
    digits ≠ [] ∧ (∀ c ∈ digits, isdigit c = true) ∧ decimalValue digits = n ∧
    (∀ c ∈ trailing, isBlank c = true) ∧
    ∀ i, ContentLengthAt h i → i = pre.length

/-- A header block with a body of the declared length, or without either. -/
structure Request (h b : Bytes) : Prop where
  header : HeaderBlock h
  bodyNulFree : (0 : UInt8) ∉ b
  framing : (DeclaresLength h b.length ∧ b.length ≤ httpServerMaxEncryptedContentSize) ∨
    ((∀ i, ¬ ContentLengthAt h i) ∧ b = [])

/-! ### The end of the header -/

section HeaderEnd

variable {h : Bytes}

theorem HeaderBlock.length_pos (hh : HeaderBlock h) : 0 < h.length := by
  have hlen : headerEnd.length = 4 := rfl
  have := hh.ends.length_le
  omega

theorem HeaderBlock.strstr_eq (hh : HeaderBlock h) :
    strstr h headerEnd = some (h.length - headerEnd.length) := by
  obtain ⟨pre, hpre⟩ := hh.ends
  have hlen : h.length - headerEnd.length = pre.length := by simp [← hpre]
  rw [hlen]
  refine strstr_eq_some.mpr ⟨by simp [← hpre], ?_, ?_⟩
  · rw [Occurs, ← hpre, List.drop_left]
  · intro j hj hocc
    have := hh.unique j hocc
    simp only [← hpre, List.length_append] at this
    omega

/-- The end of the header is found whatever follows it. -/
theorem HeaderBlock.getHttpBody_append (hh : HeaderBlock h) (t : Bytes) :
    getHttpBody (h ++ t) = some h.length := by
  have hle := hh.ends.length_le
  rw [getHttpBody, text_append hh.nulFree, strstr_append hh.strstr_eq, Option.map_some,
    Nat.sub_add_cancel hle]

/-- It is not found before all of the header is there. -/
theorem HeaderBlock.getHttpBody_of_isPrefix (hh : HeaderBlock h) {v : Bytes} (hv : v <+: h)
    (hlt : v.length < h.length) (pad : Bytes) : getHttpBody (v ++ 0 :: pad) = none := by
  have hnul : (0 : UInt8) ∉ v := fun hmem => hh.nulFree (hv.subset hmem)
  rw [getHttpBody, text_append_nul, text_eq_self hnul, Option.map_eq_none_iff, strstr_eq_none]
  intro i hi hocc
  obtain ⟨t, rfl⟩ := hv
  have hend := hh.unique i (hocc.append hi t)
  have hin := hocc.length_le hi
  omega

end HeaderEnd

/-! ### The declared length -/

theorem isBlank_isspace {c : UInt8} (h : isBlank c = true) : isspace c = true := by
  simp only [isBlank, decide_eq_true_eq] at h
  rcases h with rfl | rfl <;> rfl

theorem isBlank_notMem_lineEnd {c : UInt8} (h : isBlank c = true) : c ∉ lineEnd := by
  simp only [isBlank, decide_eq_true_eq] at h
  rcases h with rfl | rfl <;> decide

theorem isdigit_notMem_lineEnd {c : UInt8} (h : isdigit c = true) : c ∉ lineEnd := by
  intro hc
  have : c = 13 ∨ c = 10 := by simpa [lineEnd, ascii] using hc
  rcases this with rfl | rfl <;> exact absurd h (by decide)

/-- The number behind white space is read, whatever its first other byte is followed by. -/
theorem strtoul_blank {ws : Bytes} (hws : ∀ c ∈ ws, isspace c = true) (s : Bytes) :
    strtoul (ws ++ s) = strtoul s := by
  have : (ws ++ s).dropWhile isspace = s.dropWhile isspace := List.dropWhile_append_of_pos hws
  rw [strtoul, strtoul, this]

theorem DeclaresLength.field {h : Bytes} {n : ℕ} (hd : DeclaresLength h n) (hn : n ≤ ulongMax) :
    ∃ field, httpReqHeaderGetField h (ascii "Content-Length:") = some field ∧
      ∀ t, strtoul ((h ++ t).drop field.ptr) = n := by
  obtain ⟨pre, name, blanks, digits, trailing, post, hh, -, hname, hblanks, hne, hdigits, hvalue,
    htrailing, honce⟩ := hd
  have hlen : name.length = (ascii "Content-Length:").length := by
    simpa using congrArg List.length hname
  obtain ⟨d, ds, rfl⟩ := List.exists_cons_of_ne_nil hne
  set spaces := blanks.takeWhile (· = 32) with hspaces
  set tabs := blanks.dropWhile (· = 32) with htabs
  have hsplit : spaces ++ tabs = blanks := List.takeWhile_append_dropWhile
  have hspace : ∀ c ∈ spaces, c = 32 := by
    intro c hc
    have := List.mem_takeWhile_imp hc
    exact of_decide_eq_true this
  have hblankTabs : ∀ c ∈ tabs, isBlank c = true := fun c hc =>
    hblanks c (hsplit ▸ List.mem_append_right spaces hc)
  have hshape : h = pre ++ name ++ spaces ++ (tabs ++ (d :: ds) ++ trailing) ++ lineEnd ++ post := by
    rw [hh, ← hsplit]
    simp
  have hfound : strcasestr h (ascii "Content-Length:") = some pre.length := by
    refine strstr_eq_some.mpr ⟨by rw [hh]; simp, ?_, ?_⟩
    · rw [Occurs, hh]
      simp [← hname]
    · intro j hj hocc
      have := honce j hocc
      omega
  have hclean : ∀ c ∈ tabs ++ (d :: ds) ++ trailing, c ∉ lineEnd := by
    intro c hc
    rcases List.mem_append.mp hc with hc | hc
    · rcases List.mem_append.mp hc with hc | hc
      · exact isBlank_notMem_lineEnd (hblankTabs c hc)
      · exact isdigit_notMem_lineEnd (hdigits c hc)
    · exact isBlank_notMem_lineEnd (htrailing c hc)
  have hhead : (tabs ++ (d :: ds) ++ trailing).head?.all (fun c => c ≠ 32 ∧ c ≠ 34) = true := by
    cases htab : tabs with
    | nil =>
      have hd := hdigits d List.mem_cons_self
      have h32 : d ≠ 32 := by rintro rfl; exact absurd hd (by decide)
      have h34 : d ≠ 34 := by rintro rfl; exact absurd hd (by decide)
      simp [h32, h34]
    | cons c cs =>
      have h32 : c ≠ 32 := by
        have := List.head?_dropWhile_not (fun c : UInt8 => decide (c = 32)) blanks
        rw [← htabs, htab] at this
        simpa using this
      have h34 : c ≠ 34 := by
        rintro rfl
        exact absurd (hblankTabs 34 (by simp [htab])) (by decide)
      simp [h32, h34]
  refine ⟨⟨pre.length + name.length + spaces.length, (tabs ++ (d :: ds) ++ trailing).length⟩, ?_, ?_⟩
  · rw [hshape] at hfound ⊢
    exact httpReqHeaderGetField_line hfound hlen
      hspace hclean hhead
  · intro t
    have hnext : ∃ c rest, trailing ++ lineEnd ++ post ++ t = c :: rest ∧ isdigit c = false := by
      cases htr : trailing with
      | nil => exact ⟨13, 10 :: (post ++ t), by simp [lineEnd, ascii], by decide⟩
      | cons c cs =>
        refine ⟨c, cs ++ lineEnd ++ post ++ t, by simp, ?_⟩
        have hb := htrailing c (by simp [htr])
        cases hdg : isdigit c with
        | false => rfl
        | true =>
          have hsp := isdigit_not_isspace hdg
          rw [isBlank_isspace hb] at hsp
          exact absurd hsp (by decide)
    obtain ⟨c, rest, hrest, hc⟩ := hnext
    have hdrop : (h ++ t).drop (pre.length + name.length + spaces.length) =
        tabs ++ ((d :: ds) ++ c :: rest) := by
      rw [← hrest, hshape]
      have : pre ++ name ++ spaces ++ (tabs ++ (d :: ds) ++ trailing) ++ lineEnd ++ post ++ t =
          (pre ++ name ++ spaces) ++ (tabs ++ ((d :: ds) ++ (trailing ++ lineEnd ++ post ++ t))) := by
        simp
      rw [this, List.drop_left' (by simp [Nat.add_assoc])]
    rw [hdrop, strtoul_blank (fun c hc => isBlank_isspace (hblankTabs c hc)),
      strtoul_digits hdigits hne hc rest (hvalue ▸ hn), hvalue]

theorem httpReqHeaderGetField_of_none {h : Bytes} (hnone : ∀ i, ¬ ContentLengthAt h i) :
    httpReqHeaderGetField h (ascii "Content-Length:") = none :=
  httpReqHeaderGetField_eq_none (strstr_eq_none.mpr fun i _ => hnone i)

/-! ### A small request -/

def postHeader : Bytes := ascii "POST /auth HTTP/1.1\r\nContent-Length: 2\r\n\r\n"

def postBody : Bytes := ascii "{}"

theorem postHeader_block : HeaderBlock postHeader where
  nulFree := by decide
  ends := by decide
  unique := by
    intro i hi
    have hlt := hi.lt_length (by decide)
    have hall : ∀ i < postHeader.length, headerEnd.isPrefixOf (postHeader.drop i) = true →
        i + headerEnd.length = postHeader.length := by decide +kernel
    exact hall i hlt (List.isPrefixOf_iff_prefix.mpr hi)

theorem postHeader_declares : DeclaresLength postHeader 2 := by
  refine ⟨ascii "POST /auth HTTP/1.1\r\n", ascii "Content-Length:", ascii " ", ascii "2", [],
    ascii "\r\n", by decide, by decide, by decide, by decide +kernel, by decide,
    by decide +kernel, by decide, by decide +kernel, ?_⟩
  intro i hi
  have hlt := hi.lt_length (by decide)
  have hall : ∀ i < (postHeader.map tolower).length,
      ((ascii "Content-Length:").map tolower).isPrefixOf ((postHeader.map tolower).drop i) = true →
        i = (ascii "POST /auth HTTP/1.1\r\n").length := by decide +kernel
  exact hall i hlt (List.isPrefixOf_iff_prefix.mpr hi)

theorem postRequest : Request postHeader postBody where
  header := postHeader_block
  bodyNulFree := by decide
  framing := Or.inl ⟨postHeader_declares, by decide⟩

end HandleConn
end Esp32WifiManager
