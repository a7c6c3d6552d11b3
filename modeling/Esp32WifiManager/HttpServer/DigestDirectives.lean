import Esp32WifiManager.HttpServer.AuthRuuvi

/-!
# The directives of a digest header

Every directive is searched in the header as a whole. What is read of it is the
text between the first place where the directive's search text stands and the
next end mark: the directive itself when nothing before it looks like it.
-/

namespace Esp32WifiManager
namespace Auth

open CString HttpReq

inductive DigestField
  | username | realm | nonce | uri | qop | nc | cnonce | response | opaqueStr
  deriving DecidableEq, Repr

namespace DigestField

def all : List DigestField :=
  [username, realm, nonce, uri, qop, nc, cnonce, response, opaqueStr]

/-- The text that is searched. -/
def searchText : DigestField → Bytes
  | username => ascii "username=\""
  | realm => ascii "realm=\""
  | nonce => ascii "nonce=\""
  | uri => ascii "uri=\""
  | qop => ascii "qop="
  | nc => ascii "nc="
  | cnonce => ascii "cnonce=\""
  | response => ascii "response=\""
  | opaqueStr => ascii "opaque=\""

def Quoted (f : DigestField) : Prop := f ≠ qop ∧ f ≠ nc

instance (f : DigestField) : Decidable f.Quoted := inferInstanceAs (Decidable (_ ∧ _))

/-- The byte that ends what is read. -/
def endMark (f : DigestField) : UInt8 := if f.Quoted then 34 else 44

def bufSize : DigestField → ℕ
  | username => 65
  | realm => 65
  | nonce => 81
  | uri => 65
  | qop => 33
  | nc => 17
  | cnonce => 33
  | response => 65
  | opaqueStr => 81

end DigestField

/-- The field of the parsed header. -/
def HttpServerAuthDigestReq.get (req : HttpServerAuthDigestReq) :
    (f : DigestField) → CharBuf f.bufSize
  | .username => req.username
  | .realm => req.realm
  | .nonce => req.nonce
  | .uri => req.uri
  | .qop => req.qop
  | .nc => req.nc
  | .cnonce => req.cnonce
  | .response => req.response
  | .opaqueStr => req.opaqueStr

/-- Every directive once, in some order, with a value that fits its buffer. -/
structure DigestHeader where
  order : List DigestField
  value : DigestField → Bytes
  once : order.Perm DigestField.all
  value_bytes : ∀ f, ∀ c ∈ value f, c ≠ 34 ∧ c ≠ 0
  token_bytes : ∀ f, ¬ f.Quoted → value f ≠ [] ∧ ∀ c ∈ value f, c ≠ 44
  fits : ∀ f, (value f).length < f.bufSize

namespace DigestHeader

variable (h : DigestHeader)

def directive (f : DigestField) : Bytes :=
  f.searchText ++ (h.value f ++ if f.Quoted then [34] else [])

def text : Bytes := ascii "Digest " ++ (ascii ", ").intercalate (h.order.map h.directive)

/-- The first directive in which the search text of `f` stands. -/
def firstMention (f : DigestField) : Option DigestField :=
  h.order.find? fun g => (strstr (h.directive g) f.searchText).isSome

/-- Behind the first place where the search text stands come the value and its end mark. -/
def ReadsValue (f : DigestField) : Prop :=
  ∃ i, strstr h.text f.searchText = some i ∧
    h.value f ++ [f.endMark] <+: h.text.drop (i + f.searchText.length)

/-- No directive before it looks like it, and it ends with a mark of its own or with a comma; or
what stands behind a place in an earlier directive is the value all the same. -/
def Found (f : DigestField) : Prop :=
  (h.firstMention f = some f ∧ (f.Quoted ∨ h.order.getLast? ≠ some f)) ∨
    (h.firstMention f ≠ some f ∧ h.ReadsValue f)

end DigestHeader

/-! ### One token -/

section Token

variable {n : ℕ} {s t pre v : Bytes} {e : UInt8} {buf : CharBuf n} {i : ℕ}

/-- The token that is read behind the first place of its prefix. -/
theorem httpServerParseToken_found (hne : pre ≠ []) (hfind : strstr s pre = some i)
    (hlt : i + pre.length < s.length) :
    httpServerParseToken (s ++ t) s.length pre [e] buf =
      (strchr (s.drop (i + pre.length)) e).bind fun k =>
        if k ≥ n then none
        else some (Vector.ofFn fun j =>
          if j.1 < k then ((s.drop (i + pre.length)).take k).getD j 0
          else if j.1 = k then 0 else buf[j]) := by
  have hrest : (s ++ t).drop (i + pre.length) = s.drop (i + pre.length) ++ t :=
    List.drop_append_of_le_length hlt.le
  have hlen : sizeSub s.length (i + pre.length) = (s.drop (i + pre.length)).length := by
    rw [sizeSub, if_pos hlt.le, List.length_drop]
  have hpos : [e].length ≤ (s.drop (i + pre.length)).length := by
    rw [List.length_singleton, List.length_drop]
    omega
  have hend : httpServerStrnstr ((s ++ t).drop (i + pre.length)) [e]
      (sizeSub s.length (i + pre.length)) = strchr (s.drop (i + pre.length)) e := by
    rw [hrest, hlen, httpServerStrnstr_eq_strstr _ t (by simp) hpos, strstr_singleton]
  rw [httpServerParseToken, httpServerStrnstr_eq_strstr s t hne (by omega), hfind]
  simp only [hend]
  cases hk : strchr (s.drop (i + pre.length)) e with
  | none => rfl
  | some k =>
    have hkle : k ≤ (s.drop (i + pre.length)).length := (lt_of_strchr hk).le
    simp only [Option.bind_some, hrest, List.take_append_of_le_length hkle]

/-- The token is `v` just when `v` and its end mark stand behind the first place of the prefix. -/
theorem httpServerParseToken_iff (hne : pre ≠ []) (hfind : strstr s pre = some i)
    (hlt : i + pre.length < s.length) (hnul : 0 ∉ s) (hv : e ∉ v) (hfit : v.length < n) :
    (∃ b, httpServerParseToken (s ++ t) s.length pre [e] buf = some b ∧ b.str = v) ↔
      v ++ [e] <+: s.drop (i + pre.length) := by
  rw [httpServerParseToken_found hne hfind hlt, ← strchr_prefix_iff hv]
  cases hk : strchr (s.drop (i + pre.length)) e with
  | none => simp
  | some k =>
    have hkle : k ≤ (s.drop (i + pre.length)).length := (lt_of_strchr hk).le
    have hlen : ((s.drop (i + pre.length)).take k).length = k := by
      rw [List.length_take, min_eq_left hkle]
    simp only [Option.bind_some, Option.some.injEq, exists_eq_left']
    rcases Nat.lt_or_ge k n with hkn | hkn
    · have hstr : CharBuf.str (n := n) (Vector.ofFn fun j =>
          if j.1 < k then ((s.drop (i + pre.length)).take k).getD j 0
          else if j.1 = k then 0 else buf[j]) = (s.drop (i + pre.length)).take k := by
        apply CharBuf.str_eq_of_get
        · intro h0
          exact hnul (List.drop_subset _ _ (List.take_subset _ _ h0))
        · intro j hj
          have hjk : j < k := hlen ▸ hj
          rw [Vector.getElem_ofFn, if_pos hjk, List.getD_eq_getElem?_getD,
            List.getElem?_eq_getElem hj]
          rfl
        · simp [hlen]
        · omega
      rw [if_neg (by omega)]
      simp only [Option.some.injEq, exists_eq_left', hstr]
    · rw [if_pos hkn]
      simp only [reduceCtorEq, false_and, exists_const, false_iff]
      rintro rfl
      omega

end Token

/-! ### The header -/

theorem mem_intercalate (sep : Bytes) {x : Bytes} {l : List Bytes} (hx : x ∈ l) :
    ∃ before behind, sep.intercalate l = before ++ (x ++ behind) := by
  induction l with
  | nil => simp at hx
  | cons y l ih =>
    cases l with
    | nil => exact ⟨[], [], by simpa using (List.mem_singleton.mp hx).symm⟩
    | cons z l =>
      rw [List.intercalate_cons_cons]
      rcases List.mem_cons.mp hx with rfl | hx
      · exact ⟨[], sep ++ sep.intercalate (z :: l), by simp⟩
      · obtain ⟨before, behind, heq⟩ := ih hx
        exact ⟨y ++ sep ++ before, behind, by simp [heq]⟩

theorem notMem_intercalate {sep : Bytes} {l : List Bytes} {c : UInt8} (hsep : c ∉ sep)
    (hl : ∀ x ∈ l, c ∉ x) : c ∉ sep.intercalate l := by
  induction l with
  | nil => simp
  | cons y l ih =>
    cases l with
    | nil => simpa using hl
    | cons z l =>
      rw [List.intercalate_cons_cons]
      have hrest := ih fun x hx => hl x (List.mem_cons_of_mem y hx)
      simp only [List.mem_append, not_or]
      exact ⟨⟨hl y (by simp), hsep⟩, hrest⟩

namespace DigestHeader

variable (h : DigestHeader)

theorem mem_order (f : DigestField) : f ∈ h.order := by
  rw [h.once.mem_iff]
  cases f <;> decide

theorem searchText_ne_nil (f : DigestField) : f.searchText ≠ [] := by
  cases f <;> decide

theorem nul_notMem_text : 0 ∉ h.text := by
  have hdirective : ∀ f, (0 : UInt8) ∉ h.directive f := by
    intro f
    have hsearch : (0 : UInt8) ∉ f.searchText := by cases f <;> decide
    have hvalue : (0 : UInt8) ∉ h.value f := fun hmem => (h.value_bytes f 0 hmem).2 rfl
    unfold directive
    split <;> simp [hsearch, hvalue]
  simp only [text, List.mem_append, not_or]
  refine ⟨by decide, notMem_intercalate (by decide) ?_⟩
  intro x hx
  obtain ⟨f, -, rfl⟩ := List.mem_map.mp hx
  exact hdirective f

/-- The directive itself is a place where its search text stands, and the header goes on
behind it. -/
theorem exists_occurs (f : DigestField) :
    ∃ i, Occurs f.searchText h.text i ∧ i + f.searchText.length < h.text.length := by
  obtain ⟨before, behind, heq⟩ := mem_intercalate (ascii ", ")
    (List.mem_map_of_mem (f := h.directive) (h.mem_order f))
  have hne : h.value f ++ (if f.Quoted then [34] else []) ≠ [] := by
    split
    · simp
    · rename_i hquoted
      simpa using (h.token_bytes f hquoted).1
  have hsplit : h.text = (ascii "Digest " ++ before) ++ (f.searchText ++
      ((h.value f ++ if f.Quoted then [34] else []) ++ behind)) := by
    rw [text, heq, directive]
    simp
  refine ⟨(ascii "Digest " ++ before).length, ?_, ?_⟩
  · rw [Occurs, hsplit, List.drop_left]
    exact List.prefix_append _ _
  · have hpos := List.length_pos_iff.mpr hne
    have hlen := congrArg List.length hsplit
    simp only [List.length_append] at hpos hlen ⊢
    omega

/-- So the first place is not behind it. -/
theorem exists_strstr (f : DigestField) : ∃ i, strstr h.text f.searchText = some i ∧
    i + f.searchText.length < h.text.length := by
  obtain ⟨j, hocc, hj⟩ := h.exists_occurs f
  cases hfind : strstr h.text f.searchText with
  | none => exact absurd hocc (strstr_eq_none.mp hfind j (by omega))
  | some i =>
    refine ⟨i, rfl, ?_⟩
    have hle : i ≤ j := by
      by_contra hlt
      exact (strstr_eq_some.mp hfind).2.2 j (by omega) hocc
    omega

theorem endMark_notMem (f : DigestField) : f.endMark ∉ h.value f := by
  unfold DigestField.endMark
  split
  · exact fun hmem => (h.value_bytes f 34 hmem).1 rfl
  · rename_i hquoted
    exact fun hmem => (h.token_bytes f hquoted).2 44 hmem rfl

theorem parseToken_iff (f : DigestField) (t : Bytes) (buf : CharBuf f.bufSize) :
    (∃ b, httpServerParseToken (h.text ++ t) h.text.length f.searchText [f.endMark] buf = some b ∧
      b.str = h.value f) ↔ h.ReadsValue f := by
  obtain ⟨i, hfind, hlt⟩ := h.exists_strstr f
  rw [httpServerParseToken_iff (searchText_ne_nil f) hfind hlt h.nul_notMem_text
    (h.endMark_notMem f) (h.fits f), ReadsValue, hfind]
  simp

/-! ### The first place -/

theorem comma_notMem_searchText (f : DigestField) :
    44 ∉ f.searchText ∧ 32 ∉ f.searchText ∧ strstr (ascii "Digest") f.searchText = none := by
  cases f <;> decide +kernel

/-- The search passes the directives in which nothing is found. -/
theorem strstr_lead {f : DigestField} (l : List Bytes)
    (hl : ∀ x ∈ l, strstr x f.searchText = none) (t : Bytes) :
    strstr (l.flatMap (· ++ ascii ", ") ++ t) f.searchText =
      (strstr t f.searchText).map ((l.flatMap (· ++ ascii ", ")).length + ·) := by
  obtain ⟨hcomma, hspace, -⟩ := comma_notMem_searchText f
  have hsep : ascii ", " = [44, 32] := by decide
  induction l with
  | nil => simp
  | cons x l ih =>
    have hsplit : (x :: l).flatMap (· ++ ascii ", ") ++ t =
        x ++ 44 :: (32 :: (l.flatMap (· ++ ascii ", ") ++ t)) := by
      simp [hsep]
    have hpass : ¬ f.searchText <+: 32 :: (l.flatMap (· ++ ascii ", ") ++ t) := fun hpre =>
      searchText_ne_nil f (List.prefix_nil.mp ((prefix_append_cons_iff hspace [] _).mp hpre))
    rw [hsplit, strstr_append_cons hcomma (searchText_ne_nil f), hl x (by simp), Option.none_or,
      strstr_cons hpass, ih fun y hy => hl y (by simp [hy]), Option.map_map, Option.map_map]
    congr 1
    funext i
    simp only [Function.comp_apply, List.flatMap_cons, hsep, List.length_append, List.length_cons,
      List.length_nil]
    omega

theorem intercalate_append_cons (sep : Bytes) (l : List Bytes) (x : Bytes) (l' : List Bytes) :
    sep.intercalate (l ++ x :: l') = l.flatMap (· ++ sep) ++ sep.intercalate (x :: l') := by
  induction l with
  | nil => rfl
  | cons y l ih =>
    rw [List.cons_append, List.intercalate_cons_of_ne_nil (by simp), ih]
    simp

/-- A directive that is the first to look like itself gives its value, when it is not a token at
the end of the header. -/
theorem readsValue_iff {f : DigestField} (hfirst : h.firstMention f = some f) :
    h.ReadsValue f ↔ f.Quoted ∨ h.order.getLast? ≠ some f := by
  obtain ⟨-, before, behind, horder, hbefore⟩ := List.find?_eq_some_iff_append.mp hfirst
  obtain ⟨-, hspace, hdigest⟩ := comma_notMem_searchText f
  have hnone : ∀ x ∈ before.map h.directive, strstr x f.searchText = none := by
    intro x hx
    obtain ⟨g, hg, rfl⟩ := List.mem_map.mp hx
    simpa using hbefore g hg
  obtain ⟨rest, hrest, hnil⟩ : ∃ rest, (ascii ", ").intercalate
      (h.directive f :: behind.map h.directive) = h.directive f ++ rest ∧
        ([44] <+: rest ↔ behind ≠ []) := by
    cases behind with
    | nil => exact ⟨[], by simp, by simp⟩
    | cons g behind =>
      refine ⟨_, List.intercalate_cons_of_ne_nil (by simp) |>.trans (List.append_assoc _ _ _), ?_⟩
      have hsep : ascii ", " = [44, 32] := by decide
      simp [hsep]
  have htext : h.text = ascii "Digest" ++
      32 :: ((before.map h.directive).flatMap (· ++ ascii ", ") ++
        (f.searchText ++ (h.value f ++ ((if f.Quoted then [34] else []) ++ rest)))) := by
    have hdigest : ascii "Digest " = ascii "Digest" ++ [32] := by decide
    rw [text, horder, List.map_append, List.map_cons, intercalate_append_cons, hrest, hdigest,
      directive]
    simp
  have hfind : strstr h.text f.searchText =
      some ((ascii "Digest").length + 1 +
        ((before.map h.directive).flatMap (· ++ ascii ", ")).length) := by
    rw [htext, strstr_append_cons hspace (searchText_ne_nil f), hdigest, strstr_lead _ hnone,
      strstr_of_isPrefix (List.prefix_append _ _)]
    rfl
  have hdrop : h.text.drop ((ascii "Digest").length + 1 +
      ((before.map h.directive).flatMap (· ++ ascii ", ")).length + f.searchText.length) =
      h.value f ++ ((if f.Quoted then [34] else []) ++ rest) := by
    rw [htext, List.append_cons, ← List.append_assoc, ← List.append_assoc, List.drop_left']
    simp only [List.length_append, List.length_singleton]
  have hlast : h.order.getLast? ≠ some f ↔ behind ≠ [] := by
    have hnodup : h.order.Nodup := h.once.nodup_iff.mpr (by decide)
    rw [horder, List.nodup_append, List.nodup_cons] at hnodup
    rw [horder, List.getLast?_append_cons]
    cases behind with
    | nil => simp
    | cons g behind =>
      rw [List.getLast?_cons_cons]
      refine iff_of_true (fun heq => ?_) (by simp)
      exact hnodup.2.1.1 (List.mem_of_getLast? heq)
  rw [ReadsValue, hfind]
  simp only [Option.some.injEq, exists_eq_left', hdrop, List.prefix_append_right_inj, hlast,
    DigestField.endMark]
  by_cases hquoted : f.Quoted
  · simp [hquoted]
  · simpa [hquoted] using hnil

end DigestHeader

/-! ### The nine directives -/

/-- The header is parsed into these values just when each of them is what is read as a token. -/
theorem httpServerParseDigestAuthorizationStr_iff {authorization : Bytes} {len : ℕ}
    (req : HttpServerAuthDigestReq) (value : DigestField → Bytes)
    (hdigest : strncmpEq authorization (ascii "Digest ") (ascii "Digest ").length = true) :
    ((httpServerParseDigestAuthorizationStr authorization len req).1 = true ∧
      ∀ f, ((httpServerParseDigestAuthorizationStr authorization len req).2.get f).str = value f) ↔
    ∀ f, ∃ b, httpServerParseToken authorization len f.searchText [f.endMark] (req.get f) = some b ∧
      b.str = value f := by
  have hquote : ascii "\"" = [34] := by decide
  have hcomma : ascii "," = [44] := by decide
  have hfail (f : DigestField) (req' : HttpServerAuthDigestReq)
      (hf : httpServerParseToken authorization len f.searchText [f.endMark] (req.get f) = none) :
      ((false, req').1 = true ∧ ∀ f, (req'.get f).str = value f) ↔
        ∀ f, ∃ b, httpServerParseToken authorization len f.searchText [f.endMark] (req.get f) =
          some b ∧ b.str = value f := by
    constructor
    · rintro ⟨hfalse, -⟩
      exact absurd hfalse (by simp)
    · intro h
      obtain ⟨b, hb, -⟩ := h f
      exact absurd (hf.symm.trans hb) (by simp)
  rw [httpServerParseDigestAuthorizationStr, if_neg (by simp [hdigest])]
  simp only [hquote, hcomma]
  cases husername :
      httpServerParseToken authorization len (ascii "username=\"") [34] req.username with
  | none => exact hfail .username _ husername
  | some username =>
  cases hrealm : httpServerParseToken authorization len (ascii "realm=\"") [34] req.realm with
  | none => exact hfail .realm _ hrealm
  | some realm =>
  cases hnonce : httpServerParseToken authorization len (ascii "nonce=\"") [34] req.nonce with
  | none => exact hfail .nonce _ hnonce
  | some nonce =>
  cases huri : httpServerParseToken authorization len (ascii "uri=\"") [34] req.uri with
  | none => exact hfail .uri _ huri
  | some uri =>
  cases hqop : httpServerParseToken authorization len (ascii "qop=") [44] req.qop with
  | none => exact hfail .qop _ hqop
  | some qop =>
  cases hnc : httpServerParseToken authorization len (ascii "nc=") [44] req.nc with
  | none => exact hfail .nc _ hnc
  | some nc =>
  cases hcnonce : httpServerParseToken authorization len (ascii "cnonce=\"") [34] req.cnonce with
  | none => exact hfail .cnonce _ hcnonce
  | some cnonce =>
  cases hresponse :
      httpServerParseToken authorization len (ascii "response=\"") [34] req.response with
  | none => exact hfail .response _ hresponse
  | some response =>
  cases hopaqueStr :
      httpServerParseToken authorization len (ascii "opaque=\"") [34] req.opaqueStr with
  | none => exact hfail .opaqueStr _ hopaqueStr
  | some opaqueStr =>
  constructor
  · rintro ⟨-, hvalue⟩ f
    cases f with
    | username => exact ⟨username, husername, hvalue .username⟩
    | realm => exact ⟨realm, hrealm, hvalue .realm⟩
    | nonce => exact ⟨nonce, hnonce, hvalue .nonce⟩
    | uri => exact ⟨uri, huri, hvalue .uri⟩
    | qop => exact ⟨qop, hqop, hvalue .qop⟩
    | nc => exact ⟨nc, hnc, hvalue .nc⟩
    | cnonce => exact ⟨cnonce, hcnonce, hvalue .cnonce⟩
    | response => exact ⟨response, hresponse, hvalue .response⟩
    | opaqueStr => exact ⟨opaqueStr, hopaqueStr, hvalue .opaqueStr⟩
  · intro h
    refine ⟨rfl, fun f => ?_⟩
    obtain ⟨b, hb, hvalue⟩ := h f
    cases f with
    | username => exact Option.some.inj (husername.symm.trans hb) ▸ hvalue
    | realm => exact Option.some.inj (hrealm.symm.trans hb) ▸ hvalue
    | nonce => exact Option.some.inj (hnonce.symm.trans hb) ▸ hvalue
    | uri => exact Option.some.inj (huri.symm.trans hb) ▸ hvalue
    | qop => exact Option.some.inj (hqop.symm.trans hb) ▸ hvalue
    | nc => exact Option.some.inj (hnc.symm.trans hb) ▸ hvalue
    | cnonce => exact Option.some.inj (hcnonce.symm.trans hb) ▸ hvalue
    | response => exact Option.some.inj (hresponse.symm.trans hb) ▸ hvalue
    | opaqueStr => exact Option.some.inj (hopaqueStr.symm.trans hb) ▸ hvalue

theorem DigestHeader.found_iff (h : DigestHeader) (f : DigestField) :
    h.Found f ↔ h.ReadsValue f := by
  unfold DigestHeader.Found
  by_cases hfirst : h.firstMention f = some f
  · simp [hfirst, h.readsValue_iff hfirst]
  · simp [hfirst]

/-- Every field of the parsed header is the value of its directive just when each directive is
found. -/
theorem digest_directives (h : DigestHeader) (t : Bytes) (req : HttpServerAuthDigestReq) :
    ((httpServerParseDigestAuthorizationStr (h.text ++ t) h.text.length req).1 = true ∧
      ∀ f, ((httpServerParseDigestAuthorizationStr (h.text ++ t) h.text.length req).2.get f).str =
        h.value f) ↔
    ∀ f, h.Found f := by
  have hdigest : strncmpEq (h.text ++ t) (ascii "Digest ") (ascii "Digest ").length = true := by
    rw [strncmpEq_iff, List.take_length, DigestHeader.text, List.append_assoc, List.take_left]
  rw [httpServerParseDigestAuthorizationStr_iff req h.value hdigest]
  exact forall_congr' fun f => (h.parseToken_iff f t (req.get f)).trans (h.found_iff f).symm

/-- The client's nonce stands before the server's. -/
def cnonceFirst : DigestHeader where
  order := [.username, .realm, .cnonce, .nonce, .uri, .qop, .nc, .response, .opaqueStr]
  value := fun f => if f = .cnonce then ascii "client" else ascii "server"
  once := by decide
  value_bytes := by
    intro f
    cases f <;> decide
  token_bytes := by
    intro f
    cases f <;> decide
  fits := by
    intro f
    cases f <;> decide

def emptyDigestReq : HttpServerAuthDigestReq :=
  ⟨.zero 65, .zero 65, .zero 81, .zero 65, .zero 65, .zero 81, .zero 33, .zero 17, .zero 33⟩

theorem digest_nonce_in_cnonce :
    ((httpServerParseDigestAuthorizationStr cnonceFirst.text cnonceFirst.text.length
      emptyDigestReq).2.get .nonce).str = ascii "client" ∧
    cnonceFirst.value .nonce = ascii "server" ∧
    ¬ ∀ (h : DigestHeader) (t : Bytes) (req : HttpServerAuthDigestReq),
      (httpServerParseDigestAuthorizationStr (h.text ++ t) h.text.length req).1 = true ∧
        ∀ f, ((httpServerParseDigestAuthorizationStr (h.text ++ t) h.text.length req).2.get f).str =
          h.value f := by
  have hread : ((httpServerParseDigestAuthorizationStr cnonceFirst.text cnonceFirst.text.length
      emptyDigestReq).2.get .nonce).str = ascii "client" := by decide +kernel
  have hvalue : cnonceFirst.value .nonce = ascii "server" := by decide
  refine ⟨hread, hvalue, ?_⟩
  intro h
  have hnonce := (h cnonceFirst [] emptyDigestReq).2 .nonce
  rw [List.append_nil, hread, hvalue] at hnonce
  exact absurd hnonce (by decide)

end Auth
end Esp32WifiManager
