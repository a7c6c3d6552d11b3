import Esp32WifiManager.Lib.CString

/-!
# Parsing a request

`http_req_parse` cuts the request into strings in place: it overwrites the byte
behind each part with a terminator and returns pointers into the buffer, which
are offsets here. The separators of the body and of the header are overwritten
before the request line is searched.
-/

namespace Esp32WifiManager
namespace HttpReq

open CString

/-- `http_req_info_t`; `NULL` is `none`. -/
structure HttpReqInfoPtrs where
  isSuccess : Bool
  httpCmd : Option ℕ
  httpUri : Option ℕ
  httpUriParams : Option ℕ
  httpVer : Option ℕ
  httpHeader : Option ℕ
  httpBody : Option ℕ

def crlf : Bytes := [13, 10]

def lf : Bytes := [10]

/-- The buffer with the header cut off from the body, and the body. -/
def httpReqFindBody (m : Bytes) : Option (Bytes × ℕ) :=
  match strstr (text m) (crlf ++ crlf) with
  | some i => some (m.set (i + crlf.length) 0, i + (crlf ++ crlf).length)
  | none =>
    match strstr (text m) (lf ++ lf) with
    | some i => some (m.set (i + lf.length) 0, i + (lf ++ lf).length)
    | none => none

/-- The buffer with the request line cut off from the header, and the header. -/
def httpReqFindHeader (m : Bytes) : Bytes × ℕ :=
  match strstr (text m) crlf with
  | some i => (m.set i 0, i + crlf.length)
  | none =>
    match strstr (text m) lf with
    | some i => (m.set i 0, i + lf.length)
    | none => (m, (text m).length)

/-- The request line, cut at its first two spaces and at the first `?` of the uri. -/
def httpReqParseLine (m : Bytes) (header body : ℕ) : Bytes × HttpReqInfoPtrs :=
  match strchr (text m) 32 with
  | none => (m, ⟨false, some 0, none, none, none, some header, some body⟩)
  | some i =>
    let m := m.set i 0
    let uri := i + 1
    match strchr (strAt m uri) 32 with
    | none => (m, ⟨false, some 0, some uri, none, none, some header, some body⟩)
    | some j =>
      let m := m.set (uri + j) 0
      let ver := uri + j + 1
      match strchr (strAt m uri) 63 with
      | none => (m, ⟨true, some 0, some uri, none, some ver, some header, some body⟩)
      | some k =>
        (m.set (uri + k) 0,
          ⟨true, some 0, some uri, some (uri + k + 1), some ver, some header, some body⟩)

def httpReqParse (m : Bytes) : Bytes × HttpReqInfoPtrs :=
  match httpReqFindBody m with
  | none => (m, ⟨false, none, none, none, none, none, none⟩)
  | some (m, body) =>
    let (m, header) := httpReqFindHeader m
    httpReqParseLine m header body

/-! ### Requests -/

/-- The parts of a request, each without the bytes that end it. -/
structure HttpRequest where
  cmd : Bytes
  path : Bytes
  params : Option Bytes
  ver : Bytes
  lines : List Bytes
  body : Bytes
  cmd_bytes : ∀ c ∈ cmd, c ≠ 32 ∧ c ∉ crlf ∧ c ≠ 0
  path_bytes : ∀ c ∈ path, c ≠ 63 ∧ c ≠ 32 ∧ c ∉ crlf ∧ c ≠ 0
  params_bytes : ∀ s ∈ params, ∀ c ∈ s, c ≠ 32 ∧ c ∉ crlf ∧ c ≠ 0
  ver_bytes : ∀ c ∈ ver, c ∉ crlf ∧ c ≠ 0
  lines_bytes : ∀ l ∈ lines, l ≠ [] ∧ ∀ c ∈ l, c ∉ crlf ∧ c ≠ 0
  body_bytes : ∀ c ∈ body, c ≠ 0

namespace HttpRequest

variable (r : HttpRequest)

def uri : Bytes :=
  match r.params with
  | none => r.path
  | some params => r.path ++ 63 :: params

def requestLine : Bytes := r.cmd ++ 32 :: (r.uri ++ 32 :: r.ver)

/-- Every header line with its line end. -/
def headerBlock (eol : Bytes) : Bytes := r.lines.flatMap (· ++ eol)

def serialize (eol : Bytes) : Bytes :=
  r.requestLine ++ (eol ++ (r.headerBlock eol ++ (eol ++ r.body)))

theorem uri_bytes : ∀ c ∈ r.uri, c ≠ 32 ∧ c ∉ crlf ∧ c ≠ 0 := by
  intro c hc
  unfold uri at hc
  cases hparams : r.params with
  | none =>
    simp only [hparams] at hc
    exact (r.path_bytes c hc).2
  | some params =>
    simp only [hparams, List.mem_append, List.mem_cons] at hc
    rcases hc with hpath | rfl | hquery
    · exact (r.path_bytes c hpath).2
    · decide
    · exact r.params_bytes params (by simp [hparams]) c hquery

theorem requestLine_bytes : ∀ c ∈ r.requestLine, c ∉ crlf ∧ c ≠ 0 := by
  intro c hc
  simp only [requestLine, List.mem_append, List.mem_cons] at hc
  rcases hc with hcmd | rfl | huri | rfl | hver
  · exact (r.cmd_bytes c hcmd).2
  · decide
  · exact (r.uri_bytes c huri).2
  · decide
  · exact r.ver_bytes c hver

end HttpRequest

/-! ### The end of the header -/

section FindBody

variable {eol : Bytes}

theorem lineEnd_bytes (heol : eol = crlf ∨ eol = lf) : ∀ c ∈ eol, c ∈ crlf ∧ c ≠ 0 := by
  rcases heol with rfl | rfl <;> decide

theorem lineEnd_cons (heol : eol = crlf ∨ eol = lf) : ∃ e eol', eol = e :: eol' := by
  rcases heol with rfl | rfl <;> exact ⟨_, _, rfl⟩

/-- A line end that is not followed by another is passed. -/
theorem strstr_eol_append (heol : eol = crlf ∨ eol = lf) {x : UInt8} (hx : x ∉ crlf) (t : Bytes) :
    strstr (eol ++ x :: t) (eol ++ eol) =
      (strstr (x :: t) (eol ++ eol)).map (eol.length + ·) := by
  have h13 : x ≠ 13 := by
    rintro rfl
    exact hx (by decide)
  have h10 : x ≠ 10 := by
    rintro rfl
    exact hx (by decide)
  rcases heol with rfl | rfl
  · change strstr (13 :: 10 :: x :: t) [13, 10, 13, 10] = _
    rw [strstr_cons (by simp [List.cons_prefix_cons, h13.symm]),
      strstr_cons (by simp [List.cons_prefix_cons]), Option.map_map]
    congr 1
    funext i
    exact Nat.add_comm i 2
  · change strstr (10 :: x :: t) [10, 10] = _
    rw [strstr_cons (by simp [List.cons_prefix_cons, h10.symm])]
    congr 1
    funext i
    exact Nat.add_comm i 1

/-- Header lines do not start with a line end, so the first empty line is the one behind them. -/
theorem strstr_headerBlock (heol : eol = crlf ∨ eol = lf) (lines : List Bytes)
    (hlines : ∀ l ∈ lines, l ≠ [] ∧ ∀ c ∈ l, c ∉ crlf ∧ c ≠ 0) (t : Bytes) :
    strstr (eol ++ (lines.flatMap (· ++ eol) ++ (eol ++ t))) (eol ++ eol) =
      some (lines.flatMap (· ++ eol)).length := by
  obtain ⟨e, eol', hcons⟩ := lineEnd_cons heol
  have he : e ∈ crlf := (lineEnd_bytes heol e (by simp [hcons])).1
  induction lines with
  | nil =>
    apply strstr_of_isPrefix
    rw [List.flatMap_nil, List.nil_append, ← List.append_assoc]
    exact List.prefix_append _ _
  | cons l lines ih =>
    obtain ⟨⟨hne, hl⟩, hrest⟩ := List.forall_mem_cons.mp hlines
    obtain ⟨x, l', rfl⟩ := List.exists_cons_of_ne_nil hne
    have hnotMem : e ∉ x :: l' := fun h => (hl e h).1 he
    have hpass (s : Bytes) : strstr (x :: l' ++ s) (eol ++ eol) =
        (strstr s (eol ++ eol)).map ((x :: l').length + ·) := by
      rw [hcons, List.cons_append]
      exact strstr_append_of_notMem hnotMem _ s
    have hassoc : eol ++ (((x :: l') :: lines).flatMap (· ++ eol) ++ (eol ++ t)) =
        eol ++ (x :: (l' ++ (eol ++ (lines.flatMap (· ++ eol) ++ (eol ++ t))))) := by
      simp
    rw [hassoc, strstr_eol_append heol (hl x (by simp)).1, ← List.cons_append, hpass, ih hrest]
    simp only [Option.map_some, List.flatMap_cons, List.length_append, List.length_cons,
      Option.some.injEq]
    omega

variable {r : HttpRequest}

theorem headerBlock_bytes (heol : eol = crlf ∨ eol = lf) : ∀ c ∈ r.headerBlock eol, c ≠ 0 := by
  intro c hc
  obtain ⟨l, hl, hmem⟩ := List.mem_flatMap.mp hc
  rcases List.mem_append.mp hmem with hmem | hmem
  · exact ((r.lines_bytes l hl).2 c hmem).2
  · exact (lineEnd_bytes heol c hmem).2

theorem text_serialize (heol : eol = crlf ∨ eol = lf) (t : Bytes) :
    text (r.serialize eol ++ 0 :: t) = r.serialize eol := by
  rw [text_append_nul]
  apply text_eq_self
  simp only [HttpRequest.serialize, List.mem_append, not_or]
  exact ⟨fun h => (r.requestLine_bytes 0 h).2 rfl, fun h => (lineEnd_bytes heol 0 h).2 rfl,
    fun h => headerBlock_bytes heol 0 h rfl, fun h => (lineEnd_bytes heol 0 h).2 rfl,
    fun h => r.body_bytes 0 h rfl⟩

/-- The search passes the request line. -/
theorem strstr_requestLine (heol : eol = crlf ∨ eol = lf) (needle t : Bytes) :
    strstr (r.requestLine ++ t) (eol ++ needle) =
      (strstr t (eol ++ needle)).map (r.requestLine.length + ·) := by
  obtain ⟨e, eol', rfl⟩ := lineEnd_cons heol
  apply strstr_append_of_notMem
  intro h
  exact (r.requestLine_bytes e h).1 (lineEnd_bytes heol e (by simp)).1

theorem strstr_serialize (heol : eol = crlf ∨ eol = lf) :
    strstr (r.serialize eol) (eol ++ eol) =
      some (r.requestLine.length + (r.headerBlock eol).length) := by
  rw [HttpRequest.serialize, strstr_requestLine heol, HttpRequest.headerBlock,
    strstr_headerBlock heol r.lines r.lines_bytes]
  rfl

/-- The buffer once the body is found. -/
def withoutBody (r : HttpRequest) (eol rest : Bytes) : Bytes :=
  r.requestLine ++ (eol ++ (r.headerBlock eol ++ 0 :: (eol.tail ++ (r.body ++ 0 :: rest))))

theorem set_withoutBody (heol : eol = crlf ∨ eol = lf) (rest : Bytes) :
    (r.serialize eol ++ 0 :: rest).set
      (r.requestLine.length + (r.headerBlock eol).length + eol.length) 0 =
      withoutBody r eol rest := by
  obtain ⟨e, eol', rfl⟩ := lineEnd_cons heol
  have hassoc : r.serialize (e :: eol') ++ 0 :: rest =
      (r.requestLine ++ ((e :: eol') ++ r.headerBlock (e :: eol'))) ++
        e :: (eol' ++ (r.body ++ 0 :: rest)) := by
    simp [HttpRequest.serialize]
  rw [hassoc, set_append_cons (by simp only [List.length_append]; omega)]
  simp [withoutBody]

theorem httpReqFindBody_serialize (heol : eol = crlf ∨ eol = lf ∧ 13 ∉ r.serialize lf)
    (rest : Bytes) : httpReqFindBody (r.serialize eol ++ 0 :: rest) =
      some (withoutBody r eol rest,
        r.requestLine.length + (r.headerBlock eol).length + (eol ++ eol).length) := by
  rcases heol with rfl | ⟨rfl, hcr⟩
  · rw [httpReqFindBody, text_serialize (.inl rfl), strstr_serialize (.inl rfl)]
    simp only [set_withoutBody (.inl rfl)]
  · rw [httpReqFindBody, text_serialize (.inr rfl), strstr_serialize (.inr rfl),
      strstr_eq_none_of_notMem (c := 13) (by decide) hcr]
    simp only [set_withoutBody (.inr rfl)]

end FindBody

/-! ### The header -/

section FindHeader

variable {eol : Bytes} {r : HttpRequest}

/-- The buffer once the header is found. -/
def withoutHeader (r : HttpRequest) (eol rest : Bytes) : Bytes :=
  r.requestLine ++
    0 :: (eol.tail ++ (r.headerBlock eol ++ 0 :: (eol.tail ++ (r.body ++ 0 :: rest))))

theorem httpReqFindHeader_serialize (heol : eol = crlf ∨ eol = lf ∧ 13 ∉ r.serialize lf)
    (rest : Bytes) : httpReqFindHeader (withoutBody r eol rest) =
      (withoutHeader r eol rest, r.requestLine.length + eol.length) := by
  have hends : eol = crlf ∨ eol = lf := heol.imp_right And.left
  have htext : text (withoutBody r eol rest) = r.requestLine ++ (eol ++ r.headerBlock eol) := by
    have hassoc : withoutBody r eol rest = (r.requestLine ++ (eol ++ r.headerBlock eol)) ++
        0 :: (eol.tail ++ (r.body ++ 0 :: rest)) := by
      simp [withoutBody]
    rw [hassoc, text_append_nul]
    apply text_eq_self
    simp only [List.mem_append, not_or]
    exact ⟨fun h => (r.requestLine_bytes 0 h).2 rfl, fun h => (lineEnd_bytes hends 0 h).2 rfl,
      fun h => headerBlock_bytes hends 0 h rfl⟩
  have hfind : strstr (r.requestLine ++ (eol ++ r.headerBlock eol)) eol =
      some r.requestLine.length := by
    have := strstr_requestLine (r := r) hends [] (eol ++ r.headerBlock eol)
    rw [List.append_nil, strstr_of_isPrefix (List.prefix_append _ _)] at this
    exact this
  have hset : (withoutBody r eol rest).set r.requestLine.length 0 = withoutHeader r eol rest := by
    obtain ⟨e, eol', rfl⟩ := lineEnd_cons hends
    exact set_append_cons rfl e _
  rcases heol with rfl | ⟨rfl, hcr⟩
  · simp only [httpReqFindHeader, htext, hfind, hset]
  · have hnone : strstr (r.requestLine ++ (lf ++ r.headerBlock lf)) crlf = none := by
      apply strstr_eq_none_of_notMem (c := 13) (by decide)
      intro h
      apply hcr
      simp only [HttpRequest.serialize, List.mem_append] at h ⊢
      tauto
    simp only [httpReqFindHeader, htext, hnone, hfind, hset]

end FindHeader

/-! ### The request line -/

theorem strAt_of_eq {m s w t : Bytes} {i : ℕ} (hm : m = s ++ (w ++ 0 :: t)) (hi : s.length = i)
    (hw : (0 : UInt8) ∉ w) : strAt m i = w := by
  rw [hm]
  exact strAt_append hi w t hw

/-- The string behind a byte that is cut. -/
theorem strAt_behind (s w t : Bytes) (hw : (0 : UInt8) ∉ w) (c : UInt8) :
    strAt (s ++ c :: (w ++ 0 :: t)) (s.length + 1) = w := by
  rw [List.append_cons]
  exact strAt_append (by simp) w t hw

/-- The next cut is behind that string. -/
theorem set_behind (s w t : Bytes) (c : UInt8) :
    (s ++ 0 :: (w ++ c :: t)).set (s.length + 1 + w.length) 0 = s ++ 0 :: (w ++ 0 :: t) := by
  have hassoc : s ++ 0 :: (w ++ c :: t) = (s ++ 0 :: w) ++ c :: t := by simp
  rw [hassoc, set_append_cons (by simp only [List.length_append, List.length_cons]; omega)]
  simp

def cutUri (r : HttpRequest) : Bytes :=
  match r.params with
  | none => r.path
  | some params => r.path ++ 0 :: params

/-- The request line once it is cut. -/
def cutLine (r : HttpRequest) : Bytes := r.cmd ++ 0 :: (cutUri r ++ 0 :: r.ver)

theorem length_cutUri (r : HttpRequest) : (cutUri r).length = r.uri.length := by
  unfold cutUri HttpRequest.uri
  cases r.params <;> simp

theorem length_cutLine (r : HttpRequest) : (cutLine r).length = r.requestLine.length := by
  simp [cutLine, HttpRequest.requestLine, length_cutUri]

theorem httpReqParseLine_requestLine (r : HttpRequest) (t : Bytes) (header body : ℕ) :
    httpReqParseLine (r.requestLine ++ 0 :: t) header body =
      (cutLine r ++ 0 :: t, ⟨true, some 0, some (r.cmd.length + 1),
        r.params.map fun _ => r.cmd.length + 1 + r.path.length + 1,
        some (r.cmd.length + 1 + r.uri.length + 1), some header, some body⟩) := by
  have htext : text (r.requestLine ++ 0 :: t) = r.requestLine := by
    rw [text_append_nul]
    exact text_eq_self fun h => (r.requestLine_bytes 0 h).2 rfl
  have hcmd : strchr r.requestLine 32 = some r.cmd.length :=
    strchr_append_cons (fun h => (r.cmd_bytes 32 h).1 rfl) _
  have hcut : (r.requestLine ++ 0 :: t).set r.cmd.length 0 =
      r.cmd ++ 0 :: (r.uri ++ 32 :: (r.ver ++ 0 :: t)) := by
    have hassoc : r.requestLine ++ 0 :: t = r.cmd ++ 32 :: (r.uri ++ 32 :: (r.ver ++ 0 :: t)) := by
      simp [HttpRequest.requestLine]
    rw [hassoc, set_append_cons rfl]
  have hnul : (0 : UInt8) ∉ r.uri ++ 32 :: r.ver := by
    simp only [List.mem_append, List.mem_cons, not_or]
    exact ⟨fun h => (r.uri_bytes 0 h).2.2 rfl, by decide, fun h => (r.ver_bytes 0 h).2 rfl⟩
  have hrest : strAt (r.cmd ++ 0 :: (r.uri ++ 32 :: (r.ver ++ 0 :: t))) (r.cmd.length + 1) =
      r.uri ++ 32 :: r.ver := by
    have := strAt_behind r.cmd (r.uri ++ 32 :: r.ver) t hnul 0
    simpa using this
  have huri : strchr (r.uri ++ 32 :: r.ver) 32 = some r.uri.length :=
    strchr_append_cons (fun h => (r.uri_bytes 32 h).1 rfl) _
  have huriStr : strAt (r.cmd ++ 0 :: (r.uri ++ 0 :: (r.ver ++ 0 :: t))) (r.cmd.length + 1) =
      r.uri :=
    strAt_behind r.cmd r.uri _ (fun h => (r.uri_bytes 0 h).2.2 rfl) 0
  have hpath : (63 : UInt8) ∉ r.path := fun h => (r.path_bytes 63 h).1 rfl
  unfold httpReqParseLine
  simp only [htext, hcmd, hcut, hrest, huri, set_behind, huriStr]
  cases hparams : r.params with
  | none =>
    have huriPath : r.uri = r.path := by simp [HttpRequest.uri, hparams]
    rw [huriPath, strchr_eq_none hpath]
    simp [cutLine, cutUri, hparams]
  | some params =>
    have huriPath : r.uri = r.path ++ 63 :: params := by simp [HttpRequest.uri, hparams]
    rw [huriPath, strchr_append_cons hpath]
    simp only [List.append_assoc, List.cons_append, set_behind]
    simp [cutLine, cutUri, hparams]

/-- A request in which a terminator follows is parsed into the parts it was made of. -/
theorem http_req_parse_serialize (r : HttpRequest) {eol : Bytes}
    (heol : eol = crlf ∨ eol = lf ∧ 13 ∉ r.serialize lf) (rest : Bytes) :
    let m := (httpReqParse (r.serialize eol ++ 0 :: rest)).1
    let info := (httpReqParse (r.serialize eol ++ 0 :: rest)).2
    info.isSuccess = true ∧ info.httpCmd.map (strAt m) = some r.cmd ∧
      info.httpUri.map (strAt m) = some r.path ∧ info.httpUriParams.map (strAt m) = r.params ∧
      info.httpVer.map (strAt m) = some r.ver ∧
      info.httpHeader.map (strAt m) = some (r.headerBlock eol) ∧
      info.httpBody.map (strAt m) = some r.body := by
  have hends : eol = crlf ∨ eol = lf := heol.imp_right And.left
  have hparse : httpReqParse (r.serialize eol ++ 0 :: rest) =
      httpReqParseLine (withoutHeader r eol rest) (r.requestLine.length + eol.length)
        (r.requestLine.length + (r.headerBlock eol).length + (eol ++ eol).length) := by
    rw [httpReqParse, httpReqFindBody_serialize heol]
    simp only [httpReqFindHeader_serialize heol]
  obtain ⟨e, eol', rfl⟩ := lineEnd_cons hends
  rw [hparse, withoutHeader, httpReqParseLine_requestLine]
  simp only [Option.map_some, Option.some.injEq, Option.map_map, List.tail_cons, true_and]
  set afterVer := eol' ++ (r.headerBlock (e :: eol') ++ 0 :: (eol' ++ (r.body ++ 0 :: rest)))
    with hafterVer
  have hparamsRead (params : Bytes) (h : r.params = some params) :
      strAt (cutLine r ++ 0 :: afterVer) (r.cmd.length + 1 + r.path.length + 1) = params := by
    have hnul : (0 : UInt8) ∉ params := fun hmem =>
      (r.params_bytes params (by simp [h]) 0 hmem).2.2 rfl
    exact strAt_of_eq (s := r.cmd ++ 0 :: (r.path ++ [0])) (t := r.ver ++ 0 :: afterVer)
      (by simp [cutLine, cutUri, h]) (by simp; omega) hnul
  refine ⟨?_, ?_, ?_, ?_, ?_, ?_⟩
  · exact strAt_of_eq (s := []) (t := cutUri r ++ 0 :: (r.ver ++ 0 :: afterVer))
      (by simp [cutLine]) rfl fun h => (r.cmd_bytes 0 h).2.2 rfl
  · cases hparams : r.params with
    | none =>
      exact strAt_of_eq (s := r.cmd ++ [0]) (t := r.ver ++ 0 :: afterVer)
        (by simp [cutLine, cutUri, hparams]) (by simp) fun h => (r.path_bytes 0 h).2.2.2 rfl
    | some params =>
      exact strAt_of_eq (s := r.cmd ++ [0]) (t := params ++ 0 :: (r.ver ++ 0 :: afterVer))
        (by simp [cutLine, cutUri, hparams]) (by simp) fun h => (r.path_bytes 0 h).2.2.2 rfl
  · cases hparams : r.params with
    | none => rfl
    | some params => exact congrArg some (hparamsRead params hparams)
  · exact strAt_of_eq (s := r.cmd ++ 0 :: (cutUri r ++ [0])) (t := afterVer)
      (by simp [cutLine]) (by simp [length_cutUri]; omega) fun h => (r.ver_bytes 0 h).2 rfl
  · exact strAt_of_eq (s := cutLine r ++ 0 :: eol') (t := eol' ++ (r.body ++ 0 :: rest))
      (by simp [hafterVer]) (by simp [length_cutLine]) fun h => headerBlock_bytes hends 0 h rfl
  · exact strAt_of_eq (t := rest)
      (s := cutLine r ++ 0 :: (eol' ++ (r.headerBlock (e :: eol') ++ 0 :: eol')))
      (by simp [hafterVer]) (by simp [length_cutLine]; omega) fun h => r.body_bytes 0 h rfl

def connectTest : HttpRequest where
  cmd := ascii "GET"
  path := ascii "/connecttest.txt"
  params := some (ascii "n=1605859162338")
  ver := ascii "HTTP/1.1"
  lines := [ascii "Host: www.msftconnecttest.com", ascii "Connection: keep-alive"]
  body := ascii "body"
  cmd_bytes := by decide
  path_bytes := by decide
  params_bytes := by decide
  ver_bytes := by decide
  lines_bytes := by decide
  body_bytes := by decide

theorem http_req_parse_serialize_lf :
    let m := (httpReqParse (connectTest.serialize lf ++ [0])).1
    let info := (httpReqParse (connectTest.serialize lf ++ [0])).2
    info.isSuccess = true ∧ info.httpCmd.map (strAt m) = some connectTest.cmd ∧
      info.httpUri.map (strAt m) = some connectTest.path ∧
      info.httpUriParams.map (strAt m) = connectTest.params ∧
      info.httpVer.map (strAt m) = some connectTest.ver ∧
      info.httpHeader.map (strAt m) = some (connectTest.headerBlock lf) ∧
      info.httpBody.map (strAt m) = some connectTest.body :=
  http_req_parse_serialize connectTest (.inr ⟨rfl, by decide⟩) []

end HttpReq
end Esp32WifiManager
