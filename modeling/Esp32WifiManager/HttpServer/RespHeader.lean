import Esp32WifiManager.HttpServer.AuthResponses
import Esp32WifiManager.HttpServer.RespFraming
import Esp32WifiManager.Lib.FieldLines

/-!
# The header of a response

The header of a response is a status line, header fields and an empty line,
where the content type has no parameter that leaves its line. The responses of
the server itself have no such parameter at all.
-/

namespace Esp32WifiManager
namespace Auth

open CString HttpReq FieldLines

/-- The responses that are sent with the extra header fields. -/
def HttpRespCode.carriesExtraFields : HttpRespCode → Bool
  | .c200 | .c206 | .c299 | .c301 | .c302 | .c401 | .c403 => true
  | .c400 | .c404 | .c409 | .c429 | .c500 | .c502 | .c503 | .c504 => false

/-- A status line, header fields with `extra` among them, and one empty line. -/
def IsHeaderBlock (extra header : Bytes) : Prop :=
  ∃ first before behind, Clean first ∧ IsFields before ∧ IsFields (before ++ extra ++ behind) ∧
    header = first ++ eol ++ (before ++ extra ++ behind) ++ eol

/-- The parameter of the content type stays in its line. -/
def CleanType (resp : HttpServerResp) : Prop := ∀ p ∈ resp.contentTypeParam, Clean p

/-- The content types of the application have such parameters. -/
structure CleanCallbacks (out : Outcomes) : Prop where
  get : ∀ fileName params lan, CleanType (out.cbOnHttpGet fileName params lan)
  post : ∀ fileName params body lan, CleanType (out.cbOnHttpPost fileName params body lan)
  delete : ∀ fileName params lan, CleanType (out.cbOnHttpDelete fileName params lan)

namespace RespHeader

/-! ### The responses of a request -/

section ContentType

variable {plat : Platform} {out : Outcomes} {s : HttpServerState}

theorem cleanType_none {resp : HttpServerResp} (h : resp.contentTypeParam = none) :
    CleanType resp := by
  intro p hp
  rw [h] at hp
  simp at hp

theorem cleanType_err (code : HttpRespCode) : CleanType (httpServerRespErr code) :=
  cleanType_none rfl

theorem cleanType_json (code : HttpRespCode) (json : Bytes) :
    CleanType (httpServerRespErrJsonInStaticMem code json) := cleanType_none rfl

theorem cleanType_200 (json : Bytes) : CleanType (httpServerResp200Json json) := cleanType_none rfl

theorem cleanTypes : HoldsOfStatic CleanType := ⟨cleanType_err, cleanType_json⟩

section Methods

variable (hcb : CleanCallbacks out) (param : HttpServerHandleReqParam)

include hcb

theorem cleanType_get (path : Bytes) :
    CleanType (httpServerHandleReqGet plat out path param s).1 := by
  have hserve (fileName : Bytes) : CleanType (httpServerHandleReqGetServe out fileName param) := by
    unfold httpServerHandleReqGetServe
    split_ifs
    · cases out.scanSync with
      | none => exact cleanType_err _
      | some json => exact cleanType_none rfl
    · cases out.statusJson with
      | none => exact cleanType_err _
      | some json => exact cleanType_200 _
    · exact hcb.get _ _ _
  unfold httpServerHandleReqGet
  generalize (if path = [] then ascii "index.html" else path) = fileName
  refine HoldsOfStatic.ite_prop (cleanTypes.getAuth _) ?_
  refine HoldsOfStatic.ite_prop ?_ (hserve _)
  refine HoldsOfStatic.ite_prop (HoldsOfStatic.ite_prop (cleanType_err _) (cleanType_err _)) ?_
  exact HoldsOfStatic.ite_prop (cleanTypes.checkAuth _ _) (hserve _)

theorem cleanType_getWithEcdhKey (path : Bytes) :
    CleanType (httpServerHandleReqGetWithEcdhKey plat out path param s).1 := by
  unfold httpServerHandleReqGetWithEcdhKey
  dsimp only
  cases httpReqHeaderGetField param.reqInfo.httpHeader (ascii "Ruuvi-Ecdh-Pub-Key:") with
  | none => exact cleanType_get hcb param path
  | some field =>
    dsimp only
    cases httpServerHandleRuuviEcdhPubKey out (field.value param.reqInfo.httpHeader) with
    | none => exact cleanType_err _
    | some pubKeySrv => exact cleanType_get hcb param path

theorem cleanType_delete (path : Bytes) :
    CleanType (httpServerHandleReqDelete plat out path param s).1 := by
  unfold httpServerHandleReqDelete
  refine HoldsOfStatic.ite_prop (cleanTypes.checkAuth _ _) ?_
  unfold httpServerHandleReqDeleteServe
  refine HoldsOfStatic.ite_prop (cleanTypes.deleteAuth _ _) ?_
  refine HoldsOfStatic.ite_prop (HoldsOfStatic.ite_prop (cleanType_err _) (cleanType_200 _)) ?_
  exact hcb.delete _ _ _

theorem cleanType_post (path httpBody : Bytes) :
    CleanType (httpServerHandleReqPost plat out path param httpBody s).1 := by
  have hserve : CleanType (httpServerHandleReqPostServe plat out path param httpBody) := by
    unfold httpServerHandleReqPostServe
    split_ifs
    · exact cleanType_err _
    · unfold httpServerHandleReqPostConnectJson
      rcases httpServerParseJsonWifiSsidPassword plat out httpBody with _ | ⟨_ | _, _ | _⟩
      · exact cleanType_err _
      · exact cleanType_200 _
      · exact cleanType_err _
      · exact cleanType_200 _
      · exact cleanType_200 _
    · exact cleanType_err _
    · exact cleanType_200 _
    · exact hcb.post _ _ _ _
  unfold httpServerHandleReqPost
  refine HoldsOfStatic.ite_prop (cleanTypes.postAuth _ _ _ _) ?_
  exact HoldsOfStatic.ite_prop (cleanTypes.checkAuth _ _) hserve

/-- The content type of every response is one line. -/
theorem cleanType_handleReq : CleanType (httpServerHandleReq plat out param s).1 := by
  unfold httpServerHandleReq
  refine HoldsOfStatic.ite_prop (cleanType_getWithEcdhKey hcb param _) ?_
  refine HoldsOfStatic.ite_prop (cleanType_delete hcb param _) ?_
  refine HoldsOfStatic.ite_prop ?_ (cleanType_err _)
  unfold httpServerHandleReqPostWithEcdhKey
  cases httpServerPostBody plat out param.reqInfo with
  | none => exact cleanType_err _
  | some httpBody => exact cleanType_post hcb param _ _

end Methods

end ContentType

/-! ### The header of a response -/

section Block

variable {resp : HttpServerResp} {code : HttpRespCode} {extra msg hostname date : Bytes}

theorem printUInt_clean (n : ℕ) : Clean (printUInt n) := by
  intro c hc
  obtain ⟨d, hd, rfl⟩ := List.mem_map.mp hc
  have hdigit := Nat.isDigit_of_mem_toDigits (by decide) (by decide) hd
  have hrange : 48 ≤ d.toNat ∧ d.toNat ≤ 57 := by
    simpa [Char.isDigit, UInt32.le_iff_toNat_le] using hdigit
  have hvalue : d.toNat.toUInt8.toNat = d.toNat := Nat.mod_eq_of_lt (by omega)
  refine ⟨fun h => ?_, fun h => ?_⟩
  · rw [h] at hvalue
    have : (13 : UInt8).toNat = 13 := rfl
    omega
  · rw [h] at hvalue
    have : (10 : UInt8).toNat = 10 := rfl
    omega

/-- One line, whatever it is printed from. -/
theorem isFields_line {t : Bytes} (name value : Bytes) (hname : 58 ∉ name ∧ name ≠ [] ∧ Clean name)
    (hvalue : Clean value) (ht : t = name ++ ascii ": " ++ value ++ ascii "\r\n") : IsFields t := by
  have hline : t = (name ++ 58 :: 32 :: value) ++ eol := by
    have hsep : ascii ": " = [58, 32] := by decide
    have heol : ascii "\r\n" = eol := by decide
    rw [ht, hsep, heol]
    simp
  rw [hline]
  exact isFields_one (isField_mk name value hname.2.1 hname.1 hname.2.2 hvalue)

theorem isFields_serverLine : IsFields serverLine :=
  isFields_line (ascii "Server") (ascii "Ruuvi Gateway") (by decide) (by decide) (by decide)

theorem isFields_date (hdate : Clean date) : IsFields (httpServerGenHeaderDateStr date) := by
  refine isFields_line (ascii "Date") (date ++ ascii " GMT") (by decide) ?_ ?_
  · exact clean_append.mpr ⟨hdate, by decide⟩
  · have hname : ascii "Date: " = ascii "Date" ++ ascii ": " := by decide
    have hend : ascii " GMT\r\n" = ascii " GMT" ++ ascii "\r\n" := by decide
    rw [httpServerGenHeaderDateStr, hname, hend]
    simp only [List.append_assoc]

theorem isFields_contentType (hparam : CleanType resp) :
    IsFields (contentTypeLine resp) := by
  have htype : Clean (httpGetContentTypeStr resp.contentType) := by
    cases resp.contentType <;> decide
  have hcharset : Clean (if httpContentTypeIsTextual resp.contentType then
      ascii "; charset=utf-8" else []) := by
    split_ifs <;> decide
  have hvalue : Clean (resp.contentTypeParam.getD []) := by
    cases hp : resp.contentTypeParam with
    | none => exact clean_nil
    | some p => exact hparam p hp
  have hname : ascii "Content-type: " = ascii "Content-type" ++ ascii ": " := by decide
  set use := resp.contentTypeParam.any fun p => !p.isEmpty with huse
  refine isFields_line (ascii "Content-type") (httpGetContentTypeStr resp.contentType ++
    (if httpContentTypeIsTextual resp.contentType then ascii "; charset=utf-8" else []) ++
    (if use then ascii "; " else []) ++ (if use then resp.contentTypeParam.getD [] else []))
    (by decide) ?_ ?_
  · simp only [clean_append]
    refine ⟨⟨⟨htype, hcharset⟩, ?_⟩, ?_⟩
    · split_ifs <;> decide
    · split_ifs
      · exact hvalue
      · exact clean_nil
  · rw [contentTypeLine, hname]
    simp only [List.append_assoc, huse]

theorem isFields_contentLen (n : ℕ) : IsFields (contentLenBuf n) := by
  unfold contentLenBuf
  split_ifs
  · refine isFields_line (ascii "Content-Length") (printUInt n) (by decide) (printUInt_clean n) ?_
    have hname : ascii "Content-Length: " = ascii "Content-Length" ++ ascii ": " := by decide
    rw [hname]
  · exact isFields_nil

theorem isFields_encoding : IsFields (httpGetContentEncodingStr resp) := by
  unfold httpGetContentEncodingStr
  cases resp.contentEncoding with
  | none => exact isFields_nil
  | gzip =>
    exact isFields_line (ascii "Content-Encoding") (ascii "gzip") (by decide) (by decide) (by decide)

theorem isFields_cacheControl : IsFields (httpGetCacheControlStr resp) := by
  unfold httpGetCacheControlStr
  split_ifs
  · refine isFields_append ?_ ?_
    · exact isFields_line (ascii "Cache-Control")
        (ascii "no-store, no-cache, must-revalidate, max-age=0") (by decide) (by decide)
        (by decide +kernel)
    · exact isFields_line (ascii "Pragma") (ascii "no-cache") (by decide) (by decide) (by decide)
  · exact isFields_nil

theorem statusLine_eq (code : HttpRespCode) (hmsg : Clean msg) :
    ∃ first, Clean first ∧ statusLine code msg = first ++ eol := by
  refine ⟨ascii "HTTP/1.0 " ++ printUInt code.number ++ ascii " " ++ msg, ?_, ?_⟩
  · simp only [clean_append]
    exact ⟨⟨⟨by decide, printUInt_clean _⟩, by decide⟩, hmsg⟩
  · have heol : ascii "\r\n" = eol := by decide
    rw [statusLine, heol]

theorem block_withContent (hextra : IsFields extra) (hmsg : Clean msg) (hdate : Clean date)
    (hparam : CleanType resp) :
    IsHeaderBlock extra (RespText.withContent resp extra code msg date).header := by
  obtain ⟨first, hfirst, hstatus⟩ := statusLine_eq code hmsg
  set before := serverLine ++ httpServerGenHeaderDateStr date ++ contentTypeLine resp ++
    contentLenBuf resp.contentLen with hbefore
  have hfields : IsFields before :=
    isFields_append (isFields_append (isFields_append isFields_serverLine (isFields_date hdate))
      (isFields_contentType hparam)) (isFields_contentLen _)
  refine ⟨first, before, httpGetContentEncodingStr resp ++ httpGetCacheControlStr resp, hfirst,
    hfields, ?_, ?_⟩
  · exact isFields_append (isFields_append hfields hextra)
      (isFields_append isFields_encoding isFields_cacheControl)
  · have heol : ascii "\r\n" = eol := by decide
    simp only [RespText.withContent, headerWithContent, hstatus, heol, hbefore, List.append_assoc]

theorem block_withoutContent (hmsg : Clean msg) :
    IsHeaderBlock [] (RespText.withoutContent code msg).header := by
  obtain ⟨first, hfirst, hstatus⟩ := statusLine_eq code hmsg
  have htype : IsFields (ascii "Content-type: " ++ httpGetContentTypeStr .applicationJson ++
      ascii "; charset=utf-8\r\n") :=
    isFields_line (ascii "Content-type") (ascii "application/json; charset=utf-8") (by decide)
      (by decide) (by decide +kernel)
  have hlen : IsFields (ascii "Content-Length: " ++ printUInt emptyJson.length ++ ascii "\r\n") :=
    isFields_line (ascii "Content-Length") (printUInt emptyJson.length) (by decide)
      (printUInt_clean _) (by decide +kernel)
  have hfields := isFields_append (isFields_append isFields_serverLine htype) hlen
  refine ⟨first, _, [], hfirst, hfields, ?_, ?_⟩
  · rwa [List.append_nil, List.append_nil]
  · have heol : ascii "\r\n" = eol := by decide
    simp only [RespText.withoutContent, headerWithoutContent, hstatus, heol, List.append_assoc,
      List.append_nil]

theorem block_authHtml (hextra : IsFields extra) (hmsg : Clean msg) (hhostname : Clean hostname) :
    IsHeaderBlock extra (RespText.authHtml extra code msg hostname).header := by
  obtain ⟨first, hfirst, hstatus⟩ := statusLine_eq code hmsg
  have hlocation : IsFields (ascii "Location: http://" ++ hostname ++ ascii "/#auth\r\n") := by
    refine isFields_line (ascii "Location") (ascii "http://" ++ hostname ++ ascii "/#auth")
      (by decide) ?_ ?_
    · simp only [clean_append]
      exact ⟨⟨by decide, hhostname⟩, by decide⟩
    · have hname : ascii "Location: http://" = ascii "Location" ++ (ascii ": " ++ ascii "http://") := by
        decide
      have hend : ascii "/#auth\r\n" = ascii "/#auth" ++ ascii "\r\n" := by decide
      rw [hname, hend]
      simp only [List.append_assoc]
  have hfields := isFields_append isFields_serverLine hlocation
  refine ⟨first, _, [], hfirst, hfields, ?_, ?_⟩
  · rw [List.append_nil]
    exact isFields_append hfields hextra
  · have heol : ascii "\r\n" = eol := by decide
    simp only [RespText.authHtml, headerAuthHtml, hstatus, heol, List.append_assoc, List.append_nil]

/-- The header of every response is a header block. -/
theorem block_ofResp (hextra : IsFields extra) (hdate : Clean date) (hhostname : Clean hostname)
    (hparam : CleanType resp) :
    IsHeaderBlock (if resp.httpRespCode.carriesExtraFields then extra else [])
      (RespText.ofResp resp extra hostname date).header := by
  have hwith {code : HttpRespCode} {msg : Bytes} (hmsg : Clean msg) :
      IsHeaderBlock extra (RespText.withContent resp extra code msg date).header :=
    block_withContent hextra hmsg hdate hparam
  have hcode {code : HttpRespCode} {msg : Bytes} (hmsg : Clean msg) :
      IsHeaderBlock [] (RespText.withCode resp code msg date).header := by
    unfold RespText.withCode
    split_ifs
    · exact block_withoutContent hmsg
    · exact block_withContent isFields_nil hmsg hdate hparam
  unfold RespText.ofResp
  cases resp.httpRespCode with
  | c200 | c206 | c299 | c401 | c403 => exact hwith (by decide)
  | c301 | c302 => exact block_authHtml hextra (by decide) hhostname
  | c400 | c404 | c409 | c429 | c500 | c502 | c503 | c504 => exact hcode (by decide)

end Block

end RespHeader

end Auth
end Esp32WifiManager
