import Mathlib.Data.Finset.Option
import Esp32WifiManager.HttpServer.AuthResponses
import Esp32WifiManager.HttpServer.NetconnResp
import Esp32WifiManager.Lib.ResourceTrace

/-!
# What a response owns

A response is handed on by value, and with it a heap buffer, an open file or a
JSON generator. The handlers and the functions that send a response are run here
together with the acquisitions, uses and releases of these.
-/

namespace Esp32WifiManager
namespace Auth
namespace RespResources

open CString HttpReq ResourceTrace

/-- Who has made a response: the check of the authentication, the handler proper, or the failed key
exchange. -/
inductive RespMaker
  | authCheck
  | handler
  | keyExchange
  deriving DecidableEq, Repr

abbrev RespResource := RespMaker × HttpContentLocation

abbrev RespTrace := List (ResourceTrace.Event RespResource)

structure MadeResp where
  maker : RespMaker
  resp : HttpServerResp

/-- The heap buffer, the file or the generator of a response. -/
def MadeResp.resource (m : MadeResp) : Option RespResource :=
  match m.resp.contentLocation with
  | .noContent | .flashMem | .staticMem => none
  | .heap | .fatfs | .jsonGenerator => some (m.maker, m.resp.contentLocation)

/-- With the response its maker has acquired what it owns. -/
def MadeResp.acquired (m : MadeResp) : RespTrace := m.resource.toList.map .acquire

def httpServerRespFree (m : MadeResp) : RespTrace :=
  match m.resp.contentLocation with
  | .noContent => []
  | .flashMem => []
  | .staticMem => []
  | .heap => [.release (m.maker, .heap)]
  | .fatfs => [.release (m.maker, .fatfs)]
  | .jsonGenerator => [.release (m.maker, .jsonGenerator)]

/-! ### The handlers -/

section Handlers

variable (plat : Platform) (out : Outcomes)

/-- The response of the maker and the state, behind what has happened before. -/
def make (maker : RespMaker) (res : HttpServerResp × HttpServerState) (trace : RespTrace) :
    (MadeResp × HttpServerState) × RespTrace :=
  ((⟨maker, res.1⟩, res.2), trace ++ MadeResp.acquired ⟨maker, res.1⟩)

def httpServerHandleReqPostAuthTraced (flagAccessFromLan : Bool) (httpHeader : Bytes)
    (remoteIp : CharBuf 17) (httpBody : Bytes) (s : HttpServerState) :
    (MadeResp × HttpServerState) × RespTrace :=
  let authType := s.authInfo.authType
  let authJson :=
    httpServerFillAuthJson plat s.hostinfo authType flagAccessFromLan none true
  if !flagAccessFromLan then make .handler (httpServerResp200Json authJson, s) []
  else if authType ≠ .ruuvi ∧ authType ≠ .default then make .handler (httpServerResp503, s) []
  else
    match httpServerAuthRuuviGetSessionIdFromCookies httpHeader with
    | (false, _) =>
      make .handler
        (httpServerResp401AuthRuuviWithNewSessionId plat out remoteIp authType none s) []
    | (true, sessionId) =>
      let prevUrl := httpServerAuthRuuviGetPrevUrlFromCookies httpHeader
      match httpServerHandleReqPostAuthCheckLoginSession plat out sessionId remoteIp authType s with
      | some res => make .handler res []
      | none =>
        if !out.callocAuthReq then make .handler (httpServerResp500, s) []
        else
          let checked := httpServerHandleReqPostAuthCheckAuth plat out authType remoteIp httpBody s
          let (made, trace) := make .authCheck checked []
          if checked.1.httpRespCode ≠ .c200 then (made, trace)
          else
            let s := checked.2.authorize sessionId remoteIp
            let s :=
              if prevUrl.isEmpty then s
              else s.printExtraHeaderFields
                (ascii "Ruuvi-prev-url: " ++ prevUrl.str ++ ascii "\r\n" ++ ascii "Set-Cookie: " ++
                  httpServerAuthRuuviCookiePrevUrl ++
                  ascii "=; Max-Age=-1; Expires=Thu, 01 Jan 1970 00:00:00 GMT\r\n")
            make .handler (httpServerResp200Json authJson, s) trace

def httpServerHandleReqGetTraced (fileNameUnchecked : Bytes) (param : HttpServerHandleReqParam)
    (s : HttpServerState) : (MadeResp × HttpServerState) × RespTrace :=
  let fileName := if fileNameUnchecked = [] then ascii "index.html" else fileNameUnchecked
  if fileName = ascii "auth" then
    make .handler (httpServerHandleReqGetAuth plat out (param.authParam false) s) []
  else if fileNameNeedsAuth fileName then
    let authParam := param.authParam (fileName = ascii "ap.json")
    let (respAuthCheck, flagAccessByBearerToken, s) :=
      httpServerHandleReqCheckAuth plat out authParam (some false) s
    let (made, trace) := make .authCheck (respAuthCheck, s) []
    let authType := s.authInfo.authType
    if flagAccessByBearerToken = some false ∧ respAuthCheck.httpRespCode = .c401 ∧
        (authType = .ruuvi ∨ authType = .default) then
      if fileName ≠ ascii "ap.json" ∧ fileName ≠ ascii "status.json" then
        make .handler (httpServerResp302, s.printExtraHeaderFields
          (ascii "Set-Cookie: " ++ httpServerAuthRuuviCookiePrevUrl ++ ascii "=/" ++ fileName)) trace
      else make .handler (httpServerResp302, s) trace
    else if respAuthCheck.httpRespCode ≠ .c200 then (made, trace)
    else make .handler (httpServerHandleReqGetServe out fileName param, s) trace
  else make .handler (httpServerHandleReqGetServe out fileName param, s) []

def httpServerHandleReqDeleteTraced (fileName : Bytes) (param : HttpServerHandleReqParam)
    (s : HttpServerState) : (MadeResp × HttpServerState) × RespTrace :=
  let (respAuthCheck, _, s) :=
    httpServerHandleReqCheckAuth plat out (param.authParam true) (some false) s
  let (made, trace) := make .authCheck (respAuthCheck, s) []
  if respAuthCheck.httpRespCode ≠ .c200 then (made, trace)
  else make .handler (httpServerHandleReqDeleteServe plat out fileName param s) trace

def httpServerHandleReqPostTraced (fileName : Bytes) (param : HttpServerHandleReqParam)
    (httpBody : Bytes) (s : HttpServerState) : (MadeResp × HttpServerState) × RespTrace :=
  if fileName = ascii "auth" then
    httpServerHandleReqPostAuthTraced plat out param.flagAccessFromLan param.reqInfo.httpHeader
      param.remoteIp httpBody s
  else
    let (respAuthCheck, _, s) :=
      httpServerHandleReqCheckAuth plat out (param.authParam true) (some false) s
    let (made, trace) := make .authCheck (respAuthCheck, s) []
    if respAuthCheck.httpRespCode ≠ .c200 then (made, trace)
    else make .handler (httpServerHandleReqPostServe plat out fileName param httpBody, s) trace

/-- A failed key exchange frees the response of the handler and answers in its place. -/
def httpServerHandleReqGetWithEcdhKeyTraced (path : Bytes) (param : HttpServerHandleReqParam)
    (s : HttpServerState) : (MadeResp × HttpServerState) × RespTrace :=
  let ((made, s), trace) := httpServerHandleReqGetTraced plat out path param s
  let header := param.reqInfo.httpHeader
  match httpReqHeaderGetField header (ascii "Ruuvi-Ecdh-Pub-Key:") with
  | none => ((made, s), trace)
  | some field =>
    match httpServerHandleRuuviEcdhPubKey out (field.value header) with
    | none => make .keyExchange (httpServerResp500, s) (trace ++ httpServerRespFree made)
    | some pubKeySrv =>
      let offset := s.extraHeaderFields.length
      ((made,
        { s with
          extraHeaderFields := s.extraHeaderFields ++
            snprintf (httpServerExtraHeaderFieldsSize - offset)
              (ascii "Ruuvi-Ecdh-Pub-Key: " ++ pubKeySrv ++ ascii "\r\n") }), trace)

def httpServerHandleReqPostWithEcdhKeyTraced (path : Bytes) (param : HttpServerHandleReqParam)
    (s : HttpServerState) : (MadeResp × HttpServerState) × RespTrace :=
  match httpServerPostBody plat out param.reqInfo with
  | none => make .handler (httpServerResp400, s) []
  | some httpBody => httpServerHandleReqPostTraced plat out path param httpBody s

def httpServerHandleReqTraced (param : HttpServerHandleReqParam) (s : HttpServerState) :
    (MadeResp × HttpServerState) × RespTrace :=
  let s := { s with extraHeaderFields := [] }
  let path := param.reqInfo.path
  if param.reqInfo.httpCmd = ascii "GET" then
    httpServerHandleReqGetWithEcdhKeyTraced plat out path param s
  else if param.reqInfo.httpCmd = ascii "DELETE" then
    httpServerHandleReqDeleteTraced plat out path param s
  else if param.reqInfo.httpCmd = ascii "POST" then
    httpServerHandleReqPostWithEcdhKeyTraced plat out path param s
  else make .handler (httpServerResp400, s) []

end Handlers

/-! ### Sending -/

def httpServerMaxContentLenToPrintLogForJsonResp : ℕ := 256

/-- The log prints short content out of the buffer. -/
def httpServerNetconnLogJsonResp (made : MadeResp) : RespTrace :=
  if made.resp.contentType = .applicationJson then
    match made.resp.contentLocation with
    | .noContent | .flashMem | .staticMem | .fatfs | .jsonGenerator => []
    | .heap =>
      if made.resp.contentLen ≤ httpServerMaxContentLenToPrintLogForJsonResp then
        [.use (made.maker, .heap)]
      else []
  else []

def writeContentFromFatfsLoopTraced (made : MadeResp) :
    List FileRead → Bytes → Netconn → (Option Unit × Netconn) × RespTrace
  | _, [], conn => ((some (), conn), [])
  | [], _ :: _, conn => ((none, conn), [])
  | r :: rs, c :: rest, conn =>
    let rem := c :: rest
    let numBytes := fatfsNumBytes rem.length
    let read : RespTrace := [.use (made.maker, .fatfs)]
    if r.value numBytes < 0 then ((some (), conn), read)
    else if r.value numBytes ≠ numBytes then ((some (), conn), read)
    else
      match httpServerNetconnWrite (RespPart.body.bytes (rem.take numBytes)) conn with
      | (none, conn) => ((none, conn), read)
      | (some false, conn) => ((some (), conn), read)
      | (some true, conn) =>
        let (res, trace) := writeContentFromFatfsLoopTraced made rs (rem.drop numBytes) conn
        (res, read ++ trace)

def writeContentFromFatfsTraced (made : MadeResp) (conn : Netconn) :
    (Option Unit × Netconn) × RespTrace :=
  match osMalloc conn with
  | (none, conn) => ((none, conn), [])
  | (some false, conn) => ((some (), conn), [])
  | (some true, conn) =>
    writeContentFromFatfsLoopTraced made conn.outcomes.reads made.resp.content conn

/-- The chunk that is written lies in the generator. -/
def writeContentFromJsonGeneratorLoopTraced (made : MadeResp) :
    List (Option ℕ) → Bytes → Netconn → (Option Unit × Netconn) × RespTrace
  | [], _, conn => ((none, conn), [])
  | none :: _, _, conn => ((some (), conn), [.use (made.maker, .jsonGenerator)])
  | some k :: ks, rem, conn =>
    let chunk := rem.take (k + 1)
    let nextChunk : RespTrace := [.use (made.maker, .jsonGenerator)]
    if chunk.isEmpty then ((some (), conn), nextChunk)
    else
      let written := nextChunk ++ [.use (made.maker, .jsonGenerator)]
      match httpServerNetconnWrite (RespPart.body.bytes chunk) conn with
      | (none, conn) => ((none, conn), written)
      | (some false, conn) => ((some (), conn), written)
      | (some true, conn) =>
        let (res, trace) := writeContentFromJsonGeneratorLoopTraced made ks (rem.drop (k + 1)) conn
        (res, written ++ trace)

def httpServerWriteContentTraced (made : MadeResp) (conn : Netconn) :
    (Option Unit × Netconn) × RespTrace :=
  match made.resp.contentLocation with
  | .noContent => ((some (), conn), [])
  | .flashMem => (writeContentFromFlash made.resp conn, [])
  | .staticMem => (writeContentFromStaticMem made.resp conn, [])
  | .heap => (writeContentFromHeap made.resp conn, [.use (made.maker, .heap)])
  | .fatfs => writeContentFromFatfsTraced made conn
  | .jsonGenerator =>
    writeContentFromJsonGeneratorLoopTraced made conn.outcomes.chunks made.resp.content conn

section Sending

variable (made : MadeResp) (extraHeaderFields hostname date : Bytes) (conn : Netconn)

def httpServerNetconnRespWithContentTraced (extraHeaderFields : Bytes) (respCode : HttpRespCode)
    (statusMsg : Bytes) : (Option Unit × Netconn) × RespTrace :=
  let header := headerWithContent made.resp extraHeaderFields respCode statusMsg date
  match httpServerNetconnPrintf (RespPart.header.bytes header) conn with
  | (none, conn) => ((none, conn), [])
  | (some _, conn) => httpServerWriteContentTraced made conn

def httpServerNetconnRespWithCodeTraced (respCode : HttpRespCode) (statusMsg : Bytes) :
    (Option Unit × Netconn) × RespTrace :=
  if made.resp.contentLen = 0 then
    (httpServerNetconnRespWithoutContent conn respCode statusMsg, [])
  else httpServerNetconnRespWithContentTraced made date conn [] respCode statusMsg

/-- A page that sends the browser to the login page leaves the content alone. -/
def httpServerNetconnRespWithoutFreeResp : (Option Unit × Netconn) × RespTrace :=
  match made.resp.httpRespCode with
  | .c206 | .c200 | .c299 =>
    httpServerNetconnRespWithContentTraced made date conn extraHeaderFields .c200 (ascii "OK")
  | .c301 => (httpServerNetconnResp301AuthHtml extraHeaderFields hostname conn, [])
  | .c302 => (httpServerNetconnResp302AuthHtml extraHeaderFields hostname conn, [])
  | .c400 => httpServerNetconnRespWithCodeTraced made date conn .c400 (ascii "Bad Request")
  | .c401 =>
    httpServerNetconnRespWithContentTraced made date conn extraHeaderFields .c401
      (ascii "Unauthorized")
  | .c403 =>
    httpServerNetconnRespWithContentTraced made date conn extraHeaderFields .c403
      (ascii "Forbidden")
  | .c404 => httpServerNetconnRespWithCodeTraced made date conn .c404 (ascii "Not Found")
  | .c409 => httpServerNetconnRespWithCodeTraced made date conn .c409 (ascii "Conflict")
  | .c429 => httpServerNetconnRespWithCodeTraced made date conn .c429 (ascii "Too Many Requests")
  | .c500 =>
    httpServerNetconnRespWithCodeTraced made date conn .c500 (ascii "Internal Server Error")
  | .c502 => httpServerNetconnRespWithCodeTraced made date conn .c502 (ascii "Bad Gateway")
  | .c503 =>
    httpServerNetconnRespWithCodeTraced made date conn .c503 (ascii "Service Unavailable")
  | .c504 => httpServerNetconnRespWithCodeTraced made date conn .c504 (ascii "Gateway timeout")

/-- A run that is cut does not get as far as the release. -/
def httpServerNetconnRespTraced : (Option Unit × Netconn) × RespTrace :=
  let (res, trace) := httpServerNetconnRespWithoutFreeResp made extraHeaderFields hostname date conn
  match res.1 with
  | none => (res, trace)
  | some () => (res, trace ++ httpServerRespFree made)

end Sending

/-- A request that is handled, from the handler to the release of the response. -/
def serveTraced (plat : Platform) (out : Outcomes) (param : HttpServerHandleReqParam)
    (s : HttpServerState) (hostname date : Bytes) (conn : Netconn) :
    (Option Unit × Netconn) × RespTrace :=
  let ((made, s), trace) := httpServerHandleReqTraced plat out param s
  let trace := trace ++ httpServerNetconnLogJsonResp made
  let (res, sent) := httpServerNetconnRespTraced made s.extraHeaderFields hostname date conn
  (res, trace ++ sent)

/-! ### The server does what it does without the trace -/

/-- The response and the state of a handler that is traced. -/
def response (run : (MadeResp × HttpServerState) × RespTrace) : HttpServerResp × HttpServerState :=
  (run.1.1.resp, run.1.2)

section Values

variable (plat : Platform) (out : Outcomes) {param : HttpServerHandleReqParam}
  {s : HttpServerState}

theorem response_make (maker : RespMaker) (res : HttpServerResp × HttpServerState)
    (trace : RespTrace) : response (make maker res trace) = res := rfl

theorem postAuthTraced_response (flagAccessFromLan : Bool) (httpHeader : Bytes)
    (remoteIp : CharBuf 17) (httpBody : Bytes) :
    response (httpServerHandleReqPostAuthTraced plat out flagAccessFromLan httpHeader remoteIp
      httpBody s) =
      httpServerHandleReqPostAuth plat out flagAccessFromLan httpHeader remoteIp httpBody s := by
  unfold httpServerHandleReqPostAuthTraced httpServerHandleReqPostAuth
  rcases httpServerAuthRuuviGetSessionIdFromCookies httpHeader with ⟨_ | _, sessionId⟩
  · simp only [apply_ite response, response_make]
  · dsimp only
    cases httpServerHandleReqPostAuthCheckLoginSession plat out sessionId remoteIp
        s.authInfo.authType s with
    | some res => simp only [apply_ite response, response_make]
    | none =>
      simp only [apply_ite response, response_make]
      rfl

theorem getTraced_response (fileName : Bytes) :
    response (httpServerHandleReqGetTraced plat out fileName param s) =
      httpServerHandleReqGet plat out fileName param s := by
  unfold httpServerHandleReqGetTraced httpServerHandleReqGet
  simp only [apply_ite response, response_make]
  rfl

theorem deleteTraced_response (fileName : Bytes) :
    response (httpServerHandleReqDeleteTraced plat out fileName param s) =
      httpServerHandleReqDelete plat out fileName param s := by
  unfold httpServerHandleReqDeleteTraced httpServerHandleReqDelete
  simp only [apply_ite response, response_make]
  rfl

theorem postTraced_response (fileName httpBody : Bytes) :
    response (httpServerHandleReqPostTraced plat out fileName param httpBody s) =
      httpServerHandleReqPost plat out fileName param httpBody s := by
  unfold httpServerHandleReqPostTraced httpServerHandleReqPost
  simp only [apply_ite response, response_make, postAuthTraced_response]
  rfl

theorem getWithEcdhKeyTraced_response (path : Bytes) :
    response (httpServerHandleReqGetWithEcdhKeyTraced plat out path param s) =
      httpServerHandleReqGetWithEcdhKey plat out path param s := by
  unfold httpServerHandleReqGetWithEcdhKeyTraced httpServerHandleReqGetWithEcdhKey
  rw [← getTraced_response]
  rcases httpServerHandleReqGetTraced plat out path param s with ⟨⟨made, after⟩, trace⟩
  dsimp only
  cases httpReqHeaderGetField param.reqInfo.httpHeader (ascii "Ruuvi-Ecdh-Pub-Key:") with
  | none => rfl
  | some field =>
    dsimp only
    cases httpServerHandleRuuviEcdhPubKey out (field.value param.reqInfo.httpHeader) <;> rfl

theorem handleReqTraced_response :
    response (httpServerHandleReqTraced plat out param s) =
      httpServerHandleReq plat out param s := by
  unfold httpServerHandleReqTraced httpServerHandleReq httpServerHandleReqPostWithEcdhKeyTraced
    httpServerHandleReqPostWithEcdhKey
  simp only [apply_ite response, response_make, getWithEcdhKeyTraced_response,
    deleteTraced_response]
  cases httpServerPostBody plat out param.reqInfo with
  | none => rfl
  | some httpBody =>
    dsimp only
    rw [postTraced_response]

variable (made : MadeResp) (extraHeaderFields hostname date : Bytes)

theorem fatfsLoopTraced_value (reads : List FileRead) (rem : Bytes) (conn : Netconn) :
    (writeContentFromFatfsLoopTraced made reads rem conn).1 =
      writeContentFromFatfsLoop reads rem conn := by
  induction reads generalizing rem conn with
  | nil => cases rem <;> rfl
  | cons r rs ih =>
    cases rem with
    | nil => rfl
    | cons c rest =>
      unfold writeContentFromFatfsLoopTraced writeContentFromFatfsLoop
      dsimp only
      rcases httpServerNetconnWrite (RespPart.body.bytes
        ((c :: rest).take (fatfsNumBytes (c :: rest).length))) conn with ⟨_ | _ | _, next⟩
      · simp only [apply_ite Prod.fst]
      · simp only [apply_ite Prod.fst]
      · simp only [apply_ite Prod.fst, ih]

theorem jsonGeneratorLoopTraced_value (chunks : List (Option ℕ)) (rem : Bytes) (conn : Netconn) :
    (writeContentFromJsonGeneratorLoopTraced made chunks rem conn).1 =
      writeContentFromJsonGeneratorLoop chunks rem conn := by
  induction chunks generalizing rem conn with
  | nil => rfl
  | cons chunk ks ih =>
    cases chunk with
    | none => rfl
    | some k =>
      unfold writeContentFromJsonGeneratorLoopTraced writeContentFromJsonGeneratorLoop
      dsimp only
      rcases httpServerNetconnWrite (RespPart.body.bytes (rem.take (k + 1))) conn
        with ⟨_ | _ | _, next⟩
      · simp only [apply_ite Prod.fst]
      · simp only [apply_ite Prod.fst]
      · simp only [apply_ite Prod.fst, ih]

theorem writeContentTraced_value (conn : Netconn) :
    (httpServerWriteContentTraced made conn).1 = httpServerWriteContent made.resp conn := by
  unfold httpServerWriteContentTraced httpServerWriteContent
  cases made.resp.contentLocation with
  | noContent | flashMem | staticMem | heap => rfl
  | fatfs =>
    dsimp only
    unfold writeContentFromFatfsTraced writeContentFromFatfs
    rcases osMalloc conn with ⟨_ | _ | _, next⟩
    · rfl
    · rfl
    · exact fatfsLoopTraced_value made _ _ _
  | jsonGenerator => exact jsonGeneratorLoopTraced_value made _ _ _

theorem respWithContentTraced_value (conn : Netconn) (extraHeaderFields : Bytes)
    (respCode : HttpRespCode) (statusMsg : Bytes) :
    (httpServerNetconnRespWithContentTraced made date conn extraHeaderFields respCode
      statusMsg).1 =
      httpServerNetconnRespWithContent made.resp date conn extraHeaderFields respCode
        statusMsg := by
  unfold httpServerNetconnRespWithContentTraced httpServerNetconnRespWithContent
  dsimp only
  rcases httpServerNetconnPrintf (RespPart.header.bytes
    (headerWithContent made.resp extraHeaderFields respCode statusMsg date)) conn with ⟨_ | _, next⟩
  · rfl
  · exact writeContentTraced_value made next

theorem respWithCodeTraced_value (conn : Netconn) (respCode : HttpRespCode) (statusMsg : Bytes) :
    (httpServerNetconnRespWithCodeTraced made date conn respCode statusMsg).1 =
      httpServerNetconnRespWithCode made.resp date conn respCode statusMsg := by
  unfold httpServerNetconnRespWithCodeTraced httpServerNetconnRespWithCode
  rw [apply_ite Prod.fst, respWithContentTraced_value]

theorem respWithoutFreeResp_value (conn : Netconn) :
    (httpServerNetconnRespWithoutFreeResp made extraHeaderFields hostname date conn).1 =
      httpServerNetconnResp made.resp extraHeaderFields hostname date conn := by
  unfold httpServerNetconnRespWithoutFreeResp httpServerNetconnResp
  cases made.resp.httpRespCode with
  | c200 | c206 | c299 | c401 | c403 => exact respWithContentTraced_value _ _ _ _ _ _
  | c301 | c302 => rfl
  | c400 | c404 | c409 | c429 | c500 | c502 | c503 | c504 =>
    exact respWithCodeTraced_value _ _ _ _ _

theorem respTraced_value (conn : Netconn) :
    (httpServerNetconnRespTraced made extraHeaderFields hostname date conn).1 =
      httpServerNetconnResp made.resp extraHeaderFields hostname date conn := by
  rw [← respWithoutFreeResp_value]
  unfold httpServerNetconnRespTraced
  rcases httpServerNetconnRespWithoutFreeResp made extraHeaderFields hostname date conn
    with ⟨⟨_ | _, next⟩, trace⟩ <;> rfl

/-- A request is handled and its response sent. -/
theorem serveTraced_value (hostname date : Bytes) (conn : Netconn) :
    (serveTraced plat out param s hostname date conn).1 =
      httpServerNetconnResp (httpServerHandleReq plat out param s).1
        (httpServerHandleReq plat out param s).2.extraHeaderFields hostname date conn := by
  rw [← handleReqTraced_response]
  exact respTraced_value _ _ _ _ _

end Values

/-! ### The responses of the handlers -/

/-- Nothing has happened but that the response has been made. -/
def OnlyMade (run : (MadeResp × HttpServerState) × RespTrace) : Prop := run.2 = run.1.1.acquired

theorem onlyMade_make {maker : RespMaker} {res : HttpServerResp × HttpServerState}
    {trace : RespTrace} (htrace : trace = []) : OnlyMade (make maker res trace) := by
  subst htrace
  rfl

theorem onlyMade_ite {c : Prop} [Decidable c] {p q : (MadeResp × HttpServerState) × RespTrace}
    (hp : OnlyMade p) (hq : OnlyMade q) : OnlyMade (if c then p else q) := by
  split_ifs
  · exact hp
  · exact hq

/-- The response owns nothing. -/
def OwnsNothing (resp : HttpServerResp) : Prop :=
  ∀ maker, MadeResp.resource ⟨maker, resp⟩ = none

theorem ownsNothing : HoldsOfStatic OwnsNothing where
  err _ _ := rfl
  json _ _ _ := rfl

theorem OwnsNothing.make_trace {maker : RespMaker} {res : HttpServerResp × HttpServerState}
    (h : OwnsNothing res.1) : (make maker res []).2 = [] := by
  unfold make MadeResp.acquired
  rw [h maker]
  rfl

section Handlers

variable (plat : Platform) (out : Outcomes) (param : HttpServerHandleReqParam)
  (s : HttpServerState)

theorem onlyMade_postAuth (flagAccessFromLan : Bool) (httpHeader : Bytes) (remoteIp : CharBuf 17)
    (httpBody : Bytes) :
    OnlyMade (httpServerHandleReqPostAuthTraced plat out flagAccessFromLan httpHeader remoteIp
      httpBody s) := by
  have hcheck : (make .authCheck (httpServerHandleReqPostAuthCheckAuth plat out
      s.authInfo.authType remoteIp httpBody s) []).2 = [] :=
    OwnsNothing.make_trace (ownsNothing.postAuthCheckAuth _ _ _)
  unfold httpServerHandleReqPostAuthTraced
  refine onlyMade_ite (onlyMade_make rfl) ?_
  refine onlyMade_ite (onlyMade_make rfl) ?_
  rcases httpServerAuthRuuviGetSessionIdFromCookies httpHeader with ⟨_ | _, sessionId⟩
  · exact onlyMade_make rfl
  · dsimp only
    cases httpServerHandleReqPostAuthCheckLoginSession plat out sessionId remoteIp
        s.authInfo.authType s with
    | some res => exact onlyMade_make rfl
    | none =>
      refine onlyMade_ite (onlyMade_make rfl) ?_
      exact onlyMade_ite (onlyMade_make rfl) (onlyMade_make hcheck)

theorem onlyMade_get (fileName : Bytes) :
    OnlyMade (httpServerHandleReqGetTraced plat out fileName param s) := by
  unfold httpServerHandleReqGetTraced
  dsimp only
  generalize (if fileName = [] then ascii "index.html" else fileName) = name
  have hcheck := (ownsNothing.checkAuth (param.authParam (name = ascii "ap.json")) (some false) :
    OwnsNothing (httpServerHandleReqCheckAuth plat out _ _ s).1)
  refine onlyMade_ite (onlyMade_make rfl) ?_
  refine onlyMade_ite ?_ (onlyMade_make rfl)
  refine onlyMade_ite ?_ ?_
  · exact onlyMade_ite (onlyMade_make hcheck.make_trace) (onlyMade_make hcheck.make_trace)
  · exact onlyMade_ite (onlyMade_make rfl) (onlyMade_make hcheck.make_trace)

theorem onlyMade_delete (fileName : Bytes) :
    OnlyMade (httpServerHandleReqDeleteTraced plat out fileName param s) := by
  have hcheck := (ownsNothing.checkAuth (param.authParam true) (some false) :
    OwnsNothing (httpServerHandleReqCheckAuth plat out _ _ s).1)
  unfold httpServerHandleReqDeleteTraced
  exact onlyMade_ite (onlyMade_make rfl) (onlyMade_make hcheck.make_trace)

theorem onlyMade_post (fileName httpBody : Bytes) :
    OnlyMade (httpServerHandleReqPostTraced plat out fileName param httpBody s) := by
  have hcheck := (ownsNothing.checkAuth (param.authParam true) (some false) :
    OwnsNothing (httpServerHandleReqCheckAuth plat out _ _ s).1)
  unfold httpServerHandleReqPostTraced
  refine onlyMade_ite (onlyMade_postAuth plat out s _ _ _ _) ?_
  exact onlyMade_ite (onlyMade_make rfl) (onlyMade_make hcheck.make_trace)

/-- The handlers return what they have made, or something that owns nothing when they have freed
it. -/
inductive Handled (run : (MadeResp × HttpServerState) × RespTrace) : Prop
  | made (h : OnlyMade run)
  | replaced (first : MadeResp) (htrace : run.2 = first.acquired ++ httpServerRespFree first)
      (h : run.1.1.resource = none)

theorem handled_getWithEcdhKey (path : Bytes) :
    Handled (httpServerHandleReqGetWithEcdhKeyTraced plat out path param s) := by
  have hget := onlyMade_get plat out param s path
  unfold httpServerHandleReqGetWithEcdhKeyTraced
  generalize httpServerHandleReqGetTraced plat out path param s = run at hget ⊢
  obtain ⟨⟨made, after⟩, trace⟩ := run
  dsimp only
  cases httpReqHeaderGetField param.reqInfo.httpHeader (ascii "Ruuvi-Ecdh-Pub-Key:") with
  | none => exact .made hget
  | some field =>
    dsimp only
    cases httpServerHandleRuuviEcdhPubKey out (field.value param.reqInfo.httpHeader) with
    | none =>
      obtain rfl : trace = made.acquired := hget
      exact .replaced made (List.append_nil _) rfl
    | some pubKeySrv => exact .made hget

theorem handled_handleReq : Handled (httpServerHandleReqTraced plat out param s) := by
  unfold httpServerHandleReqTraced httpServerHandleReqPostWithEcdhKeyTraced
  dsimp only
  split_ifs
  · exact handled_getWithEcdhKey plat out param _ _
  · exact .made (onlyMade_delete plat out param _ _)
  · cases httpServerPostBody plat out param.reqInfo with
    | none => exact .made (onlyMade_make rfl)
    | some httpBody => exact .made (onlyMade_post plat out param _ _ httpBody)
  · exact .made (onlyMade_make rfl)

end Handlers

/-! ### What is done with a response -/

section Responses

variable {made : MadeResp} {trace : RespTrace}

/-- Nothing is done but that the response uses what it owns. -/
def UsesOwn (made : MadeResp) (trace : RespTrace) : Prop :=
  ∀ e ∈ trace, ∃ r ∈ made.resource, e = .use r

theorem usesOwn_nil : UsesOwn made [] := by
  simp [UsesOwn]

theorem usesOwn_append {more : RespTrace} (htrace : UsesOwn made trace)
    (hmore : UsesOwn made more) : UsesOwn made (trace ++ more) := fun e he =>
  (List.mem_append.mp he).elim (htrace e) (hmore e)

theorem usesOwn_single {r : RespResource} (hr : made.resource = some r) :
    UsesOwn made [.use r] := by
  intro e he
  exact ⟨r, hr, List.mem_singleton.mp he⟩

theorem usesOwn_ite {α : Type} {c : Prop} [Decidable c] {p q : α × RespTrace}
    (hp : UsesOwn made p.2) (hq : UsesOwn made q.2) : UsesOwn made (if c then p else q).2 := by
  split_ifs
  · exact hp
  · exact hq

theorem usesOwn_of_none (hnone : made.resource = none) (h : UsesOwn made trace) : trace = [] := by
  refine List.eq_nil_iff_forall_not_mem.mpr fun e he => ?_
  obtain ⟨r, hr, -⟩ := h e he
  rw [hnone] at hr
  cases hr

theorem httpServerRespFree_eq (made : MadeResp) :
    httpServerRespFree made = made.resource.toList.map .release := by
  unfold httpServerRespFree MadeResp.resource
  cases made.resp.contentLocation <;> rfl

/-- A response that is made, used and freed. -/
theorem freedOnce_of_usesOwn (h : UsesOwn made trace) :
    FreedOnce (made.acquired ++ (trace ++ httpServerRespFree made)) := by
  rw [httpServerRespFree_eq]
  unfold MadeResp.acquired
  cases hres : made.resource with
  | none =>
    rw [usesOwn_of_none hres h]
    exact freedOnce_nil
  | some r =>
    refine freedOnce_lifetime fun e he => ?_
    obtain ⟨q, hq, rfl⟩ := h e he
    rw [Option.some.inj (hq.symm.trans hres)]

/-- A response that is made and used. -/
theorem liveAfter_of_usesOwn (h : UsesOwn made trace) :
    liveAfter ∅ (made.acquired ++ trace) = some made.resource.toFinset := by
  unfold MadeResp.acquired
  cases hres : made.resource with
  | none =>
    rw [usesOwn_of_none hres h]
    rfl
  | some r =>
    refine liveAfter_uses (Finset.mem_singleton_self r) fun e he => ?_
    obtain ⟨q, hq, rfl⟩ := h e he
    rw [Option.some.inj (hq.symm.trans hres)]

theorem usesOwn_log (made : MadeResp) : UsesOwn made (httpServerNetconnLogJsonResp made) := by
  unfold httpServerNetconnLogJsonResp
  by_cases htype : made.resp.contentType = .applicationJson
  · rw [if_pos htype]
    cases hloc : made.resp.contentLocation with
    | heap =>
      by_cases hlen : made.resp.contentLen ≤ httpServerMaxContentLenToPrintLogForJsonResp
      · simp only [if_pos hlen]
        exact usesOwn_single (by simp [MadeResp.resource, hloc])
      · simp only [if_neg hlen]
        exact usesOwn_nil
    | noContent | flashMem | staticMem | fatfs | jsonGenerator => exact usesOwn_nil
  · rw [if_neg htype]
    exact usesOwn_nil

theorem usesOwn_fatfsLoop (hloc : made.resp.contentLocation = .fatfs) (reads : List FileRead)
    (rem : Bytes) (conn : Netconn) :
    UsesOwn made (writeContentFromFatfsLoopTraced made reads rem conn).2 := by
  have hread : UsesOwn made [.use (made.maker, .fatfs)] :=
    usesOwn_single (by simp [MadeResp.resource, hloc])
  induction reads generalizing rem conn with
  | nil => cases rem <;> exact usesOwn_nil
  | cons r rs ih =>
    cases rem with
    | nil => exact usesOwn_nil
    | cons c rest =>
      unfold writeContentFromFatfsLoopTraced
      dsimp only
      refine usesOwn_ite hread (usesOwn_ite hread ?_)
      rcases httpServerNetconnWrite (RespPart.body.bytes
        ((c :: rest).take (fatfsNumBytes (c :: rest).length))) conn with ⟨_ | _ | _, next⟩
      · exact hread
      · exact hread
      · exact usesOwn_append hread (ih _ _)

theorem usesOwn_jsonGeneratorLoop (hloc : made.resp.contentLocation = .jsonGenerator)
    (chunks : List (Option ℕ)) (rem : Bytes) (conn : Netconn) :
    UsesOwn made (writeContentFromJsonGeneratorLoopTraced made chunks rem conn).2 := by
  have hnextChunk : UsesOwn made [.use (made.maker, .jsonGenerator)] :=
    usesOwn_single (by simp [MadeResp.resource, hloc])
  have hwritten := usesOwn_append hnextChunk hnextChunk
  induction chunks generalizing rem conn with
  | nil => exact usesOwn_nil
  | cons chunk ks ih =>
    cases chunk with
    | none => exact hnextChunk
    | some k =>
      unfold writeContentFromJsonGeneratorLoopTraced
      dsimp only
      refine usesOwn_ite hnextChunk ?_
      rcases httpServerNetconnWrite (RespPart.body.bytes (rem.take (k + 1))) conn
        with ⟨_ | _ | _, next⟩
      · exact hwritten
      · exact hwritten
      · exact usesOwn_append hwritten (ih _ _)

theorem usesOwn_writeContent (conn : Netconn) :
    UsesOwn made (httpServerWriteContentTraced made conn).2 := by
  unfold httpServerWriteContentTraced
  cases hloc : made.resp.contentLocation with
  | noContent | flashMem | staticMem => exact usesOwn_nil
  | heap => exact usesOwn_single (by simp [MadeResp.resource, hloc])
  | fatfs =>
    dsimp only
    unfold writeContentFromFatfsTraced
    rcases osMalloc conn with ⟨_ | _ | _, next⟩
    · exact usesOwn_nil
    · exact usesOwn_nil
    · exact usesOwn_fatfsLoop hloc _ _ _
  | jsonGenerator => exact usesOwn_jsonGeneratorLoop hloc _ _ _

theorem usesOwn_respWithContent (date : Bytes) (conn : Netconn) (extraHeaderFields : Bytes)
    (respCode : HttpRespCode) (statusMsg : Bytes) :
    UsesOwn made (httpServerNetconnRespWithContentTraced made date conn extraHeaderFields respCode
      statusMsg).2 := by
  unfold httpServerNetconnRespWithContentTraced
  dsimp only
  rcases httpServerNetconnPrintf (RespPart.header.bytes
    (headerWithContent made.resp extraHeaderFields respCode statusMsg date)) conn with ⟨_ | _, next⟩
  · exact usesOwn_nil
  · exact usesOwn_writeContent next

theorem usesOwn_respWithCode (date : Bytes) (conn : Netconn) (respCode : HttpRespCode)
    (statusMsg : Bytes) :
    UsesOwn made (httpServerNetconnRespWithCodeTraced made date conn respCode statusMsg).2 := by
  unfold httpServerNetconnRespWithCodeTraced
  exact usesOwn_ite usesOwn_nil (usesOwn_respWithContent _ _ _ _ _)

theorem usesOwn_respWithoutFreeResp (extraHeaderFields hostname date : Bytes) (conn : Netconn) :
    UsesOwn made
      (httpServerNetconnRespWithoutFreeResp made extraHeaderFields hostname date conn).2 := by
  unfold httpServerNetconnRespWithoutFreeResp
  cases made.resp.httpRespCode with
  | c200 | c206 | c299 | c401 | c403 => exact usesOwn_respWithContent _ _ _ _ _
  | c301 | c302 => exact usesOwn_nil
  | c400 | c404 | c409 | c429 | c500 | c502 | c503 | c504 => exact usesOwn_respWithCode _ _ _ _

/-- A response is used to be sent, and freed when it is. -/
def SentAndFreed (made : MadeResp) (uses : RespTrace) (run : (Option Unit × Netconn) × RespTrace) :
    Prop :=
  run.1.1 = none ∧ run.2 = uses ∨ run.1.1 = some () ∧ run.2 = uses ++ httpServerRespFree made

theorem respTraced_sentAndFreed (made : MadeResp) (extraHeaderFields hostname date : Bytes)
    (conn : Netconn) :
    SentAndFreed made
      (httpServerNetconnRespWithoutFreeResp made extraHeaderFields hostname date conn).2
      (httpServerNetconnRespTraced made extraHeaderFields hostname date conn) := by
  unfold httpServerNetconnRespTraced
  rcases httpServerNetconnRespWithoutFreeResp made extraHeaderFields hostname date conn
    with ⟨⟨_ | ⟨⟨⟩⟩, next⟩, trace⟩
  · exact .inl ⟨rfl, rfl⟩
  · exact .inr ⟨rfl, rfl⟩

example :
    let made : MadeResp := ⟨.handler, httpServerResp200JsonInHeap (ascii "[]")⟩
    let writes : List WritePartly := [⟨false, 1000, false⟩, ⟨false, 1000, false⟩]
    let run := httpServerNetconnRespTraced made [] [] [] ⟨⟨writes, [true], [], []⟩, []⟩
    run.1.1 = some () ∧ run.2 = [.use (.handler, .heap), .release (.handler, .heap)] := by
  decide +kernel

end Responses

/-! ### Requests -/

/-- What is acquired is freed exactly once by the end, and used only until then. -/
structure ResourcesFreed (run : (Option Unit × Netconn) × RespTrace) : Prop where
  completed : run.1.1 = some () → FreedOnce run.2
  possible : ∃ live, liveAfter ∅ run.2 = some live

section Requests

variable {made first : MadeResp} {log uses : RespTrace} {sent : (Option Unit × Netconn) × RespTrace}

theorem resourcesFreed_of_made (hlog : UsesOwn made log) (huses : UsesOwn made uses)
    (hsent : SentAndFreed made uses sent) :
    ResourcesFreed (sent.1, made.acquired ++ log ++ sent.2) := by
  have hall := usesOwn_append hlog huses
  have hfreed := freedOnce_of_usesOwn hall
  rw [List.append_assoc]
  rcases hsent with ⟨hres, htrace⟩ | ⟨hres, htrace⟩
  · rw [htrace]
    refine ⟨fun hdone => ?_, _, liveAfter_of_usesOwn hall⟩
    rw [hres] at hdone
    cases hdone
  · rw [htrace, ← List.append_assoc log]
    exact ⟨fun _ => hfreed, _, hfreed.ends⟩

/-- There is nothing left to be done with a response in place of one that has been freed. -/
theorem resourcesFreed_of_replaced (hnone : made.resource = none) (hlog : UsesOwn made log)
    (huses : UsesOwn made uses) (hsent : SentAndFreed made uses sent) :
    ResourcesFreed (sent.1, first.acquired ++ httpServerRespFree first ++ log ++ sent.2) := by
  have hfree : httpServerRespFree made = [] := by
    rw [httpServerRespFree_eq, hnone]
    rfl
  have hnothing : sent.2 = [] := by
    obtain rfl := usesOwn_of_none hnone huses
    rcases hsent with ⟨-, htrace⟩ | ⟨-, htrace⟩
    · exact htrace
    · rw [htrace, hfree]
      rfl
  have hfreed : FreedOnce (first.acquired ++ ([] ++ httpServerRespFree first)) :=
    freedOnce_of_usesOwn usesOwn_nil
  rw [usesOwn_of_none hnone hlog, hnothing, List.append_nil, List.append_nil]
  exact ⟨fun _ => hfreed, _, hfreed.ends⟩

/-- The responses of all handlers and callbacks are freed on every path. -/
theorem resp_freed_once (plat : Platform) (out : Outcomes) (param : HttpServerHandleReqParam)
    (s : HttpServerState) (hostname date : Bytes) (conn : Netconn) :
    (serveTraced plat out param s hostname date conn).1 =
        httpServerNetconnResp (httpServerHandleReq plat out param s).1
          (httpServerHandleReq plat out param s).2.extraHeaderFields hostname date conn ∧
      ResourcesFreed (serveTraced plat out param s hostname date conn) := by
  refine ⟨serveTraced_value plat out hostname date conn, ?_⟩
  have hhandled := handled_handleReq plat out param s
  unfold serveTraced
  generalize httpServerHandleReqTraced plat out param s = run at hhandled ⊢
  obtain ⟨⟨made, after⟩, trace⟩ := run
  have hlog := usesOwn_log made
  have huses : UsesOwn made _ :=
    usesOwn_respWithoutFreeResp after.extraHeaderFields hostname date conn
  have hsent := respTraced_sentAndFreed made after.extraHeaderFields hostname date conn
  cases hhandled with
  | made h =>
    obtain rfl : trace = made.acquired := h
    exact resourcesFreed_of_made hlog huses hsent
  | replaced first htrace hnone =>
    obtain rfl : trace = first.acquired ++ httpServerRespFree first := htrace
    exact resourcesFreed_of_replaced hnone hlog huses hsent

end Requests

end RespResources
end Auth
end Esp32WifiManager
