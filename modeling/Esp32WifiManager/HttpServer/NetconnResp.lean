import Esp32WifiManager.HttpServer.Resp

/-!
# Sending a response

`http_server_netconn_resp` prints the header of a response and then sends its
content from where it is. What the calls of the network stack, the allocator,
the file system and the JSON generator do is given beforehand, one outcome for
each call; a run is cut where the outcomes of some call are used up.
-/

namespace Esp32WifiManager
namespace Auth

open CString

/-! ### The connection -/

/-- The outcome of one call of `netconn_write_partly`: `bytes` bytes of those given to it are put on
the connection, or all where there are fewer. `failed` is an error other than `ERR_WOULDBLOCK`, and
`timedOut` says that the send timeout has passed by then. -/
structure WritePartly where
  failed : Bool
  bytes : ℕ
  timedOut : Bool
  deriving DecidableEq, Repr

/-- The outcome of one call of `read`: as many bytes as asked for, or another result. -/
inductive FileRead
  | all
  | result (r : ℤ)
  deriving DecidableEq, Repr

def FileRead.value (numBytes : ℕ) : FileRead → ℤ
  | .all => numBytes
  | .result r => r

/-- The outcomes of the calls that follow. The next chunk of a JSON generator is `none` for `NULL`,
and otherwise one byte longer than the number, as far as the content goes. -/
structure SendOutcomes where
  writes : List WritePartly
  allocs : List Bool
  reads : List FileRead
  chunks : List (Option ℕ)
  deriving Repr

/-- The two parts of a response. -/
inductive RespPart
  | header
  | body
  deriving DecidableEq, Repr

abbrev SentByte := RespPart × UInt8

def RespPart.bytes (part : RespPart) (m : Bytes) : List SentByte := m.map fun c => (part, c)

/-- What has been put on the connection, with the outcomes of the calls that follow. -/
structure Netconn where
  outcomes : SendOutcomes
  sent : List SentByte
  deriving Repr

/-- The loop of `http_server_netconn_write`: its result, the bytes that it puts on the connection
and the outcomes that it leaves. -/
def httpServerNetconnWriteLoop : List SentByte → List WritePartly →
    Option Bool × List SentByte × List WritePartly
  | _, [] => (none, [], [])
  | buf, w :: ws =>
    let put := buf.take w.bytes
    if w.failed then (some false, put, ws)
    else if w.timedOut then (some false, put, ws)
    else if (buf.drop w.bytes).isEmpty then (some true, put, ws)
    else
      let (res, more, ws) := httpServerNetconnWriteLoop (buf.drop w.bytes) ws
      (res, put ++ more, ws)

def httpServerNetconnWrite (buf : List SentByte) (conn : Netconn) : Option Bool × Netconn :=
  let (res, put, ws) := httpServerNetconnWriteLoop buf conn.outcomes.writes
  (res, ⟨{ conn.outcomes with writes := ws }, conn.sent ++ put⟩)

/-- The outcome of the next allocation. -/
def osMalloc (conn : Netconn) : Option Bool × Netconn :=
  match conn.outcomes.allocs with
  | [] => (none, conn)
  | a :: as => (some a, ⟨{ conn.outcomes with allocs := as }, conn.sent⟩)

def httpServerNetconnPrintf (buf : List SentByte) (conn : Netconn) : Option Bool × Netconn :=
  match osMalloc conn with
  | (none, conn) => (none, conn)
  | (some false, conn) => (some false, conn)
  | (some true, conn) => httpServerNetconnWrite buf conn

/-! ### The content -/

def httpServerTxChunkSize : ℕ := 1536

section WriteContent

variable (resp : HttpServerResp) (conn : Netconn)

/-- The content as one buffer; the result of the write is only logged. -/
def writeContentFromMem : Option Unit × Netconn :=
  match httpServerNetconnWrite (RespPart.body.bytes resp.content) conn with
  | (none, conn) => (none, conn)
  | (some _, conn) => (some (), conn)

def writeContentFromFlash : Option Unit × Netconn := writeContentFromMem resp conn

def writeContentFromStaticMem : Option Unit × Netconn := writeContentFromMem resp conn

def writeContentFromHeap : Option Unit × Netconn := writeContentFromMem resp conn

end WriteContent

/-- The `num_bytes` of the next block of a file. -/
def fatfsNumBytes (remLen : ℕ) : ℕ :=
  if remLen ≤ httpServerTxChunkSize then remLen else httpServerTxChunkSize

/-- The loop of `write_content_from_fatfs`, with what is left of the file. -/
def writeContentFromFatfsLoop : List FileRead → Bytes → Netconn → Option Unit × Netconn
  | _, [], conn => (some (), conn)
  | [], _ :: _, conn => (none, conn)
  | r :: rs, c :: rest, conn =>
    let rem := c :: rest
    let numBytes := fatfsNumBytes rem.length
    if r.value numBytes < 0 then (some (), conn)
    else if r.value numBytes ≠ numBytes then (some (), conn)
    else
      match httpServerNetconnWrite (RespPart.body.bytes (rem.take numBytes)) conn with
      | (none, conn) => (none, conn)
      | (some false, conn) => (some (), conn)
      | (some true, conn) => writeContentFromFatfsLoop rs (rem.drop numBytes) conn

def writeContentFromFatfs (resp : HttpServerResp) (conn : Netconn) : Option Unit × Netconn :=
  match osMalloc conn with
  | (none, conn) => (none, conn)
  | (some false, conn) => (some (), conn)
  | (some true, conn) => writeContentFromFatfsLoop conn.outcomes.reads resp.content conn

/-- The loop of `write_content_from_json_generator`, with what is left to generate. -/
def writeContentFromJsonGeneratorLoop : List (Option ℕ) → Bytes → Netconn → Option Unit × Netconn
  | [], _, conn => (none, conn)
  | none :: _, _, conn => (some (), conn)
  | some k :: ks, rem, conn =>
    let chunk := rem.take (k + 1)
    if chunk.isEmpty then (some (), conn)
    else
      match httpServerNetconnWrite (RespPart.body.bytes chunk) conn with
      | (none, conn) => (none, conn)
      | (some false, conn) => (some (), conn)
      | (some true, conn) => writeContentFromJsonGeneratorLoop ks (rem.drop (k + 1)) conn

def writeContentFromJsonGenerator (resp : HttpServerResp) (conn : Netconn) :
    Option Unit × Netconn :=
  writeContentFromJsonGeneratorLoop conn.outcomes.chunks resp.content conn

def httpServerWriteContent (resp : HttpServerResp) (conn : Netconn) : Option Unit × Netconn :=
  match resp.contentLocation with
  | .noContent => (some (), conn)
  | .flashMem => writeContentFromFlash resp conn
  | .staticMem => writeContentFromStaticMem resp conn
  | .heap => writeContentFromHeap resp conn
  | .fatfs => writeContentFromFatfs resp conn
  | .jsonGenerator => writeContentFromJsonGenerator resp conn

/-! ### The header -/

def httpGetContentTypeStr : HttpContentType → Bytes
  | .textHtml => ascii "text/html"
  | .textPlain => ascii "text/plain"
  | .textCss => ascii "text/css"
  | .textJavascript => ascii "text/javascript"
  | .imagePng => ascii "image/png"
  | .imageSvgXml => ascii "image/svg+xml"
  | .applicationJson => ascii "application/json"
  | .applicationOctetStream => ascii "application/octet-stream"

def httpContentTypeIsTextual : HttpContentType → Bool
  | .textHtml | .textPlain | .textCss | .textJavascript | .applicationJson => true
  | .imagePng | .imageSvgXml | .applicationOctetStream => false

def httpGetContentEncodingStr (resp : HttpServerResp) : Bytes :=
  match resp.contentEncoding with
  | .none => []
  | .gzip => ascii "Content-Encoding: gzip\r\n"

def httpGetCacheControlStr (resp : HttpServerResp) : Bytes :=
  if resp.flagNoCache then
    ascii "Cache-Control: no-store, no-cache, must-revalidate, max-age=0\r\n" ++
      ascii "Pragma: no-cache\r\n"
  else []

/-- `date` is what `strftime` makes of `%a, %d %b %Y %H:%M:%S`. -/
def httpServerGenHeaderDateStr (date : Bytes) : Bytes := ascii "Date: " ++ date ++ ascii " GMT\r\n"

def HttpRespCode.number : HttpRespCode → ℕ
  | .c200 => 200
  | .c206 => 206
  | .c299 => 299
  | .c301 => 301
  | .c302 => 302
  | .c400 => 400
  | .c401 => 401
  | .c403 => 403
  | .c404 => 404
  | .c409 => 409
  | .c429 => 429
  | .c500 => 500
  | .c502 => 502
  | .c503 => 503
  | .c504 => 504

/-- A number as `%u` and `%zu` print it. -/
def printUInt (n : ℕ) : Bytes := (Nat.toDigits 10 n).map fun c => c.toNat.toUInt8

def sizeMax : ℕ := 4294967295

/-- The length that the header of a response with content declares. -/
def contentLenBuf (contentLen : ℕ) : Bytes :=
  if contentLen ≠ sizeMax then ascii "Content-Length: " ++ printUInt contentLen ++ ascii "\r\n"
  else []

section Headers

variable (resp : HttpServerResp) (extraHeaderFields : Bytes) (respCode : HttpRespCode)
  (statusMsg hostname date : Bytes)

def statusLine : Bytes :=
  ascii "HTTP/1.0 " ++ printUInt respCode.number ++ ascii " " ++ statusMsg ++ ascii "\r\n"

def serverLine : Bytes := ascii "Server: Ruuvi Gateway\r\n"

def contentTypeLine : Bytes :=
  let useExtraContentTypeParam := resp.contentTypeParam.any fun p => !p.isEmpty
  ascii "Content-type: " ++ httpGetContentTypeStr resp.contentType ++
    (if httpContentTypeIsTextual resp.contentType then ascii "; charset=utf-8" else []) ++
    (if useExtraContentTypeParam then ascii "; " else []) ++
    (if useExtraContentTypeParam then resp.contentTypeParam.getD [] else []) ++ ascii "\r\n"

/-- The text that `http_server_netconn_resp_with_content` prints. -/
def headerWithContent : Bytes :=
  statusLine respCode statusMsg ++ serverLine ++ httpServerGenHeaderDateStr date ++
    contentTypeLine resp ++ contentLenBuf resp.contentLen ++ extraHeaderFields ++
    httpGetContentEncodingStr resp ++ httpGetCacheControlStr resp ++ ascii "\r\n"

def emptyJson : Bytes := ascii "\x7b\x7d"

/-- The text that `http_server_netconn_resp_without_content` prints, up to its content. -/
def headerWithoutContent : Bytes :=
  statusLine respCode statusMsg ++ serverLine ++
    (ascii "Content-type: " ++ httpGetContentTypeStr .applicationJson ++
      ascii "; charset=utf-8\r\n") ++
    (ascii "Content-Length: " ++ printUInt emptyJson.length ++ ascii "\r\n") ++ ascii "\r\n"

/-- The text that `http_server_netconn_resp_301_auth_html` and the one for 302 print. -/
def headerAuthHtml : Bytes :=
  statusLine respCode statusMsg ++ serverLine ++
    (ascii "Location: http://" ++ hostname ++ ascii "/#auth\r\n") ++ extraHeaderFields ++
    ascii "\r\n"

end Headers

/-! ### The responses -/

section NetconnResp

variable (resp : HttpServerResp) (extraHeaderFields hostname date : Bytes) (conn : Netconn)

/-- A header that cannot be printed is logged, and then the content is sent. -/
def httpServerNetconnRespWithContent (extraHeaderFields : Bytes) (respCode : HttpRespCode)
    (statusMsg : Bytes) : Option Unit × Netconn :=
  let header := headerWithContent resp extraHeaderFields respCode statusMsg date
  match httpServerNetconnPrintf (RespPart.header.bytes header) conn with
  | (none, conn) => (none, conn)
  | (some _, conn) => httpServerWriteContent resp conn

def httpServerNetconnRespWithoutContent (respCode : HttpRespCode) (statusMsg : Bytes) :
    Option Unit × Netconn :=
  let header := headerWithoutContent respCode statusMsg
  let buf := RespPart.header.bytes header ++ RespPart.body.bytes emptyJson
  match httpServerNetconnPrintf buf conn with
  | (none, conn) => (none, conn)
  | (some _, conn) => (some (), conn)

/-- The two responses that send the browser to the login page differ in their status. -/
def httpServerNetconnRespAuthHtml (respCode : HttpRespCode) (statusMsg : Bytes) :
    Option Unit × Netconn :=
  let header := headerAuthHtml extraHeaderFields respCode statusMsg hostname
  match httpServerNetconnPrintf (RespPart.header.bytes header) conn with
  | (none, conn) => (none, conn)
  | (some _, conn) => (some (), conn)

def httpServerNetconnResp200 : Option Unit × Netconn :=
  httpServerNetconnRespWithContent resp date conn extraHeaderFields .c200 (ascii "OK")

def httpServerNetconnResp301AuthHtml : Option Unit × Netconn :=
  httpServerNetconnRespAuthHtml extraHeaderFields hostname conn .c301 (ascii "Moved Permanently")

def httpServerNetconnResp302AuthHtml : Option Unit × Netconn :=
  httpServerNetconnRespAuthHtml extraHeaderFields hostname conn .c302 (ascii "Found")

def httpServerNetconnRespWithCode (respCode : HttpRespCode) (statusMsg : Bytes) :
    Option Unit × Netconn :=
  if resp.contentLen = 0 then httpServerNetconnRespWithoutContent conn respCode statusMsg
  else httpServerNetconnRespWithContent resp date conn [] respCode statusMsg

def httpServerNetconnResp401 : Option Unit × Netconn :=
  httpServerNetconnRespWithContent resp date conn extraHeaderFields .c401 (ascii "Unauthorized")

def httpServerNetconnResp403 : Option Unit × Netconn :=
  httpServerNetconnRespWithContent resp date conn extraHeaderFields .c403 (ascii "Forbidden")

/-- `extraHeaderFields` is the text of `g_http_server_extra_header_fields`. -/
def httpServerNetconnResp : Option Unit × Netconn :=
  match resp.httpRespCode with
  | .c206 | .c200 | .c299 => httpServerNetconnResp200 resp extraHeaderFields date conn
  | .c301 => httpServerNetconnResp301AuthHtml extraHeaderFields hostname conn
  | .c302 => httpServerNetconnResp302AuthHtml extraHeaderFields hostname conn
  | .c400 => httpServerNetconnRespWithCode resp date conn .c400 (ascii "Bad Request")
  | .c401 => httpServerNetconnResp401 resp extraHeaderFields date conn
  | .c403 => httpServerNetconnResp403 resp extraHeaderFields date conn
  | .c404 => httpServerNetconnRespWithCode resp date conn .c404 (ascii "Not Found")
  | .c409 => httpServerNetconnRespWithCode resp date conn .c409 (ascii "Conflict")
  | .c429 => httpServerNetconnRespWithCode resp date conn .c429 (ascii "Too Many Requests")
  | .c500 => httpServerNetconnRespWithCode resp date conn .c500 (ascii "Internal Server Error")
  | .c502 => httpServerNetconnRespWithCode resp date conn .c502 (ascii "Bad Gateway")
  | .c503 => httpServerNetconnRespWithCode resp date conn .c503 (ascii "Service Unavailable")
  | .c504 => httpServerNetconnRespWithCode resp date conn .c504 (ascii "Gateway timeout")

end NetconnResp

end Auth
end Esp32WifiManager
