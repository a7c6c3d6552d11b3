import Esp32WifiManager.HttpServer.EcdhDecrypt
import Esp32WifiManager.WifiManager.Credentials

/-!
# The size of encrypted contents

The length of a content is limited three times: as it is received, after the
base64 decoder and after the decryption. Every content that may be sent in plain
passes all three when it is encrypted, and no other content does.
-/

namespace Esp32WifiManager
namespace Ecdh

open CString CheckedMem HandleConn BlockPadding

/-- The body of an encrypted request, without white space. -/
def EncryptedReq.body (req : EncryptedReq) : Bytes :=
  ascii "\x7b\"encrypted\":\"" ++ req.encrypted ++ ascii "\",\"iv\":\"" ++ req.iv ++
    ascii "\",\"hash\":\"" ++ req.hash ++ ascii "\"\x7d"

/-- `cJSON_Parse` finds the three strings in the body. -/
def EncryptedReq.ReadBy (req : EncryptedReq) (plat : Auth.Platform) : Prop :=
  ∃ jsonRoot, plat.cJsonParse req.body = some jsonRoot ∧
    jsonRoot (ascii "encrypted") = some (some req.encrypted) ∧
    jsonRoot (ascii "iv") = some (some req.iv) ∧ jsonRoot (ascii "hash") = some (some req.hash)

/-- The decryption of the handlers is that of the key exchange. -/
def withDecrypt (M : Mbedtls) (s : EcdhState) (ans : DecryptAnswers) (out : Auth.Outcomes) :
    Auth.Outcomes :=
  { out with
    ecdhDecrypt := fun encrypted iv hash =>
      match httpServerEcdhDecrypt M s ⟨encrypted, iv, hash⟩ ans with
      | .ok (some str) => some (some str)
      | _ => none }

/-- Base64 without line breaks. -/
structure Mbedtls.WritesBase64 (M : Mbedtls) : Prop where
  length_base64Encode (m : Bytes) : (M.base64Encode m).length = (m.length + 2) / 3 * 4
  mem_base64Encode {m : Bytes} {c : UInt8} : c ∈ M.base64Encode m → c ∈ Base64.alphabet ∨ c = 61

section Sizes

variable {M : Mbedtls} {aesEncryptCbc : Bytes → Bytes → Bytes → Bytes} {s : EcdhState}
  {iv : Block aesBlockSize} {p : Bytes}

theorem length_padded (hp : p.length ≤ Auth.httpServerMaxUnencryptedContentSize) :
    (pad aesBlockSize p).length ≤ 8208 := by
  have hle := padLen_le (k := aesBlockSize) p
  rw [length_pad]
  exact Nat.add_le_add hp hle

theorem length_ciphertext (hM : M.ReadsClient aesEncryptCbc) :
    (aesEncryptCbc s.aesKey.1 iv.1 (pad aesBlockSize p)).length = (pad aesBlockSize p).length := by
  have hplain := hM.decrypt_encrypt s.aesKey.2 iv.2 (length_pad_mod (k := aesBlockSize) p (by decide))
  rw [← M.aesDecryptCbc_length s.aesKey.1 iv.1, hplain]

/-- The body of the request for a content that may be sent in plain. -/
theorem length_body (hM : M.ReadsClient aesEncryptCbc) (hbase : M.WritesBase64)
    (hp : p.length ≤ Auth.httpServerMaxUnencryptedContentSize) :
    (clientReq M aesEncryptCbc s.aesKey.1 iv.1 p).body.length ≤
      httpServerMaxEncryptedContentSize := by
  have hpadded := length_padded hp
  have hencrypted : (clientReq M aesEncryptCbc s.aesKey.1 iv.1 p).encrypted.length ≤ 10944 := by
    rw [clientReq, hbase.length_base64Encode, length_ciphertext hM]
    omega
  have hiv : (clientReq M aesEncryptCbc s.aesKey.1 iv.1 p).iv.length = 24 := by
    rw [clientReq, hbase.length_base64Encode, iv.2]
    rfl
  have hhash : (clientReq M aesEncryptCbc s.aesKey.1 iv.1 p).hash.length = 44 := by
    rw [clientReq, hbase.length_base64Encode, M.sha256_length]
  rw [EncryptedReq.body]
  simp only [List.length_append, hiv, hhash]
  have htexts : (ascii "\x7b\"encrypted\":\"").length + (ascii "\",\"iv\":\"").length +
      (ascii "\",\"hash\":\"").length + (ascii "\"\x7d").length = 34 := by decide
  have hmax : httpServerMaxEncryptedContentSize = 11434 := by decide
  omega

/-- Base64 has no NUL. -/
theorem text_base64Encode (hbase : M.WritesBase64) (m : Bytes) :
    text (M.base64Encode m) = M.base64Encode m := by
  apply text_eq_self
  intro hnul
  rcases hbase.mem_base64Encode hnul with h | h
  · exact absurd h (by decide)
  · exact absurd h (by decide)

/-- The decrypted content of a client is what the handlers are given. -/
theorem httpServerDecrypt_client {plat : Auth.Platform} (out : Auth.Outcomes) {ans : DecryptAnswers}
    (hM : M.ReadsClient aesEncryptCbc) (hbase : M.WritesBase64) (hnul : 0 ∉ p)
    (hp : p.length ≤ Auth.httpServerMaxUnencryptedContentSize) (hgranted : ans.Granted)
    (hmem : out.jsonMem = true)
    (hread : (clientReq M aesEncryptCbc s.aesKey.1 iv.1 p).ReadBy plat) :
    Auth.httpServerDecrypt plat (withDecrypt M s ans out)
      (clientReq M aesEncryptCbc s.aesKey.1 iv.1 p).body = some (some p) := by
  obtain ⟨jsonRoot, hparse, hencrypted, hiv, hhash⟩ := hread
  have hcJson : Auth.cJsonParse plat (withDecrypt M s ans out)
      (clientReq M aesEncryptCbc s.aesKey.1 iv.1 p).body = some jsonRoot := by
    rw [Auth.cJsonParse, ← hparse]
    exact if_pos hmem
  have hsize : (pad aesBlockSize p).length ≤ maxEncryptedLen := by
    have := length_padded hp
    have hmax : maxEncryptedLen = 20480 := by decide
    omega
  have hdecrypt := httpServerEcdhDecrypt_clientReq (s := s) hM hgranted iv hnul hsize
  simp only [Auth.httpServerDecrypt, hcJson, hencrypted, hiv, hhash, Option.join_some]
  simp only [clientReq] at hdecrypt
  simp only [withDecrypt, clientReq, text_base64Encode hbase, hdecrypt]

/-- Nothing above the limit gets to the handlers, encrypted or not. -/
theorem length_httpServerPostBody {plat : Auth.Platform} {out : Auth.Outcomes}
    {info : Auth.HttpReqInfo} {body : Bytes}
    (h : Auth.httpServerPostBody plat out info = some body) :
    body.length ≤ Auth.httpServerMaxUnencryptedContentSize := by
  have hcheck : ∀ b : Bytes,
      (if b.length > Auth.httpServerMaxUnencryptedContentSize then none else some b) = some body →
        body.length ≤ Auth.httpServerMaxUnencryptedContentSize := by
    intro b hb
    obtain ⟨hle, hb⟩ := Option.ite_none_left_eq_some.mp hb
    obtain rfl := Option.some.inj hb
    exact Nat.not_lt.mp hle
  simp only [Auth.httpServerPostBody] at h
  split at h
  · split at h
    · exact absurd h (by simp)
    · exact absurd h (by simp)
    · exact hcheck _ h
  · exact hcheck _ h

end Sizes

/-- A content that may be sent in plain is let through by every check of its encrypted form, and a
handler is called with it; no handler is called with a longer one, in whatever form it is sent. -/
theorem size_limits_agree (M : Mbedtls) (aesEncryptCbc : Bytes → Bytes → Bytes → Bytes)
    (hM : M.ReadsClient aesEncryptCbc) (hbase : M.WritesBase64) (plat : Auth.Platform)
    (out : Auth.Outcomes) (hmem : out.jsonMem = true) (p : Bytes) (hnul : 0 ∉ p) :
    (p.length ≤ Auth.httpServerMaxUnencryptedContentSize →
      ∀ (s : EcdhState) (iv : Block aesBlockSize) (ans : DecryptAnswers), ans.Granted →
      (clientReq M aesEncryptCbc s.aesKey.1 iv.1 p).ReadBy plat →
        (∀ (junk : ℕ → UInt8) (contentLenStr : Bytes) (ctx : HttpServerRecvCtx),
          strtoul contentLenStr = (clientReq M aesEncryptCbc s.aesKey.1 iv.1 p).body.length →
          (httpServerHandleRequestContentLen (some junk) contentLenStr ctx).1 = true) ∧
        ∀ (path : Bytes) (param : Auth.HttpServerHandleReqParam) (st : Auth.HttpServerState),
          Auth.flagEncrypted param.reqInfo.httpHeader = true →
          param.reqInfo.httpBody = (clientReq M aesEncryptCbc s.aesKey.1 iv.1 p).body →
          Auth.httpServerHandleReqPostWithEcdhKey plat (withDecrypt M s ans out) path param st =
            Auth.httpServerHandleReqPost plat (withDecrypt M s ans out) path param p st) ∧
      (Auth.httpServerMaxUnencryptedContentSize < p.length →
        ∀ (out' : Auth.Outcomes) (info : Auth.HttpReqInfo),
          Auth.httpServerPostBody plat out' info ≠ some p) := by
  constructor
  · intro hp s iv ans hgranted hread
    constructor
    · intro junk contentLenStr ctx hlen
      have hle : ¬ strtoul contentLenStr > httpServerMaxEncryptedContentSize := by
        rw [hlen]
        exact Nat.not_lt.mpr (length_body hM hbase hp)
      simp only [httpServerHandleRequestContentLen, hle, if_false, osReallocSafeAndClean,
        Option.map_some]
      split_ifs <;> rfl
    · intro path param st hflag hbody
      have hdecrypt := httpServerDecrypt_client out hM hbase hnul hp hgranted hmem hread
      have hpost : Auth.httpServerPostBody plat (withDecrypt M s ans out) param.reqInfo = some p := by
        simp only [Auth.httpServerPostBody, hflag, if_true, hbody, hdecrypt, text_eq_self hnul]
        exact if_neg (Nat.not_lt.mpr hp)
      rw [Auth.httpServerHandleReqPostWithEcdhKey, hpost]
  · intro hlong out' info h
    exact absurd (length_httpServerPostBody h) (Nat.not_le.mpr hlong)

theorem EncryptedReq.ReadBy.of_map {req : EncryptedReq} {plat : Auth.Platform}
    (h : (plat.cJsonParse req.body).map
        (fun jsonRoot => (jsonRoot (ascii "encrypted"), jsonRoot (ascii "iv"),
          jsonRoot (ascii "hash"))) =
      some (some (some req.encrypted), some (some req.iv), some (some req.hash))) :
    req.ReadBy plat := by
  obtain ⟨jsonRoot, hparse, hroot⟩ := Option.map_eq_some_iff.mp h
  simp only [Prod.mk.injEq] at hroot
  exact ⟨jsonRoot, hparse, hroot⟩

/-- The body with the empty object. -/
def sampleBody : Bytes :=
  (clientReq sampleMbedtls sampleEncrypt EcdhState.zero.aesKey.1 (Block.zero 16).1 samplePlain).body

def sampleParam : Auth.HttpServerHandleReqParam where
  reqInfo := ⟨ascii "POST", ascii "/connect.json", none,
    ascii "Ruuvi-Ecdh-Encrypted: true\r\n\r\n", sampleBody⟩
  remoteIp := .ofStr 17 (ascii "10.10.0.2")
  flagAccessFromLan := false

theorem sampleMbedtls_writesBase64 : sampleMbedtls.WritesBase64 :=
  ⟨Base64.length_encode, fun h => Base64.mem_encode h⟩

theorem size_limits_agree_empty_object :
    (httpServerHandleRequestContentLen (some fun _ => 0) (printNat sampleBody.length)
        HttpServerRecvCtx.zero).1 = true ∧
      Auth.httpServerHandleReqPostWithEcdhKey WifiManager.readerPlatform
          (withDecrypt sampleMbedtls .zero allGranted Auth.sampleOutcomes) (ascii "connect.json")
          sampleParam (Auth.HttpServerState.start ⟨[], [], []⟩ fun _ => 0) =
        Auth.httpServerHandleReqPost WifiManager.readerPlatform
          (withDecrypt sampleMbedtls .zero allGranted Auth.sampleOutcomes) (ascii "connect.json")
          sampleParam samplePlain (Auth.HttpServerState.start ⟨[], [], []⟩ fun _ => 0) := by
  obtain ⟨hcontentLen, hpost⟩ := (size_limits_agree sampleMbedtls sampleEncrypt
    sampleMbedtls_readsClient sampleMbedtls_writesBase64 WifiManager.readerPlatform
    Auth.sampleOutcomes rfl samplePlain (by decide)).1 (by decide) .zero (Block.zero 16) allGranted
    ⟨rfl, rfl, rfl⟩ (.of_map (by decide +kernel))
  exact ⟨hcontentLen _ _ _ (by decide +kernel), hpost _ _ _ (by decide +kernel) rfl⟩

end Ecdh
end Esp32WifiManager
