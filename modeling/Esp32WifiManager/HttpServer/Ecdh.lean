import Esp32WifiManager.Lib.CheckedMem
import Esp32WifiManager.HttpServer.HandleConn

/-!
# Encrypted requests

The key of the encryption is agreed on in a handshake. A request has its content
in AES-CBC with the initialisation vector and the SHA-256 of the content, all
three in base64. The content is decrypted in memory that is as large as the first
pass of the base64 decoder says.
-/

namespace Esp32WifiManager
namespace Ecdh

open CString CheckedMem HandleConn

/-! ### mbedtls -/

/-- What `mbedtls_base64_decode` returns. `olen` is the length that is needed when the destination
is too small, and it is not written for an invalid character. -/
inductive Base64Decode
  | ok (bytes : Bytes)
  | bufferTooSmall (olen : ℕ)
  | invalidCharacter

/-- `olen` after the call when it was zero before. -/
def Base64Decode.olen : Base64Decode → ℕ
  | ok bytes => bytes.length
  | bufferTooSmall olen => olen
  | invalidCharacter => 0

/-- The functions of mbedtls that have no context of their own. The destination of the base64
decoder is given by its size, `none` is `NULL`; the arguments of the decryption are the key, the
initialisation vector and whole blocks. -/
structure Mbedtls where
  base64Decode : Option ℕ → Bytes → Base64Decode
  base64Encode : Bytes → Bytes
  aesDecryptCbc : Bytes → Bytes → Bytes → Bytes
  sha256 : Bytes → Bytes
  base64Decode_length {n : ℕ} {b64 bytes : Bytes} :
    base64Decode (some n) b64 = .ok bytes → bytes.length ≤ n
  aesDecryptCbc_length (key iv content : Bytes) :
    (aesDecryptCbc key iv content).length = content.length
  sha256_length (m : Bytes) : (sha256 m).length = 32

/-! ### http_server_ecdh.c -/

def maxEncryptedLen : ℕ := 20 * 1024

abbrev aesKeySize : ℕ := 32

abbrev aesBlockSize : ℕ := 16

abbrev sha256Size : ℕ := 32

def mpiSize : ℕ := 32

def pubKeySize : ℕ := 1 + 2 * mpiSize

/-- The array of a public key in base64, with its terminator. -/
def pubKeyB64Size : ℕ := (pubKeySize / 3 + if pubKeySize % 3 ≠ 0 then 1 else 0) * 4 + 1

def tlsHandshakeMessageOffsetPubKey : ℕ := 3 + 1

/-- `http_server_ecdh_array_buf_t`; the block is the one that was allocated. -/
structure ArrayBuf where
  cap : ℕ
  pBuf : Block cap
  bufSize : ℕ

structure EncryptedReq where
  encrypted : Bytes
  iv : Bytes
  hash : Bytes

/-- The key; the context of ECDH is not read after a handshake. -/
structure EcdhState where
  aesKey : Block aesKeySize

def EcdhState.zero : EcdhState := ⟨Block.zero aesKeySize⟩

section Code

variable (M : Mbedtls)

/-- A text that is the base64 of `n` bytes is decoded into an array of this size. -/
def b64DecodeArray (n : ℕ) (b64 : Bytes) : Option (Block n) :=
  match M.base64Decode (some n) b64 with
  | .ok bytes => if hlen : bytes.length = n then some ⟨bytes, hlen⟩ else none
  | _ => none

def httpServerEcdhB64DecodePubKeyAddPrefixLen (pubKeyB64 : Bytes) : Option Bytes :=
  (b64DecodeArray M pubKeySize pubKeyB64).map fun bytes => pubKeySize.toUInt8 :: bytes.1

def httpServerEcdhB64DecodeAesIv (ivB64 : Bytes) : Option (Block aesBlockSize) :=
  b64DecodeArray M aesBlockSize ivB64

def httpServerEcdhB64DecodeHash (tagB64 : Bytes) : Option (Block sha256Size) :=
  b64DecodeArray M sha256Size tagB64

def httpServerEcdhB64EncodePubKey (pubKeyBin : Bytes) : Option Bytes :=
  let b64 := M.base64Encode pubKeyBin
  -- the encoder needs room for a terminator
  if b64.length + 1 > pubKeyB64Size then none
  else if b64.length ≠ pubKeyB64Size - 1 then none
  else some b64

def httpServerEcdhCalcSha256 (buf : Bytes) : Block sha256Size := ⟨M.sha256 buf, M.sha256_length buf⟩

theorem length_osMalloc {heap : HeapAnswer} {n : ℕ} {mem : Bytes} (h : osMalloc heap n = some mem) :
    mem.length = n := by
  obtain ⟨junk, -, rfl⟩ := Option.map_eq_some_iff.mp h
  rw [List.length_map, List.length_range]

/-- `os_malloc`, with the contents that the memory happens to have. -/
def osMallocBlock (heap : HeapAnswer) (n : ℕ) : Option (Block n) :=
  (osMalloc heap n).pmap Subtype.mk fun _ h => length_osMalloc h

def httpServerEcdhB64Decode (heap : HeapAnswer) (b64Str : Bytes) : Checked (Option ArrayBuf) := do
  let olen := (M.base64Decode none b64Str).olen
  if olen > maxEncryptedLen then return none
  else
    match osMallocBlock heap olen with
    | none => return none
    | some pBuf =>
      pBuf.sized olen
      match M.base64Decode (some olen) b64Str with
      | .ok bytes =>
        let pBuf ← pBuf.write 0 bytes
        return some ⟨olen, pBuf, olen⟩
      | _ => return none

/-- `mbedtls_aes_crypt_cbc`, which does nothing to a content that does not consist of blocks. -/
def mbedtlsAesCryptCbc (key : Bytes) (length : ℕ) (iv : Bytes) {m n : ℕ} (input : Block m)
    (output : Block n) : Checked (Block n) := do
  input.sized length
  output.sized length
  if length % aesBlockSize ≠ 0 then return output
  else output.write 0 (M.aesDecryptCbc key iv (← input.read 0 length))

def httpServerEcdhAesDecrypt (s : EcdhState) (encryptedBuf : ArrayBuf) (aesIv : Block aesBlockSize)
    (decryptedBuf : ArrayBuf) : Checked (Option ArrayBuf) := do
  let pBuf ← mbedtlsAesCryptCbc M s.aesKey.1 encryptedBuf.bufSize aesIv.1 encryptedBuf.pBuf
    decryptedBuf.pBuf
  let padLen ← pBuf.get ((decryptedBuf.bufSize : ℤ) - 1)
  if padLen.toNat > aesBlockSize then return none
  else if padLen.toNat > decryptedBuf.bufSize then return none
  else
    let bufSize ← sub decryptedBuf.bufSize padLen.toNat
    return some ⟨decryptedBuf.cap, pBuf, bufSize⟩

/-- What the allocations of one decryption give, the last one being that of the string. -/
structure DecryptAnswers where
  encryptedBuf : HeapAnswer
  decryptedBuf : HeapAnswer
  strBuf : Bool

/-- The string that is returned with `true`, `none` is `false`. -/
def httpServerEcdhDecrypt (s : EcdhState) (req : EncryptedReq) (ans : DecryptAnswers) :
    Checked (Option Bytes) :=
  match httpServerEcdhB64DecodeAesIv M req.iv with
  | none => .ok none
  | some aesIv =>
    match httpServerEcdhB64DecodeHash M req.hash with
    | none => .ok none
    | some hashExpected => do
      match ← httpServerEcdhB64Decode M ans.encryptedBuf req.encrypted with
      | none => return none
      | some encryptedArrBuf =>
        let bufSize := encryptedArrBuf.bufSize
        if bufSize % aesBlockSize ≠ 0 then return none
        else
          match osMallocBlock ans.decryptedBuf bufSize with
          | none => return none
          | some pBuf =>
            match ← httpServerEcdhAesDecrypt M s encryptedArrBuf aesIv ⟨bufSize, pBuf, bufSize⟩ with
            | none => return none
            | some decryptedArrBuf =>
              let content ← decryptedArrBuf.pBuf.read 0 decryptedArrBuf.bufSize
              if (httpServerEcdhCalcSha256 M content).1 ≠ hashExpected.1 then return none
              -- the string is printed with `%.*s`
              else return if ans.strBuf then some (text content) else none

/-- What the allocation and the functions of ECDH answer in a handshake: whether they succeed, the
message of the server and the shared secret. -/
structure HandshakeAnswers where
  calloc : Bool
  ecdhSetup : Bool
  makeParams : Option Bytes
  readPublic : Bool
  calcSecret : Option Bytes

/-- The public key of the server in base64, `none` is `false`. -/
def httpServerEcdhHandshakeInternal (ans : HandshakeAnswers) (pubKeyB64Cli : Bytes)
    (s : EcdhState) : Option Bytes × EcdhState :=
  match httpServerEcdhB64DecodePubKeyAddPrefixLen M pubKeyB64Cli with
  | none => (none, s)
  | some _ =>
    if ! ans.ecdhSetup then (none, s)
    else match ans.makeParams with
    | none => (none, s)
    | some handshakeMessage =>
      if handshakeMessage.length ≠ tlsHandshakeMessageOffsetPubKey + pubKeySize then (none, s)
      else match httpServerEcdhB64EncodePubKey M
          (handshakeMessage.drop tlsHandshakeMessageOffsetPubKey) with
      | none => (none, s)
      | some pubKeyB64Srv =>
        if ! ans.readPublic then (none, s)
        else match ans.calcSecret with
        | none => (none, s)
        | some sharedSecret =>
          if sharedSecret.length ≠ mpiSize then (none, s)
          else (some pubKeyB64Srv, { s with aesKey := httpServerEcdhCalcSha256 M sharedSecret })

def httpServerEcdhHandshake (ans : HandshakeAnswers) (pubKeyB64Cli : Bytes) (s : EcdhState) :
    Option Bytes × EcdhState :=
  if ! ans.calloc then (none, s) else httpServerEcdhHandshakeInternal M ans pubKeyB64Cli s

end Code

end Ecdh
end Esp32WifiManager
