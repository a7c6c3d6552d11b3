import Esp32WifiManager.HttpServer.Ecdh
import Esp32WifiManager.Lib.Base64
import Esp32WifiManager.Lib.BlockPadding
import Mathlib.Logic.Equiv.Basic

/-!
# What a decryption returns

Once the three texts of a request are decoded and the memory is there, the
outcome of a decryption is computed from the decoded bytes. The only decoded
content that leads out of the memory is the empty one, which has no last byte,
and the string that is returned ends at the first NUL of what was decrypted.
-/

namespace Esp32WifiManager
namespace Ecdh

open CString CheckedMem HandleConn BlockPadding

section Decrypt

variable (M : Mbedtls) {s : EcdhState} {heap : HeapAnswer} {req : EncryptedReq}
  {ans : DecryptAnswers} {aesIv : Block aesBlockSize} {hash : Block sha256Size} {c b64 : Bytes}

/-- The contents of the block that is decrypted: what the second pass of the decoder writes, and
behind it what the memory happened to have. -/
def encodedContent (heap : HeapAnswer) (b64Str : Bytes) : Option Bytes :=
  let olen := (M.base64Decode none b64Str).olen
  if olen > maxEncryptedLen then none
  else
    match osMalloc heap olen, M.base64Decode (some olen) b64Str with
    | some mem, .ok bytes => some (bytes ++ mem.drop bytes.length)
    | _, _ => none

/-- The decrypted bytes without their padding, unless it is longer than a block. -/
def unpadded (plain : Bytes) : Option Bytes :=
  let padLen := (plain.getD (plain.length - 1) 0).toNat
  if padLen > aesBlockSize then none else some (plain.take (plain.length - padLen))

/-- The texts are decoded and there is memory to decrypt the content. -/
structure Decoded (req : EncryptedReq) (ans : DecryptAnswers) (aesIv : Block aesBlockSize)
    (hash : Block sha256Size) (c : Bytes) : Prop where
  iv : httpServerEcdhB64DecodeAesIv M req.iv = some aesIv
  hash : httpServerEcdhB64DecodeHash M req.hash = some hash
  content : encodedContent M ans.encryptedBuf req.encrypted = some c
  blocks : c.length % aesBlockSize = 0
  mem : ans.decryptedBuf.isSome = true

/-- What is returned for a content that has blocks. -/
def returned (s : EcdhState) (aesIv : Block aesBlockSize) (hash : Block sha256Size) (c : Bytes)
    (strBuf : Bool) : Option Bytes :=
  match unpadded (M.aesDecryptCbc s.aesKey.1 aesIv.1 c) with
  | none => none
  | some content =>
    if M.sha256 content ≠ hash.1 then none else if strBuf then some (text content) else none

variable {M}

theorem osMallocBlock_some {n : ℕ} (junk : ℕ → UInt8) :
    ∃ block : Block n, osMallocBlock (some junk) n = some block ∧
      osMalloc (some junk) n = some block.1 :=
  ⟨⟨_, length_osMalloc (show osMalloc (some junk) n = some _ from rfl)⟩, rfl, rfl⟩

/-- The decoder either gives nothing, or the block and its size. -/
theorem httpServerEcdhB64Decode_eq (heap : HeapAnswer) (b64 : Bytes) :
    (encodedContent M heap b64 = none ∧ httpServerEcdhB64Decode M heap b64 = .ok none) ∨
      ∃ (n : ℕ) (block : Block n), encodedContent M heap b64 = some block.1 ∧
        httpServerEcdhB64Decode M heap b64 = .ok (some ⟨n, block, n⟩) := by
  simp only [encodedContent, httpServerEcdhB64Decode]
  generalize (M.base64Decode none b64).olen = olen
  by_cases hmax : olen > maxEncryptedLen
  · left
    simp only [hmax, if_true, pure, Except.pure, and_self]
  · simp only [hmax, if_false]
    cases heap with
    | none => exact .inl ⟨rfl, rfl⟩
    | some junk =>
      obtain ⟨mem, hblock, hmem⟩ := osMallocBlock_some (n := olen) junk
      rw [hblock, hmem]
      cases hdecode : M.base64Decode (some olen) b64 with
      | ok bytes =>
        right
        have hle := M.base64Decode_length hdecode
        obtain ⟨block, hwrite, hcontent⟩ :=
          Block.write_behind (b := mem) (w := []) (d := bytes) rfl (by rw [mem.2]; exact hle)
        refine ⟨olen, block, congrArg some hcontent.symm, ?_⟩
        simp only [List.length_nil] at hwrite
        simp only [Block.sized, if_true, hwrite, bind, Except.bind, pure, Except.pure]
      | bufferTooSmall n =>
        left
        simp only [Block.sized, if_true, bind, Except.bind, pure, Except.pure, and_self]
      | invalidCharacter =>
        left
        simp only [Block.sized, if_true, bind, Except.bind, pure, Except.pure, and_self]

theorem mbedtlsAesCryptCbc_eq {n : ℕ} (key iv : Bytes) (input output : Block n)
    (hblocks : n % aesBlockSize = 0) :
    ∃ out, mbedtlsAesCryptCbc M key n iv input output = .ok out ∧
      out.1 = M.aesDecryptCbc key iv input.1 := by
  have hread : input.read 0 n = .ok input.1 := by
    rw [Block.read_eq (by omega), List.drop_zero, List.take_of_length_le input.2.le]
  have hlen := (M.aesDecryptCbc_length key iv input.1).trans input.2
  obtain ⟨out, hwrite, hout⟩ := Block.write_behind (b := output) (w := [])
    (d := M.aesDecryptCbc key iv input.1) rfl (by rw [hlen, output.2])
  refine ⟨out, ?_, ?_⟩
  · simp only [List.length_nil] at hwrite
    simp only [mbedtlsAesCryptCbc, Block.sized, if_true, hblocks, ne_eq, not_true_eq_false, if_false,
      hread, hwrite, bind, Except.bind]
  · rw [hout, hlen, List.drop_of_length_le output.2.le, List.append_nil, List.nil_append]

/-- Without a block there is no last byte. -/
theorem httpServerEcdhAesDecrypt_empty (input output : Block 0) :
    httpServerEcdhAesDecrypt M s ⟨0, input, 0⟩ aesIv ⟨0, output, 0⟩ = .error .read := by
  obtain ⟨out, hcrypt, -⟩ := mbedtlsAesCryptCbc_eq (M := M) s.aesKey.1 aesIv.1 input output rfl
  simp only [httpServerEcdhAesDecrypt, hcrypt, bind, Except.bind]
  rfl

/-- The padding is taken off the size that the block has. -/
theorem httpServerEcdhAesDecrypt_eq (s : EcdhState) (aesIv : Block aesBlockSize) {n : ℕ} (input output : Block n)
    (hblocks : n % aesBlockSize = 0) (hpos : 0 < n) :
    ∃ out : Block n, out.1 = M.aesDecryptCbc s.aesKey.1 aesIv.1 input.1 ∧
      httpServerEcdhAesDecrypt M s ⟨n, input, n⟩ aesIv ⟨n, output, n⟩ =
        .ok ((unpadded out.1).map fun content => ⟨n, out, content.length⟩) ∧
      ∀ content, unpadded out.1 = some content → out.read 0 content.length = .ok content := by
  obtain ⟨out, hcrypt, hout⟩ := mbedtlsAesCryptCbc_eq (M := M) s.aesKey.1 aesIv.1 input output hblocks
  have hlast : out.get ((n : ℤ) - 1) = .ok (out.1.getD (n - 1) 0) := by
    have hcast : (n : ℤ) - 1 = ((n - 1 : ℕ) : ℤ) := by omega
    rw [hcast, Block.get_eq (by omega)]
  refine ⟨out, hout, ?_, ?_⟩
  · simp only [httpServerEcdhAesDecrypt, hcrypt, bind, Except.bind, hlast, unpadded, out.2, pure,
      Except.pure]
    by_cases hpad : (out.1.getD (n - 1) 0).toNat > aesBlockSize
    · simp only [hpad, if_true, Option.map_none]
    · have hle : aesBlockSize ≤ n := Nat.le_of_dvd hpos (Nat.dvd_of_mod_eq_zero hblocks)
      have hsize : ¬ (out.1.getD (n - 1) 0).toNat > n := by omega
      have hsub : (out.1.getD (n - 1) 0).toNat ≤ n := by omega
      simp only [hpad, hsize, if_false, sub, hsub, if_true, Option.map_some, List.length_take, out.2]
      rw [Nat.min_eq_left (Nat.sub_le _ _)]
  · intro content hcontent
    obtain ⟨-, hcontent⟩ := Option.ite_none_left_eq_some.mp hcontent
    obtain rfl := Option.some.inj hcontent
    have hle : (out.1.take (out.1.length - (out.1.getD (out.1.length - 1) 0).toNat)).length ≤ n := by
      rw [List.length_take, out.2]
      exact Nat.min_le_right _ _
    rw [Block.read_eq (by omega), List.drop_zero, List.length_take, ← List.take_eq_take_min]

/-- The outcome for decoded texts. -/
theorem httpServerEcdhDecrypt_decoded (h : Decoded M req ans aesIv hash c) :
    httpServerEcdhDecrypt M s req ans =
      if c = [] then .error .read else .ok (returned M s aesIv hash c ans.strBuf) := by
  rcases httpServerEcdhB64Decode_eq (M := M) ans.encryptedBuf req.encrypted with
    ⟨hnone, -⟩ | ⟨n, block, hsome, hdecode⟩
  · exact absurd (h.content.symm.trans hnone) (by simp)
  obtain rfl : c = block.1 := Option.some.inj (h.content.symm.trans hsome)
  have hblocks : n % aesBlockSize = 0 := by
    have := h.blocks
    rwa [block.2] at this
  obtain ⟨junk, hjunk⟩ := Option.isSome_iff_exists.mp h.mem
  obtain ⟨output, houtput, -⟩ := osMallocBlock_some (n := n) junk
  simp only [httpServerEcdhDecrypt, h.iv, h.hash, hdecode, bind, Except.bind, hblocks, ne_eq,
    not_true_eq_false, if_false, hjunk, houtput]
  cases n with
  | zero =>
    have hempty : block.1 = [] := List.length_eq_zero_iff.mp block.2
    rw [httpServerEcdhAesDecrypt_empty, if_pos hempty]
  | succ n =>
    have hcontent : block.1 ≠ [] := by
      intro hempty
      have := block.2
      rw [hempty] at this
      exact absurd this (by simp)
    obtain ⟨out, hout, hdecrypt, hread⟩ :=
      httpServerEcdhAesDecrypt_eq (M := M) s aesIv block output hblocks
        (Nat.succ_pos n)
    rw [hdecrypt, if_neg hcontent, returned, ← hout]
    cases hunpadded : unpadded out.1 with
    | none => rfl
    | some content =>
      simp only [Option.map_some, hread content hunpadded, httpServerEcdhCalcSha256]
      by_cases hhash : M.sha256 content = hash.1
      · simp only [hhash, ne_eq, not_true_eq_false, if_false]
        rfl
      · simp only [hhash, ne_eq, not_false_eq_true, if_true]
        rfl

/-- In every other case `false` is returned. -/
theorem httpServerEcdhDecrypt_not_decoded (h : ∀ aesIv hash c, ¬ Decoded M req ans aesIv hash c) :
    httpServerEcdhDecrypt M s req ans = .ok none := by
  unfold httpServerEcdhDecrypt
  cases hiv : httpServerEcdhB64DecodeAesIv M req.iv with
  | none => rfl
  | some aesIv =>
    cases hhash : httpServerEcdhB64DecodeHash M req.hash with
    | none => rfl
    | some hash =>
      rcases httpServerEcdhB64Decode_eq (M := M) ans.encryptedBuf req.encrypted
        with ⟨-, hdecode⟩ | ⟨n, block, hsome, hdecode⟩
      · simp only [hdecode, bind, Except.bind]
        rfl
      · simp only [hdecode, bind, Except.bind]
        by_cases hblocks : n % aesBlockSize = 0
        · have hmem : ans.decryptedBuf = none := by
            by_contra hmem
            refine h aesIv hash block.1 ⟨hiv, hhash, hsome, ?_, Option.isSome_iff_ne_none.mpr hmem⟩
            rw [block.2]
            exact hblocks
          simp only [hblocks, ne_eq, not_true_eq_false, if_false, hmem]
          rfl
        · simp only [hblocks, ne_eq, not_false_eq_true, if_true]
          rfl

theorem length_encodedContent (h : encodedContent M heap b64 = some c) :
    c.length = (M.base64Decode none b64).olen ∧ heap.isSome = true ∧
      ∃ bytes, M.base64Decode (some (M.base64Decode none b64).olen) b64 = .ok bytes := by
  simp only [encodedContent] at h
  generalize (M.base64Decode none b64).olen = olen at h ⊢
  split_ifs at h
  split at h
  · next mem bytes hmem hdecode =>
    obtain rfl := Option.some.inj h
    have hle := M.base64Decode_length hdecode
    refine ⟨?_, ?_, bytes, hdecode⟩
    · rw [List.length_append, List.length_drop, length_osMalloc hmem]
      omega
    · obtain ⟨junk, hjunk, -⟩ := Option.map_eq_some_iff.mp hmem
      rw [hjunk]
      rfl
  · exact absurd h (by simp)

/-- The content is empty when the first pass of the decoder says so. -/
theorem encodedContent_eq_nil : encodedContent M heap b64 = some [] ↔
    (M.base64Decode none b64).olen = 0 ∧ heap.isSome = true ∧
      ∃ bytes, M.base64Decode (some 0) b64 = .ok bytes := by
  constructor
  · intro h
    obtain ⟨hlen, hheap, hbytes⟩ := length_encodedContent h
    rw [← hlen] at hbytes
    exact ⟨hlen.symm, hheap, hbytes⟩
  · rintro ⟨hlen, hheap, bytes, hbytes⟩
    obtain ⟨junk, rfl⟩ := Option.isSome_iff_exists.mp hheap
    have hnil : bytes = [] :=
      List.length_eq_zero_iff.mp (Nat.le_zero.mp (M.base64Decode_length hbytes))
    subst hnil
    simp only [encodedContent, hlen, hbytes]
    rfl

/-! ### Inside the buffers -/

/-- A decryption keeps to its buffers and returns, unless the vector and the hash are decoded, there
is memory for a content of no bytes, and the content is decoded to no bytes. -/
theorem decrypt_in_bounds_iff (M : Mbedtls) (s : EcdhState) (req : EncryptedReq)
    (ans : DecryptAnswers) :
    (∃ res, httpServerEcdhDecrypt M s req ans = .ok res) ↔
      ¬ ((httpServerEcdhB64DecodeAesIv M req.iv).isSome = true ∧
        (httpServerEcdhB64DecodeHash M req.hash).isSome = true ∧
        (M.base64Decode none req.encrypted).olen = 0 ∧
        (∃ bytes, M.base64Decode (some 0) req.encrypted = .ok bytes) ∧
        ans.encryptedBuf.isSome = true ∧ ans.decryptedBuf.isSome = true) := by
  constructor
  · rintro ⟨res, hres⟩ ⟨hiv, hhash, holen, hbytes, hmem, hmem'⟩
    obtain ⟨aesIv, haesIv⟩ := Option.isSome_iff_exists.mp hiv
    obtain ⟨hash, hhash⟩ := Option.isSome_iff_exists.mp hhash
    have hdecoded : Decoded M req ans aesIv hash [] :=
      ⟨haesIv, hhash, encodedContent_eq_nil.mpr ⟨holen, hmem, hbytes⟩, rfl, hmem'⟩
    rw [httpServerEcdhDecrypt_decoded hdecoded, if_pos rfl] at hres
    exact absurd hres (by simp)
  · intro hsafe
    by_cases hdecoded : ∃ aesIv hash c, Decoded M req ans aesIv hash c
    · obtain ⟨aesIv, hash, c, hdecoded⟩ := hdecoded
      have hcontent : c ≠ [] := by
        rintro rfl
        obtain ⟨holen, hmem, hbytes⟩ := encodedContent_eq_nil.mp hdecoded.content
        exact hsafe ⟨by rw [hdecoded.iv]; rfl, by rw [hdecoded.hash]; rfl, holen, hbytes, hmem,
          hdecoded.mem⟩
      exact ⟨_, (httpServerEcdhDecrypt_decoded hdecoded).trans (if_neg hcontent)⟩
    · simp only [not_exists] at hdecoded
      exact ⟨none, httpServerEcdhDecrypt_not_decoded hdecoded⟩

/-! ### What comes back -/

/-- The client encrypts what mbedtls decrypts, and mbedtls reads its base64. -/
structure Mbedtls.ReadsClient (M : Mbedtls) (aesEncryptCbc : Bytes → Bytes → Bytes → Bytes) :
    Prop where
  decrypt_encrypt {key iv m : Bytes} : key.length = aesKeySize → iv.length = aesBlockSize →
    m.length % aesBlockSize = 0 → M.aesDecryptCbc key iv (aesEncryptCbc key iv m) = m
  olen_base64Encode (m : Bytes) : (M.base64Decode none (M.base64Encode m)).olen = m.length
  base64Decode_encode {n : ℕ} {m : Bytes} :
    m.length ≤ n → M.base64Decode (some n) (M.base64Encode m) = .ok m

/-- The request of a client for a content. -/
def clientReq (M : Mbedtls) (aesEncryptCbc : Bytes → Bytes → Bytes → Bytes) (key iv p : Bytes) :
    EncryptedReq where
  encrypted := M.base64Encode (aesEncryptCbc key iv (pad aesBlockSize p))
  iv := M.base64Encode iv
  hash := M.base64Encode (M.sha256 p)

/-- All the memory that is asked for is there. -/
structure DecryptAnswers.Granted (ans : DecryptAnswers) : Prop where
  encryptedBuf : ans.encryptedBuf.isSome = true
  decryptedBuf : ans.decryptedBuf.isSome = true
  strBuf : ans.strBuf = true

section Client

variable {aesEncryptCbc : Bytes → Bytes → Bytes → Bytes} {p : Bytes}

theorem b64DecodeArray_encode (hM : M.ReadsClient aesEncryptCbc) {n : ℕ} (m : Block n) :
    b64DecodeArray M n (M.base64Encode m.1) = some m := by
  simp only [b64DecodeArray, hM.base64Decode_encode m.2.le, m.2, dite_true]

theorem unpadded_pad (p : Bytes) : unpadded (pad aesBlockSize p) = some p := by
  have hlast := getD_last_pad (k := aesBlockSize) p (by decide) (by decide)
  have hle := padLen_le (k := aesBlockSize) p
  rw [unpadded, hlast, if_neg (by omega), take_pad]

/-- What a client encrypts comes back, when the decoder allows its length. -/
theorem httpServerEcdhDecrypt_clientReq (hM : M.ReadsClient aesEncryptCbc)
    (hgranted : ans.Granted) (iv : Block aesBlockSize) (hnul : 0 ∉ p)
    (hsize : (pad aesBlockSize p).length ≤ maxEncryptedLen) :
    httpServerEcdhDecrypt M s (clientReq M aesEncryptCbc s.aesKey.1 iv.1 p) ans = .ok (some p) := by
  have hmod := length_pad_mod (k := aesBlockSize) p (by decide)
  have hplain := hM.decrypt_encrypt s.aesKey.2 iv.2 hmod
  set c := aesEncryptCbc s.aesKey.1 iv.1 (pad aesBlockSize p) with hc
  have hlen : c.length = (pad aesBlockSize p).length := by
    rw [← hplain, M.aesDecryptCbc_length]
  obtain ⟨junk, hjunk⟩ := Option.isSome_iff_exists.mp hgranted.encryptedBuf
  have hcontent : encodedContent M ans.encryptedBuf (M.base64Encode c) = some c := by
    have hmax : ¬ c.length > maxEncryptedLen := by omega
    obtain ⟨mem, -, hmem⟩ := osMallocBlock_some (n := c.length) junk
    have hrest : mem.1.drop c.length = [] := List.drop_of_length_le mem.2.le
    simp only [encodedContent, hM.olen_base64Encode, hmax, if_false, hjunk, hmem,
      hM.base64Decode_encode le_rfl, hrest, List.append_nil]
  have hdecoded : Decoded M (clientReq M aesEncryptCbc s.aesKey.1 iv.1 p) ans iv
      (httpServerEcdhCalcSha256 M p) c :=
    ⟨b64DecodeArray_encode hM iv, b64DecodeArray_encode hM (httpServerEcdhCalcSha256 M p),
      hcontent, by rw [hlen, hmod], hgranted.decryptedBuf⟩
  have hne : c ≠ [] := by
    have hpos := padLen_pos (k := aesBlockSize) p (by decide)
    rw [length_pad] at hlen
    rw [← List.length_pos_iff]
    omega
  have hsum : (httpServerEcdhCalcSha256 M p).1 = M.sha256 p := rfl
  rw [httpServerEcdhDecrypt_decoded hdecoded, if_neg hne, returned, hplain, unpadded_pad]
  simp only [hsum, ne_eq, not_true_eq_false, if_false, hgranted.strBuf, if_true, text_eq_self hnul]

end Client

/-- The bytes that the texts of a request are decrypted to. -/
def decryptedContent (M : Mbedtls) (s : EcdhState) (req : EncryptedReq) (ans : DecryptAnswers) :
    Option Bytes := do
  let aesIv ← httpServerEcdhB64DecodeAesIv M req.iv
  let c ← encodedContent M ans.encryptedBuf req.encrypted
  unpadded (M.aesDecryptCbc s.aesKey.1 aesIv.1 c)

/-- A string that is returned is made of decrypted bytes with the hash of the request, and it is
all of them when there is no NUL among them. -/
theorem httpServerEcdhDecrypt_some {str : Bytes}
    (h : httpServerEcdhDecrypt M s req ans = .ok (some str)) :
    ∃ content hash, decryptedContent M s req ans = some content ∧
      httpServerEcdhB64DecodeHash M req.hash = some hash ∧ hash.1 = M.sha256 content ∧
      (str = content ↔ 0 ∉ content) := by
  by_cases hdecoded : ∃ aesIv hash c, Decoded M req ans aesIv hash c
  · obtain ⟨aesIv, hash, c, hdecoded⟩ := hdecoded
    rw [httpServerEcdhDecrypt_decoded hdecoded] at h
    split_ifs at h
    have hreturned := Except.ok.inj h
    rw [returned] at hreturned
    cases hunpadded : unpadded (M.aesDecryptCbc s.aesKey.1 aesIv.1 c) with
    | none =>
      rw [hunpadded] at hreturned
      exact absurd hreturned (by simp)
    | some content =>
      simp only [hunpadded, ne_eq, ite_not] at hreturned
      obtain ⟨hhash, hreturned⟩ := Option.ite_none_right_eq_some.mp hreturned
      obtain ⟨-, hstr⟩ := Option.ite_none_right_eq_some.mp hreturned
      obtain rfl := Option.some.inj hstr
      refine ⟨content, hash, ?_, hdecoded.hash, hhash.symm, ?_⟩
      · simp only [decryptedContent, hdecoded.iv, hdecoded.content, hunpadded, Option.bind_eq_bind,
          Option.bind_some]
      · constructor
        · intro htext
          rw [← htext]
          exact nul_notMem_text content
        · exact text_eq_self
  · simp only [not_exists] at hdecoded
    rw [httpServerEcdhDecrypt_not_decoded hdecoded] at h
    exact absurd (Except.ok.inj h) (by simp)

end Decrypt

/-! ### The key -/

inductive EcdhEvent
  | handshake (ans : HandshakeAnswers) (pubKeyB64Cli : Bytes)
  | decrypt (req : EncryptedReq) (ans : DecryptAnswers)

section Runs

variable (M : Mbedtls)

/-- A decryption only reads the key. -/
def EcdhEvent.step (s : EcdhState) : EcdhEvent → EcdhState
  | handshake ans pubKeyB64Cli => (httpServerEcdhHandshake M ans pubKeyB64Cli s).2
  | decrypt _ _ => s

def run (s : EcdhState) (events : List EcdhEvent) : EcdhState := events.foldl (EcdhEvent.step M) s

/-- The key that a successful handshake agrees on. -/
def agreedKey (s : EcdhState) : EcdhEvent → Option (Block aesKeySize)
  | .handshake ans pubKeyB64Cli =>
    if (httpServerEcdhHandshake M ans pubKeyB64Cli s).1.isSome then
      ans.calcSecret.map fun sharedSecret => httpServerEcdhCalcSha256 M sharedSecret
    else none
  | .decrypt _ _ => none

/-- The key of the last successful handshake of a run. -/
def lastAgreedKey : EcdhState → List EcdhEvent → Option (Block aesKeySize)
  | _, [] => none
  | s, e :: events => (lastAgreedKey (e.step M s) events).or (agreedKey M s e)

variable {M} {s : EcdhState}

/-- Only the last step of a handshake writes the key. -/
theorem httpServerEcdhHandshakeInternal_key (ans : HandshakeAnswers) (pubKeyB64Cli : Bytes) :
    ((httpServerEcdhHandshakeInternal M ans pubKeyB64Cli s).1 = none ∧
      (httpServerEcdhHandshakeInternal M ans pubKeyB64Cli s).2 = s) ∨
    ∃ sharedSecret, ans.calcSecret = some sharedSecret ∧
      (httpServerEcdhHandshakeInternal M ans pubKeyB64Cli s).1.isSome = true ∧
      (httpServerEcdhHandshakeInternal M ans pubKeyB64Cli s).2.aesKey =
        httpServerEcdhCalcSha256 M sharedSecret := by
  generalize hres : httpServerEcdhHandshakeInternal M ans pubKeyB64Cli s = res
  unfold httpServerEcdhHandshakeInternal at hres
  -- the exits in the order of the source; only behind all of them the key is written
  split at hres
  · exact .inl (hres ▸ ⟨rfl, rfl⟩)
  split at hres
  · exact .inl (hres ▸ ⟨rfl, rfl⟩)
  split at hres
  · exact .inl (hres ▸ ⟨rfl, rfl⟩)
  split at hres
  · exact .inl (hres ▸ ⟨rfl, rfl⟩)
  split at hres
  · exact .inl (hres ▸ ⟨rfl, rfl⟩)
  split at hres
  · exact .inl (hres ▸ ⟨rfl, rfl⟩)
  split at hres
  · exact .inl (hres ▸ ⟨rfl, rfl⟩)
  next sharedSecret hsecret =>
  split at hres
  · exact .inl (hres ▸ ⟨rfl, rfl⟩)
  exact .inr ⟨sharedSecret, hsecret, hres ▸ ⟨rfl, rfl⟩⟩

/-- The key after one event. -/
theorem step_aesKey (e : EcdhEvent) : (e.step M s).aesKey = (agreedKey M s e).getD s.aesKey := by
  cases e with
  | decrypt req ans => rfl
  | handshake ans pubKeyB64Cli =>
    by_cases hcalloc : ans.calloc = true
    · have hhandshake : httpServerEcdhHandshake M ans pubKeyB64Cli s =
          httpServerEcdhHandshakeInternal M ans pubKeyB64Cli s := by
        simp [httpServerEcdhHandshake, hcalloc]
      rw [EcdhEvent.step, agreedKey, hhandshake]
      rcases httpServerEcdhHandshakeInternal_key (M := M) (s := s) ans pubKeyB64Cli with
        ⟨hnone, hkey⟩ | ⟨sharedSecret, hsecret, hsome, hkey⟩
      · simp [hnone, hkey]
      · simp [hsome, hkey, hsecret]
    · simp [EcdhEvent.step, agreedKey, httpServerEcdhHandshake, hcalloc]

/-- The key in use is that of the last successful handshake. -/
theorem run_aesKey (events : List EcdhEvent) :
    (run M s events).aesKey = (lastAgreedKey M s events).getD s.aesKey := by
  induction events generalizing s with
  | nil => rfl
  | cons e events ih =>
    rw [run, List.foldl_cons, lastAgreedKey, ← run, ih, step_aesKey]
    cases lastAgreedKey M (e.step M s) events <;> rfl

end Runs

/-! ### Encrypted requests as a whole -/

/-- After every run of handshakes and decryptions the key is that of the last successful handshake,
and what a client encrypts with it comes back. What comes back of any request is made of bytes with
the hash of the request, and it is all of them if and only if there is no NUL among them. -/
theorem encrypted_requests_sound (M : Mbedtls) (aesEncryptCbc : Bytes → Bytes → Bytes → Bytes)
    (hM : M.ReadsClient aesEncryptCbc) (s : EcdhState) (events : List EcdhEvent) :
    (∀ (iv : Block aesBlockSize) (p : Bytes) (ans : DecryptAnswers), 0 ∉ p →
        (pad aesBlockSize p).length ≤ maxEncryptedLen → ans.Granted →
        httpServerEcdhDecrypt M (run M s events)
          (clientReq M aesEncryptCbc (run M s events).aesKey.1 iv.1 p) ans = .ok (some p)) ∧
      (∀ (req : EncryptedReq) (ans : DecryptAnswers) (str : Bytes),
        httpServerEcdhDecrypt M (run M s events) req ans = .ok (some str) →
        ∃ content hash, decryptedContent M (run M s events) req ans = some content ∧
          httpServerEcdhB64DecodeHash M req.hash = some hash ∧ hash.1 = M.sha256 content ∧
          (str = content ↔ 0 ∉ content)) ∧
      (run M s events).aesKey = (lastAgreedKey M s events).getD s.aesKey := by
  refine ⟨?_, ?_, run_aesKey events⟩
  · intro iv p ans hnul hsize hgranted
    exact httpServerEcdhDecrypt_clientReq hM hgranted iv hnul hsize
  · intro req ans str h
    exact httpServerEcdhDecrypt_some h

section Sample

/-- An empty JSON object and a text with a NUL, the ciphertexts of both under a key and a vector of
zeros, and their hashes. -/
def samplePlain : Bytes := ascii "\x7b\x7d"

def sampleNul : Bytes := [97, 0, 98]

def sampleCipher : Bytes :=
  [0x68, 0x4c, 0xf9, 0x4b, 0xfd, 0xc8, 0xb4, 0x7c, 0xfd, 0x26, 0x2c, 0x69, 0x5c, 0xc6, 0x36, 0x3a]

def sampleNulCipher : Bytes :=
  [0x91, 0x79, 0x1d, 0x76, 0x45, 0xf4, 0xa0, 0xa6, 0x26, 0x2b, 0xd9, 0x73, 0x1d, 0xdc, 0x12, 0xe2]

def sampleSum : Bytes :=
  [0x44, 0x13, 0x6f, 0xa3, 0x55, 0xb3, 0x67, 0x8a, 0x11, 0x46, 0xad, 0x16, 0xf7, 0xe8, 0x64, 0x9e,
    0x94, 0xfb, 0x4f, 0xc2, 0x1f, 0xe7, 0x7e, 0x83, 0x10, 0xc0, 0x60, 0xf6, 0x1c, 0xaa, 0xff, 0x8a]

def sampleNulSum : Bytes :=
  [0x59, 0xb2, 0x71, 0xae, 0x1b, 0xbc, 0xb1, 0xd3, 0x1d, 0x41, 0x92, 0x98, 0x17, 0xf4, 0xb1, 0x6f,
    0xb4, 0x39, 0xeb, 0x4f, 0x31, 0x52, 0x0b, 0x5a, 0xd1, 0xd5, 0xce, 0x98, 0x92, 0x0a, 0x71, 0x38]

/-- The cipher on the two texts; it leaves other blocks alone. -/
def sampleEncrypt (_ _ m : Bytes) : Bytes :=
  Equiv.swap (pad aesBlockSize samplePlain) sampleCipher
    (Equiv.swap (pad aesBlockSize sampleNul) sampleNulCipher m)

def sampleDecrypt (_ _ m : Bytes) : Bytes :=
  Equiv.swap (pad aesBlockSize sampleNul) sampleNulCipher
    (Equiv.swap (pad aesBlockSize samplePlain) sampleCipher m)

theorem length_swap {a b : Bytes} (hab : a.length = b.length) (m : Bytes) :
    (Equiv.swap a b m).length = m.length := by
  rw [Equiv.swap_apply_def]
  split_ifs with ha hb
  · rw [ha, hab]
  · rw [hb, hab]
  · rfl

def sampleMbedtls : Mbedtls where
  base64Decode dst b64 :=
    match Base64.decode b64 with
    | none => .invalidCharacter
    | some bytes =>
      match dst with
      | none => if bytes = [] then .ok [] else .bufferTooSmall bytes.length
      | some n => if bytes.length ≤ n then .ok bytes else .bufferTooSmall bytes.length
  base64Encode := Base64.encode
  aesDecryptCbc := sampleDecrypt
  sha256 m := if m = samplePlain then sampleSum else if m = sampleNul then sampleNulSum
    else List.replicate 32 0
  base64Decode_length := by
    intro n b64 bytes h
    cases hdecode : Base64.decode b64 with
    | none => simp [hdecode] at h
    | some b =>
      simp only [hdecode] at h
      split_ifs at h with hle
      obtain rfl := Base64Decode.ok.inj h
      exact hle
  aesDecryptCbc_length := by
    intro key iv m
    exact (length_swap (by decide) _).trans (length_swap (by decide) m)
  sha256_length := by
    intro m
    split_ifs <;> decide

theorem sampleMbedtls_readsClient : sampleMbedtls.ReadsClient sampleEncrypt where
  decrypt_encrypt := by
    intro key iv m _ _ _
    change sampleDecrypt key iv (sampleEncrypt key iv m) = m
    rw [sampleDecrypt, sampleEncrypt, Equiv.swap_apply_self, Equiv.swap_apply_self]
  olen_base64Encode m := by
    simp only [sampleMbedtls, Base64.decode_encode]
    split_ifs with hm
    · rw [hm]
      rfl
    · rfl
  base64Decode_encode := by
    intro n m hle
    simp only [sampleMbedtls, Base64.decode_encode, hle, if_true]

/-- Memory is there for everything, and was zero. -/
def allGranted : DecryptAnswers := ⟨some fun _ => 0, some fun _ => 0, true⟩

theorem encrypted_requests_sound_empty_object :
    httpServerEcdhDecrypt sampleMbedtls .zero
      (clientReq sampleMbedtls sampleEncrypt (List.replicate 32 0) (List.replicate 16 0) samplePlain)
      allGranted = .ok (some samplePlain) :=
  (encrypted_requests_sound sampleMbedtls sampleEncrypt sampleMbedtls_readsClient .zero []).1
    (Block.zero 16) samplePlain allGranted (by decide) (by decide) ⟨rfl, rfl, rfl⟩

/-- The text behind the NUL is decrypted and hashed, but it is not returned. -/
theorem encrypted_request_cut_off :
    ∃ content, decryptedContent sampleMbedtls .zero
        (clientReq sampleMbedtls sampleEncrypt (List.replicate 32 0) (List.replicate 16 0) sampleNul)
        allGranted = some content ∧
      httpServerEcdhDecrypt sampleMbedtls .zero
        (clientReq sampleMbedtls sampleEncrypt (List.replicate 32 0) (List.replicate 16 0) sampleNul)
        allGranted = .ok (some [97]) ∧ content ≠ [97] :=
  ⟨sampleNul, by decide +kernel, by decide +kernel, by decide⟩

/-- The last byte is read of a content that has no bytes. -/
theorem decrypt_reads_outside :
    httpServerEcdhDecrypt sampleMbedtls .zero
      ⟨[], Base64.encode (List.replicate 16 0), Base64.encode sampleSum⟩ allGranted =
        .error .read := by
  decide +kernel

end Sample

end Ecdh
end Esp32WifiManager
