import Mathlib.Data.List.Basic

/-!
`backend/crypto.py`. `encrypt` pads the source to whole AES blocks and encrypts it in CBC mode
under the SHA-256 digest of the key, behind a random IV; `decrypt` decrypts what follows the IV
and checks the padding. The `cryptography` primitives are a parameter: SHA-256, and AES on one
block, of which only the law that block decryption undoes block encryption is assumed.
-/

namespace BitcointView

abbrev Bytes := List UInt8

def aesBlockSize : Nat := 16

structure CryptoBackend where
  sha256 : Bytes → Bytes
  encryptBlock : Bytes → Bytes → Bytes
  decryptBlock : Bytes → Bytes → Bytes
  length_encryptBlock :
    ∀ key b, b.length = aesBlockSize → (encryptBlock key b).length = aesBlockSize
  decryptBlock_encryptBlock :
    ∀ key b, b.length = aesBlockSize → decryptBlock key (encryptBlock key b) = b

/-- The identity cipher under the identity digest: the simplest backend that meets the law. -/
def CryptoBackend.identity : CryptoBackend where
  sha256 := id
  encryptBlock _ b := b
  decryptBlock _ b := b
  length_encryptBlock _ _ h := h
  decryptBlock_encryptBlock _ _ _ := rfl

/-- Sixteen bytes, as `os.urandom(AES_BLOCK_SIZE)` returns them. -/
structure Block where
  bytes : Bytes
  length_eq : bytes.length = aesBlockSize

inductive CryptoError
  | valueError (msg : String)
  | indexError (msg : String)
  | unableToDecryptRemoteData (msg : String)
  deriving DecidableEq, Repr

theorem UInt8.xor_xor_cancel (a b : UInt8) : a ^^^ b ^^^ b = a := by
  cases a; cases b
  show UInt8.mk (_ ^^^ _ ^^^ _) = _
  rw [BitVec.xor_assoc, BitVec.xor_self, BitVec.xor_zero]

def xorBytes (x y : Bytes) : Bytes := List.zipWith (fun a b => a ^^^ b) x y

theorem length_xorBytes_of_le {x y : Bytes} (h : x.length ≤ y.length) :
    (xorBytes x y).length = x.length := by
  rw [xorBytes, List.length_zipWith, Nat.min_eq_left h]

theorem xorBytes_xorBytes_cancel : ∀ {x y : Bytes}, x.length ≤ y.length → xorBytes (xorBytes x y) y = x
  | [], _, _ => rfl
  | _ :: _, [], h => absurd h (by simp)
  | a :: x, b :: y, h => by
    simp only [xorBytes, List.zipWith_cons_cons, UInt8.xor_xor_cancel, List.cons.injEq, true_and]
    exact xorBytes_xorBytes_cancel (by simpa using h)

theorem length_xorBytes_take {data prev : Bytes} (hdata : aesBlockSize ≤ data.length)
    (hprev : prev.length = aesBlockSize) :
    (xorBytes (data.take aesBlockSize) prev).length = aesBlockSize := by
  rw [length_xorBytes_of_le (by rw [List.length_take, hprev]; exact Nat.min_le_left _ _),
    List.length_take_of_le hdata]

section Cbc

variable (be : CryptoBackend) (key : Bytes)

/-- `update` of the encryptor of `Cipher(AES(key), CBC(iv))` on `n` blocks of `data`. -/
def cbcEncrypt : Nat → Bytes → Bytes → Bytes
  | 0, _, _ => []
  | n + 1, prev, data =>
    let c := be.encryptBlock key (xorBytes (data.take aesBlockSize) prev)
    c ++ cbcEncrypt n c (data.drop aesBlockSize)

/-- `update` of the decryptor on `n` blocks of `data`. -/
def cbcDecrypt : Nat → Bytes → Bytes → Bytes
  | 0, _, _ => []
  | n + 1, prev, data =>
    let c := data.take aesBlockSize
    xorBytes (be.decryptBlock key c) prev ++ cbcDecrypt n c (data.drop aesBlockSize)

variable {be key}

theorem length_cbcEncrypt :
    ∀ (n : Nat) {prev data : Bytes}, prev.length = aesBlockSize →
      data.length = aesBlockSize * n → (cbcEncrypt be key n prev data).length = aesBlockSize * n
  | 0, _, _, _, _ => rfl
  | n + 1, prev, data, hprev, hdata => by
    have hc := be.length_encryptBlock key _
      (length_xorBytes_take (by rw [hdata]; exact Nat.le_mul_of_pos_right _ n.succ_pos) hprev)
    have ih := length_cbcEncrypt n hc
      (show (data.drop aesBlockSize).length = aesBlockSize * n by
        rw [List.length_drop, hdata, Nat.mul_succ, Nat.add_sub_cancel])
    rw [cbcEncrypt, List.length_append, hc, ih, Nat.mul_succ, Nat.add_comm]

theorem cbcDecrypt_cbcEncrypt :
    ∀ (n : Nat) {prev data : Bytes}, prev.length = aesBlockSize →
      data.length = aesBlockSize * n → cbcDecrypt be key n prev (cbcEncrypt be key n prev data) = data
  | 0, _, data, _, hdata => by simp_all [cbcDecrypt]
  | n + 1, prev, data, hprev, hdata => by
    have htake : aesBlockSize ≤ data.length := by
      rw [hdata]; exact Nat.le_mul_of_pos_right _ n.succ_pos
    have hx := length_xorBytes_take htake hprev
    have hc := be.length_encryptBlock key _ hx
    have ih := cbcDecrypt_cbcEncrypt n hc
      (show (data.drop aesBlockSize).length = aesBlockSize * n by
        rw [List.length_drop, hdata, Nat.mul_succ, Nat.add_sub_cancel])
    have hcancel : xorBytes (xorBytes (data.take aesBlockSize) prev) prev = data.take aesBlockSize :=
      xorBytes_xorBytes_cancel (by rw [hprev, List.length_take_of_le htake])
    simp only [cbcEncrypt, cbcDecrypt, List.take_left' hc, List.drop_left' hc,
      be.decryptBlock_encryptBlock key _ hx, hcancel, ih, List.take_append_drop]

end Cbc

/-- Python's `xs[start:]`. -/
def pySliceFrom {α : Type} (xs : List α) (start : Int) : List α :=
  if start < 0 then xs.drop (xs.length - start.natAbs) else xs.drop start.toNat

def unableToDecryptMsg : String :=
  "Invalid padding when decrypting the DB data we received from the server. " ++
    "Are you using a new user and if yes have you used the same password as before? " ++
    "If you have then please open a bug report."

section Crypto

variable (be : CryptoBackend)

/-- `encrypt(key, source)`, where `os.urandom` returned `iv`. -/
def encrypt (iv : Block) (key source : Bytes) : Bytes :=
  let key := be.sha256 key
  let padding := aesBlockSize - source.length % aesBlockSize
  let source := source ++ List.replicate padding padding.toUInt8
  iv.bytes ++ cbcEncrypt be key (source.length / aesBlockSize) iv.bytes source

/-- `decryptor.update(source[AES_BLOCK_SIZE:])` in `decrypt`, the IV being
`source[:AES_BLOCK_SIZE]`. -/
def payload (key source : Bytes) : Bytes :=
  cbcDecrypt be (be.sha256 key) ((source.drop aesBlockSize).length / aesBlockSize)
    (source.take aesBlockSize) (source.drop aesBlockSize)

/-- The end of `decrypt`, from `padding = data[-1]`. -/
def checkPadding (data : Bytes) : Except CryptoError (Option Bytes) :=
  match data.getLast? with
  | none => .error (.indexError "index out of range")
  | some padding =>
    if pySliceFrom data (-(padding.toNat : Int)) ≠ List.replicate padding.toNat padding then
      .error (.unableToDecryptRemoteData unableToDecryptMsg)
    else .ok none

/-- `decrypt(key, source)`. It checks the padding and falls off its end, returning `None`. -/
def decrypt (key source : Bytes) : Except CryptoError (Option Bytes) :=
  let iv := source.take aesBlockSize
  if iv.length ≠ aesBlockSize then
    let n := iv.length
    .error (.valueError s!"Invalid IV size ({n}) for CBC.")
  else checkPadding (payload be key source)

end Crypto

def PaddingAccepted (data : Bytes) : Prop :=
  ∃ pre : Bytes, ∃ p : UInt8, 0 < p.toNat ∧ data = pre ++ List.replicate p.toNat p

theorem checkPadding_nil : checkPadding [] = .error (.indexError "index out of range") := rfl

theorem checkPadding_of_accepted {data : Bytes} (h : PaddingAccepted data) :
    checkPadding data = .ok none := by
  obtain ⟨pre, p, hp, rfl⟩ := h
  have hlast : (pre ++ List.replicate p.toNat p).getLast? = some p := by
    simp [List.getLast?_append, List.getLast?_replicate, Nat.pos_iff_ne_zero.mp hp]
  have hslice : pySliceFrom (pre ++ List.replicate p.toNat p) (-(p.toNat : Int)) =
      List.replicate p.toNat p := by
    have hneg : -(p.toNat : Int) < 0 := by omega
    simp only [pySliceFrom, hneg, if_true, Int.natAbs_neg, Int.natAbs_ofNat, List.length_append,
      List.length_replicate, Nat.add_sub_cancel]
    exact List.drop_left' rfl
  simp [checkPadding, hlast, hslice]

theorem checkPadding_of_not_accepted {data : Bytes} (hne : data ≠ []) (h : ¬ PaddingAccepted data) :
    checkPadding data = .error (.unableToDecryptRemoteData unableToDecryptMsg) := by
  obtain ⟨p, hlast⟩ := Option.ne_none_iff_exists'.mp (List.getLast?_eq_none_iff.not.mpr hne)
  suffices hs : pySliceFrom data (-(p.toNat : Int)) ≠ List.replicate p.toNat p by
    simp [checkPadding, hlast, hs]
  intro hs
  by_cases hp : p.toNat = 0
  · simp [pySliceFrom, hp, hne] at hs
  · have hneg : -(p.toNat : Int) < 0 := by omega
    simp only [pySliceFrom, hneg, if_true, Int.natAbs_neg, Int.natAbs_ofNat] at hs
    have hle : p.toNat ≤ data.length := by
      have := congrArg List.length hs
      simp only [List.length_drop, List.length_replicate] at this
      omega
    exact h ⟨data.take (data.length - p.toNat), p, Nat.pos_of_ne_zero hp,
      by rw [← hs, List.take_append_drop]⟩

theorem checkPadding_ne_ok_some (data b : Bytes) : checkPadding data ≠ .ok (some b) := by
  unfold checkPadding
  split
  · simp
  · split_ifs <;> simp

theorem decrypt_ne_ok_some (be : CryptoBackend) (key source b : Bytes) :
    decrypt be key source ≠ .ok (some b) := by
  unfold decrypt
  dsimp only
  split_ifs
  · simp
  · exact checkPadding_ne_ok_some _ b

theorem decrypt_of_le_length (be : CryptoBackend) (key : Bytes) {source : Bytes}
    (h : aesBlockSize ≤ source.length) :
    decrypt be key source = checkPadding (payload be key source) := by
  simp [decrypt, List.length_take_of_le h]

theorem encrypt_padding_accepted (s : Bytes) :
    PaddingAccepted (s ++ List.replicate (aesBlockSize - s.length % aesBlockSize)
      (aesBlockSize - s.length % aesBlockSize).toUInt8) := by
  have hlt : s.length % aesBlockSize < aesBlockSize := Nat.mod_lt _ (by decide)
  have hp : ((aesBlockSize - s.length % aesBlockSize).toUInt8).toNat =
      aesBlockSize - s.length % aesBlockSize :=
    UInt8.toNat_ofNat_of_lt (by simp only [aesBlockSize, UInt8.size] at hlt ⊢; omega)
  exact ⟨s, _, by rw [hp]; omega, by rw [hp]⟩

theorem payload_cbcEncrypt (be : CryptoBackend) (iv : Block) (key : Bytes) {data : Bytes} {n : Nat}
    (hdata : data.length = aesBlockSize * n) :
    payload be key (iv.bytes ++ cbcEncrypt be (be.sha256 key) n iv.bytes data) = data := by
  have hbody : (cbcEncrypt be (be.sha256 key) n iv.bytes data).length = aesBlockSize * n :=
    length_cbcEncrypt n iv.length_eq hdata
  simp only [payload, List.take_left' iv.length_eq, List.drop_left' iv.length_eq, hbody,
    Nat.mul_div_cancel_left _ (by decide : 0 < aesBlockSize)]
  exact cbcDecrypt_cbcEncrypt n iv.length_eq hdata

theorem payload_encrypt (be : CryptoBackend) (iv : Block) (key s : Bytes) :
    payload be key (encrypt be iv key s) =
      s ++ List.replicate (aesBlockSize - s.length % aesBlockSize)
        (aesBlockSize - s.length % aesBlockSize).toUInt8 :=
  payload_cbcEncrypt be iv key
    (by simp only [List.length_append, List.length_replicate, aesBlockSize]; omega)

theorem decrypt_encrypt_returns_none (be : CryptoBackend) (iv : Block) (key s : Bytes) :
    decrypt be key (encrypt be iv key s) = .ok none := by
  rw [decrypt_of_le_length be key (by simp [encrypt, iv.length_eq]), payload_encrypt]
  exact checkPadding_of_accepted (encrypt_padding_accepted s)

theorem decrypt_encrypt_returns_none_identity :
    decrypt CryptoBackend.identity [7] (encrypt CryptoBackend.identity ⟨List.replicate 16 0, rfl⟩
      [7] [1, 2, 3]) = .ok none :=
  decrypt_encrypt_returns_none _ _ _ _

theorem decrypt_raises_index_error_or_accepts_long_padding (be : CryptoBackend) (key : Bytes) :
    (∀ c : Block, decrypt be key c.bytes = .error (.indexError "index out of range")) ∧
      ∀ iv : Block, decrypt be key
        (iv.bytes ++ cbcEncrypt be (be.sha256 key) 2 iv.bytes (List.replicate 32 17)) = .ok none := by
  constructor
  · intro c
    rw [decrypt_of_le_length be key c.length_eq.ge]
    simp [payload, c.length_eq, cbcDecrypt, checkPadding_nil]
  · intro iv
    rw [decrypt_of_le_length be key (by simp [iv.length_eq]), payload_cbcEncrypt be iv key rfl]
    exact checkPadding_of_accepted ⟨List.replicate 15 17, 17, by decide, rfl⟩

theorem decrypt_raises_index_error_or_accepts_long_padding_identity :
    decrypt CryptoBackend.identity [7] (List.replicate 16 0) =
        .error (.indexError "index out of range") ∧
      decrypt CryptoBackend.identity [7] (List.replicate 16 0 ++
        cbcEncrypt CryptoBackend.identity (CryptoBackend.identity.sha256 [7]) 2
          (List.replicate 16 0) (List.replicate 32 17)) = .ok none :=
  ⟨(decrypt_raises_index_error_or_accepts_long_padding _ _).1 ⟨List.replicate 16 0, rfl⟩,
    (decrypt_raises_index_error_or_accepts_long_padding _ _).2 ⟨List.replicate 16 0, rfl⟩⟩

theorem encrypt_format_round_trip (be : CryptoBackend) (iv : Block) (key s : Bytes) :
    (encrypt be iv key s).take aesBlockSize = iv.bytes ∧
      (encrypt be iv key s).length = aesBlockSize * (s.length / aesBlockSize + 2) ∧
      ∃ p : UInt8, 0 < p.toNat ∧ p.toNat ≤ aesBlockSize ∧
        (payload be key (encrypt be iv key s)).getLast? = some p ∧
        (payload be key (encrypt be iv key s)).take
          ((payload be key (encrypt be iv key s)).length - p.toNat) = s := by
  have hlt : s.length % aesBlockSize < aesBlockSize := Nat.mod_lt _ (by decide)
  have hp : ((aesBlockSize - s.length % aesBlockSize).toUInt8).toNat =
      aesBlockSize - s.length % aesBlockSize :=
    UInt8.toNat_ofNat_of_lt (by simp only [aesBlockSize, UInt8.size] at hlt ⊢; omega)
  have hpadded : (s ++ List.replicate (aesBlockSize - s.length % aesBlockSize)
      (aesBlockSize - s.length % aesBlockSize).toUInt8).length =
      aesBlockSize * (s.length / aesBlockSize + 1) := by
    simp only [List.length_append, List.length_replicate, aesBlockSize]
    omega
  refine ⟨List.take_left' iv.length_eq, ?_, _, by rw [hp]; omega, by rw [hp]; omega, ?_⟩
  · simp only [encrypt]
    rw [List.length_append iv.bytes, iv.length_eq, hpadded, Nat.mul_div_cancel_left _ (by decide),
      length_cbcEncrypt _ iv.length_eq hpadded]
    simp only [aesBlockSize]
    omega
  · have hpos : aesBlockSize - s.length % aesBlockSize ≠ 0 := by omega
    rw [payload_encrypt, hp, List.getLast?_append, List.getLast?_replicate, if_neg hpos,
      List.length_append, List.length_replicate, Nat.add_sub_cancel, List.take_left]
    exact ⟨rfl, rfl⟩

theorem encrypt_format_round_trip_identity :
    (encrypt CryptoBackend.identity ⟨List.replicate 16 0, rfl⟩ [7] [1, 2, 3]).take aesBlockSize =
        List.replicate 16 0 ∧
      (encrypt CryptoBackend.identity ⟨List.replicate 16 0, rfl⟩ [7] [1, 2, 3]).length =
        aesBlockSize * ([1, 2, 3].length / aesBlockSize + 2) ∧
      ∃ p : UInt8, 0 < p.toNat ∧ p.toNat ≤ aesBlockSize ∧
        (payload CryptoBackend.identity [7]
          (encrypt CryptoBackend.identity ⟨List.replicate 16 0, rfl⟩ [7] [1, 2, 3])).getLast? =
          some p ∧
        (payload CryptoBackend.identity [7]
          (encrypt CryptoBackend.identity ⟨List.replicate 16 0, rfl⟩ [7] [1, 2, 3])).take
          ((payload CryptoBackend.identity [7]
            (encrypt CryptoBackend.identity ⟨List.replicate 16 0, rfl⟩ [7] [1, 2, 3])).length -
              p.toNat) = [1, 2, 3] :=
  encrypt_format_round_trip _ _ _ _

end BitcointView
