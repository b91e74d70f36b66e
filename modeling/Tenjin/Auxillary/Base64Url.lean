import Mathlib.Algebra.Order.Ring.Nat
import Mathlib.Tactic.Ring
import Tenjin.Python.Runtime

/-!
# Cursors as base64url texts

`to_base64url` and `from_base64url` of `utils.py`, with the parts of the standard library
that they use: `int.to_bytes`, `urlsafe_b64encode`, `urlsafe_b64decode` and
`int.from_bytes`.

* `a2bLoop` is the decoder: it skips what is not in the alphabet and stops at a complete
  padding.
* `fromBase64url_toBase64url` — a number that has a text is read back from it.
* `base64url_codec` — for a fixed length the texts of different numbers differ, all of them
  are equally long, and none contains padding.
-/

namespace Tenjin
namespace Auxillary

open Python

/-- The last `length` digits of `n` to the base 256, most significant first. -/
def bigEndian : (length : ℕ) → ℕ → List ℕ
  | 0, _ => []
  | length + 1, n => n / 256 ^ length % 256 :: bigEndian length n

/-- `n.to_bytes(length, byteorder="big")`: a number that is negative or does not fit is an
`OverflowError`. -/
def toBytes (n : Int) (length : ℕ) : Except Exn (List ℕ) :=
  if 0 ≤ n ∧ n < 256 ^ length then .ok (bigEndian length n.toNat)
  else .error .overflowError

/-- `int.from_bytes(data, byteorder="big")`. -/
def fromBytes (data : List ℕ) : ℕ := data.foldl (fun n byte => 256 * n + byte) 0

/-- The alphabet of `urlsafe_b64encode`. -/
def urlsafeAlphabet : List Char :=
  "ABCDEFGHIJKLMNOPQRSTUVWXYZabcdefghijklmnopqrstuvwxyz0123456789-_".toList

/-- The character of a number below 64. -/
def sextetChar (n : ℕ) : Char := urlsafeAlphabet.getD n 'A'

/-- The number of a character.  The translation of `urlsafe_b64decode` leaves the
characters of the other alphabet as they are. -/
def sextetValue? (c : Char) : Option ℕ :=
  if c = '+' then some 62
  else if c = '/' then some 63
  else urlsafeAlphabet.idxOf? c

/-- `urlsafe_b64encode`, with `pad` for each missing character. -/
def b64Encode (pad : List Char) : List ℕ → List Char
  | [] => []
  | [a] => [sextetChar (a / 4), sextetChar (a % 4 * 16)] ++ pad ++ pad
  | [a, b] =>
      [sextetChar (a / 4), sextetChar (a % 4 * 16 + b / 16), sextetChar (b % 16 * 4)] ++ pad
  | a :: b :: c :: rest =>
      [sextetChar (a / 4), sextetChar (a % 4 * 16 + b / 16),
        sextetChar (b % 16 * 4 + c / 64), sextetChar (c % 64)] ++ b64Encode pad rest

/-- `text.rstrip("=")`. -/
def rstripPad (text : List Char) : List Char :=
  (text.reverse.dropWhile (· = '=')).reverse

/-- The loop of `binascii.a2b_base64`: `quad` characters of a group have been read,
`left` holds the bits of the last one that are not written yet, and `pads` counts the
padding characters in a row. -/
def a2bLoop : List Char → (quad left pads : ℕ) → Except Exn (List ℕ)
  | [], quad, _, _ => if quad = 0 then .ok [] else .error .valueError
  | c :: cs, quad, left, pads =>
      if c = '=' then
        if 2 ≤ quad then
          if 4 ≤ quad + (pads + 1) then .ok [] else a2bLoop cs quad left (pads + 1)
        else a2bLoop cs quad left pads
      else
        match sextetValue? c with
        | none => a2bLoop cs quad left pads
        | some v =>
            match quad with
            | 0 => a2bLoop cs 1 v 0
            | 1 => (a2bLoop cs 2 (v % 16) 0).map ((left * 4 + v / 16) :: ·)
            | 2 => (a2bLoop cs 3 (v % 4) 0).map ((left * 16 + v / 4) :: ·)
            | _ => (a2bLoop cs 0 0 0).map ((left * 64 + v) :: ·)

/-- `urlsafe_b64decode`: a character that is not ASCII is a `ValueError`. -/
def urlsafeB64Decode (text : List Char) : Except Exn (List ℕ) :=
  if text.all fun c => c.toNat < 128 then a2bLoop text 0 0 0 else .error .valueError

/-- `to_base64url`. -/
def toBase64url (n : Int) (length : ℕ) : Except Exn String :=
  match toBytes n length with
  | .error e => .error e
  | .ok data => .ok (String.ofList (rstripPad (b64Encode ['='] data)))

/-- `from_base64url`. -/
def fromBase64url (b64url : String) : Except Exn Int :=
  let text := b64url.toList
  let padding := List.replicate ((4 - text.length % 4) % 4) '='
  match urlsafeB64Decode (text ++ padding) with
  | .error e => .error e
  | .ok data => .ok (fromBytes data)

theorem bigEndian_lt {length n byte : ℕ} (h : byte ∈ bigEndian length n) : byte < 256 := by
  induction length with
  | zero => cases h
  | succ length ih =>
      rcases List.mem_cons.mp h with rfl | h
      · exact Nat.mod_lt _ (by omega)
      · exact ih h

/-- The digits of a number give the number back. -/
theorem foldl_bigEndian (length n start : ℕ) :
    (bigEndian length n).foldl (fun m byte => 256 * m + byte) start =
      start * 256 ^ length + n % 256 ^ length := by
  induction length generalizing start with
  | zero => simp [bigEndian, Nat.mod_one]
  | succ length ih =>
      rw [bigEndian, List.foldl_cons, ih]
      have hsplit : n % 256 ^ (length + 1) =
          n % 256 ^ length + 256 ^ length * (n / 256 ^ length % 256) := by
        rw [Nat.pow_succ, Nat.mod_mul]
      rw [hsplit, Nat.pow_succ]
      ring

theorem fromBytes_bigEndian {length n : ℕ} (h : n < 256 ^ length) :
    fromBytes (bigEndian length n) = n := by
  rw [fromBytes, foldl_bigEndian, Nat.zero_mul, Nat.zero_add, Nat.mod_eq_of_lt h]

/-- Every character of the alphabet is ASCII, is no padding, and has its own number. -/
theorem sextetChar_spec {n : ℕ} (h : n < 64) :
    (sextetChar n).toNat < 128 ∧ sextetChar n ≠ '=' ∧ sextetValue? (sextetChar n) = some n := by
  have hall : ∀ k : Fin 64, (sextetChar k).toNat < 128 ∧ sextetChar k ≠ '=' ∧
      sextetValue? (sextetChar k) = some k.val := by decide +kernel
  exact hall ⟨n, h⟩

/-- The characters of an encoding without padding. -/
theorem mem_b64Encode {data : List ℕ} (hdata : ∀ byte ∈ data, byte < 256) {pad : List Char}
    {c : Char} (h : c ∈ b64Encode pad data) : (∃ n < 64, c = sextetChar n) ∨ c ∈ pad := by
  induction data using b64Encode.induct with
  | case1 => cases h
  | case2 a =>
      have ha := hdata a (by simp)
      simp only [b64Encode, List.mem_append, List.mem_cons, List.not_mem_nil, or_false] at h
      rcases h with ((rfl | rfl) | h) | h
      · exact .inl ⟨_, by omega, rfl⟩
      · exact .inl ⟨_, by omega, rfl⟩
      · exact .inr h
      · exact .inr h
  | case3 a b =>
      have ha := hdata a (by simp)
      have hb := hdata b (by simp)
      simp only [b64Encode, List.mem_append, List.mem_cons, List.not_mem_nil, or_false] at h
      rcases h with (rfl | rfl | rfl) | h
      · exact .inl ⟨_, by omega, rfl⟩
      · exact .inl ⟨_, by omega, rfl⟩
      · exact .inl ⟨_, by omega, rfl⟩
      · exact .inr h
  | case4 a b c' rest ih =>
      have ha := hdata a (by simp)
      have hb := hdata b (by simp)
      have hc := hdata c' (by simp)
      simp only [b64Encode, List.mem_append, List.mem_cons, List.not_mem_nil, or_false] at h
      rcases h with (rfl | rfl | rfl | rfl) | h
      · exact .inl ⟨_, by omega, rfl⟩
      · exact .inl ⟨_, by omega, rfl⟩
      · exact .inl ⟨_, by omega, rfl⟩
      · exact .inl ⟨_, by omega, rfl⟩
      · exact ih (fun byte hbyte => hdata byte (by simp [hbyte])) h

/-- The encoding with padding is the one without, followed by the padding that completes
the last group. -/
theorem b64Encode_eq_padded (data : List ℕ) :
    b64Encode ['='] data = b64Encode [] data ++
      List.replicate ((4 - (b64Encode [] data).length % 4) % 4) '=' := by
  induction data using b64Encode.induct with
  | case1 => rfl
  | case2 a => rfl
  | case3 a b => rfl
  | case4 a b c rest ih =>
      have hlength : (b64Encode [] (a :: b :: c :: rest)).length % 4 =
          (b64Encode [] rest).length % 4 := by
        simp only [b64Encode, List.length_append, List.length_cons, List.length_nil]
        omega
      rw [hlength, b64Encode, b64Encode, List.append_assoc, ← ih]

/-- Stripping the padding leaves the encoding without it. -/
theorem rstripPad_b64Encode {data : List ℕ} (hdata : ∀ byte ∈ data, byte < 256) :
    rstripPad (b64Encode ['='] data) = b64Encode [] data := by
  have hpad : ∀ c ∈ (b64Encode [] data).reverse, c ≠ '=' := by
    intro c hc
    rcases mem_b64Encode hdata (List.mem_reverse.mp hc) with ⟨n, hn, rfl⟩ | h
    · exact (sextetChar_spec hn).2.1
    · cases h
  have hdrop : ∀ (k : ℕ) (cs : List Char), (∀ c ∈ cs, c ≠ '=') →
      (List.replicate k '=' ++ cs).dropWhile (· = '=') = cs := by
    intro k cs hcs
    induction k with
    | zero =>
        cases cs with
        | nil => rfl
        | cons c cs => simp [hcs c (List.mem_cons_self ..)]
    | succ k ih => simpa [List.replicate_succ] using ih
  rw [rstripPad, b64Encode_eq_padded, List.reverse_append, List.reverse_replicate,
    hdrop _ _ hpad, List.reverse_reverse]

/-- The four places of a character of the alphabet in a group. -/
theorem a2bLoop_first {n : ℕ} (h : n < 64) (cs : List Char) (left pads : ℕ) :
    a2bLoop (sextetChar n :: cs) 0 left pads = a2bLoop cs 1 n 0 := by
  obtain ⟨_, hpad, hvalue⟩ := sextetChar_spec h
  rw [a2bLoop.eq_def]
  simp only [hpad, if_false, hvalue]

theorem a2bLoop_second {n : ℕ} (h : n < 64) (cs : List Char) (left pads : ℕ) :
    a2bLoop (sextetChar n :: cs) 1 left pads =
      (a2bLoop cs 2 (n % 16) 0).map ((left * 4 + n / 16) :: ·) := by
  obtain ⟨_, hpad, hvalue⟩ := sextetChar_spec h
  rw [a2bLoop.eq_def]
  simp only [hpad, if_false, hvalue]

theorem a2bLoop_third {n : ℕ} (h : n < 64) (cs : List Char) (left pads : ℕ) :
    a2bLoop (sextetChar n :: cs) 2 left pads =
      (a2bLoop cs 3 (n % 4) 0).map ((left * 16 + n / 4) :: ·) := by
  obtain ⟨_, hpad, hvalue⟩ := sextetChar_spec h
  rw [a2bLoop.eq_def]
  simp only [hpad, if_false, hvalue]

theorem a2bLoop_fourth {n : ℕ} (h : n < 64) (cs : List Char) (left pads : ℕ) :
    a2bLoop (sextetChar n :: cs) 3 left pads =
      (a2bLoop cs 0 0 0).map ((left * 64 + n) :: ·) := by
  obtain ⟨_, hpad, hvalue⟩ := sextetChar_spec h
  rw [a2bLoop.eq_def]
  simp only [hpad, if_false, hvalue]

/-- Decoding gives back the bytes that were encoded. -/
theorem a2bLoop_b64Encode {data : List ℕ} (hdata : ∀ byte ∈ data, byte < 256) :
    a2bLoop (b64Encode ['='] data) 0 0 0 = .ok data := by
  induction data using b64Encode.induct with
  | case1 => rfl
  | case2 a =>
      have ha := hdata a (by simp)
      show a2bLoop [sextetChar (a / 4), sextetChar (a % 4 * 16), '=', '='] 0 0 0 = _
      rw [a2bLoop_first (by omega), a2bLoop_second (by omega)]
      show Except.ok [a / 4 * 4 + a % 4 * 16 / 16] = Except.ok [a]
      have hfirst : a / 4 * 4 + a % 4 * 16 / 16 = a := by omega
      rw [hfirst]
  | case3 a b =>
      have ha := hdata a (by simp)
      have hb := hdata b (by simp)
      show a2bLoop [sextetChar (a / 4), sextetChar (a % 4 * 16 + b / 16),
        sextetChar (b % 16 * 4), '='] 0 0 0 = _
      rw [a2bLoop_first (by omega), a2bLoop_second (by omega), a2bLoop_third (by omega)]
      show Except.ok [a / 4 * 4 + (a % 4 * 16 + b / 16) / 16,
        (a % 4 * 16 + b / 16) % 16 * 16 + b % 16 * 4 / 4] = Except.ok [a, b]
      have hfirst : a / 4 * 4 + (a % 4 * 16 + b / 16) / 16 = a := by omega
      have hsecond : (a % 4 * 16 + b / 16) % 16 * 16 + b % 16 * 4 / 4 = b := by omega
      rw [hfirst, hsecond]
  | case4 a b c rest ih =>
      have ha := hdata a (by simp)
      have hb := hdata b (by simp)
      have hc := hdata c (by simp)
      show a2bLoop (sextetChar (a / 4) :: sextetChar (a % 4 * 16 + b / 16) ::
        sextetChar (b % 16 * 4 + c / 64) :: sextetChar (c % 64) :: b64Encode ['='] rest)
        0 0 0 = _
      rw [a2bLoop_first (by omega), a2bLoop_second (by omega), a2bLoop_third (by omega),
        a2bLoop_fourth (by omega), ih (fun byte hbyte => hdata byte (by simp [hbyte]))]
      have hfirst : a / 4 * 4 + (a % 4 * 16 + b / 16) / 16 = a := by omega
      have hsecond : (a % 4 * 16 + b / 16) % 16 * 16 + (b % 16 * 4 + c / 64) / 4 = b := by
        omega
      have hthird : (b % 16 * 4 + c / 64) % 4 * 64 + c % 64 = c := by omega
      rw [hfirst, hsecond, hthird]
      rfl

/-- What an attempt to write a number gives: a text only for the numbers that fit. -/
theorem toBase64url_eq_ok_iff (n : Int) (length : ℕ) :
    (∃ text, toBase64url n length = .ok text) ↔ 0 ≤ n ∧ n < 256 ^ length := by
  unfold toBase64url toBytes
  split
  · rename_i heq
    split at heq
    · cases heq
    · rename_i hfits
      exact iff_of_false (fun ⟨_, h⟩ => by cases h) hfits
  · rename_i heq
    split at heq
    · rename_i hfits
      exact iff_of_true ⟨_, rfl⟩ hfits
    · cases heq

/-- Data that have been encoded are decoded. -/
theorem urlsafeB64Decode_b64Encode {data : List ℕ} (hdata : ∀ byte ∈ data, byte < 256) :
    urlsafeB64Decode (b64Encode ['='] data) = .ok data := by
  have hascii : (b64Encode ['='] data).all (fun c => c.toNat < 128) = true := by
    rw [List.all_eq_true]
    intro c hc
    rw [decide_eq_true_eq]
    rcases mem_b64Encode hdata hc with ⟨k, hk, rfl⟩ | hpad
    · exact (sextetChar_spec hk).1
    · rw [List.mem_singleton.mp hpad]
      decide
  rw [urlsafeB64Decode, if_pos hascii, a2bLoop_b64Encode hdata]

/-- A number that has been written is read back. -/
theorem fromBase64url_toBase64url {n : Int} {length : ℕ} {text : String}
    (h : toBase64url n length = .ok text) : fromBase64url text = .ok n := by
  have hfits := (toBase64url_eq_ok_iff n length).mp ⟨text, h⟩
  have hbytes : ∀ byte ∈ bigEndian length n.toNat, byte < 256 :=
    fun byte hbyte => bigEndian_lt hbyte
  have hpow : n.toNat < 256 ^ length := by
    have hcast : (n.toNat : Int) < ((256 ^ length : ℕ) : Int) := by
      rw [Int.toNat_of_nonneg hfits.1]
      push_cast
      exact hfits.2
    exact_mod_cast hcast
  simp only [toBase64url, toBytes, if_pos hfits, Except.ok.injEq] at h
  rw [← h, fromBase64url]
  simp only [String.toList_ofList]
  rw [rstripPad_b64Encode hbytes, ← b64Encode_eq_padded, urlsafeB64Decode_b64Encode hbytes]
  show Except.ok ((fromBytes (bigEndian length n.toNat) : ℕ) : Int) = .ok n
  rw [fromBytes_bigEndian hpow, Int.toNat_of_nonneg hfits.1]

/-- Four characters for three bytes, and the incomplete group at the end without its
padding. -/
theorem length_b64Encode (data : List ℕ) :
    (b64Encode [] data).length = (4 * data.length + 2) / 3 := by
  induction data using b64Encode.induct with
  | case1 => rfl
  | case2 a => simp [b64Encode]
  | case3 a b => simp [b64Encode]
  | case4 a b c rest ih =>
      simp only [b64Encode, List.length_append, List.length_cons, List.length_nil, ih]
      omega

theorem length_bigEndian (length n : ℕ) : (bigEndian length n).length = length := by
  induction length with
  | zero => rfl
  | succ length ih => rw [bigEndian, List.length_cons, ih]

/-- The text of a number that fits is the encoding of its bytes without padding. -/
theorem toBase64url_of_lt {length n : ℕ} (h : n < 256 ^ length) :
    toBase64url n length = .ok (String.ofList (b64Encode [] (bigEndian length n))) := by
  have hfits : (0 : Int) ≤ n ∧ (n : Int) < 256 ^ length :=
    ⟨Int.natCast_nonneg n, by exact_mod_cast h⟩
  simp only [toBase64url, toBytes, if_pos hfits, Int.toNat_natCast]
  rw [rstripPad_b64Encode fun byte hbyte => bigEndian_lt hbyte]

/-- The codec of the cursors: every number that fits is read back from its text, the length
of the texts depends on the length of the numbers only, no text contains padding, and
different numbers have different texts. -/
theorem base64url_codec (length : ℕ) :
    (∀ n : ℕ, n < 256 ^ length → ∃ text, toBase64url n length = .ok text ∧
      fromBase64url text = .ok n ∧ text.length = (4 * length + 2) / 3 ∧
      '=' ∉ text.toList) ∧
    ∀ n m : ℕ, n < 256 ^ length → m < 256 ^ length →
      toBase64url n length = toBase64url m length → n = m := by
  constructor
  · intro n hn
    refine ⟨_, toBase64url_of_lt hn, fromBase64url_toBase64url (toBase64url_of_lt hn), ?_, ?_⟩
    · rw [String.length_ofList, length_b64Encode, length_bigEndian]
    · rw [String.toList_ofList]
      intro hpad
      rcases mem_b64Encode (fun byte hbyte => bigEndian_lt hbyte) hpad with ⟨k, hk, heq⟩ | hpad
      · exact (sextetChar_spec hk).2.1 heq.symm
      · cases hpad
  · intro n m hn hm hsame
    -- the common text is read back as both numbers
    rw [toBase64url_of_lt hm] at hsame
    have hread := fromBase64url_toBase64url hsame
    rw [fromBase64url_toBase64url (toBase64url_of_lt hm)] at hread
    exact_mod_cast (Except.ok.inj hread).symm

/-- The largest number of one byte. -/
theorem base64url_codec_byte : ∃ text, toBase64url 255 1 = .ok text ∧
    fromBase64url text = .ok 255 ∧ text.length = 2 ∧ '=' ∉ text.toList := by
  simpa using (base64url_codec 1).1 255 (by norm_num)

end Auxillary
end Tenjin
