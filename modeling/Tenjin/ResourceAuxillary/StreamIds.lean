import Mathlib.Tactic.IntervalCases
import Tenjin.Foundation.Numerals
import Tenjin.ResourceAuxillary.Events

/-!
# From the ID of a stream entry to the number of an event

`StreamedEvent.construct_from_stream_record` and its sibling for malformed entries
(`events.py`) take the dash out of the entry's ID and read what is left as one integer.

* `deriveEventId_text` — the number is that of the two numerals written one after the
  other.
* `StreamId.Aligned` — the exact condition under which two IDs and their two numbers
  agree: the same number of digits in the sequence parts, or an order that survives
  moving the boundary between the two parts.
-/

namespace Tenjin
namespace ResourceAuxillary

open Python Foundation

/-- The ID of a stream entry: the time in milliseconds and a sequence number. -/
@[ext]
structure StreamId where
  ms : ℕ
  seq : ℕ
  deriving DecidableEq

/-- The order of the entries in a stream. -/
def StreamId.Before (a b : StreamId) : Prop := a.ms < b.ms ∨ (a.ms = b.ms ∧ a.seq < b.seq)

instance (a b : StreamId) : Decidable (a.Before b) :=
  inferInstanceAs (Decidable (_ ∨ _))

/-- How Redis writes the ID. -/
def StreamId.text (id : StreamId) : String :=
  toString id.ms ++ "-" ++ toString id.seq

/-- The parts of an ID are numbers of 64 bits. -/
def idLimit : ℕ := 2 ^ 64

/-- How Redis reads an ID that is given as an integer: milliseconds with sequence 0.
A number that does not fit is refused. -/
def readStreamId (n : Int) : Option StreamId :=
  if 0 ≤ n ∧ n < idLimit then some ⟨n.toNat, 0⟩ else none

theorem readStreamId_natCast (n : ℕ) :
    readStreamId n = if n < idLimit then some ⟨n, 0⟩ else none := by
  simp [readStreamId]

/-- `stream_id.replace("-", "")`. -/
def removeDashes (streamId : String) : String :=
  String.ofList (streamId.toList.filter (· ≠ '-'))

/-- The `event_id` of both constructors: `int(stream_id.replace("-", ""))`. -/
def deriveEventId (streamId : String) : Except Exn Int := pyInt (removeDashes streamId)

/-- `StreamedEvent.construct_from_stream_record`; `reconstructed` is what
`Event.reconstruct_from_stream` makes of the entry's fields. -/
def constructFromStreamRecord (streamId : String) (reconstructed : Except Exn Event) :
    Except Exn StreamedEvent := do
  let eventId ← deriveEventId streamId
  let baseEvent ← reconstructed
  return { baseEvent with eventId }

/-- `StreamedEvent.safe_construct_from_malformed_stream`. -/
def safeConstructFromMalformedStream (streamId : String) (fields : StreamEntry) :
    Except Exn StreamedEvent := do
  let eventId ← deriveEventId streamId
  return { name := .malformed, payload := fields, sideEffects := {}, eventId }

/-- The number of the event of an entry. -/
def StreamId.number (id : StreamId) : ℕ := concatNumerals id.ms id.seq

/-- An entry of one of the streams. -/
structure EntryRef where
  stream : StreamName
  id : StreamId
  deriving DecidableEq

/-- The `event_id` of the event of an entry. -/
def EntryRef.eventId (e : EntryRef) : Int := e.id.number

/-- The character of a decimal digit is neither a space, a sign nor an underscore, and
its value is the digit. -/
theorem digitChar_spec {n : ℕ} (h : n < 10) :
    whitespacePoints.contains (Nat.digitChar n).toNat = false ∧
      Nat.digitChar n ≠ '-' ∧ Nat.digitChar n ≠ '+' ∧
      digitValue? (Nat.digitChar n) = some n := by
  interval_cases n <;> decide

/-- The characters of the decimal numerals. -/
def DigitText (cs : List Char) : Prop := ∀ c ∈ cs, ∃ n < 10, c = Nat.digitChar n

theorem digitText_toDigits (n : ℕ) : DigitText (Nat.toDigits 10 n) := by
  intro c hc
  have hdigit : c.isDigit = true := Nat.isDigit_of_mem_toDigits (by omega) (by omega) hc
  refine ⟨c.toNat - 48, ?_, ?_⟩
  · simp only [Char.isDigit, Bool.and_eq_true, decide_eq_true_eq] at hdigit
    have hhigh : c.val.toNat ≤ 57 := hdigit.2
    show c.toNat - 48 < 10
    have htoNat : c.toNat = c.val.toNat := rfl
    omega
  · simp only [Char.isDigit, Bool.and_eq_true, decide_eq_true_eq] at hdigit
    have hlow : 48 ≤ c.val.toNat := hdigit.1
    have hhigh : c.val.toNat ≤ 57 := hdigit.2
    have htoNat : c.toNat = c.val.toNat := rfl
    apply Char.toNat_inj.mp
    rw [Nat.toNat_digitChar_of_lt_ten (by omega)]
    omega

theorem DigitText.append {cs ds : List Char} (hcs : DigitText cs) (hds : DigitText ds) :
    DigitText (cs ++ ds) := by
  intro c hc
  rcases List.mem_append.mp hc with hc | hc
  · exact hcs c hc
  · exact hds c hc

/-- Reading digits accumulates their value. -/
theorem readDigits_of_digitText {cs : List Char} (h : DigitText cs) (value : ℕ) (digit : Bool)
    (hsome : cs ≠ [] ∨ digit = true) :
    readDigits value digit cs = some (Nat.ofDigitChars 10 cs value) := by
  induction cs generalizing value digit with
  | nil =>
      have hdigit : digit = true := hsome.resolve_left (fun hne => hne rfl)
      simp [readDigits, hdigit]
  | cons c cs ih =>
      obtain ⟨n, hn, rfl⟩ := h c (List.mem_cons_self ..)
      have htail : DigitText cs := fun d hd => h d (List.mem_cons_of_mem _ hd)
      simp only [readDigits, (digitChar_spec hn).2.2.2]
      rw [ih htail _ _ (.inr rfl), Nat.ofDigitChars_cons_digitChar_of_lt_ten hn]

/-- `int` of a nonempty text of decimal digits is its value. -/
theorem pyInt_of_digitText {cs : List Char} (h : DigitText cs) (hne : cs ≠ []) :
    pyInt (String.ofList cs) = .ok (Nat.ofDigitChars 10 cs 0) := by
  have hspace : ∀ c ∈ cs, whitespacePoints.contains c.toNat = false := by
    intro c hc
    obtain ⟨n, hn, rfl⟩ := h c hc
    exact (digitChar_spec hn).1
  have hstrip : ∀ ds : List Char, (∀ c ∈ ds, whitespacePoints.contains c.toNat = false) →
      ds.dropWhile (fun c => whitespacePoints.contains c.toNat) = ds := by
    intro ds hds
    cases ds with
    | nil => rfl
    | cons d ds => simp only [List.dropWhile, hds d (List.mem_cons_self ..)]
  have hread := readDigits_of_digitText h 0 false (.inl hne)
  unfold pyInt
  simp only [String.toList_ofList]
  rw [hstrip cs hspace, hstrip cs.reverse (by simpa using hspace), List.reverse_reverse]
  cases cs with
  | nil => exact absurd rfl hne
  | cons c cs =>
      obtain ⟨n, hn, hc⟩ := h c (List.mem_cons_self ..)
      have hminus : c ≠ '-' := hc ▸ (digitChar_spec hn).2.1
      have hplus : c ≠ '+' := hc ▸ (digitChar_spec hn).2.2.1
      -- the text is a number, and it has no sign
      split
      all_goals
        rename_i heq
        split at heq
        · rename_i hcons
          exact absurd (List.cons.inj hcons).1 hminus
        · rename_i hcons
          exact absurd (List.cons.inj hcons).1 hplus
        · rw [hread] at heq
          cases heq <;> rfl

/-- The event id of an entry is the number of its two numerals in one. -/
theorem deriveEventId_text (id : StreamId) : deriveEventId id.text = .ok id.number := by
  have hkeep : ∀ n, (Nat.toDigits 10 n).filter (· ≠ '-') = Nat.toDigits 10 n := by
    intro n
    rw [List.filter_eq_self]
    intro c hc
    obtain ⟨d, hd, rfl⟩ := digitText_toDigits n c hc
    simp [(digitChar_spec hd).2.1]
  have htext : removeDashes id.text =
      String.ofList (Nat.toDigits 10 id.ms ++ Nat.toDigits 10 id.seq) := by
    have hdash : ("-" : String).toList = ['-'] := rfl
    simp only [removeDashes, StreamId.text, Nat.toString_eq_ofList_toDigits,
      String.toList_append, String.toList_ofList, List.filter_append, hkeep, hdash]
    simp
  rw [deriveEventId, htext,
    pyInt_of_digitText ((digitText_toDigits _).append (digitText_toDigits _))
      (by simp [Nat.toDigits_ne_nil]),
    ofDigitChars_concat]
  rfl

/-- The two IDs and their derived numbers are equal together and ordered together. -/
def StreamId.Faithful (a b : StreamId) : Prop :=
  ∃ m n, deriveEventId a.text = .ok m ∧ deriveEventId b.text = .ok n ∧
    (m = n ↔ a = b) ∧ (m < n ↔ a.Before b) ∧ (n < m ↔ b.Before a)

/-- The ID with its sequence part cut down to the last `m` digits and the digits in
front of them moved to the milliseconds. -/
def StreamId.regroup (m : ℕ) (id : StreamId) : StreamId :=
  ⟨frontNumber m id.ms id.seq, id.seq % 10 ^ m⟩

/-- The sequence part of `a` has fewer digits, and either its milliseconds are no later
or it still comes later when `b` is regrouped to as many digits. -/
def StreamId.AlignedBelow (a b : StreamId) : Prop :=
  numeralLength a.seq < numeralLength b.seq ∧
    (a.ms ≤ b.ms ∨ (b.regroup (numeralLength a.seq)).Before a)

/-- The condition under which the numbers of two IDs say the same as the IDs. -/
def StreamId.Aligned (a b : StreamId) : Prop :=
  numeralLength a.seq = numeralLength b.seq ∨ a.AlignedBelow b ∨ b.AlignedBelow a

instance (a b : StreamId) : Decidable (a.Aligned b) :=
  inferInstanceAs (Decidable (_ ∨ (_ ∧ _) ∨ (_ ∧ _)))

theorem StreamId.eq_or_before (a b : StreamId) : a = b ∨ a.Before b ∨ b.Before a := by
  by_cases h : a = b
  · exact .inl h
  · have hne : a.ms ≠ b.ms ∨ a.seq ≠ b.seq := by
      by_contra hboth
      obtain ⟨hms, hseq⟩ := not_or.mp hboth
      exact h (StreamId.ext (not_not.mp hms) (not_not.mp hseq))
    unfold StreamId.Before
    omega

theorem StreamId.Before.asymm {a b : StreamId} (h : a.Before b) : ¬ b.Before a := by
  unfold StreamId.Before at h ⊢
  omega

/-- The numbers say the same as the IDs when they are ordered together. -/
theorem StreamId.faithful_iff_number (a b : StreamId) :
    a.Faithful b ↔ (a.number < b.number ↔ a.Before b) ∧ (b.number < a.number ↔ b.Before a) := by
  constructor
  · rintro ⟨m, n, hm, hn, _, hlt, hgt⟩
    rw [deriveEventId_text] at hm hn
    cases hm
    cases hn
    exact ⟨by rw [← hlt]; omega, by rw [← hgt]; omega⟩
  · rintro ⟨hlt, hgt⟩
    refine ⟨a.number, b.number, deriveEventId_text a, deriveEventId_text b, ?_, ?_, ?_⟩
    · constructor
      · intro heq
        rcases a.eq_or_before b with rfl | h | h
        · rfl
        · have := hlt.mpr h
          omega
        · have := hgt.mpr h
          omega
      · rintro rfl
        rfl
    · rw [← hlt]
      omega
    · rw [← hgt]
      omega

/-- For sequence parts of different lengths, the numbers are in order exactly when the
condition holds. -/
theorem StreamId.number_order_iff {a b : StreamId}
    (hlen : numeralLength a.seq < numeralLength b.seq) :
    ((a.number < b.number ↔ a.Before b) ∧ (b.number < a.number ↔ b.Before a)) ↔
      a.AlignedBelow b := by
  have hregroup : b.number < a.number ↔ (b.regroup (numeralLength a.seq)).Before a :=
    concatNumerals_lt_concatNumerals_iff hlen.le
  by_cases hms : a.ms ≤ b.ms
  · -- a sequence number of fewer digits is the smaller one, so `a` comes first
    have hnumber : a.number < b.number := concatNumerals_lt_of_shorter hlen hms
    have hseq : a.seq < b.seq := by
      have hlow := pow_le_of_lt_numeralLength (numeralLength_pos a.seq) hlen
      have hhigh := lt_pow_numeralLength a.seq
      omega
    have hbefore : a.Before b := by
      unfold StreamId.Before
      omega
    constructor
    · intro _
      exact ⟨hlen, .inl hms⟩
    · intro _
      refine ⟨iff_of_true hnumber hbefore, iff_of_false (by omega) hbefore.asymm⟩
  · have hbefore : b.Before a := .inl (by omega)
    constructor
    · rintro ⟨_, hgt⟩
      exact ⟨hlen, .inr (hregroup.mp (hgt.mpr hbefore))⟩
    · rintro ⟨_, hle | hmoved⟩
      · exact absurd hle hms
      · have hnumber := hregroup.mpr hmoved
        exact ⟨iff_of_false (by omega) hbefore.asymm, iff_of_true hnumber hbefore⟩

/-- Two IDs and the numbers derived from them are equal and ordered together if and only
if the IDs are aligned. -/
theorem StreamId.faithful_iff (a b : StreamId) : a.Faithful b ↔ a.Aligned b := by
  rw [StreamId.faithful_iff_number]
  rcases Nat.lt_trichotomy (numeralLength a.seq) (numeralLength b.seq) with hlt | heq | hgt
  · rw [StreamId.number_order_iff hlt]
    constructor
    · exact fun h => .inr (.inl h)
    · rintro (h | h | h)
      · omega
      · exact h
      · exact absurd h.1 (by omega)
  · refine iff_of_true ⟨?_, ?_⟩ (.inl heq)
    · exact concatNumerals_lt_iff heq
    · exact concatNumerals_lt_iff heq.symm
  · rw [and_comm, StreamId.number_order_iff hgt]
    constructor
    · exact fun h => .inr (.inr h)
    · rintro (h | h | h)
      · omega
      · exact absurd h.1 (by omega)
      · exact h

/-- The eleventh entry of one millisecond gets a greater number than the first entry of
the next one. -/
theorem StreamId.eleventh_entry_not_faithful :
    ¬ (StreamId.mk 1700000000000 10).Faithful ⟨1700000000001, 0⟩ := by
  rw [StreamId.faithful_iff_number]
  decide

end ResourceAuxillary
end Tenjin
