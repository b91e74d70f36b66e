import Tenjin.AuthServer.TokenFamily

/-!
# The window of refresh tokens in a family

`shift_token_window` of `token_manager.py`, and runs of `reissue_token_pair`.  What the test
for a replay says is up to the environment here: as the code has it, it never lets a token
through (`reissueTokenPair_eq`), and the window would have nothing to keep.

* `reissueTested` is a reissue with the result of the test; `reissueTokenPair_tested` — the
  reissue of the code is one of them.
* `shiftTokenWindow_of_cons` — a family with a token behind its newest one keeps the newest.
* `tokenWindow_kept` — after every reissue of a run the family is within its bound and
  begins with the token that has been issued.
-/

namespace Tenjin
namespace AuthServer

open Python Foundation

section
variable {Instant : Type}

/-- `reissue_token_pair` for a token of a family, with the test for a replay: an empty family
and a replay end with an error, and otherwise a token is pushed and the window shifted. -/
def reissueTested (floats : FloatText Instant) (maxLlen : ℕ)
    (test : List String → Except Exn Bool) (drawn : RefreshToken Instant)
    (family : List String) : Except Exn (RefreshToken Instant) × List String :=
  match family.head? with
  | none => (.error .valueError, invalidateFamily family)
  | some key =>
      if key = "" then (.error .valueError, invalidateFamily family)
      else
        match test (pySplit ':' key) with
        | .error e => (.error e, family)
        | .ok false => (.error .valueError, invalidateFamily family)
        | .ok true =>
            (.ok drawn, shiftTokenWindow maxLlen (familyEntry floats drawn :: family))

/-- A reissue: the test for a replay and the token that is drawn. -/
structure Reissue (Instant : Type) where
  test : List String → Except Exn Bool
  drawn : RefreshToken Instant

/-- A reissue as a step on the list of the family. -/
def reissueStep (floats : FloatText Instant) (maxLlen : ℕ) (family : List String)
    (reissue : Reissue Instant) : Option (List String) :=
  some (reissueTested floats maxLlen reissue.test reissue.drawn family).2

/-- A reissue of a family with a newest entry that passes the test returns the token that is
drawn, and one that returns a token leaves the family within the bound, with the entry of this
token in front. -/
structure KeepsNewest (floats : FloatText Instant) (maxLlen : ℕ) (family : List String)
    (reissue : Reissue Instant) : Prop where
  issues : ∀ key, family.head? = some key → key ≠ "" →
    reissue.test (pySplit ':' key) = .ok true →
      (reissueTested floats maxLlen reissue.test reissue.drawn family).1 = .ok reissue.drawn
  newest : ∀ token after, reissueTested floats maxLlen reissue.test reissue.drawn family =
      (.ok token, after) →
    after.length ≤ maxLlen ∧ after.head? = some (familyEntry floats token)

/-- The reissue of the code is one with the test of the code. -/
theorem reissueTokenPair_tested [DecidableEq Instant] (floats : FloatText Instant)
    (fam : Family) (presented drawn : RefreshToken Instant) (family : List String) :
    reissueTokenPair floats fam.maxTokensPerFid fam.familyId.text presented drawn family =
      reissueTested floats fam.maxTokensPerFid (fun keyMetadata =>
        metadataMatches floats keyMetadata (some presented.jti.text) (some presented.exp))
        drawn family := by
  unfold reissueTokenPair issueRefreshToken reissueTested
  rw [if_pos fam.familyId_ne]
  cases family.head? with
  | none => rfl
  | some key =>
      by_cases hkey : key = ""
      · simp only [if_pos hkey]
      · simp only [if_neg hkey]
        cases metadataMatches floats (pySplit ':' key) (some presented.jti.text)
            (some presented.exp) with
        | error e => rfl
        | ok same => cases same <;> rfl

/-- Below the limit nothing is popped. -/
theorem shiftTokenWindow_of_lt {maxLlen : ℕ} {family : List String}
    (h : family.length < maxLlen) : shiftTokenWindow maxLlen family = family := by
  unfold shiftTokenWindow
  split
  · rfl
  · exact if_neg (by omega)

/-- At the limit the oldest entry is popped, and above it all that are too many. -/
theorem shiftTokenWindow_of_le {maxLlen : ℕ} (hmax : 1 ≤ maxLlen) {family : List String}
    (h : maxLlen ≤ family.length) :
    shiftTokenWindow maxLlen family =
      family.take (if family.length = maxLlen then maxLlen - 1 else maxLlen) := by
  have hkept : family.length - max 1 (family.length - maxLlen) =
      if family.length = maxLlen then maxLlen - 1 else maxLlen := by
    split <;> omega
  unfold shiftTokenWindow
  rw [if_neg (by omega), if_pos h, hkept]

theorem shiftTokenWindow_keepsFront {maxLlen : ℕ} (hmax : 1 ≤ maxLlen) (family : List String) :
    shiftTokenWindow maxLlen family <+: family := by
  rcases Nat.lt_or_ge family.length maxLlen with hlt | hle
  · refine ⟨[], ?_⟩
    rw [shiftTokenWindow_of_lt hlt, List.append_nil]
  · rw [shiftTokenWindow_of_le hmax hle]
    exact List.take_prefix _ family

theorem shiftTokenWindow_length_le {maxLlen : ℕ} (hmax : 1 ≤ maxLlen)
    (family : List String) : (shiftTokenWindow maxLlen family).length ≤ maxLlen := by
  rcases Nat.lt_or_ge family.length maxLlen with hlt | hle
  · rw [shiftTokenWindow_of_lt hlt]
    exact Nat.le_of_lt hlt
  · rw [shiftTokenWindow_of_le hmax hle, List.length_take]
    split <;> omega

/-- The newest entry stays when there is another one behind it. -/
theorem shiftTokenWindow_of_cons {maxLlen : ℕ} (hmax : 1 ≤ maxLlen) (newest : String)
    {family : List String} (hne : family ≠ []) :
    (shiftTokenWindow maxLlen (newest :: family)).head? = some newest := by
  have hlength : 0 < family.length := List.length_pos_of_ne_nil hne
  rcases Nat.lt_or_ge (newest :: family).length maxLlen with hlt | hle
  · rw [shiftTokenWindow_of_lt hlt]
    rfl
  · rw [shiftTokenWindow_of_le hmax hle, List.head?_take]
    rw [List.length_cons] at hle ⊢
    -- at the limit, the bound is at least two
    have hkept : (if family.length + 1 = maxLlen then maxLlen - 1 else maxLlen) ≠ 0 := by
      split <;> omega
    rw [if_neg hkept]
    rfl

section Reissues

variable {floats : FloatText Instant} {maxLlen : ℕ} {test : List String → Except Exn Bool}
  {drawn : RefreshToken Instant} {family : List String}

/-- A reissue that returns a token has pushed it onto a family with entries; any other one
leaves the family as it is or empty. -/
theorem reissueTested_cases (floats : FloatText Instant) (maxLlen : ℕ)
    (test : List String → Except Exn Bool) (drawn : RefreshToken Instant)
    (family : List String) :
    (family ≠ [] ∧ reissueTested floats maxLlen test drawn family =
      (.ok drawn, shiftTokenWindow maxLlen (familyEntry floats drawn :: family))) ∨
    ∃ e, reissueTested floats maxLlen test drawn family = (.error e, family) ∨
      reissueTested floats maxLlen test drawn family = (.error e, []) := by
  unfold reissueTested
  rw [invalidateFamily_eq]
  cases family with
  | nil => exact .inr ⟨.valueError, .inr rfl⟩
  | cons key rest =>
      simp only [List.head?_cons]
      split
      · exact .inr ⟨.valueError, .inr rfl⟩
      · split
        · rename_i e _
          exact .inr ⟨e, .inl rfl⟩
        · exact .inr ⟨.valueError, .inr rfl⟩
        · exact .inl ⟨List.cons_ne_nil _ _, rfl⟩

/-- Every reissue keeps the newest token. -/
theorem keepsNewest (floats : FloatText Instant) (hmax : 1 ≤ maxLlen) (family : List String)
    (reissue : Reissue Instant) : KeepsNewest floats maxLlen family reissue where
  issues := by
    intro key hkey hne htest
    unfold reissueTested
    simp only [hkey, if_neg hne, htest]
  newest := by
    intro token after hreissue
    rcases reissueTested_cases floats maxLlen reissue.test reissue.drawn family with
      ⟨hne, hpushed⟩ | ⟨e, hraised | hraised⟩
    · rw [hpushed] at hreissue
      cases hreissue
      exact ⟨shiftTokenWindow_length_le hmax _, shiftTokenWindow_of_cons hmax _ hne⟩
    · rw [hraised] at hreissue
      cases hreissue
    · rw [hraised] at hreissue
      cases hreissue

/-- No reissue takes a family out of its bound. -/
theorem reissueStep_length_le (hmax : 1 ≤ maxLlen) {after : List String} {reissue : Reissue Instant}
    (hlength : family.length ≤ maxLlen)
    (hstep : reissueStep floats maxLlen family reissue = some after) :
    after.length ≤ maxLlen := by
  cases hstep
  rcases reissueTested_cases floats maxLlen reissue.test reissue.drawn family with
    ⟨_, hpushed⟩ | ⟨e, hraised | hraised⟩
  · rw [hpushed]
    exact shiftTokenWindow_length_le hmax (familyEntry floats reissue.drawn :: family)
  · rw [hraised]
    exact hlength
  · rw [hraised]
    exact Nat.zero_le _

end Reissues

/-- The window of a family with a bound of at least one.  Shifting leaves the newest entries,
as many as the bound at most, and one of several entries stays.  In every run of reissues,
from any family, each reissue that passes the test issues the token that is drawn, and leaves
the family within the bound with this token in front; and a family that is within the bound
stays within it. -/
theorem tokenWindow_kept (floats : FloatText Instant) (maxLlen : ℕ) (hmax : 1 ≤ maxLlen) :
    (∀ family : List String, shiftTokenWindow maxLlen family <+: family ∧
      (shiftTokenWindow maxLlen family).length ≤ maxLlen ∧
      (2 ≤ family.length → (shiftTokenWindow maxLlen family).head? = family.head?)) ∧
    ∀ (reissues : List (Reissue Instant)) (family : List String),
      EachStep (reissueStep floats maxLlen) (KeepsNewest floats maxLlen) family reissues ∧
      (family.length ≤ maxLlen → Always (reissueStep floats maxLlen)
        (fun after => after.length ≤ maxLlen) family reissues) := by
  refine ⟨fun family => ⟨shiftTokenWindow_keepsFront hmax _, shiftTokenWindow_length_le hmax _, ?_⟩,
    fun reissues family => ⟨?_, fun hlength => ?_⟩⟩
  · intro htwo
    cases family with
    | nil => exact absurd htwo (by simp)
    | cons newest rest =>
        have hrest : rest ≠ [] := by
          rintro rfl
          exact absurd htwo (by simp)
        exact shiftTokenWindow_of_cons hmax newest hrest
  · exact eachStep_of_always (I := fun _ => True)
      (fun family reissue _ => keepsNewest floats hmax family reissue)
      (always_of_preserved (fun _ _ _ _ _ => trivial) reissues family trivial)
  · exact always_of_preserved (fun _ _ _ hlength hstep => reissueStep_length_le hmax hlength hstep)
      reissues family hlength

end

/-- With a bound of one, a token that is issued takes the place of the one before it. -/
theorem tokenWindow_kept_single :
    (shiftTokenWindow 1 ["b:2", "a:1"]).head? = some "b:2" ∧
      ∃ after, reissueTested natFloats 1 (fun _ => .ok true) zeroToken ["a:1"] =
          (.ok zeroToken, after) ∧
        after.length ≤ 1 ∧ after.head? = some (familyEntry natFloats zeroToken) := by
  obtain ⟨hshift, hruns⟩ := tokenWindow_kept natFloats 1 (Nat.le_refl 1)
  obtain ⟨hkeeps, _⟩ := (hruns [⟨fun _ => .ok true, zeroToken⟩] ["a:1"]).1 _ rfl
  have hissued := hkeeps.issues "a:1" rfl (by decide) rfl
  have hreissue : reissueTested natFloats 1 (fun _ => .ok true) zeroToken ["a:1"] =
      (.ok zeroToken, (reissueTested natFloats 1 (fun _ => .ok true) zeroToken ["a:1"]).2) :=
    Prod.ext hissued rfl
  exact ⟨(hshift ["b:2", "a:1"]).2.2 (by simp), _, hreissue, hkeeps.newest _ _ hreissue⟩

end AuthServer
end Tenjin
