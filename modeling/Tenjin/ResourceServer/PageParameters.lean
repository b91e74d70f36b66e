import Mathlib.Data.List.TakeWhile
import Tenjin.ResourceServer.PageRequests

/-!
# The parameters of a page request

The dependencies of `request_dependencies.py` that turn the query of a request into the
cursor, the sort option and the time frame of a page of posts.  `preprocess_sort_option` takes
the parameter `cursor` as its text, as `cursor_preprocessor` does.

* `forumPostsRequest` and `userPostsRequest` are the requests that the two endpoints evaluate
  a query to.
* `strip_spec` — what is around a stripped text is whitespace, which the decoder skips.
* `postRequests_iff` — a page is asked for in ascending order from one of eight cursors only,
  and in descending order from any.  A cursor that the server hands out asks for a page in
  descending order.
-/

namespace Tenjin
namespace ResourceServer

open Python Auxillary

/-! ## The dependencies -/

/-- A character that `str.isspace` accepts. -/
def isSpace (c : Char) : Bool := whitespacePoints.contains c.toNat

/-- `text.strip()`, on the characters of the text. -/
def strip (text : List Char) : List Char :=
  ((text.dropWhile isSpace).reverse.dropWhile isSpace).reverse

/-- The lower case of a character.  Of those that are not ASCII only the Kelvin sign has one
that is ASCII; the others stand for theirs, since no value has any. -/
def lowerChar (c : Char) : Char := if c = Char.ofNat 0x212A then 'k' else c.toLower

/-- `text.lower()`, as far as it decides which value the text is. -/
def lower (text : List Char) : List Char := text.map lowerChar

/-- `SortOption(value)`. -/
def SortOption.ofValue (value : List Char) : Option SortOption :=
  [.ascending, .descending].find? fun option : SortOption => option.value.toList = value

/-- `TimeFrameOption(value)`. -/
def TimeFrameOption.ofValue (value : List Char) : Option TimeFrameOption :=
  [.lastHour, .lastDay, .lastWeek, .lastMonth, .lastYear, .allTime].find?
    fun option : TimeFrameOption => option.value.toList = value

/-- `preprocess_sort_option`. -/
def preprocessSortOption (rawSortOption : Option String) : SortOption :=
  match rawSortOption with
  | none => .descending
  | some text =>
      if text.isEmpty then .descending
      else (SortOption.ofValue (strip (lower text.toList))).getD .descending

/-- `TIMEFRAMES`, in seconds; all times begin at `datetime.min`, which is 0. -/
def TimeFrameOption.bound (now : ℕ) : TimeFrameOption → ℕ
  | .lastHour => now - 3600
  | .lastDay => now - 86400
  | .lastWeek => now - 604800
  | .lastMonth => now - 30 * 86400
  | .lastYear => now - 364 * 86400
  | .allTime => 0

/-- `preprocess_timeframe`. -/
def preprocessTimeframe (rawTimeframeOption : Option String) (now : ℕ) : TimeFrameOption × ℕ :=
  match rawTimeframeOption with
  | none => (.allTime, TimeFrameOption.allTime.bound now)
  | some text =>
      if text.isEmpty then (.allTime, TimeFrameOption.allTime.bound now)
      else
        let option := (TimeFrameOption.ofValue (lower (strip text.toList))).getD .allTime
        (option, option.bound now)

/-- The parameters of a query that are read. -/
structure PageQuery where
  cursor : Option String
  timeframe : Option String

/-- What `get_forum_posts` evaluates a query to. -/
def forumPostsRequest (forumId : Int) (now : ℕ) (query : PageQuery) : Except Exn PageRequest := do
  let cursor ← cursorPreprocessor query.cursor
  return .getForumPosts forumId cursor (preprocessSortOption query.cursor)
    (preprocessTimeframe query.timeframe now).1

/-- What `get_user_posts` evaluates a query to. -/
def userPostsRequest (username : String) (query : PageQuery) : Except Exn PageRequest := do
  let cursor ← cursorPreprocessor query.cursor
  return .getUserPosts username cursor (preprocessSortOption query.cursor)

/-- The numbers of the texts that are `asc` in upper or lower case. -/
def ascendingCursors : List Int := [288, 295, 704, 711, 26912, 26919, 27328, 27335]

/-- The cursors from which a page can be asked for in this order. -/
def OrderReachable (cursor : Int) : SortOption → Prop
  | .ascending => cursor ∈ ascendingCursors
  | .descending => 0 ≤ cursor

/-! ## Stripped texts -/

/-- The text is the stripped one with whitespace around it. -/
theorem strip_spec (text : List Char) : ∃ front back, text = front ++ strip text ++ back ∧
    (∀ c ∈ front, isSpace c = true) ∧ ∀ c ∈ back, isSpace c = true := by
  have hfront := List.takeWhile_append_dropWhile (p := isSpace) (l := text)
  have hback := List.takeWhile_append_dropWhile (p := isSpace)
    (l := (text.dropWhile isSpace).reverse)
  refine ⟨text.takeWhile isSpace,
    ((text.dropWhile isSpace).reverse.takeWhile isSpace).reverse, ?_, fun c hc => ?_,
    fun c hc => ?_⟩
  · have hreversed := congrArg List.reverse hback
    rw [List.reverse_append, List.reverse_reverse] at hreversed
    rw [strip, List.append_assoc, hreversed, hfront]
  · exact List.mem_takeWhile_imp hc
  · exact List.mem_takeWhile_imp (List.mem_reverse.mp hc)

/-- A character that is not ASCII is left alone, except for one. -/
theorem lowerChar_of_large {c : Char} (h : 128 ≤ c.toNat) :
    lowerChar c = c ∨ lowerChar c = 'k' ∧ isSpace c = false := by
  by_cases hkelvin : c = Char.ofNat 0x212A
  · subst hkelvin
    exact .inr (by decide)
  have hlarge : ¬ (c.val ≥ 'A'.val ∧ c.val ≤ 'Z'.val) := by
    rintro ⟨_, hle⟩
    have hnat : c.toNat ≤ 90 := UInt32.le_iff_toNat_le.mp hle
    omega
  refine .inl ?_
  rw [lowerChar, if_neg hkelvin]
  exact dif_neg hlarge

/-- What holds of the ASCII characters, and of those that are not, holds of all. -/
theorem forall_char {P : Char → Prop} (hsmall : ∀ n < 128, P (Char.ofNat n))
    (hlarge : ∀ c : Char, 128 ≤ c.toNat → P c) (c : Char) : P c := by
  rcases Nat.lt_or_ge c.toNat 128 with h | h
  · exact Char.ofNat_toNat c ▸ hsmall c.toNat h
  · exact hlarge c h

/-- Whitespace is in lower case already. -/
theorem isSpace_lowerChar (c : Char) : isSpace (lowerChar c) = isSpace c := by
  refine forall_char (P := fun c => isSpace (lowerChar c) = isSpace c) (by decide)
    (fun c h => ?_) c
  rcases lowerChar_of_large h with hsame | ⟨hk, hspace⟩
  · rw [hsame]
  · rw [hk, hspace]
    rfl

/-- A letter of `asc` comes from a letter in upper or lower case. -/
theorem letters_of_lower (c : Char) :
    (lowerChar c = 'a' → c = 'a' ∨ c = 'A') ∧ (lowerChar c = 's' → c = 's' ∨ c = 'S') ∧
      (lowerChar c = 'c' → c = 'c' ∨ c = 'C') := by
  refine forall_char (P := fun c => (lowerChar c = 'a' → c = 'a' ∨ c = 'A') ∧
    (lowerChar c = 's' → c = 's' ∨ c = 'S') ∧ (lowerChar c = 'c' → c = 'c' ∨ c = 'C'))
    (by decide) (fun c h => ?_) c
  rcases lowerChar_of_large h with hsame | ⟨hk, _⟩
  · rw [hsame]
    exact ⟨.inl, .inl, .inl⟩
  · rw [hk]
    exact ⟨fun h => absurd h (by decide), fun h => absurd h (by decide),
      fun h => absurd h (by decide)⟩

/-- The decoder skips whitespace. -/
theorem isSpace_skipped {c : Char} (h : isSpace c = true) : c ≠ '=' ∧ sextetValue? c = none := by
  have hall : ∀ point ∈ whitespacePoints,
      Char.ofNat point ≠ '=' ∧ sextetValue? (Char.ofNat point) = none := by decide
  have hmem : c.toNat ∈ whitespacePoints := by simpa [isSpace] using h
  exact Char.ofNat_toNat c ▸ hall c.toNat hmem

/-- A text that is stripped to `asc` has its letters between whitespace. -/
theorem ascending_shape {text : List Char} (h : strip (lower text) = "asc".toList) :
    ∃ front x y z back, text = front ++ x :: y :: z :: back ∧ (x = 'a' ∨ x = 'A') ∧
      (y = 's' ∨ y = 'S') ∧ (z = 'c' ∨ z = 'C') ∧ (∀ c ∈ front, isSpace c = true) ∧
      ∀ c ∈ back, isSpace c = true := by
  obtain ⟨front', back', htext, hfront, hback⟩ := strip_spec (lower text)
  rw [h, lower] at htext
  obtain ⟨before, back, rfl, hbefore, rfl⟩ := List.map_eq_append_iff.mp htext
  obtain ⟨front, letters, rfl, rfl, hletters⟩ := List.map_eq_append_iff.mp hbefore
  have hspaces : ∀ l : List Char, (∀ c ∈ l.map lowerChar, isSpace c = true) →
      ∀ c ∈ l, isSpace c = true := by
    intro l hl c hc
    rw [← isSpace_lowerChar]
    exact hl _ (List.mem_map_of_mem hc)
  obtain ⟨x, l, rfl, hx, hl⟩ := List.map_eq_cons_iff.mp hletters
  obtain ⟨y, l, rfl, hy, hl⟩ := List.map_eq_cons_iff.mp hl
  obtain ⟨z, l, rfl, hz, hl⟩ := List.map_eq_cons_iff.mp hl
  obtain rfl := List.map_eq_nil_iff.mp hl
  exact ⟨front, x, y, z, back, by simp, (letters_of_lower x).1 hx, (letters_of_lower y).2.1 hy,
    (letters_of_lower z).2.2 hz, hspaces front hfront, hspaces back hback⟩

/-- The decoder goes past what it skips. -/
theorem a2bLoop_skipped {skipped : List Char} (h : ∀ c ∈ skipped, isSpace c = true)
    (cs : List Char) (quad left pads : ℕ) :
    a2bLoop (skipped ++ cs) quad left pads = a2bLoop cs quad left pads := by
  induction skipped with
  | nil => rfl
  | cons c skipped ih =>
      obtain ⟨hpad, hvalue⟩ := isSpace_skipped (h c (List.mem_cons_self ..))
      rw [List.cons_append, a2bLoop.eq_def]
      simp only [hpad, if_false, hvalue]
      exact ih fun c' hc' => h c' (List.mem_cons_of_mem _ hc')

/-- After three characters the padding ends the text, or it is missing. -/
theorem a2bLoop_padding (count left : ℕ) :
    a2bLoop (List.replicate count '=') 3 left 0 = .ok [] ∨
      a2bLoop (List.replicate count '=') 3 left 0 = .error .valueError := by
  cases count with
  | zero => exact .inr rfl
  | succ count => exact .inl rfl

/-- The number of the letters of `asc`, if it is one. -/
theorem cursor_of_letters {x y z : Char} (hx : x = 'a' ∨ x = 'A') (hy : y = 's' ∨ y = 'S')
    (hz : z = 'c' ∨ z = 'C') {rest : List Char} {data : List ℕ}
    (hrest : ∀ left, a2bLoop rest 3 left 0 = .ok [] ∨
      a2bLoop rest 3 left 0 = .error .valueError)
    (h : a2bLoop (x :: y :: z :: rest) 0 0 0 = .ok data) :
    (fromBytes data : Int) ∈ ascendingCursors := by
  have hfirst : ∀ left first second, (Except.map (first :: ·)
      (Except.map (second :: ·) (a2bLoop rest 3 left 0)) : Except Exn (List ℕ)) = .ok data →
      data = [first, second] := by
    intro left first second hdata
    rcases hrest left with hok | herror
    · rw [hok] at hdata
      exact (Except.ok.inj hdata).symm
    · rw [herror] at hdata
      cases hdata
  rcases hx with rfl | rfl <;> rcases hy with rfl | rfl <;> rcases hz with rfl | rfl <;>
    (rw [hfirst _ _ _ h]; decide)

/-- A text that asks for the ascending order has one of the eight numbers, or none. -/
theorem cursor_of_ascending {text : String} (h : strip (lower text.toList) = "asc".toList)
    {cursor : Int} (hcursor : fromBase64url text = .ok cursor) : cursor ∈ ascendingCursors := by
  obtain ⟨front, x, y, z, back, htext, hx, hy, hz, hfront, hback⟩ := ascending_shape h
  unfold fromBase64url at hcursor
  dsimp only at hcursor
  split at hcursor
  · cases hcursor
  · rename_i data hdata
    cases hcursor
    unfold urlsafeB64Decode at hdata
    split at hdata
    · rw [htext, List.append_assoc, a2bLoop_skipped hfront, List.cons_append, List.cons_append,
        List.cons_append] at hdata
      refine cursor_of_letters hx hy hz (fun left => ?_) hdata
      rw [a2bLoop_skipped hback]
      exact a2bLoop_padding _ left
    · cases hdata

theorem ofValue_ascending {value : List Char}
    (h : SortOption.ofValue value = some .ascending) : value = "asc".toList := by
  have hfound := List.find?_some h
  exact (decide_eq_true_eq.mp hfound).symm

/-- A parameter that asks for the ascending order. -/
theorem ascending_parameter {rawSortOption : Option String}
    (h : preprocessSortOption rawSortOption = .ascending) : ∃ text, rawSortOption = some text ∧
      text.isEmpty = false ∧ strip (lower text.toList) = "asc".toList := by
  cases rawSortOption with
  | none => cases h
  | some text =>
      simp only [preprocessSortOption] at h
      split at h
      · cases h
      · rename_i hempty
        refine ⟨text, rfl, by simpa using hempty, ?_⟩
        cases hvalue : SortOption.ofValue (strip (lower text.toList)) with
        | none =>
            rw [hvalue] at h
            cases h
        | some option =>
            rw [hvalue] at h
            cases option with
            | ascending => exact ofValue_ascending hvalue
            | descending => cases h

/-! ## The requests -/

/-- A cursor that the server hands out is read as the id that it was made of, and as a wish
for the descending order. -/
theorem issued_parameter {lastId : Int} {length : ℕ} (hlength : 4 ≤ length) {text : String}
    (h : toBase64url lastId length = .ok text) :
    cursorPreprocessor (some text) = .ok lastId ∧
      preprocessSortOption (some text) = .descending := by
  obtain ⟨hnonneg, hfits⟩ := (toBase64url_eq_ok_iff lastId length).mp ⟨text, h⟩
  have hfits' : lastId.toNat < 256 ^ length := by
    have hcast : (lastId.toNat : Int) < ((256 ^ length : ℕ) : Int) := by
      rw [Int.toNat_of_nonneg hnonneg]
      exact_mod_cast hfits
    exact_mod_cast hcast
  have htext : text.toList = b64Encode [] (bigEndian length lastId.toNat) := by
    have hsame := toBase64url_of_lt hfits'
    rw [Int.toNat_of_nonneg hnonneg, h] at hsame
    rw [Except.ok.inj hsame, String.toList_ofList]
  have hlong : 6 ≤ text.toList.length := by
    rw [htext, length_b64Encode, length_bigEndian]
    omega
  have hno : ∀ c ∈ text.toList, isSpace c = false := by
    intro c hc
    rw [htext] at hc
    rcases mem_b64Encode (fun byte hbyte => bigEndian_lt hbyte) hc with ⟨n, hn, rfl⟩ | hpad
    · rw [Bool.eq_false_iff]
      intro hspace
      have hvalue := (sextetChar_spec hn).2.2
      rw [(isSpace_skipped hspace).2] at hvalue
      cases hvalue
    · cases hpad
  constructor
  · have hne : text.isEmpty = false := by
      rw [Bool.eq_false_iff]
      intro hempty
      rw [String.isEmpty_iff.mp hempty] at hlong
      simp at hlong
    rw [cursorPreprocessor, hne, if_neg Bool.false_ne_true, fromBase64url_toBase64url h]
  · cases horder : preprocessSortOption (some text) with
    | descending => rfl
    | ascending =>
        obtain ⟨_, hsame, _, hstrip⟩ := ascending_parameter horder
        cases hsame
        obtain ⟨front, x, y, z, back, hshape, _, _, _, hfront, hback⟩ := ascending_shape hstrip
        rw [hshape] at hno hlong
        -- there is no whitespace, so the text has three characters
        have hnil : ∀ l : List Char, (∀ c ∈ l, isSpace c = true) →
            (∀ c ∈ l, c ∈ front ++ x :: y :: z :: back) → l = [] := by
          intro l hspace hmem
          refine List.eq_nil_iff_forall_not_mem.mpr fun c hc => ?_
          have hfalse := hno c (hmem c hc)
          rw [hspace c hc] at hfalse
          cases hfalse
        have hfrontNil := hnil front hfront fun c hc => List.mem_append_left _ hc
        have hbackNil := hnil back hback fun c hc => by simp [hc]
        rw [hfrontNil, hbackNil] at hlong
        simp at hlong

/-- The cursors and orders that one parameter asks for. -/
theorem parameter_iff (cursor : Int) (sortOption : SortOption) :
    (∃ rawCursor, cursorPreprocessor rawCursor = .ok cursor ∧
      preprocessSortOption rawCursor = sortOption) ↔ OrderReachable cursor sortOption := by
  constructor
  · rintro ⟨rawCursor, hcursor, horder⟩
    cases sortOption with
    | ascending =>
        obtain ⟨text, rfl, hne, hstrip⟩ := ascending_parameter horder
        rw [cursorPreprocessor, hne, if_neg Bool.false_ne_true] at hcursor
        exact cursor_of_ascending hstrip hcursor
    | descending =>
        show 0 ≤ cursor
        unfold cursorPreprocessor at hcursor
        split at hcursor
        · cases hcursor
          exact le_refl 0
        · split at hcursor
          · cases hcursor
            exact le_refl 0
          · unfold fromBase64url at hcursor
            dsimp only at hcursor
            split at hcursor
            · cases hcursor
            · cases hcursor
              exact Int.natCast_nonneg _
  · intro hreachable
    cases sortOption with
    | ascending =>
        have hall : ∀ cursor ∈ ascendingCursors,
            ∃ text ∈ ["ASC", "ASc", "AsC", "Asc", "aSC", "aSc", "asC", "asc"],
              cursorPreprocessor (some text) = .ok cursor ∧
                preprocessSortOption (some text) = .ascending := by decide
        obtain ⟨text, _, htext⟩ := hall cursor hreachable
        exact ⟨some text, htext⟩
    | descending =>
        -- the number as the server would hand it out, in enough bytes
        have hnonneg : 0 ≤ cursor := hreachable
        have hfits : cursor < 256 ^ (cursor.toNat + 4) := by
          have hnat : cursor.toNat < 256 ^ (cursor.toNat + 4) :=
            lt_of_lt_of_le (Nat.lt_pow_self (by omega)) (Nat.pow_le_pow_right (by omega) (by omega))
          calc cursor = (cursor.toNat : Int) := (Int.toNat_of_nonneg hnonneg).symm
            _ < ((256 ^ (cursor.toNat + 4) : ℕ) : Int) := by exact_mod_cast hnat
            _ = 256 ^ (cursor.toNat + 4) := by push_cast; rfl
        obtain ⟨text, htext⟩ :=
          (toBase64url_eq_ok_iff cursor (cursor.toNat + 4)).mpr ⟨hnonneg, hfits⟩
        exact ⟨some text, issued_parameter (by omega) htext⟩

/-- Every time frame can be asked for. -/
theorem preprocessTimeframe_value (timeframe : TimeFrameOption) (now : ℕ) :
    (preprocessTimeframe (some timeframe.value) now).1 = timeframe := by
  cases timeframe <;> rfl

/-- The requests for posts that a query can be evaluated to: in descending order from any
cursor, and in ascending order from eight cursors, the least of which is 288.  With a cursor
that the server has handed out the order is descending, so that no client walks through the
posts in ascending order. -/
theorem postRequests_iff (forumId : Int) (username : String) (now : ℕ) :
    (∀ r, (∃ query, forumPostsRequest forumId now query = .ok r) ↔
      ∃ cursor sortOption timeframe, r = .getForumPosts forumId cursor sortOption timeframe ∧
        OrderReachable cursor sortOption) ∧
    (∀ r, (∃ query, userPostsRequest username query = .ok r) ↔
      ∃ cursor sortOption, r = .getUserPosts username cursor sortOption ∧
        OrderReachable cursor sortOption) ∧
    ∀ (settings : PaginationSettings) (lastId : Int) (text : String) (timeframe : Option String),
      toBase64url lastId settings.paginationCursorLength = .ok text →
        forumPostsRequest forumId now ⟨some text, timeframe⟩ =
            .ok (.getForumPosts forumId lastId .descending (preprocessTimeframe timeframe now).1) ∧
          userPostsRequest username ⟨some text, timeframe⟩ =
            .ok (.getUserPosts username lastId .descending) := by
  refine ⟨fun r => ⟨?_, ?_⟩, fun r => ⟨?_, ?_⟩, fun settings lastId text timeframe htext => ?_⟩
  · rintro ⟨query, h⟩
    obtain ⟨cursor, hcursor, hr⟩ := except_bind_eq_ok h
    cases hr
    exact ⟨cursor, _, _, rfl, (parameter_iff cursor _).mp ⟨query.cursor, hcursor, rfl⟩⟩
  · rintro ⟨cursor, sortOption, timeframe, rfl, hreachable⟩
    obtain ⟨rawCursor, hcursor, rfl⟩ := (parameter_iff cursor sortOption).mpr hreachable
    refine ⟨⟨rawCursor, some timeframe.value⟩, ?_⟩
    simp only [forumPostsRequest, hcursor, preprocessTimeframe_value]
    rfl
  · rintro ⟨query, h⟩
    obtain ⟨cursor, hcursor, hr⟩ := except_bind_eq_ok h
    cases hr
    exact ⟨cursor, _, rfl, (parameter_iff cursor _).mp ⟨query.cursor, hcursor, rfl⟩⟩
  · rintro ⟨cursor, sortOption, rfl, hreachable⟩
    obtain ⟨rawCursor, hcursor, rfl⟩ := (parameter_iff cursor sortOption).mpr hreachable
    refine ⟨⟨rawCursor, none⟩, ?_⟩
    simp only [userPostsRequest, hcursor]
    rfl
  · obtain ⟨hcursor, horder⟩ := issued_parameter settings.length_ge htext
    constructor
    · simp only [forumPostsRequest, hcursor, horder]
      rfl
    · simp only [userPostsRequest, hcursor, horder]
      rfl

end ResourceServer
end Tenjin
