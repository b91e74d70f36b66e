import Mathlib.Data.List.Basic

/-!
# The part of the Python runtime that the services rely on

Values, exceptions, replies of the Redis client, `str.split` and `int(str)`, as
the language documents them.  Third-party exception classes that the code tests
for (psycopg's and redis-py's) are constructors of the same type.
-/

namespace Tenjin
namespace Python

/-- The Python values that the services serialise.  A `float` is the number that it denotes,
and a `dict` keeps its insertion order. -/
inductive PyValue
  | none
  | bool (b : Bool)
  | int (i : Int)
  | float (x : Rat)
  | str (s : String)
  | bytes (s : String)
  | list (items : List PyValue)
  | dict (items : List (String × PyValue))

mutual

/-- Equality of values is decidable, by recursion on both of them. -/
def PyValue.decEq : (a b : PyValue) → Decidable (a = b)
  | .none, b => by
      cases b with
      | none => exact isTrue rfl
      | _ => exact isFalse (by simp)
  | .bool x, b => by
      cases b with
      | bool y => exact decidable_of_iff (x = y) (by simp)
      | _ => exact isFalse (by simp)
  | .int x, b => by
      cases b with
      | int y => exact decidable_of_iff (x = y) (by simp)
      | _ => exact isFalse (by simp)
  | .float x, b => by
      cases b with
      | float y => exact decidable_of_iff (x = y) (by simp)
      | _ => exact isFalse (by simp)
  | .str x, b => by
      cases b with
      | str y => exact decidable_of_iff (x = y) (by simp)
      | _ => exact isFalse (by simp)
  | .bytes x, b => by
      cases b with
      | bytes y => exact decidable_of_iff (x = y) (by simp)
      | _ => exact isFalse (by simp)
  | .list xs, b => by
      cases b with
      | list ys =>
          haveI := PyValue.decEqList xs ys
          exact decidable_of_iff (xs = ys) (by simp)
      | _ => exact isFalse (by simp)
  | .dict xs, b => by
      cases b with
      | dict ys =>
          haveI := PyValue.decEqDict xs ys
          exact decidable_of_iff (xs = ys) (by simp)
      | _ => exact isFalse (by simp)

/-- Equality of lists of values. -/
def PyValue.decEqList : (xs ys : List PyValue) → Decidable (xs = ys)
  | [], [] => isTrue rfl
  | [], _ :: _ => isFalse (by simp)
  | _ :: _, [] => isFalse (by simp)
  | x :: xs, y :: ys =>
      haveI := PyValue.decEq x y
      haveI := PyValue.decEqList xs ys
      decidable_of_iff (x = y ∧ xs = ys) (by simp)

/-- Equality of the items of two dictionaries. -/
def PyValue.decEqDict : (xs ys : List (String × PyValue)) → Decidable (xs = ys)
  | [], [] => isTrue rfl
  | [], _ :: _ => isFalse (by simp)
  | _ :: _, [] => isFalse (by simp)
  | (k, x) :: xs, (l, y) :: ys =>
      haveI := PyValue.decEq x y
      haveI := PyValue.decEqDict xs ys
      decidable_of_iff (k = l ∧ x = y ∧ xs = ys) (by simp [and_assoc])

end

instance : DecidableEq PyValue := PyValue.decEq

/-- The exceptions that the modelled code raises or catches. -/
inductive Exn
  | typeError
  | valueError
  | keyError (key : String)
  | indexError
  | attributeError
  | nameError
  | overflowError
  | recursionError
  | runtimeError
  /-- psycopg's `IntegrityError`. -/
  | integrityError
  /-- psycopg's `OperationalError` (with its subclass `LockNotAvailable`). -/
  | operationalError
  /-- psycopg's `InternalError`. -/
  | internalError
  /-- psycopg's `CardinalityViolation`: one upsert touches a row twice. -/
  | cardinalityViolation
  /-- Any other `psycopg.Error`. -/
  | databaseError
  /-- SQLAlchemy's `ArgumentError`. -/
  | argumentError
  /-- SQLAlchemy's `CompileError`. -/
  | compileError
  /-- A `RedisError`; the flag says that its `error_type` is `NETWORK`. -/
  | redisError (network : Bool)
  | recoverableDatabaseException
  | unrecoverableDatabaseException
  | httpException (status : ℕ) (detail : String)
  | duplicateRequestException (message : String)
  | conflictingIntentException (message : String)
  | cacheCoherenceException
  deriving DecidableEq

/-- What a computation that returns has gone through. -/
theorem except_bind_eq_ok {ε α β : Type} {x : Except ε α} {f : α → Except ε β} {b : β}
    (h : (x >>= f) = .ok b) : ∃ a, x = .ok a ∧ f a = .ok b := by
  cases x with
  | error e => cases h
  | ok a => exact ⟨a, rfl, h⟩

/-- A loop that returns has returned one result for each item. -/
theorem mapM_eq_ok_iff {ε α β : Type} {f : α → Except ε β} {xs : List α} {ys : List β} :
    xs.mapM f = .ok ys ↔ List.Forall₂ (fun x y => f x = .ok y) xs ys := by
  induction xs generalizing ys with
  | nil =>
      rw [List.mapM_nil]
      constructor
      · intro h
        cases h
        exact .nil
      · intro h
        cases h
        rfl
  | cons x xs ih =>
      rw [List.mapM_cons]
      constructor
      · intro h
        obtain ⟨y, hy, h⟩ := except_bind_eq_ok h
        obtain ⟨rest, hrest, h⟩ := except_bind_eq_ok h
        cases h
        exact .cons hy (ih.mp hrest)
      · intro h
        cases h with
        | cons hy hrest =>
            rw [hy, ih.mpr hrest]
            rfl

/-- Every result of a loop is the result for one of the items. -/
theorem exists_of_mem_mapM {ε α β : Type} {f : α → Except ε β} {xs : List α} {ys : List β}
    {y : β} (h : xs.mapM f = .ok ys) (hy : y ∈ ys) : ∃ x ∈ xs, f x = .ok y := by
  have hall := mapM_eq_ok_iff.mp h
  clear h
  induction hall with
  | nil => cases hy
  | cons hx _ ih =>
      rcases List.mem_cons.mp hy with rfl | hy
      · exact ⟨_, List.mem_cons_self .., hx⟩
      · obtain ⟨x, hmem, hx⟩ := ih hy
        exact ⟨x, List.mem_cons_of_mem _ hmem, hx⟩

/-- Every item of a loop that returns has a result. -/
theorem exists_result_of_mem_mapM {ε α β : Type} {f : α → Except ε β} {xs : List α}
    {ys : List β} {x : α} (h : xs.mapM f = .ok ys) (hx : x ∈ xs) : ∃ y ∈ ys, f x = .ok y := by
  have hall := mapM_eq_ok_iff.mp h
  clear h
  induction hall with
  | nil => cases hx
  | cons hy _ ih =>
      rcases List.mem_cons.mp hx with rfl | hx
      · exact ⟨_, List.mem_cons_self .., hy⟩
      · obtain ⟨y, hmem, hy⟩ := ih hx
        exact ⟨y, List.mem_cons_of_mem _ hmem, hy⟩

/-- A loop returns if its body does for every item. -/
theorem exists_mapM_eq_ok {ε α β : Type} {f : α → Except ε β} {xs : List α}
    (h : ∀ x ∈ xs, ∃ y, f x = .ok y) : ∃ ys, xs.mapM f = .ok ys := by
  induction xs with
  | nil => exact ⟨[], rfl⟩
  | cons x xs ih =>
      obtain ⟨y, hy⟩ := h x (List.mem_cons_self ..)
      obtain ⟨ys, hys⟩ := ih fun x' hx' => h x' (List.mem_cons_of_mem _ hx')
      exact ⟨y :: ys, mapM_eq_ok_iff.mpr (.cons hy (mapM_eq_ok_iff.mp hys))⟩

/-- A loop over items that all return, or raise one error, raises it if some item does. -/
theorem mapM_eq_error {ε α β : Type} {f : α → Except ε β} {e : ε} {xs : List α}
    (hall : ∀ x ∈ xs, f x = .error e ∨ ∃ y, f x = .ok y) (hsome : ∃ x ∈ xs, f x = .error e) :
    xs.mapM f = .error e := by
  induction xs with
  | nil => simp at hsome
  | cons x xs ih =>
      rw [List.mapM_cons]
      rcases hall x (List.mem_cons_self ..) with herror | ⟨y, hy⟩
      · rw [herror]
        rfl
      · have hlater : ∃ x ∈ xs, f x = .error e := by
          obtain ⟨x', hmem, hx'⟩ := hsome
          rcases List.mem_cons.mp hmem with rfl | hmem
          · rw [hy] at hx'
            cases hx'
          · exact ⟨x', hmem, hx'⟩
        rw [hy, ih (fun x' hmem => hall x' (List.mem_cons_of_mem _ hmem)) hlater]
        rfl

/-- A loop over what items were made of. -/
theorem mapM_map_eq_ok {ε α β γ : Type} {f : β → Except ε γ} {g : α → β} {h : α → γ}
    (hfg : ∀ x, f (g x) = .ok (h x)) (xs : List α) : (xs.map g).mapM f = .ok (xs.map h) := by
  induction xs with
  | nil => rfl
  | cons x xs ih =>
      rw [List.map_cons, List.mapM_cons, hfg, ih]
      rfl

/-- Two loops one after the other return what one loop over both bodies returns. -/
theorem mapM_bind_eq_ok_iff {ε α β γ : Type} {f : α → Except ε β} {g : β → Except ε γ}
    {xs : List α} {zs : List γ} :
    (xs.mapM fun x => f x >>= g) = .ok zs ↔
      ∃ ys, xs.mapM f = .ok ys ∧ ys.mapM g = .ok zs := by
  simp only [mapM_eq_ok_iff]
  constructor
  · intro h
    induction h with
    | nil => exact ⟨[], .nil, .nil⟩
    | cons hx _ ih =>
        obtain ⟨y, hy, hz⟩ := except_bind_eq_ok hx
        obtain ⟨ys, hys, hzs⟩ := ih
        exact ⟨y :: ys, .cons hy hys, .cons hz hzs⟩
  · rintro ⟨ys, hys, hzs⟩
    induction hys generalizing zs with
    | nil =>
        cases hzs
        exact .nil
    | cons hy _ ih =>
        cases hzs with
        | cons hz hzs => exact .cons (by rw [hy]; exact hz) (ih hzs)

/-- Loops whose results correspond. -/
theorem mapM_of_map {ε α β γ : Type} {f : α → Except ε γ} {g : α → Except ε β} {h : β → γ}
    {xs : List α} {ys : List β} (hg : xs.mapM g = .ok ys)
    (hfg : ∀ x ∈ xs, f x = (g x).map h) : xs.mapM f = .ok (ys.map h) := by
  rw [mapM_eq_ok_iff] at hg ⊢
  induction hg with
  | nil => exact .nil
  | cons hx _ ih =>
      refine .cons ?_ (ih fun x hmem => hfg x (List.mem_cons_of_mem _ hmem))
      rw [hfg _ (List.mem_cons_self ..), hx]
      rfl

/-- A nonempty reply to a Redis read: `bytes` by default, `str` when the client
was built with `decode_responses`. -/
inductive Reply
  | bytes (s : String)
  | str (s : String)
  deriving DecidableEq

/-- What the client makes of the stored text. -/
def clientReply (decodeResponses : Bool) (s : String) : Reply :=
  if decodeResponses then .str s else .bytes s

/-- The value of a call of an asynchronous client: the reply if the call is awaited, and
else a coroutine that never runs. -/
inductive Called (α : Type)
  | coroutine
  | reply (a : α)
  deriving DecidableEq

/-- `bool(value)`.  A coroutine is true. -/
def Called.truthy {α : Type} (truthy : α → Bool) : Called α → Bool
  | .coroutine => true
  | .reply a => truthy a

/-- A method of the reply.  A coroutine does not have it. -/
def Called.attribute {α : Type} : Called α → Except Exn α
  | .coroutine => .error .attributeError
  | .reply a => .ok a

/-- The reply as a container.  A coroutine is none. -/
def Called.container {α : Type} : Called α → Except Exn α
  | .coroutine => .error .typeError
  | .reply a => .ok a

/-- `s.split(sep)` for a separator of one character. -/
def pySplit (sep : Char) (s : String) : List String :=
  (s.toList.splitOn sep).map String.ofList

/-- The first piece of a split is the text in front of the first separator. -/
theorem pySplit_head_of_prefix (sep : Char) (front back : List Char)
    (h : sep ∉ front) :
    pySplit sep (String.ofList (front ++ sep :: back)) =
      String.ofList front :: pySplit sep (String.ofList back) := by
  simp [pySplit, List.splitOn_append_cons_self_of_not_mem h]

/-- The loop of `splitText`: `skip` characters of a separator are still to be passed,
and `piece` holds the current piece, last character first. -/
def splitTextLoop (sep : List Char) : List Char → (skip : ℕ) → (piece : List Char) →
    List (List Char)
  | [], _, piece => [piece.reverse]
  | _ :: cs, skip + 1, piece => splitTextLoop sep cs skip piece
  | c :: cs, 0, piece =>
      if sep.isPrefixOf (c :: cs) then
        piece.reverse :: splitTextLoop sep cs (sep.length - 1) []
      else splitTextLoop sep cs 0 (c :: piece)

/-- `s.split(sep)` for any separator: an empty one is a `ValueError`. -/
def splitText (s sep : String) : Except Exn (List String) :=
  if sep.isEmpty then .error .valueError
  else .ok ((splitTextLoop sep.toList s.toList 0 []).map String.ofList)

/-- The two hexadecimal digits of a byte. -/
def hexDigits (n : ℕ) : List Char :=
  [Nat.digitChar (n / 16), Nat.digitChar (n % 16)]

/-- `sep.join(parts)`. -/
def pyJoin (sep : String) (parts : List String) : String :=
  sep.intercalate parts

/-- The code points that `str.isspace` accepts, which `int` strips. -/
def whitespacePoints : List ℕ :=
  [9, 10, 11, 12, 13, 28, 29, 30, 31, 32, 133, 160, 5760, 8192, 8193, 8194, 8195,
    8196, 8197, 8198, 8199, 8200, 8201, 8202, 8232, 8233, 8239, 8287, 12288]

/-- The code points of the digit zero in every block of Unicode decimals. -/
def digitZeroPoints : List ℕ :=
  [48, 1632, 1776, 1984, 2406, 2534, 2662, 2790, 2918, 3046, 3174, 3302, 3430,
    3558, 3664, 3792, 3872, 4160, 4240, 6112, 6160, 6470, 6608, 6784, 6800, 6992,
    7088, 7232, 7248, 42528, 43216, 43264, 43472, 43504, 43600, 44016, 65296, 66720,
    68912, 69734, 69872, 69942, 70096, 70384, 70736, 70864, 71248, 71360, 71472,
    71904, 72016, 72784, 73040, 73120, 92768, 92864, 93008, 120782, 120792, 120802,
    120812, 120822, 123200, 123632, 125264, 130032]

/-- The value of a decimal digit of any script. -/
def digitValue? (c : Char) : Option ℕ :=
  (digitZeroPoints.find? fun z => z ≤ c.toNat && c.toNat < z + 10).map (c.toNat - ·)

/-- Decimal digits with single underscores between them, most significant first;
`value` is what has been read and `digit` says that the last character was one. -/
def readDigits (value : ℕ) (digit : Bool) : List Char → Option ℕ
  | [] => if digit then some value else none
  | c :: cs =>
      match digitValue? c with
      | some d => readDigits (10 * value + d) true cs
      | none => if digit && c == '_' then readDigits value false cs else none

/-- `int(s)` on a string: `ValueError` unless it is a decimal literal, possibly
signed and surrounded by white space. -/
def pyInt (s : String) : Except Exn Int :=
  let isSpace := fun c : Char => whitespacePoints.contains c.toNat
  let stripped := ((s.toList.dropWhile isSpace).reverse.dropWhile isSpace).reverse
  let number :=
    match stripped with
    | '-' :: digits => (readDigits 0 false digits).map fun n => -(n : Int)
    | '+' :: digits => (readDigits 0 false digits).map fun n => (n : Int)
    | digits => (readDigits 0 false digits).map fun n => (n : Int)
  match number with
  | some n => .ok n
  | none => .error .valueError

/-- `int(value)` on a value.  Only numbers, truth values and texts have one, and of a `float`
it is the part before the point. -/
def pyIntOf : PyValue → Except Exn Int
  | .int i => .ok i
  | .float x => .ok (x.num.tdiv x.den)
  | .bool b => .ok (if b then 1 else 0)
  | .str s => pyInt s
  | .bytes s => pyInt s
  | _ => .error .typeError

example : pyInt " -1_0 " = .ok (-10) := by decide

end Python
end Tenjin
