import Mathlib.Algebra.Group.Nat.Defs
import Tenjin.Python.Runtime

/-!
# `orjson.dumps`

The serialiser is a third-party package and a parameter wherever the services use
it.  `RejectsBytes` states the documented behaviour that the development needs;
`orjsonDumps` is a serialiser that has it and that concrete inputs are run with.
-/

namespace Tenjin
namespace Python

/-- A serialiser refuses every dictionary that holds a bytes object: bytes are not
one of the types that orjson serialises. -/
def RejectsBytes (dumps : PyValue → Except Exn String) : Prop :=
  ∀ (items : List (String × PyValue)) (key value text : String),
    (key, PyValue.bytes value) ∈ items → dumps (.dict items) ≠ .ok text

/-- One character of a JSON string: quotes, backslashes and control characters are
escaped. -/
def escapeChar (c : Char) : List Char :=
  match c.toNat with
  | 8 => "\\b".toList
  | 9 => "\\t".toList
  | 10 => "\\n".toList
  | 12 => "\\f".toList
  | 13 => "\\r".toList
  | 34 => "\\\"".toList
  | 92 => "\\\\".toList
  | n => if n < 32 then "\\u00".toList ++ hexDigits n else [c]

/-- A JSON string. -/
def jsonString (s : String) : String :=
  "\"" ++ String.ofList (s.toList.flatMap escapeChar) ++ "\""

/-- A number with as many digits after the point as a binary fraction needs. -/
def jsonFloat (x : Rat) : String :=
  let count := max 1 x.den.log2
  let digits := Nat.toDigits 10 (x.num.natAbs % x.den * 10 ^ count / x.den)
  (if x.num < 0 then "-" else "") ++ toString (x.num.natAbs / x.den) ++ "." ++
    String.ofList (List.replicate (count - digits.length) '0' ++ digits)

mutual

/-- `orjson.dumps`, with the bytes of the result read as text.  Integers must fit
in 64 bits, and a `float` is written in full, where orjson takes the shortest text that
denotes it. -/
def orjsonDumps : PyValue → Except Exn String
  | .none => .ok "null"
  | .bool b => .ok (if b then "true" else "false")
  | .int i =>
      if -9223372036854775808 ≤ i ∧ i < 18446744073709551616 then
        .ok (toString i)
      else .error .typeError
  | .float x => .ok (jsonFloat x)
  | .str s => .ok (jsonString s)
  | .bytes _ => .error .typeError
  | .list items =>
      match orjsonItems items with
      | .error e => .error e
      | .ok parts => .ok ("[" ++ pyJoin "," parts ++ "]")
  | .dict items =>
      match orjsonMembers items with
      | .error e => .error e
      | .ok parts => .ok ("\x7b" ++ pyJoin "," parts ++ "\x7d")

/-- The texts of the items of a list. -/
def orjsonItems : List PyValue → Except Exn (List String)
  | [] => .ok []
  | v :: items =>
      match orjsonDumps v, orjsonItems items with
      | .ok part, .ok parts => .ok (part :: parts)
      | .error e, _ => .error e
      | _, .error e => .error e

/-- The texts of the members of a dictionary. -/
def orjsonMembers : List (String × PyValue) → Except Exn (List String)
  | [] => .ok []
  | (key, v) :: items =>
      match orjsonDumps v, orjsonMembers items with
      | .ok part, .ok parts => .ok ((jsonString key ++ ":" ++ part) :: parts)
      | .error e, _ => .error e
      | _, .error e => .error e

end

/-- Members with a bytes object among them have no text. -/
theorem orjsonMembers_ne_ok {items : List (String × PyValue)} {key value : String}
    (h : (key, PyValue.bytes value) ∈ items) (parts : List String) :
    orjsonMembers items ≠ .ok parts := by
  induction items generalizing parts with
  | nil => cases h
  | cons item items ih =>
      obtain ⟨k, v⟩ := item
      rcases List.mem_cons.mp h with heq | htail
      · obtain ⟨rfl, rfl⟩ := Prod.mk.inj heq
        simp [orjsonMembers, orjsonDumps]
      · cases hv : orjsonDumps v with
        | error e => simp [orjsonMembers, hv]
        | ok part =>
            cases hm : orjsonMembers items with
            | error e => simp [orjsonMembers, hv, hm]
            | ok rest => exact absurd hm (ih htail rest)

theorem orjsonDumps_rejectsBytes : RejectsBytes orjsonDumps := by
  intro items key value text h hok
  cases hm : orjsonMembers items with
  | error e => simp [orjsonDumps, hm] at hok
  | ok parts => exact orjsonMembers_ne_ok h parts hm

example : orjsonDumps (.dict [("vote", .int 1), ("id", .str "a")]) =
    .ok "\x7b\"vote\":1,\"id\":\"a\"\x7d" := by decide

end Python
end Tenjin
