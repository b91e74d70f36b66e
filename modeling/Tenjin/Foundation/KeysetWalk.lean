import Mathlib.Data.List.Sort
import Mathlib.Data.List.Nodup

/-!
# Walking through rows page by page with a key cursor

A page query returns the first `limit` rows, in its order, among those whose key is
greater than the cursor; the next cursor is the key of the page's last row.  The database
may arrange rows that the order does not separate as it likes.

* `Arrangement` is what the database may do: a sorted permutation of every list of rows.
* `walk` asks for page after page; `Reached` lists the cursors it comes to.
* `BoundarySeparates` says that the last row of the page at a cursor has a greater key than
  the rows in front of it and a smaller one than the rows left for later.
* `complete_iff` — every walk visits every relevant row exactly once and ends, whatever the
  database does, if and only if all boundaries separate.
-/

namespace Tenjin
namespace Foundation

variable {α ε : Type*}

/-- A page query: the key, the order of the rows and the size of a page. -/
structure KeysetQuery (α : Type*) where
  key : α → Int
  le : α → α → Bool
  le_trans : ∀ a b c, le a b → le b c → le a c
  le_total : ∀ a b, le a b || le b a
  limit : ℕ
  limit_pos : 0 < limit

/-- How the database arranges rows: a sorted permutation of any list of rows. -/
structure Arrangement (q : KeysetQuery α) where
  run : List α → List α
  perm : ∀ rows, (run rows).Perm rows
  sorted : ∀ rows, (run rows).Pairwise fun a b => q.le a b

/-- Sorting is an arrangement. -/
def Arrangement.bySort (q : KeysetQuery α) : Arrangement q where
  run := fun rows => rows.mergeSort q.le
  perm := fun rows => List.mergeSort_perm rows q.le
  sorted := List.pairwise_mergeSort q.le_trans q.le_total

/-- An arrangement that treats one list of rows differently. -/
def Arrangement.override [DecidableEq α] {q : KeysetQuery α} (s : Arrangement q)
    (rows out : List α) (hperm : out.Perm rows)
    (hsorted : out.Pairwise fun a b => q.le a b) : Arrangement q where
  run := fun xs => if xs = rows then out else s.run xs
  perm := by
    intro xs
    split
    · rename_i h
      exact h ▸ hperm
    · exact s.perm xs
  sorted := by
    intro xs
    split
    · exact hsorted
    · exact s.sorted xs

/-- The rows that come first are those of a small index. -/
theorem Arrangement.mem_take_iff [DecidableEq α] {q : KeysetQuery α} (s : Arrangement q)
    {rows : List α} {a : α} {n : ℕ} :
    a ∈ (s.run rows).take n ↔ a ∈ rows ∧ (s.run rows).idxOf a < n := by
  constructor
  · intro h
    have hmem : a ∈ s.run rows := List.mem_of_mem_take h
    exact ⟨(s.perm rows).subset hmem, (List.mem_take_iff_idxOf_lt hmem).mp h⟩
  · rintro ⟨hrow, hindex⟩
    have hmem : a ∈ s.run rows := (s.perm rows).symm.subset hrow
    exact (List.mem_take_iff_idxOf_lt hmem).mpr hindex

/-- Ask for page after page; `none` is the error of a walk that has run out of fuel. -/
def walk (query : Int → Except ε (List α)) (key : α → Int) (transport : Int → Except ε Int) :
    ℕ → Int → Except (Option ε) (List α)
  | 0, _ => .error none
  | fuel + 1, cursor =>
      match query cursor with
      | .error e => .error (some e)
      | .ok page =>
          match page.getLast? with
          | none => .ok []
          | some last =>
              match transport (key last) with
              | .error e => .error (some e)
              | .ok next => (walk query key transport fuel next).map (page ++ ·)

section
variable (q : KeysetQuery α) (rows : List α) (s : Arrangement q)
  (transport : Int → Except ε Int)

/-- The rows behind the cursor. -/
def beyond (cursor : Int) : List α := rows.filter fun r => cursor < q.key r

/-- The page at the cursor. -/
def page (cursor : Int) : List α := (s.run (beyond q rows cursor)).take q.limit

/-- A query that answers with the page. -/
def pageQuery (cursor : Int) : Except ε (List α) := .ok (page q rows s cursor)

/-- What has been visited when the walk comes to a cursor. -/
inductive Reached : List α → Int → Prop
  | start : Reached [] 0
  | next {visited : List α} {cursor : Int} {last : α} : Reached visited cursor →
      (page q rows s cursor).getLast? = some last →
      transport (q.key last) = .ok (q.key last) →
      Reached (visited ++ page q rows s cursor) (q.key last)

variable (relevant : α → Prop)

/-- The last row of the page separates the relevant rows of the page from those that are
left, and its key can be handed over. -/
def BoundarySeparates (cursor : Int) : Prop :=
  ∀ last, (page q rows s cursor).getLast? = some last →
    transport (q.key last) = .ok (q.key last) ∧
    ∀ r ∈ beyond q rows cursor, relevant r →
      (r ∈ page q rows s cursor ↔ q.key r ≤ q.key last)

/-- The walk ends and visits every relevant row exactly once. -/
def Complete [DecidableEq α] : Prop :=
  ∃ visited, walk (pageQuery q rows s) q.key transport (rows.length + 1) 0 = .ok visited ∧
    ∀ r ∈ rows, relevant r → visited.count r = 1

end

section
variable {q : KeysetQuery α} {rows : List α} {s : Arrangement q}
  {transport : Int → Except ε Int} {relevant : α → Prop} {cursor : Int} {last : α}

theorem mem_beyond {r : α} : r ∈ beyond q rows cursor ↔ r ∈ rows ∧ cursor < q.key r := by
  simp [beyond]

/-- The rows of a page are behind its cursor. -/
theorem mem_beyond_of_mem_page {r : α} (h : r ∈ page q rows s cursor) :
    r ∈ beyond q rows cursor :=
  (s.perm _).mem_iff.mp (List.mem_of_mem_take h)

theorem last_mem_page (h : (page q rows s cursor).getLast? = some last) :
    last ∈ page q rows s cursor := List.mem_of_getLast? h

/-- Fewer rows are left behind the last row of a page. -/
theorem beyond_length_lt (h : (page q rows s cursor).getLast? = some last) :
    (beyond q rows (q.key last)).length < (beyond q rows cursor).length := by
  have hlast := mem_beyond_of_mem_page (last_mem_page h)
  have hcursor : cursor < q.key last := (mem_beyond.mp hlast).2
  have hfilter : beyond q rows (q.key last) =
      (beyond q rows cursor).filter fun r => q.key last < q.key r := by
    rw [beyond, beyond, List.filter_filter]
    apply List.filter_congr
    intro r _
    rw [← Bool.decide_and]
    refine decide_eq_decide.mpr ⟨fun h => ⟨h, by omega⟩, fun h => h.1⟩
  rw [hfilter, List.length_filter_lt_length_iff_exists]
  exact ⟨last, hlast, by simp⟩

/-- A page is empty only when no row is left. -/
theorem beyond_eq_nil (h : (page q rows s cursor).getLast? = none) :
    beyond q rows cursor = [] := by
  have hpage : (s.run (beyond q rows cursor)).take q.limit = [] :=
    List.getLast?_eq_none_iff.mp h
  have hlimit := q.limit_pos
  rcases List.take_eq_nil_iff.mp hpage with hzero | hrun
  · omega
  · have hperm := s.perm (beyond q rows cursor)
    rw [hrun] at hperm
    exact hperm.symm.eq_nil

/-- No row is twice on a page. -/
theorem page_nodup (hrows : rows.Nodup) : (page q rows s cursor).Nodup :=
  (((s.perm _).nodup_iff).mpr (hrows.filter _)).sublist (List.take_sublist _ _)

/-- One page of a walk. -/
theorem walk_succ (h : (page q rows s cursor).getLast? = some last)
    (hnext : transport (q.key last) = .ok (q.key last)) (fuel : ℕ) :
    walk (pageQuery q rows s) q.key transport (fuel + 1) cursor =
      (walk (pageQuery q rows s) q.key transport fuel (q.key last)).map
        (page q rows s cursor ++ ·) := by
  simp only [walk, pageQuery, h, hnext]

/-- A walk ends at an empty page. -/
theorem walk_of_empty (h : (page q rows s cursor).getLast? = none) (fuel : ℕ) :
    walk (pageQuery q rows s) q.key transport (fuel + 1) cursor = .ok [] := by
  simp only [walk, pageQuery, h]

/-- A walk that goes on behind a page has been handed the key of its last row. -/
theorem walk_succ_ok {fuel : ℕ} {visited : List α}
    (htransport : ∀ n m, transport n = .ok m → m = n)
    (hlast : (page q rows s cursor).getLast? = some last)
    (h : walk (pageQuery q rows s) q.key transport (fuel + 1) cursor = .ok visited) :
    ∃ rest, walk (pageQuery q rows s) q.key transport fuel (q.key last) = .ok rest ∧
      visited = page q rows s cursor ++ rest := by
  cases hnext : transport (q.key last) with
  | error e => simp [walk, pageQuery, hlast, hnext] at h
  | ok m =>
      obtain rfl := htransport _ _ hnext
      rw [walk_succ hlast hnext] at h
      cases hrest : walk (pageQuery q rows s) q.key transport fuel (q.key last) with
      | error e => simp [hrest, Except.map] at h
      | ok rest =>
          simp only [hrest, Except.map, Except.ok.injEq] at h
          exact ⟨rest, rfl, h.symm⟩

/-- What a walk visits starts with the page at its cursor, and all of it is behind the
cursor. -/
theorem walk_ok {fuel : ℕ} {visited : List α}
    (htransport : ∀ n m, transport n = .ok m → m = n)
    (h : walk (pageQuery q rows s) q.key transport (fuel + 1) cursor = .ok visited) :
    page q rows s cursor <+: visited ∧ ∀ r ∈ visited, r ∈ beyond q rows cursor := by
  induction fuel generalizing cursor visited with
  | zero =>
      cases hlast : (page q rows s cursor).getLast? with
      | none =>
          obtain rfl : [] = visited := by simpa only [walk_of_empty hlast, Except.ok.injEq] using h
          rw [List.getLast?_eq_none_iff.mp hlast]
          exact ⟨List.prefix_append [] _, fun r hr => by cases hr⟩
      | some last =>
          obtain ⟨rest, hrest, _⟩ := walk_succ_ok htransport hlast h
          cases hrest
  | succ fuel ih =>
      cases hlast : (page q rows s cursor).getLast? with
      | none =>
          obtain rfl : [] = visited := by simpa only [walk_of_empty hlast, Except.ok.injEq] using h
          rw [List.getLast?_eq_none_iff.mp hlast]
          exact ⟨List.prefix_append [] _, fun r hr => by cases hr⟩
      | some last =>
          obtain ⟨rest, hrest, rfl⟩ := walk_succ_ok htransport hlast h
          refine ⟨List.prefix_append _ _, fun r hr => ?_⟩
          rcases List.mem_append.mp hr with hr | hr
          · exact mem_beyond_of_mem_page hr
          · obtain ⟨hmem, hkey⟩ := mem_beyond.mp ((ih hrest).2 r hr)
            have hcursor := (mem_beyond.mp (mem_beyond_of_mem_page (last_mem_page hlast))).2
            exact mem_beyond.mpr ⟨hmem, by omega⟩

/-- The walk passes every cursor that is reached, with fuel left for the rows behind it. -/
theorem walk_of_reached {visited : List α} (h : Reached q rows s transport visited cursor) :
    ∃ fuel, (beyond q rows cursor).length < fuel + 1 ∧
      walk (pageQuery q rows s) q.key transport (rows.length + 1) 0 =
        (walk (pageQuery q rows s) q.key transport (fuel + 1) cursor).map (visited ++ ·) := by
  induction h with
  | start =>
      refine ⟨rows.length, Nat.lt_succ_of_le (List.length_filter_le _ _), ?_⟩
      cases walk (pageQuery q rows s) q.key transport (rows.length + 1) 0 <;> rfl
  | @next visited cursor last hreached hlast hnext ih =>
      obtain ⟨fuel, hfuel, hwalk⟩ := ih
      have hshorter := beyond_length_lt hlast
      obtain ⟨fuel', rfl⟩ : ∃ fuel', fuel = fuel' + 1 := ⟨fuel - 1, by omega⟩
      refine ⟨fuel', by omega, ?_⟩
      rw [hwalk, walk_succ hlast hnext]
      cases walk (pageQuery q rows s) q.key transport (fuel' + 1) (q.key last) with
      | error e => rfl
      | ok rest => simp [Except.map]

/-- From a reached cursor, a walk whose boundaries separate visits every relevant row
behind the cursor exactly once. -/
theorem walk_of_boundaries [DecidableEq α] (hrows : rows.Nodup)
    (htransport : ∀ n m, transport n = .ok m → m = n)
    (hsep : ∀ visited cursor, Reached q rows s transport visited cursor →
      BoundarySeparates q rows s transport relevant cursor)
    (fuel : ℕ) {visited : List α} (hreached : Reached q rows s transport visited cursor)
    (hfuel : (beyond q rows cursor).length < fuel + 1) :
    ∃ out, walk (pageQuery q rows s) q.key transport (fuel + 1) cursor = .ok out ∧
      ∀ r ∈ beyond q rows cursor, relevant r → out.count r = 1 := by
  induction fuel generalizing visited cursor with
  | zero =>
      have hnone : beyond q rows cursor = [] := List.length_eq_zero_iff.mp (by omega)
      have hpage : (page q rows s cursor).getLast? = none := by
        cases hlast : (page q rows s cursor).getLast? with
        | none => rfl
        | some last =>
            have hmem := mem_beyond_of_mem_page (last_mem_page hlast)
            rw [hnone] at hmem
            cases hmem
      refine ⟨[], walk_of_empty hpage 0, fun r hr => ?_⟩
      rw [hnone] at hr
      cases hr
  | succ fuel ih =>
      cases hlast : (page q rows s cursor).getLast? with
      | none =>
          refine ⟨[], walk_of_empty hlast _, fun r hr => ?_⟩
          rw [beyond_eq_nil hlast] at hr
          cases hr
      | some last =>
          obtain ⟨hnext, hpart⟩ := hsep visited cursor hreached last hlast
          obtain ⟨rest, hrest, hcount⟩ := ih (.next hreached hlast hnext) (by
            have hshorter := beyond_length_lt hlast
            omega)
          have hbehind := (walk_ok htransport hrest).2
          refine ⟨page q rows s cursor ++ rest, ?_, fun r hr hrel => ?_⟩
          · rw [walk_succ hlast hnext, hrest]
            rfl
          · rw [List.count_append]
            by_cases hpage : r ∈ page q rows s cursor
            · have hkey : q.key r ≤ q.key last := (hpart r hr hrel).mp hpage
              have hnot : r ∉ rest := by
                intro hmem
                have hgreater := (mem_beyond.mp (hbehind r hmem)).2
                omega
              rw [List.count_eq_one_of_mem (page_nodup hrows) hpage,
                List.count_eq_zero_of_not_mem hnot]
            · have hkey : ¬ q.key r ≤ q.key last := fun h => hpage ((hpart r hr hrel).mpr h)
              rw [List.count_eq_zero_of_not_mem hpage,
                hcount r (mem_beyond.mpr ⟨(mem_beyond.mp hr).1, by omega⟩) hrel]

/-- The rows that the order puts strictly in front of `r`. -/
def strictlyBefore (q : KeysetQuery α) (r a : α) : Bool := !q.le r a

/-- When `r` is on a page of `xs`, fewer rows than a page holds are strictly in front of
it. -/
theorem strictlyBefore_length_lt {xs : List α} {r : α}
    (hpage : r ∈ (s.run xs).take q.limit) :
    (xs.filter (strictlyBefore q r)).length < q.limit := by
  have hrefl : q.le r r := by simpa using q.le_total r r
  obtain ⟨front, back, hsplit⟩ := List.append_of_mem hpage
  have hrun : s.run xs = front ++ r :: (back ++ (s.run xs).drop q.limit) := by
    have hwhole := List.take_append_drop q.limit (s.run xs)
    rw [hsplit] at hwhole
    simpa using hwhole.symm
  have hsorted := s.sorted xs
  rw [hrun, List.pairwise_append, List.pairwise_cons] at hsorted
  have hnone : (r :: (back ++ (s.run xs).drop q.limit)).filter (strictlyBefore q r) = [] := by
    rw [List.filter_eq_nil_iff]
    intro a ha
    rcases List.mem_cons.mp ha with rfl | ha
    · simp [strictlyBefore, hrefl]
    · simp [strictlyBefore, hsorted.2.1.1 a ha]
  have hfront : front.length < q.limit := by
    have hle := List.length_take_le q.limit (s.run xs)
    rw [hsplit, List.length_append, List.length_cons] at hle
    omega
  calc (xs.filter (strictlyBefore q r)).length
      = ((s.run xs).filter (strictlyBefore q r)).length :=
        ((s.perm xs).filter _).length_eq.symm
    _ = (front.filter (strictlyBefore q r)).length := by
        rw [hrun, List.filter_append, hnone, List.append_nil]
    _ ≤ front.length := List.length_filter_le _ _
    _ < q.limit := hfront

/-- A row that is on a page can be put on the page of fewer rows that still include it:
those that the order puts strictly in front of it are no more than before. -/
theorem exists_early_arrangement [DecidableEq α] {xs ys : List α} {r : α}
    (hsub : ys.Sublist xs) (hr : r ∈ ys) (hpage : r ∈ (s.run xs).take q.limit) :
    ∃ out : List α, out.Perm ys ∧ out.Pairwise (fun a b => q.le a b) ∧
      r ∈ out.take q.limit := by
  let front := ((ys.erase r).filter (strictlyBefore q r)).mergeSort q.le
  let back := ((ys.erase r).filter fun a => !strictlyBefore q r a).mergeSort q.le
  have hfront : ∀ a ∈ front, q.le a r := by
    intro a ha
    have hbefore := (List.mem_filter.mp ((List.mergeSort_perm _ q.le).mem_iff.mp ha)).2
    have htotal := q.le_total a r
    simp only [strictlyBefore, Bool.not_eq_true'] at hbefore
    simpa [hbefore] using htotal
  have hback : ∀ b ∈ back, q.le r b := by
    intro b hb
    have hbehind := (List.mem_filter.mp ((List.mergeSort_perm _ q.le).mem_iff.mp hb)).2
    simpa [strictlyBefore] using hbehind
  refine ⟨front ++ r :: back, ?_, ?_, ?_⟩
  · have hsplit : (front ++ back).Perm (ys.erase r) :=
      ((List.mergeSort_perm _ _).append (List.mergeSort_perm _ _)).trans
        (List.filter_append_perm _ _)
    exact List.perm_middle.trans ((hsplit.cons r).trans (List.perm_cons_erase hr).symm)
  · rw [List.pairwise_append, List.pairwise_cons]
    refine ⟨List.pairwise_mergeSort q.le_trans q.le_total _,
      ⟨hback, List.pairwise_mergeSort q.le_trans q.le_total _⟩, fun a ha b hb => ?_⟩
    rcases List.mem_cons.mp hb with rfl | hb
    · exact hfront a ha
    · exact q.le_trans a r b (hfront a ha) (hback b hb)
  · have hlength : front.length < q.limit := by
      calc front.length = ((ys.erase r).filter (strictlyBefore q r)).length :=
            List.length_mergeSort _
        _ ≤ (xs.filter (strictlyBefore q r)).length :=
            ((List.erase_sublist.trans hsub).filter _).length_le
        _ < q.limit := strictlyBefore_length_lt hpage
    rw [List.take_append, List.take_of_length_le hlength.le]
    obtain ⟨n, hn⟩ : ∃ n, q.limit - front.length = n + 1 :=
      ⟨q.limit - front.length - 1, by omega⟩
    rw [hn, List.take_succ_cons]
    exact List.mem_append_right _ (List.mem_cons_self ..)

/-- Arrangements that agree on more than `n` rows come to the same cursors with more than
`n` rows behind them. -/
theorem Reached.congr {s' : Arrangement q} {n : ℕ}
    (hagree : ∀ xs, n < xs.length → s'.run xs = s.run xs) {visited : List α}
    (h : Reached q rows s transport visited cursor)
    (hn : n < (beyond q rows cursor).length) :
    Reached q rows s' transport visited cursor ∧ page q rows s' cursor = page q rows s cursor := by
  have hpage : page q rows s' cursor = page q rows s cursor := by
    rw [page, page, hagree _ hn]
  refine ⟨?_, hpage⟩
  clear hpage
  induction h with
  | start => exact .start
  | @next visited cursor last hreached hlast hnext ih =>
      have hlonger : n < (beyond q rows cursor).length :=
        Nat.lt_trans hn (beyond_length_lt hlast)
      have hpage : page q rows s' cursor = page q rows s cursor := by
        rw [page, page, hagree _ hlonger]
      rw [← hpage] at hlast ⊢
      exact .next (ih hlonger) hlast hnext

/-- A complete walk that has come to a cursor: what it visits is what it has visited,
followed by the page at the cursor and by rows behind the cursor. -/
theorem complete_at [DecidableEq α] (htransport : ∀ n m, transport n = .ok m → m = n)
    (hcomplete : Complete q rows s transport relevant) {visited : List α}
    (hreached : Reached q rows s transport visited cursor) :
    ∃ out fuel, walk (pageQuery q rows s) q.key transport (fuel + 1) cursor = .ok out ∧
      page q rows s cursor <+: out ∧ (∀ r ∈ out, r ∈ beyond q rows cursor) ∧
      ∀ r ∈ rows, relevant r → (visited ++ out).count r = 1 := by
  obtain ⟨all, hall, hcount⟩ := hcomplete
  obtain ⟨fuel, _, hwalk⟩ := walk_of_reached hreached
  rw [hall] at hwalk
  cases hout : walk (pageQuery q rows s) q.key transport (fuel + 1) cursor with
  | error e => simp [hout, Except.map] at hwalk
  | ok out =>
      simp only [hout, Except.map, Except.ok.injEq] at hwalk
      obtain ⟨hfront, hbehind⟩ := walk_ok htransport hout
      exact ⟨out, fuel, hout, hfront, hbehind, hwalk ▸ hcount⟩

/-- When every walk is complete, the boundary at a reached cursor separates, provided that
the relevant rows behind the cursor are those that have not been visited. -/
theorem boundarySeparates_of_complete [DecidableEq α]
    (htransport : ∀ n m, transport n = .ok m → m = n)
    (hcomplete : ∀ s, Complete q rows s transport relevant) {visited : List α}
    (hreached : Reached q rows s transport visited cursor)
    (hfresh : ∀ r ∈ beyond q rows cursor, relevant r → r ∉ visited) :
    BoundarySeparates q rows s transport relevant cursor := by
  intro last hlast
  have hnext : transport (q.key last) = .ok (q.key last) := by
    obtain ⟨out, fuel, hout, _⟩ := complete_at htransport (hcomplete s) hreached
    cases htrans : transport (q.key last) with
    | error e => simp [walk, pageQuery, hlast, htrans] at hout
    | ok m => rw [htransport _ _ htrans]
  refine ⟨hnext, fun r hr hrel => ⟨fun hpage => ?_, fun hkey => ?_⟩⟩
  · -- a row of the page that is left for later may be put on the next page again
    by_contra hlate
    have hbehind : r ∈ beyond q rows (q.key last) :=
      mem_beyond.mpr ⟨(mem_beyond.mp hr).1, by omega⟩
    have hsub : (beyond q rows (q.key last)).Sublist (beyond q rows cursor) := by
      have hcursor := (mem_beyond.mp (mem_beyond_of_mem_page (last_mem_page hlast))).2
      exact List.monotone_filter_right rows fun a ha => by
        simp only [decide_eq_true_eq] at ha ⊢
        omega
    obtain ⟨early, hperm, hsorted, hearly⟩ := exists_early_arrangement hsub hbehind hpage
    let s' := s.override (beyond q rows (q.key last)) early hperm hsorted
    have hagree : ∀ xs, (beyond q rows (q.key last)).length < xs.length →
        s'.run xs = s.run xs := by
      intro xs hxs
      show (if xs = beyond q rows (q.key last) then early else s.run xs) = s.run xs
      rw [if_neg]
      rintro rfl
      exact Nat.lt_irrefl _ hxs
    obtain ⟨hreached', hsame⟩ := hreached.congr hagree (beyond_length_lt hlast)
    rw [← hsame] at hlast hpage
    obtain ⟨out, _, _, hfront, _, hcount⟩ := complete_at htransport (hcomplete s')
      (hreached'.next hlast hnext)
    have hagain : r ∈ out := by
      refine hfront.subset ?_
      show r ∈ (if beyond q rows (q.key last) = beyond q rows (q.key last) then early
        else s.run _).take q.limit
      rw [if_pos rfl]
      exact hearly
    have hone := hcount r (mem_beyond.mp hr).1 hrel
    have htwo : 2 ≤ (visited ++ page q rows s' cursor ++ out).count r := by
      have hfirst := List.count_pos_iff.mpr hpage
      have hsecond := List.count_pos_iff.mpr hagain
      simp only [List.count_append]
      omega
    omega
  · -- a row that is skipped is never visited
    by_contra hskipped
    obtain ⟨out, _, _, _, hbehind, hcount⟩ := complete_at htransport (hcomplete s)
      (hreached.next hlast hnext)
    have hone := hcount r (mem_beyond.mp hr).1 hrel
    have hnot : r ∉ out := by
      intro hmem
      have hgreater := (mem_beyond.mp (hbehind r hmem)).2
      omega
    rw [List.count_append, List.count_append,
      List.count_eq_zero_of_not_mem (hfresh r hr hrel),
      List.count_eq_zero_of_not_mem hskipped, List.count_eq_zero_of_not_mem hnot] at hone
    omega

/-- When every walk is complete, the relevant rows behind a reached cursor have not been
visited. -/
theorem fresh_of_complete [DecidableEq α] (htransport : ∀ n m, transport n = .ok m → m = n)
    (hcomplete : ∀ s, Complete q rows s transport relevant) {visited : List α}
    (hreached : Reached q rows s transport visited cursor) :
    ∀ r ∈ beyond q rows cursor, relevant r → r ∉ visited := by
  induction hreached with
  | start => exact fun r _ _ h => by cases h
  | @next visited cursor last hreached hlast hnext ih =>
      intro r hr hrel hmem
      have hcursor := (mem_beyond.mp (mem_beyond_of_mem_page (last_mem_page hlast))).2
      obtain ⟨hrow, hkey⟩ := mem_beyond.mp hr
      have hbefore : r ∈ beyond q rows cursor := mem_beyond.mpr ⟨hrow, by omega⟩
      rcases List.mem_append.mp hmem with hmem | hmem
      · exact ih r hbefore hrel hmem
      · have hsep := boundarySeparates_of_complete htransport hcomplete hreached ih
        have hle := ((hsep last hlast).2 r hbefore hrel).mp hmem
        omega

/-- Every walk ends and visits each relevant row exactly once, however the database
arranges the rows, if and only if the relevant rows have positive keys and the last row of
every page separates. -/
theorem complete_iff [DecidableEq α] (hrows : rows.Nodup)
    (htransport : ∀ n m, transport n = .ok m → m = n) :
    (∀ s, Complete q rows s transport relevant) ↔
      (∀ r ∈ rows, relevant r → 0 < q.key r) ∧
      ∀ s visited cursor, Reached q rows s transport visited cursor →
        BoundarySeparates q rows s transport relevant cursor := by
  constructor
  · intro hcomplete
    refine ⟨fun r hr hrel => ?_, fun s visited cursor hreached => ?_⟩
    · obtain ⟨out, _, _, _, hbehind, hcount⟩ :=
        complete_at htransport (hcomplete (.bySort q)) (.start)
      have hmem : r ∈ out := List.count_pos_iff.mp (by
        have hone := hcount r hr hrel
        simp only [List.nil_append] at hone
        omega)
      exact (mem_beyond.mp (hbehind r hmem)).2
    · exact boundarySeparates_of_complete htransport hcomplete hreached
        (fresh_of_complete htransport hcomplete hreached)
  · rintro ⟨hpositive, hsep⟩ s
    obtain ⟨out, hout, hcount⟩ := walk_of_boundaries hrows htransport (hsep s) rows.length
      .start (Nat.lt_succ_of_le (List.length_filter_le _ _))
    exact ⟨out, hout, fun r hr hrel =>
      hcount r (mem_beyond.mpr ⟨hr, hpositive r hr hrel⟩) hrel⟩

end

end Foundation
end Tenjin
